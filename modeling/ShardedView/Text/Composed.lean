import ShardedView.Text.CombiningClass
import ShardedView.Text.Decomposition

/-!
Texts in Normalization Form C: marks are in the order of their classes, and as far
as possible one code stands for a character with its marks.
-/

namespace ShardedView.Composed

/-- The first syllable of Hangul, and the codes before the first consonant at an end. -/
def firstSyllable : Nat := 0xAC00

/-- The first consonant at the beginning of a Hangul syllable. -/
def firstInitial : Nat := 0x1100

def firstVowel : Nat := 0x1161

/-- The code before the first consonant at the end of a Hangul syllable. -/
def noFinal : Nat := 0x11A7

def vowels : Nat := 21

/-- How many ends of a Hangul syllable there are, with none among them. -/
def finals : Nat := 28

def syllables : Nat := 19 * vowels * finals

def letters? (code : Nat) : Option (List Nat) :=
  let index := code - firstSyllable
  if firstSyllable ≤ code ∧ index < syllables then
    let initial := firstInitial + index / (vowels * finals)
    let vowel := firstVowel + index % (vowels * finals) / finals
    some ([initial, vowel] ++
      if index % finals = 0 then [] else [noFinal + index % finals])
  else none

/-- The Hangul syllable that two codes form: a consonant and a vowel, or a syllable
without an end and a consonant. -/
def syllable? (first second : Nat) : Option Nat :=
  if firstInitial ≤ first ∧ first < firstInitial + 19 ∧ firstVowel ≤ second ∧
      second < firstVowel + vowels then
    some (firstSyllable +
      ((first - firstInitial) * vowels + (second - firstVowel)) * finals)
  else if firstSyllable ≤ first ∧ first < firstSyllable + syllables ∧
      (first - firstSyllable) % finals = 0 ∧ noFinal < second ∧
      second < noFinal + finals then
    some (first + (second - noFinal))
  else none

def expand : (steps : Nat) → Nat → List Nat
  | 0, code => [code]
  | steps + 1, code =>
    match Decomposition.step? code with
    | some codes => codes.flatMap (expand steps)
    | none => [code]

/-- What a code stands for. There are never more than three steps. -/
def decompose (code : Nat) : List Nat :=
  (letters? code).getD (expand 3 code)

/-- Puts a code before others, behind the marks at their beginning that have a lower
class. -/
def insert (code : Nat) : List Nat → List Nat
  | [] => [code]
  | next :: rest =>
    if 0 < CombiningClass.ofCode next ∧ CombiningClass.ofCode next < CombiningClass.ofCode code
    then next :: insert code rest
    else code :: next :: rest

/-- Puts the marks behind each character in the order of their classes. -/
def order (codes : List Nat) : List Nat :=
  codes.foldr insert []

def pair? (first second : Nat) : Option Nat :=
  (syllable? first second).or (Decomposition.composite? first second)

/-- Composes a character with the marks behind it, and then what follows. Marks that
are left over come in reverse; one of them keeps off the marks of its class. -/
def composeFrom (base : Nat) (left : List Nat) : List Nat → List Nat
  | [] => base :: left.reverse
  | code :: rest =>
    let isFree := left.head?.all fun mark =>
      CombiningClass.ofCode mark < CombiningClass.ofCode code
    match if isFree then pair? base code else none with
    | some composite => composeFrom composite left rest
    | none =>
      if CombiningClass.ofCode code = 0 then base :: left.reverse ++ composeFrom code [] rest
      else composeFrom base (code :: left) rest

def compose : List Nat → List Nat
  | [] => []
  | code :: rest =>
    if CombiningClass.ofCode code = 0 then composeFrom code [] rest else code :: compose rest

/-- The characters in Normalization Form C. ASCII is in it already. -/
def ofChars (chars : List Char) : List Char :=
  if chars.all (·.toNat < 0x80) then chars
  else (compose (order (chars.flatMap fun char => decompose char.toNat))).map Char.ofNat

end ShardedView.Composed
