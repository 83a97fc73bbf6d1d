import ShardedView.Text.CombiningClass
import ShardedView.Text.Direction
import ShardedView.Text.Joining
import ShardedView.Text.Mark

/-!
What a label of a domain name may be.

A label does not begin with a mark. An invisible joiner stands only where it makes a
difference. In a domain name with any label from right to left, each label runs in
one direction.
-/

namespace ShardedView.Http.Domain

def nonJoiner : Char := '\u200c'

def joiner : Char := '\u200d'

/-- Whether the first character that is not transparent passes a test. -/
def reaches (test : Char → Bool) (chars : List Char) : Bool :=
  ((chars.dropWhile Joining.isTransparent).head?).any test

/-- Whether a joiner may stand between characters, of which those before it come in
reverse: behind a virama, or to keep apart two characters that would be joined. -/
def mayJoin (before : List Char) (char : Char) (after : List Char) : Bool :=
  before.head?.any (CombiningClass.ofCode ·.toNat = CombiningClass.virama) ||
    char = nonJoiner && reaches Joining.joinsFollowing before &&
      reaches Joining.joinsPreceding after

/-- Whether all joiners may stand where they do, behind characters in reverse. -/
def joinersFit (before : List Char) : List Char → Bool
  | [] => true
  | char :: after =>
    ((char ≠ nonJoiner && char ≠ joiner) || mayJoin before char after) &&
      joinersFit (char :: before) after

/-- The greatest number of characters in a label beyond ASCII. -/
def greatestLabel : Nat := 1000

/-- Whether characters are a label. Those of ASCII always are. -/
def isLabel (label : List Char) : Bool :=
  label.all (·.toNat < 0x80) ||
    (!label.head?.any Text.isMark && joinersFit [] label && label.length ≤ greatestLabel)

def isFromRight (char : Char) : Bool :=
  0x80 ≤ char.toNat && Direction.ofChar char ∈ [.rightToLeft, .arabicLetter, .arabicNumber]

def neutral : List Direction :=
  [.europeanNumber, .europeanSeparator, .commonSeparator, .europeanTerminator, .otherNeutral,
    .boundaryNeutral, .nonspacingMark]

/-- Whether directions are those of a label that runs from left to right, with marks at
its end left out. -/
def runsRight (directions : List Direction) : Bool :=
  directions.all (fun direction => direction = .leftToRight ∨ direction ∈ neutral) &&
    directions.getLast?.all (· ∈ [.leftToRight, .europeanNumber])

/-- Whether directions are those of a label that runs from right to left, with marks at
its end left out. -/
def runsLeft (directions : List Direction) : Bool :=
  directions.all
      (fun direction =>
        direction ∈ [.rightToLeft, .arabicLetter, .arabicNumber] ∨ direction ∈ neutral) &&
    directions.getLast?.all
      (· ∈ [.rightToLeft, .arabicLetter, .europeanNumber, .arabicNumber]) &&
    !(.europeanNumber ∈ directions && .arabicNumber ∈ directions)

def hasDirection (label : List Char) : Bool :=
  let directions := label.map Direction.ofChar
  let directions := (directions.reverse.dropWhile (· = .nonspacingMark)).reverse
  match label.head?.map Direction.ofChar with
  | none => true
  | some .leftToRight => runsRight directions
  | some .rightToLeft | some .arabicLetter => runsLeft directions
  | some _ => false

end ShardedView.Http.Domain
