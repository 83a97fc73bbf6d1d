/-!
Punycode: a label of a domain name in ASCII alone.

The ASCII characters of a label come first. Behind them stand the others in the
order of their codes, each as its distance from the one before it, in digits
whose base adapts to the distances seen so far.
-/

namespace ShardedView.Punycode

def digitChar (digit : Nat) : Char :=
  if digit < 26 then Char.ofNat (97 + digit) else Char.ofNat (22 + digit)

/-- The value of a digit. Letters may be in upper case. -/
def digitValue? (char : Char) : Option Nat :=
  if 'a' ≤ char ∧ char ≤ 'z' then some (char.toNat - 97)
  else if 'A' ≤ char ∧ char ≤ 'Z' then some (char.toNat - 65)
  else if '0' ≤ char ∧ char ≤ '9' then some (char.toNat - 22)
  else none

/-- The least digit at a place that is not the last one. -/
def threshold (place bias : Nat) : Nat :=
  if place ≤ bias then 1 else if bias + 26 ≤ place then 26 else place - bias

theorem one_le_threshold (place bias : Nat) : 1 ≤ threshold place bias := by
  unfold threshold
  split
  · omega
  · split <;> omega

/-- The digits of a distance, the least significant one first. The last digit is
below the threshold of its place. -/
def digits (bias place distance : Nat) : List Char :=
  let least := threshold place bias
  if distance < least then [digitChar distance]
  else
    let above := distance - least
    digitChar (least + above % (36 - least)) ::
      digits bias (place + 36) (above / (36 - least))
  termination_by distance
  decreasing_by
    have positive := one_le_threshold place bias
    have smaller := Nat.div_le_self (distance - threshold place bias)
      (36 - threshold place bias)
    omega

/-- Brings a distance below the point from which the bias grows slowly. -/
def dampen (distance steps : Nat) : Nat × Nat :=
  if 455 < distance then dampen (distance / 35) (steps + 1) else (distance, steps)

/-- The bias after a distance, with how many characters are written. -/
def adapt (distance count : Nat) (isFirst : Bool) : Nat :=
  let scaled := if isFirst then distance / 700 else distance / 2
  let (scaled, steps) := dampen (scaled + scaled / count) 0
  36 * steps + 36 * scaled / (scaled + 38)

/-- What is written, the distance since then, the bias, and how many characters have
been written. -/
structure Progress where
  written : List Char
  distance : Nat
  bias : Nat
  count : Nat

/-- Passes a character of the label while those with a code are written. -/
def Progress.pass (code ascii : Nat) (progress : Progress) (char : Char) : Progress :=
  if char.toNat < code then { progress with distance := progress.distance + 1 }
  else if char.toNat = code then
    { written := progress.written ++ digits progress.bias 36 progress.distance
      distance := 0
      bias := adapt progress.distance (progress.count + 1) (progress.count = ascii)
      count := progress.count + 1 }
  else progress

/-- Writes the characters with codes that are given in their order; the next code
would be `next`. -/
def Progress.write (label : List Char) (ascii : Nat) :
    (codes : List Nat) → (next : Nat) → Progress → Progress
  | [], _, progress => progress
  | code :: codes, next, progress =>
    let skipped := progress.distance + (code - next) * (progress.count + 1)
    let passed := label.foldl (Progress.pass code ascii) { progress with distance := skipped }
    write label ascii codes (code + 1) { passed with distance := passed.distance + 1 }

def isAscii (char : Char) : Bool :=
  char.toNat < 128

def encode (label : List Char) : List Char :=
  let ascii := label.filter isAscii
  let codes := ((label.filter (!isAscii ·)).map Char.toNat).mergeSort.eraseDups
  let progress := Progress.write label ascii.length codes 128 ⟨[], 0, 72, ascii.length⟩
  (if ascii.isEmpty then [] else ascii ++ ['-']) ++ progress.written

/-- A label of which some characters are known, and what is known of the distance to
the next one. -/
structure Partial where
  label : List Char
  /-- The least code that the next character may have. -/
  code : Nat
  /-- Where the next character may stand at first, and the distance read so far. -/
  start : Nat
  index : Nat
  bias : Nat
  /-- The place of the next digit and its weight. -/
  place : Nat
  weight : Nat

def Partial.put? (known : Partial) : Option Partial :=
  let count := known.label.length + 1
  let code := known.code + known.index / count
  let position := known.index % count
  if code.isValidChar then
    some {
      label := known.label.insertIdx position (Char.ofNat code)
      code
      start := position + 1
      index := position + 1
      bias := adapt (known.index - known.start) count (known.start = 0)
      place := 36
      weight := 1 }
  else none

/-- Reads a digit. Distances and weights are numbers of 32 bits. -/
def Partial.read? (known : Partial) (char : Char) : Option Partial := do
  let digit ← digitValue? char
  let known := { known with index := known.index + digit * known.weight }
  let least := threshold known.place known.bias
  if UInt32.size ≤ known.index then none
  else if digit < least then known.put?
  else
    let weight := known.weight * (36 - least)
    if UInt32.size ≤ weight then none
    else some { known with place := known.place + 36, weight }

/-- Splits at the last hyphen, unless it comes first. -/
def split (encoded : List Char) : List Char × List Char :=
  let digits := (encoded.reverse.takeWhile (· ≠ '-')).reverse
  let ascii := encoded.take (encoded.length - digits.length - 1)
  if ascii.isEmpty then ([], encoded) else (ascii, digits)

/-- The label that a label in ASCII stands for. ASCII letters become lower case. -/
def decode? (encoded : List Char) : Option (List Char) := do
  let (ascii, digits) := split encoded
  if !ascii.all isAscii then none
  else
    let known : Partial := ⟨ascii.map Char.toLower, 128, 0, 0, 72, 36, 1⟩
    let known ← digits.foldlM Partial.read? known
    if known.place = 36 then some known.label else none

end ShardedView.Punycode
