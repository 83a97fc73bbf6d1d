import ShardedView.Bytes
import ShardedView.Text.Digits

/-!
Socket addresses and their text, `192.0.2.1:80` or `[2001:db8::1]:80`.
-/

namespace ShardedView.Net

inductive IpAddress
  | v4 (bits : BitVec 32)
  | v6 (bits : BitVec 128)
  deriving DecidableEq, Repr

/-- An address of a service on a host. Only addresses of version 6 have a scope. -/
structure Address where
  ip : IpAddress
  portNumber : UInt16
  scope : UInt32
  deriving DecidableEq, Repr

namespace IpAddress

def dotted (number : Nat) : List Char :=
  ['.'].intercalate ((Bytes.ofNatBig 4 number).map fun octet => Digits.ofNat octet.toNat)

def groups (number : Nat) : List Nat :=
  (List.range 8).map fun index => number >>> (16 * (7 - index)) % 0x10000

def ofGroups (groups : List Nat) : Nat :=
  groups.foldl (fun number group => number * 0x10000 + group) 0

def hexDigits (group : Nat) : List Char :=
  let digits := [group / 4096, group / 256 % 16, group / 16 % 16].dropWhile (· = 0)
  (digits ++ [group % 16]).map (Bytes.hexDigit false)

def zeroRun (groups : List Nat) : Nat :=
  (groups.takeWhile (· = 0)).length

/-- Where the first of the longest runs of zeros begins, and its length. -/
def longestZeroRun (groups : List Nat) : Nat × Nat :=
  (List.range groups.length).foldl
    (fun best index =>
      let length := zeroRun (groups.drop index)
      if best.2 < length then (index, length) else best)
    (0, 0)

/-- The groups separated by colons, with two colons for the longest run of at
least two zeros. -/
def compressed (groups : List Nat) : List Char :=
  let write := fun part : List Nat => [':'].intercalate (part.map hexDigits)
  let (start, length) := longestZeroRun groups
  if length < 2 then write groups
  else write (groups.take start) ++ ':' :: ':' :: write (groups.drop (start + length))

/-- The text of an address. An address of version 6 that stands for one of
version 4 ends in its octets. -/
def chars : IpAddress → List Char
  | v4 bits => dotted bits.toNat
  | v6 bits =>
    if bits.toNat >>> 32 = 0xFFFF then
      [':', ':', 'f', 'f', 'f', 'f', ':'] ++ dotted (bits.toNat % 0x100000000)
    else compressed (groups bits.toNat)

/-- Up to three digits without needless zeros, below 256, and what follows. -/
def splitOctet? (chars : List Char) : Option (Nat × List Char) :=
  let digits := (chars.take 3).takeWhile Digits.isDigit
  let value := Digits.valueFrom 0 digits
  if digits.isEmpty || (digits.head? == some '0' && digits.length ≠ 1) || 255 < value then none
  else some (value, chars.drop digits.length)

def skip? (char : Char) : List Char → Option (List Char)
  | [] => none
  | head :: rest => if head = char then some rest else none

def splitV4? (chars : List Char) : Option (Nat × List Char) := do
  let (first, chars) ← splitOctet? chars
  let (second, chars) ← splitOctet? (← skip? '.' chars)
  let (third, chars) ← splitOctet? (← skip? '.' chars)
  let (fourth, chars) ← splitOctet? (← skip? '.' chars)
  return (((first * 256 + second) * 256 + third) * 256 + fourth, chars)

def splitGroup? (chars : List Char) : Option (Nat × List Char) :=
  let digits := (chars.take 4).filterMap fun char => Bytes.hexValue? char
  let count := ((chars.take 4).takeWhile fun char => (Bytes.hexValue? char).isSome).length
  if count = 0 then none
  else some ((digits.take count).foldl (fun value digit => 16 * value + digit) 0,
    chars.drop count)

/-- At most `room` groups separated by colons, whether the last two were written
as octets, and what follows. -/
def splitGroups (first : Bool) : (room : Nat) → List Char → List Nat × Bool × List Char
  | 0, chars => ([], false, chars)
  | room + 1, chars =>
    let next? := if first then some chars else skip? ':' chars
    match next? with
    | none => ([], false, chars)
    | some next =>
      match if room = 0 then none else splitV4? next with
      | some (number, rest) => ([number / 0x10000, number % 0x10000], true, rest)
      | none =>
        match splitGroup? next with
        | none => ([], false, chars)
        | some (group, rest) =>
          let (groups, octets, rest) := splitGroups false room rest
          (group :: groups, octets, rest)

/-- An address of version 6, and what follows. Two colons stand for at least one
group of zeros. -/
def splitV6? (chars : List Char) : Option (Nat × List Char) :=
  let (head, octets, rest) := splitGroups true 8 chars
  if head.length = 8 then some (ofGroups head, rest)
  else if octets then none
  else do
    let rest ← skip? ':' (← skip? ':' rest)
    let (tail, _, rest) := splitGroups true (8 - (head.length + 1)) rest
    let zeros := List.replicate (8 - head.length - tail.length) 0
    return (ofGroups (head ++ zeros ++ tail), rest)

end IpAddress

namespace Address

def chars (address : Address) : List Char :=
  match address.ip with
  | .v4 _ => address.ip.chars ++ ':' :: Digits.ofNat address.portNumber.toNat
  | .v6 _ =>
    let scope :=
      if address.scope = 0 then [] else '%' :: Digits.ofNat address.scope.toNat
    '[' :: address.ip.chars ++ scope ++ ']' :: ':' :: Digits.ofNat address.portNumber.toNat

def text (address : Address) : String :=
  String.ofList address.chars

instance : ToString Address := ⟨text⟩

def readNumber? (size : Nat) (chars : List Char) : Option Nat :=
  if chars.isEmpty || !chars.all Digits.isDigit then none
  else
    let value := Digits.valueFrom 0 chars
    if value < size then some value else none

def readPortNumber? (chars : List Char) : Option UInt16 := do
  return UInt16.ofNat (← readNumber? UInt16.size (← IpAddress.skip? ':' chars))

/-- The scope behind a percent sign, zero without one, and what follows. -/
def splitScope? (chars : List Char) : Option (UInt32 × List Char) :=
  match chars with
  | '%' :: rest => do
    let scope ← readNumber? UInt32.size (rest.takeWhile Digits.isDigit)
    return (UInt32.ofNat scope, rest.dropWhile Digits.isDigit)
  | chars => some (0, chars)

def ofChars? (chars : List Char) : Option Address :=
  match chars with
  | '[' :: rest => do
    let (number, rest) ← IpAddress.splitV6? rest
    let (scope, rest) ← splitScope? rest
    let portNumber ← readPortNumber? (← IpAddress.skip? ']' rest)
    return ⟨.v6 (.ofNat _ number), portNumber, scope⟩
  | chars => do
    let (number, rest) ← IpAddress.splitV4? chars
    return ⟨.v4 (.ofNat _ number), ← readPortNumber? rest, 0⟩

def ofText? (text : String) : Option Address :=
  ofChars? text.toList

end Address

end ShardedView.Net
