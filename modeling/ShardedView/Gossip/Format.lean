import ShardedView.Bytes
import ShardedView.Text.Utf8

/-!
Binary formats in which a value is read from the front of a byte string, so that
formats can follow each other. Numbers have a fixed width, and texts and lists
begin with their length.
-/

namespace ShardedView.Gossip

/-- How values are written, and how one is read from the front of bytes, together
with the bytes behind it. -/
structure Format (α : Type) where
  write : α → Bytes
  read? : Bytes → Option (α × Bytes)

namespace Format

variable {α β : Type}

def split? (width : Nat) (bytes : Bytes) : Option (Bytes × Bytes) :=
  if width ≤ bytes.length then some (bytes.take width, bytes.drop width) else none

/-- Numbers of `width` bytes, the least significant first. -/
def little (width : Nat) : Format Nat where
  write := Bytes.ofNatLittle width
  read? bytes := (split? width bytes).map fun (front, rest) => (Bytes.toNatLittle front, rest)

/-- Numbers of `width` bytes, the most significant first. -/
def big (width : Nat) : Format Nat where
  write := Bytes.ofNatBig width
  read? bytes := (split? width bytes).map fun (front, rest) => (Bytes.toNatBig front, rest)

/-- The values of one type as those of another, not all of which have to stand for
one. -/
def of (format : Format α) (toOther : β → α) (ofOther? : α → Option β) : Format β where
  write value := format.write (toOther value)
  read? bytes := do
    let (other, rest) ← format.read? bytes
    return (← ofOther? other, rest)

def pair (first : Format α) (second : Format β) : Format (α × β) where
  write value := first.write value.1 ++ second.write value.2
  read? bytes := do
    let (left, rest) ← first.read? bytes
    let (right, rest) ← second.read? rest
    return ((left, right), rest)

def readItems? (item : Format α) : (count : Nat) → Bytes → Option (List α × Bytes)
  | 0, bytes => some ([], bytes)
  | count + 1, bytes => do
    let (head, rest) ← item.read? bytes
    let (tail, rest) ← readItems? item count rest
    return (head :: tail, rest)

def length : Format Nat := little 8

def list (item : Format α) : Format (List α) where
  write values := length.write values.length ++ values.flatMap item.write
  read? bytes := do
    let (count, rest) ← length.read? bytes
    item.readItems? count rest

def counted : Format Bytes where
  write bytes := length.write bytes.length ++ bytes
  read? bytes := do
    let (count, rest) ← length.read? bytes
    split? count rest

def text : Format String :=
  counted.of Utf8.encode fun bytes => (Utf8.decode bytes).toOption

def word : Format UInt64 :=
  (little 8).of UInt64.toNat (some <| .ofNat ·)

def halfWord : Format UInt16 :=
  (little 2).of UInt16.toNat (some <| .ofNat ·)

/-- The number that tells which of several forms a value has. -/
def tag : Format Nat := little 4

end Format

end ShardedView.Gossip
