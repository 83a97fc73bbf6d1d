import ShardedView.Http.Domain.Label
import ShardedView.Http.Domain.Mapping
import ShardedView.Http.Punycode

/-!
Domain names in their normal form: in lower case, and in ASCII alone.
-/

namespace ShardedView.Http.Domain

def labels : List Char → List (List Char)
  | [] => [[]]
  | char :: rest =>
    match labels rest with
    | [] => [[char]]
    | label :: later =>
      if char = '.' then [] :: label :: later else (char :: label) :: later

/-- Characters that no domain name holds, whatever they stand for. -/
def isForbidden (char : Char) : Bool :=
  char.toNat ≤ 0x20 || char.toNat = 0x7F ||
    char ∈ ['#', '%', '/', ':', '<', '>', '?', '@', '[', '\\', ']', '^', '|']

/-- The greatest length of a label in ASCII that stands for another one. -/
def greatestEncoded : Nat := 2000

/-- The label that a label in ASCII stands for. It has characters beyond ASCII, and
mapping has nothing to do for it. -/
def decode? (encoded : List Char) : Option (List Char) := do
  if encoded.getLast? = some '-' ∨ greatestEncoded < encoded.length then none
  else
    let label ← Punycode.decode? encoded
    if label.all Punycode.isAscii then none
    else if map? label = some label then some label
    else none

def read? : List Char → Option (List Char)
  | 'x' :: 'n' :: '-' :: '-' :: encoded => decode? encoded
  | label => some label

def toAscii (label : List Char) : List Char :=
  if label.all Punycode.isAscii then label else ['x', 'n', '-', '-'] ++ Punycode.encode label

def normalize? (domain : List Char) : Option (List Char) := do
  let mapped ← map? domain
  if mapped.any isForbidden then none
  else
    let labels ← (labels mapped).mapM read?
    if labels.all isLabel && (!labels.any (·.any isFromRight) || labels.all hasDirection) then
      some (['.'].intercalate (labels.map toAscii))
    else none

end ShardedView.Http.Domain
