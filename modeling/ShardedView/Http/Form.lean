import ShardedView.Http.Percent

/-!
Form encoding of the pairs in a query: letters, digits and `*-._` stand for
themselves, a blank is a plus sign, all other bytes are `%XX`.
-/

namespace ShardedView.Form

def encodeByte (byte : UInt8) : List Char :=
  let char := Char.ofNat byte.toNat
  if byte = 0x20 then ['+']
  else if byte < 0x80 && (char.isAlphanum || char ∈ ['*', '-', '.', '_']) then [char]
  else Percent.triplet byte

def encode (text : String) : List Char :=
  (Utf8.encode text).flatMap encodeByte

def encodePairs (pairs : List (String × String)) : List Char :=
  ['&'].intercalate (pairs.map fun (name, value) => encode name ++ '=' :: encode value)

/-- The text that encoded bytes stand for, with U+FFFD for what is no UTF-8. -/
def decode (bytes : Bytes) : String :=
  Utf8.decodeLossy (Percent.decode (bytes.map fun byte => if byte = 0x2B then 0x20 else byte))

/-- Splits a pair at its first equals sign; without one the value is empty. -/
def splitPair (bytes : Bytes) : Bytes × Bytes :=
  (bytes.takeWhile (· ≠ 0x3D), (bytes.dropWhile (· ≠ 0x3D)).drop 1)

def splitPairs : Bytes → List Bytes
  | [] => [[]]
  | byte :: rest =>
    match splitPairs rest with
    | [] => [[byte]]
    | run :: runs => if byte = 0x26 then [] :: run :: runs else (byte :: run) :: runs

/-- The pairs of a query in their order; empty runs count for nothing. -/
def decodePairs (query : Bytes) : List (String × String) :=
  ((splitPairs query).filter (!·.isEmpty)).map fun run =>
    let (name, value) := splitPair run
    (decode name, decode value)

end ShardedView.Form
