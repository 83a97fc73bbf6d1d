import ShardedView.Bytes

/-!
The 32-bit hash MurmurHash2 of a byte string, and the partition it gives a key.
-/

namespace ShardedView.Murmur

def multiplier : UInt32 := 0x5bd1e995

/-- What the hash of the empty byte string starts from. -/
def seed : UInt32 := 0x9747b28c

/-- The word of four bytes, least significant first. -/
def word (first second third fourth : UInt8) : UInt32 :=
  first.toUInt32 ||| second.toUInt32 <<< 8 ||| third.toUInt32 <<< 16 |||
    fourth.toUInt32 <<< 24

def mix (hash word : UInt32) : UInt32 :=
  let scaled := word * multiplier
  hash * multiplier ^^^ (scaled ^^^ scaled >>> 24) * multiplier

/-- Mixes words of four bytes into the hash, then the up to three bytes that are
left. -/
def absorb (hash : UInt32) : Bytes → UInt32
  | first :: second :: third :: fourth :: rest =>
    absorb (mix hash (word first second third fourth)) rest
  | [] => hash
  | [first] => (hash ^^^ first.toUInt32) * multiplier
  | [first, second] => (hash ^^^ word first second 0 0) * multiplier
  | [first, second, third] => (hash ^^^ word first second third 0) * multiplier

def finish (hash : UInt32) : UInt32 :=
  let hash := (hash ^^^ hash >>> 13) * multiplier
  hash ^^^ hash >>> 15

def hash (bytes : Bytes) : UInt32 :=
  finish (absorb (seed ^^^ UInt32.ofNat bytes.length) bytes)

def positive (hash : UInt32) : UInt32 :=
  hash &&& 0x7fffffff

/-- The partition of a key among `count` ones; the first if there are none. -/
def partition (key : Bytes) (count : Nat) : Nat :=
  if count = 0 then 0 else (positive (hash key)).toNat % count

end ShardedView.Murmur
