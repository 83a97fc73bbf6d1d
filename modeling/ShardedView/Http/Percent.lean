import ShardedView.Text.Utf8

/-!
Percent-encoding: bytes written as `%XX`.
-/

namespace ShardedView.Percent

def triplet (byte : UInt8) : List Char :=
  ['%', Bytes.hexDigit true (byte.toNat / 16), Bytes.hexDigit true (byte.toNat % 16)]

/-- Encodes the UTF-8 of each character that is beyond ASCII, a control
character, or reserved. -/
def encode (reserved : Char → Bool) (chars : List Char) : List Char :=
  chars.flatMap fun char =>
    if char.toNat < 0x20 || 0x7F ≤ char.toNat || reserved char then
      (Utf8.encodeChar char).flatMap triplet
    else [char]

/-- Decodes bytes; a percent sign without two digits behind it stands for
itself. -/
def decode : Bytes → Bytes
  | [] => []
  | byte :: rest =>
    if byte = 0x25 then
      match rest with
      | high :: low :: rest₂ =>
        match Bytes.hexValue? (Char.ofNat high.toNat),
          Bytes.hexValue? (Char.ofNat low.toNat) with
        | some high, some low => UInt8.ofNat (16 * high + low) :: decode rest₂
        | _, _ => byte :: decode (high :: low :: rest₂)
      | rest => byte :: decode rest
    else byte :: decode rest

def isReservedInPath (char : Char) : Bool :=
  char ∈ [' ', '"', '#', '<', '>', '?', '\x60', '\x7b', '\x7d']

/-- Reserved in a segment of a path, where separators and percent signs are
content. -/
def isReservedInSegment (char : Char) : Bool :=
  isReservedInPath char || char ∈ ['/', '%', '\\']

def isReservedInCredentials (char : Char) : Bool :=
  isReservedInPath char || char ∈ ['/', ':', ';', '=', '@', '[', '\\', ']', '^', '|']

/-- Reserved in a query that is already encoded. -/
def isReservedInQuery (char : Char) : Bool :=
  char ∈ [' ', '"', '#', '<', '>', '\x27']

def isReservedInFragment (char : Char) : Bool :=
  char ∈ [' ', '"', '<', '>', '\x60']

end ShardedView.Percent
