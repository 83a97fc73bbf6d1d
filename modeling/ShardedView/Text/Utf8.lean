import ShardedView.Bytes

/-!
UTF-8, read strictly with the place and the length of the first fault, or
leniently with a replacement character for each fault.

A fault is a maximal run of bytes that begins a scalar value but cannot be
continued to one; `Unit.stray` stands for such a run.
-/

namespace ShardedView.Utf8

def encodeChar (char : Char) : Bytes :=
  let code := char.toNat
  if code < 0x80 then
    [UInt8.ofNat code]
  else if code < 0x800 then
    [UInt8.ofNat (0xC0 + code / 64), UInt8.ofNat (0x80 + code % 64)]
  else if code < 0x10000 then
    [UInt8.ofNat (0xE0 + code / 4096), UInt8.ofNat (0x80 + code / 64 % 64),
      UInt8.ofNat (0x80 + code % 64)]
  else
    [UInt8.ofNat (0xF0 + code / 262144), UInt8.ofNat (0x80 + code / 4096 % 64),
      UInt8.ofNat (0x80 + code / 64 % 64), UInt8.ofNat (0x80 + code % 64)]

def encode (text : String) : Bytes :=
  text.toList.flatMap encodeChar

/-- A scalar value, or a run of bytes that belongs to none. -/
inductive Unit
  | scalar (char : Char)
  /-- `length` bytes that no further byte can complete. -/
  | stray (length : Nat)
  /-- The text ends within a scalar value, `length` bytes after its start. -/
  | cut (length : Nat)
  deriving DecidableEq, Repr

def isContinuation (byte : UInt8) : Bool :=
  0x80 ≤ byte && byte ≤ 0xBF

/-- Which second bytes may follow a lead byte of a three-byte value: no value
has a shorter form, and none is a surrogate. -/
def isSecondOfThree (lead second : UInt8) : Bool :=
  if lead = 0xE0 then 0xA0 ≤ second && second ≤ 0xBF
  else if lead = 0xED then 0x80 ≤ second && second ≤ 0x9F
  else isContinuation second

/-- Which second bytes may follow a lead byte of a four-byte value: no value
has a shorter form, and none exceeds U+10FFFF. -/
def isSecondOfFour (lead second : UInt8) : Bool :=
  if lead = 0xF0 then 0x90 ≤ second && second ≤ 0xBF
  else if lead = 0xF4 then 0x80 ≤ second && second ≤ 0x8F
  else isContinuation second

def low (byte : UInt8) : Nat :=
  byte.toNat % 64

def scan : Bytes → List Unit
  | [] => []
  | lead :: rest =>
    if lead < 0x80 then
      .scalar (Char.ofNat lead.toNat) :: scan rest
    else if 0xC2 ≤ lead && lead ≤ 0xDF then
      match rest with
      | [] => [.cut 1]
      | second :: rest₂ =>
        if isContinuation second then
          .scalar (Char.ofNat (lead.toNat % 32 * 64 + low second)) :: scan rest₂
        else .stray 1 :: scan (second :: rest₂)
    else if 0xE0 ≤ lead && lead ≤ 0xEF then
      match rest with
      | [] => [.cut 1]
      | second :: rest₂ =>
        if isSecondOfThree lead second then
          match rest₂ with
          | [] => [.cut 2]
          | third :: rest₃ =>
            if isContinuation third then
              .scalar (Char.ofNat
                (lead.toNat % 16 * 4096 + low second * 64 + low third)) ::
                  scan rest₃
            else .stray 2 :: scan (third :: rest₃)
        else .stray 1 :: scan (second :: rest₂)
    else if 0xF0 ≤ lead && lead ≤ 0xF4 then
      match rest with
      | [] => [.cut 1]
      | second :: rest₂ =>
        if isSecondOfFour lead second then
          match rest₂ with
          | [] => [.cut 2]
          | third :: rest₃ =>
            if isContinuation third then
              match rest₃ with
              | [] => [.cut 3]
              | fourth :: rest₄ =>
                if isContinuation fourth then
                  .scalar (Char.ofNat
                    (lead.toNat % 8 * 262144 + low second * 4096 +
                      low third * 64 + low fourth)) :: scan rest₄
                else .stray 3 :: scan (fourth :: rest₄)
            else .stray 2 :: scan (third :: rest₃)
        else .stray 1 :: scan (second :: rest₂)
    else .stray 1 :: scan rest

structure Fault where
  /-- The number of bytes before the fault. -/
  index : Nat
  /-- The length of the faulty run; none where the bytes end too early. -/
  length : Option Nat
  deriving DecidableEq, Repr

def Fault.message (fault : Fault) : String :=
  match fault.length with
  | some length =>
    "invalid utf-8 sequence of " ++ toString length ++ " bytes from index " ++
      toString fault.index
  | none =>
    "incomplete utf-8 byte sequence from index " ++ toString fault.index

/-- The scalar values before the end or the first fault, counting bytes from
`index`. -/
def collect (index : Nat) : List Unit → Except Fault (List Char)
  | [] => .ok []
  | .scalar char :: rest =>
    (collect (index + (encodeChar char).length) rest).map (char :: ·)
  | .stray length :: _ => .error ⟨index, some length⟩
  | .cut _ :: _ => .error ⟨index, none⟩

def decode (bytes : Bytes) : Except Fault String :=
  (collect 0 (scan bytes)).map String.ofList

/-- The scalar value, or U+FFFD for a fault. -/
def Unit.orReplacement : Unit → Char
  | .scalar char => char
  | _ => '\uFFFD'

/-- Reads UTF-8 with U+FFFD in place of each fault. -/
def decodeLossy (bytes : Bytes) : String :=
  String.ofList ((scan bytes).map Unit.orReplacement)

end ShardedView.Utf8
