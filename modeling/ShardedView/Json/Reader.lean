import ShardedView.Json.Document
import ShardedView.Json.Numeral

/-!
Reading documents: as JSON values, as records with known fields, and as maps
from numbers to texts.

A value is read only where it is used. What a record does not know is skipped,
however deep it is and whatever its strings and numbers hold.
-/

namespace ShardedView.Json

/-- The characters of a string. Two escaped units in a row may form one
character; a lone half of such a pair and foreign bytes denote none. -/
def textOf? : List Piece → Option (List Char)
  | [] => some []
  | .char char :: rest => (textOf? rest).map (char :: ·)
  | .fault :: _ => none
  | .unit code :: rest =>
    if code < 0xD800 ∨ 0xDFFF < code then
      (textOf? rest).map (Char.ofNat code :: ·)
    else if code ≤ 0xDBFF then
      match rest with
      | .unit low :: rest =>
        if 0xDC00 ≤ low ∧ low ≤ 0xDFFF then
          (textOf? rest).map
            (Char.ofNat (0x10000 + (code - 0xD800) * 0x400 + (low - 0xDC00)) :: ·)
        else none
      | _ => none
    else none

/-- How many lists and objects may enclose a value. -/
def greatestDepth : Nat := 127

namespace Document

def text? : Document → Option String
  | string pieces => (textOf? pieces).map String.ofList
  | _ => none

mutual

def json? (depth : Nat) : Document → Option Json
  | null => some .null
  | bool value => some (.bool value)
  | number numeral => numeral.json?
  | string pieces => (textOf? pieces).map fun chars => .str (String.ofList chars)
  | list items =>
    match depth with
    | 0 => none
    | depth + 1 => (jsonItems? depth items).map .arr
  | object members =>
    match depth with
    | 0 => none
    | depth + 1 => (jsonMembers? depth members).map .ofMembers

def jsonItems? (depth : Nat) : List Document → Option (List Json)
  | [] => some []
  | item :: rest => do
    let item ← json? depth item
    let rest ← jsonItems? depth rest
    return item :: rest

def jsonMembers? (depth : Nat) :
    List (List Piece × Document) → Option (List (String × Json))
  | [] => some []
  | member :: rest => do
    let member ← jsonMember? depth member
    let rest ← jsonMembers? depth rest
    return member :: rest

def jsonMember? (depth : Nat) : List Piece × Document → Option (String × Json)
  | (name, value) => do
    let name ← textOf? name
    let value ← json? depth value
    return (String.ofList name, value)

end

/-- The fields of a record by name. Other members are skipped; a field may not
appear twice. -/
def namedFields? (names : List String) :
    List (List Piece × Document) → Option (List (String × Document))
  | [] => some []
  | (name, value) :: rest => do
    let name := String.ofList (← textOf? name)
    let fields ← namedFields? names rest
    if name ∉ names then return fields
    else if fields.any (·.1 = name) then none
    else return (name, value) :: fields

/-- The fields of a record, each if it is there: an object with these names, or
a list with no more items than names. -/
def fields? (names : List String) : Document → Option (List (Option Document))
  | object members => do
    let fields ← namedFields? names members
    return names.map fun name => (fields.find? (·.1 = name)).map (·.2)
  | list items =>
    if items.length ≤ names.length then
      some (items.map some ++ List.replicate (names.length - items.length) none)
    else none
  | _ => none

/-- A number of 32 bits as a name: digits without escapes or needless zeros. -/
def number32? (name : List Piece) : Option Nat := do
  let chars ← name.mapM fun piece =>
    match piece with
    | .char char => some char
    | _ => none
  match ← Numeral.read? chars with
  | ⟨false, digits, none, none⟩ =>
    let value := Digits.valueFrom 0 digits
    if value < UInt32.size then some value else none
  | _ => none

/-- A map from numbers to texts; of several members with one number the last
counts. -/
def numberedTexts? : Document → Option (SortedMap Nat String)
  | object members => do
    let entries ← members.mapM fun (name, value) => do
      return (← number32? name, ← text? value)
    return .ofList entries
  | _ => none

end Document

def ofText? (text : String) : Option Json := do
  (← Document.ofText? text).json? greatestDepth

def ofBytes? (bytes : Bytes) : Option Json := do
  (← Document.ofBytes? bytes).json? greatestDepth

end ShardedView.Json
