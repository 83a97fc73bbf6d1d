import ShardedView.Proofs.Json.Numeral
import ShardedView.Proofs.Json.Plain

/-!
Reading the document of a value gives the value back, and whatever is read is
canonical.
-/

namespace ShardedView.Json

/-! ### Strings -/

def lettered : List Char := ['\x08', '\t', '\n', '\x0C', '\r']

/-- How a character stands in a document: control characters without a letter of
their own by their code. -/
def pieceOf (char : Char) : Piece :=
  if char.toNat < 0x20 ∧ char ∉ lettered then .unit char.toNat else .char char

def pieces (text : String) : List Piece :=
  text.toList.map pieceOf

theorem textOf?_map_pieceOf (chars : List Char) : textOf? (chars.map pieceOf) = some chars := by
  induction chars with
  | nil => rfl
  | cons char rest ih =>
    rw [List.map_cons, pieceOf]
    split
    · next control =>
      have small : char.toNat < 0xD800 ∨ 0xDFFF < char.toNat := by omega
      rw [textOf?.eq_def]
      simp only [small, if_true, ih, Char.ofNat_toNat, Option.map_some]
    · rw [textOf?, ih]
      rfl

theorem textOf?_pieces (text : String) : textOf? (pieces text) = some text.toList :=
  textOf?_map_pieceOf text.toList

/-! ### Integers -/

namespace Numeral

theorem takeDigits_of_lt {chars : List Char} {start : Nat}
    (fits : Digits.valueFrom start chars < UInt64.size) :
    takeDigits start chars = (Digits.valueFrom start chars, []) := by
  induction chars generalizing start with
  | nil => rfl
  | cons char rest ih =>
    have next : start * 10 + (char.toNat - 48) < UInt64.size :=
      Nat.lt_of_le_of_lt (Integer.le_valueFrom _ rest) fits
    rw [takeDigits]
    simp only [next, if_true]
    exact ih fits

theorem json?_ofInt {value : Int} (least : leastInteger ≤ value)
    (greatest : value ≤ greatestInteger) : (ofInt value).json? = some (.int value) := by
  have lower : -0x8000000000000000 ≤ value := least
  have upper : value ≤ 0xFFFFFFFFFFFFFFFF := greatest
  have size : UInt64.size = 18446744073709551616 := rfl
  have taken : takeDigits 0 (Digits.ofNat value.natAbs) = (value.natAbs, []) := by
    rw [takeDigits_of_lt (by rw [Digits.valueFrom_ofNat]; omega), Digits.valueFrom_ofNat]
  have sign : integer? (decide (value < 0)) value.natAbs = some (.int value) := by
    by_cases negative : value < 0
    · have positive : ¬ (value.natAbs = 0 ∨ 0x8000000000000000 < value.natAbs) := by omega
      rw [integer?, decide_eq_true negative, if_pos rfl, if_neg positive]
      congr 2
      omega
    · rw [integer?, decide_eq_false negative, if_neg Bool.false_ne_true]
      congr 2
      omega
  rw [json?, ofInt]
  simp only [taken, sign]

end Numeral

/-! ### Values -/

mutual

def tree : Json → Document
  | null => .null
  | bool value => .bool value
  | int value => .number (.ofInt value)
  | float value => .number (.ofFloat value)
  | str text => .string (pieces text)
  | arr items => .list (trees items)
  | obj members => .object (treeMembers members)

def trees : List Json → List Document
  | [] => []
  | item :: rest => tree item :: trees rest

def treeMembers : List (String × Json) → List (List Piece × Document)
  | [] => []
  | member :: rest => treeMember member :: treeMembers rest

def treeMember : String × Json → List Piece × Document
  | (name, value) => (pieces name, tree value)

end

theorem jsonItems?_trees {depth : Nat} {items : List Json}
    (read : ∀ item ∈ items, (tree item).json? depth = some item) :
    Document.jsonItems? depth (trees items) = some items := by
  induction items with
  | nil => rfl
  | cons item rest ih =>
    rw [trees, Document.jsonItems?, read item (.head _),
      ih fun item member => read item (.tail _ member)]
    rfl

theorem jsonMembers?_treeMembers {depth : Nat} {members : List (String × Json)}
    (read : ∀ member ∈ members, (tree member.2).json? depth = some member.2) :
    Document.jsonMembers? depth (treeMembers members) = some members := by
  induction members with
  | nil => rfl
  | cons member rest ih =>
    obtain ⟨name, value⟩ := member
    rw [treeMembers, treeMember, Document.jsonMembers?, Document.jsonMember?, textOf?_pieces,
      read (name, value) (.head _), ih fun member later => read member (.tail _ later)]
    simp only [bind, Option.bind, pure, String.ofList_toList]

theorem json?_tree {depth : Nat} {json : Json} (plain : json.IsPlain depth)
    (canonical : json.IsCanonical) : json.tree.json? depth = some json := by
  induction plain with
  | null => rw [tree, Document.json?]
  | bool value => rw [tree, Document.json?]
  | int value =>
    cases canonical with
    | int least greatest => rw [tree, Document.json?, Numeral.json?_ofInt least greatest]
  | str text =>
    rw [tree, Document.json?, textOf?_pieces, Option.map_some, String.ofList_toList]
  | arr plain ih =>
    cases canonical with
    | arr canonical =>
      rw [tree, Document.json?, jsonItems?_trees fun item member => ih item member
        (canonical item member)]
      rfl
  | obj plain ih =>
    cases canonical with
    | obj sorted canonical =>
      rw [tree, Document.json?, jsonMembers?_treeMembers fun member found => ih member found
        (canonical member found), Option.map_some, ofMembers_of_sorted sorted]

/-! ### What is read -/

namespace Numeral

theorem isCanonical_of_signed? {negative : Bool} {magnitude : Binary64} {json : Json}
    (read : signed? negative magnitude = some json) : json.IsCanonical := by
  obtain ⟨number, -, rfl⟩ := Option.map_eq_some_iff.1 read
  exact .float number

theorem takeDigits_lt {chars : List Char} {start : Nat} (small : start < UInt64.size) :
    (takeDigits start chars).1 < UInt64.size := by
  induction chars generalizing start with
  | nil => exact small
  | cons char rest ih =>
    rw [takeDigits]
    split
    · next fits => exact ih fits
    · exact small

theorem isCanonical_of_integer? {negative : Bool} {significand : Nat} {json : Json}
    (small : significand < UInt64.size) (read : integer? negative significand = some json) :
    json.IsCanonical := by
  have size : UInt64.size = 18446744073709551616 := rfl
  have lower : leastInteger = -0x8000000000000000 := rfl
  have upper : greatestInteger = 0xFFFFFFFFFFFFFFFF := rfl
  unfold integer? at read
  split at read
  · split at read
    · exact isCanonical_of_signed? read
    · obtain rfl := Option.some.inj read
      exact .int (by omega) (by omega)
  · obtain rfl := Option.some.inj read
    exact .int (by omega) (by omega)

theorem isCanonical_of_json? {numeral : Numeral} {json : Json} (read : numeral.json? = some json) :
    json.IsCanonical := by
  unfold json? at read
  simp only at read
  split at read
  · exact isCanonical_of_integer? (takeDigits_lt (by decide)) read
  · obtain ⟨magnitude, -, signed⟩ := Option.bind_eq_some_iff.1 read
    exact isCanonical_of_signed? signed
  · obtain ⟨magnitude, -, signed⟩ := Option.bind_eq_some_iff.1 read
    exact isCanonical_of_signed? signed

end Numeral

/-- What holds of all that is written without lists and objects, at every depth, and passes from
the parts of a list or an object to the whole, which is one level deeper. -/
structure PassesUp (motive : Nat → Json → Prop) : Prop where
  null {depth : Nat} : motive depth .null
  bool {depth : Nat} (value : Bool) : motive depth (.bool value)
  number {depth : Nat} {numeral : Numeral} {json : Json} (read : numeral.json? = some json) :
    motive depth json
  str {depth : Nat} (text : String) : motive depth (.str text)
  arr {depth : Nat} {items : List Json} (each : ∀ item ∈ items, motive depth item) :
    motive (depth + 1) (.arr items)
  obj {depth : Nat} {members : List (String × Json)}
    (sorted : members.Pairwise fun left right => left.1 < right.1)
    (each : ∀ member ∈ members, motive depth member.2) : motive (depth + 1) (.obj members)

namespace PassesUp

variable {motive : Nat → Json → Prop}

mutual

theorem of_json? (up : PassesUp motive) {depth : Nat} {document : Document} {json : Json}
    (read : document.json? depth = some json) : motive depth json := by
  cases document with
  | null =>
    rw [Document.json?] at read
    exact Option.some.inj read ▸ up.null
  | bool value =>
    rw [Document.json?] at read
    exact Option.some.inj read ▸ up.bool value
  | number numeral =>
    rw [Document.json?] at read
    exact up.number read
  | string pieces =>
    rw [Document.json?] at read
    obtain ⟨chars, -, rfl⟩ := Option.map_eq_some_iff.1 read
    exact up.str _
  | list items =>
    cases depth with
    | zero => rw [Document.json?] at read; contradiction
    | succ depth =>
      rw [Document.json?] at read
      obtain ⟨values, done, rfl⟩ := Option.map_eq_some_iff.1 read
      exact up.arr fun item member => up.of_jsonItems? done member
  | object members =>
    cases depth with
    | zero => rw [Document.json?] at read; contradiction
    | succ depth =>
      rw [Document.json?] at read
      obtain ⟨values, done, rfl⟩ := Option.map_eq_some_iff.1 read
      obtain ⟨sorted, equal, ascending, members⟩ := sorted_ofMembers values
      rw [equal]
      exact up.obj ascending fun member found => up.of_jsonMembers? done (members member found)

theorem of_jsonItems? (up : PassesUp motive) {depth : Nat} {items : List Document}
    {values : List Json} (read : Document.jsonItems? depth items = some values) {value : Json}
    (member : value ∈ values) : motive depth value := by
  cases items with
  | nil =>
    rw [Document.jsonItems?] at read
    rw [← Option.some.inj read] at member
    contradiction
  | cons item rest =>
    rw [Document.jsonItems?] at read
    obtain ⟨first, done, read⟩ := Option.bind_eq_some_iff.1 read
    obtain ⟨later, others, read⟩ := Option.bind_eq_some_iff.1 read
    rw [← Option.some.inj read] at member
    rcases List.mem_cons.1 member with rfl | member
    · exact up.of_json? done
    · exact up.of_jsonItems? others member

theorem of_jsonMembers? (up : PassesUp motive) {depth : Nat}
    {members : List (List Piece × Document)} {values : List (String × Json)}
    (read : Document.jsonMembers? depth members = some values) {entry : String × Json}
    (member : entry ∈ values) : motive depth entry.2 := by
  cases members with
  | nil =>
    rw [Document.jsonMembers?] at read
    rw [← Option.some.inj read] at member
    contradiction
  | cons first rest =>
    obtain ⟨name, value⟩ := first
    rw [Document.jsonMembers?] at read
    obtain ⟨own, done, read⟩ := Option.bind_eq_some_iff.1 read
    obtain ⟨later, others, read⟩ := Option.bind_eq_some_iff.1 read
    rw [← Option.some.inj read] at member
    rcases List.mem_cons.1 member with rfl | member
    · rw [Document.jsonMember?] at done
      obtain ⟨chars, -, done⟩ := Option.bind_eq_some_iff.1 done
      obtain ⟨json, valueRead, done⟩ := Option.bind_eq_some_iff.1 done
      rw [← Option.some.inj done]
      exact up.of_json? valueRead
    · exact up.of_jsonMembers? others member

end

end PassesUp

theorem IsCanonical.passesUp : PassesUp fun _ json => json.IsCanonical where
  null := .null
  bool := .bool
  number := Numeral.isCanonical_of_json?
  str := .str
  arr := .arr
  obj := .obj

theorem isCanonical_of_json? {depth : Nat} {document : Document} {json : Json}
    (read : document.json? depth = some json) : json.IsCanonical :=
  IsCanonical.passesUp.of_json? read

end ShardedView.Json
