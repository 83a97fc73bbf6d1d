import ShardedView.Proofs.Failure
import ShardedView.Proofs.Range.Padding
import ShardedView.Proofs.Stem
import ShardedView.Proofs.Topic.Key
import ShardedView.Range.Index

/-!
The order of index keys: those of one key are in the order of their values, and
no index key of another key lies between them. What an index key is made of can be
taken from it again.
-/

namespace ShardedView

namespace RangeIndex

theorem separator_not_mem_flatMap_escapeChar (chars : List Char) :
    separator ∉ chars.flatMap escapeChar := by
  rw [List.mem_flatMap]
  rintro ⟨char, -, member⟩
  unfold escapeChar at member
  split at member
  · exact absurd member (by decide)
  · split at member
    · exact absurd member (by decide)
    · next other => exact other (List.mem_singleton.1 member).symm

theorem escapeChar_cases (char : Char) :
    char = '%' ∧ escapeChar char = ['%', '2', '5'] ∨
      char = separator ∧ escapeChar char = ['%', '5', 'F'] ∨
      char ≠ '%' ∧ escapeChar char = [char] := by
  unfold escapeChar
  by_cases percent : char = '%'
  · exact .inl ⟨percent, if_pos percent⟩
  · by_cases same : char = separator
    · exact .inr (.inl ⟨same, by rw [if_neg percent, if_pos same]⟩)
    · exact .inr (.inr ⟨percent, by rw [if_neg percent, if_neg same]⟩)

theorem escapeChar_append_inj {left right : Char} {leftTail rightTail : List Char}
    (equal : escapeChar left ++ leftTail = escapeChar right ++ rightTail) :
    left = right ∧ leftTail = rightTail := by
  rcases escapeChar_cases left with ⟨rfl, escaped⟩ | ⟨rfl, escaped⟩ | ⟨leftPlain, escaped⟩ <;>
    rcases escapeChar_cases right with ⟨rfl, other⟩ | ⟨rfl, other⟩ | ⟨rightPlain, other⟩ <;>
    simp only [escaped, other] at equal
  · exact ⟨rfl, List.append_cancel_left equal⟩
  · simp at equal
  · exact absurd (List.cons.inj equal).1.symm rightPlain
  · simp at equal
  · exact ⟨rfl, List.append_cancel_left equal⟩
  · exact absurd (List.cons.inj equal).1.symm rightPlain
  · exact absurd (List.cons.inj equal).1 leftPlain
  · exact absurd (List.cons.inj equal).1 leftPlain
  · exact List.cons.inj equal

theorem escapeChar_ne_nil (char : Char) : escapeChar char ≠ [] := by
  unfold escapeChar
  split
  · nofun
  · split <;> nofun

theorem flatMap_escapeChar_injective {left right : List Char}
    (equal : left.flatMap escapeChar = right.flatMap escapeChar) : left = right := by
  induction left generalizing right with
  | nil =>
    cases right with
    | nil => rfl
    | cons char rest =>
      rw [List.flatMap_cons, List.flatMap_nil, eq_comm, List.append_eq_nil_iff] at equal
      exact absurd equal.1 (escapeChar_ne_nil char)
  | cons char rest ih =>
    cases right with
    | nil =>
      rw [List.flatMap_cons, List.flatMap_nil, List.append_eq_nil_iff] at equal
      exact absurd equal.1 (escapeChar_ne_nil char)
    | cons other others =>
      obtain ⟨rfl, rest⟩ := escapeChar_append_inj equal
      rw [ih rest]

theorem eq_of_append_separator_isPrefix {left right tail : List Char}
    (leftFree : separator ∉ left) (rightFree : separator ∉ right)
    (shared : left ++ [separator] <+: right ++ separator :: tail) : left = right := by
  induction left generalizing right with
  | nil =>
    cases right with
    | nil => rfl
    | cons head rest =>
      obtain ⟨same, -⟩ := List.cons_prefix_cons.1 shared
      exact absurd (same ▸ List.mem_cons_self) rightFree
  | cons head rest ih =>
    cases right with
    | nil =>
      obtain ⟨same, -⟩ := List.cons_prefix_cons.1 shared
      exact absurd (same ▸ List.mem_cons_self) leftFree
    | cons other others =>
      obtain ⟨rfl, remaining⟩ := List.cons_prefix_cons.1 shared
      rw [ih (fun member => leftFree (.tail _ member)) (fun member => rightFree (.tail _ member))
        remaining]

variable {type : KeyType}

theorem toList_stem (key : type.Key) :
    (stem type key).toList = (type.toText key).toList.flatMap escapeChar ++ [separator] := by
  rw [stem, String.toList_push, escape, String.toList_ofList]

theorem eq_of_stem_isPrefix {key other : type.Key} {text : List Char}
    (own : (stem type key).toList <+: text) (foreign : (stem type other).toList <+: text) :
    key = other := by
  rw [toList_stem] at own foreign
  obtain ⟨tail, rfl⟩ := foreign
  rw [List.append_assoc, List.singleton_append] at own
  have same := eq_of_append_separator_isPrefix (separator_not_mem_flatMap_escapeChar _)
    (separator_not_mem_flatMap_escapeChar _) own
  exact KeyType.toText_injective (String.toList_inj.1 (flatMap_escapeChar_injective same))

theorem toList_compose (key : type.Key) (padded : String) :
    (compose type key padded).toList = (stem type key).toList ++ padded.toList :=
  String.toList_append

theorem stem_isPrefix_compose_iff {key other : type.Key} {padded : String} :
    (stem type key).toList <+: (compose type other padded).toList ↔ key = other := by
  have own : (stem type other).toList <+: (compose type other padded).toList := by
    rw [toList_compose]
    exact List.prefix_append ..
  constructor
  · exact fun shared => eq_of_stem_isPrefix shared own
  · rintro rfl
    exact own

theorem hasStem_compose (key other : type.Key) (padded : String) :
    SortedMap.hasStem (stem type key) (compose type other padded) = decide (key = other) := by
  rw [Bool.eq_iff_iff, SortedMap.hasStem_eq_true_iff, decide_eq_true_iff,
    stem_isPrefix_compose_iff]

theorem compose_inj {key other : type.Key} {left right : String} :
    compose type key left = compose type other right ↔ key = other ∧ left = right := by
  constructor
  · intro equal
    have same : key = other := by
      refine stem_isPrefix_compose_iff.1 (?_ : _ <+: (compose type other right).toList)
      rw [← equal, stem_isPrefix_compose_iff]
    subst same
    refine ⟨rfl, String.toList_inj.1 ?_⟩
    rw [← String.toList_inj, toList_compose, toList_compose] at equal
    exact List.append_cancel_left equal
  · rintro ⟨rfl, rfl⟩
    rfl

theorem compose_lt_compose_iff {key : type.Key} {left right : String} :
    compose type key left < compose type key right ↔ left < right := by
  rw [String.lt_iff, toList_compose, toList_compose,
    Digits.append_lt_append_of_length_eq _ _ rfl, String.lt_iff]
  exact ⟨Or.rec (fun less => absurd less Std.lt_irrefl) And.right, fun less => .inr ⟨rfl, less⟩⟩

/-- What stands behind the last separator of an index key is what it was composed with. -/
theorem split_compose (key : type.Key) {padded : String} (free : separator ∉ padded.toList) :
    split (compose type key padded) = .ok (escape (type.toText key), padded) := by
  have reversed : (compose type key padded).toList.reverse =
      padded.toList.reverse ++ separator :: (escape (type.toText key)).toList.reverse := by
    rw [toList_compose, stem, String.toList_push, List.reverse_append, List.reverse_append]
    rfl
  have behind : ∀ char ∈ padded.toList.reverse, decide (char ≠ separator) = true := by
    intro char member
    rw [decide_eq_true_eq]
    rintro rfl
    exact free (List.mem_reverse.1 member)
  unfold split
  simp only [reversed]
  rw [if_pos (List.mem_append_right _ (.head _)), List.takeWhile_append_of_pos behind,
    List.dropWhile_append_of_pos behind]
  simp

end RangeIndex

namespace RangeType

/-- The value of the range field is taken from a record if it is an integer of the type. -/
theorem extract_eq_ok_iff {type : RangeType} {record : Json} {field : String} {value : Int64} :
    type.extract record field = .ok value ↔
      (record.member? field).bind Json.int64? = some value ∧ type.fits value = true := by
  unfold extract
  cases record.member? field with
  | none => exact ⟨nofun, fun held => nomatch held.1⟩
  | some item =>
    dsimp only [Option.bind_some]
    cases item.int64? with
    | none => exact ⟨nofun, fun held => nomatch held.1⟩
    | some number =>
      dsimp only
      split
      · next fits =>
        rw [Except.ok.injEq, Option.some.injEq]
        exact ⟨fun same => ⟨same, same ▸ fits⟩, And.left⟩
      · next unfit =>
        exact ⟨nofun, fun held => absurd (Option.some.inj held.1 ▸ held.2) unfit⟩

end RangeType

namespace RangeField

variable {field : RangeField} {keyType : KeyType} {record : Json} {value : Int64} {padded : String}

theorem index_of_extract (extracted : field.type.extract record field.name = .ok value)
    (done : field.type.pad value = .ok padded) (key : keyType.Key) :
    field.index keyType key record = .ok (RangeIndex.compose keyType key padded) := by
  rw [index, Failure.bind_of_ok extracted, Failure.bind_of_ok done]
  rfl

/-- The index key at a bound that is given as text is that of records with the same integer. -/
theorem boundary_of_read {text : String} (read : Integer.read64 (Text.trim text) = .ok value)
    (done : field.type.pad value = .ok padded) (key : keyType.Key) :
    field.boundary keyType key text = .ok (RangeIndex.compose keyType key padded) := by
  rw [boundary, Failure.bind_of_ok (RangeType.padText_eq_ok_iff.2 ⟨value, read, done⟩)]
  rfl

/-- Whether a record has an integer of the type in its range field. -/
structure Holds (field : RangeField) (record : Json) (value : Int64) : Prop where
  held : (record.member? field.name).bind Json.int64? = some value
  fits : field.type.fits value = true

theorem holds_iff : field.Holds record value ↔
    (record.member? field.name).bind Json.int64? = some value ∧ field.type.fits value = true :=
  ⟨fun holds => ⟨holds.held, holds.fits⟩, fun ⟨held, fits⟩ => ⟨held, fits⟩⟩

instance : Decidable (field.Holds record value) := decidable_of_iff _ holds_iff.symm

theorem extract_eq_ok_iff_holds :
    field.type.extract record field.name = .ok value ↔ field.Holds record value :=
  RangeType.extract_eq_ok_iff.trans holds_iff.symm

/-- Index keys tell apart by key, and for one key they are in the order of the integers, as bytes.
A bound that is given as text has the index key of the records at that bound, and an index key
shows what it is made of. -/
theorem index_keys_separate {field : RangeField} {keyType : KeyType} (key other : keyType.Key)
    {record another : Json} {value number : Int64} (holds : field.Holds record value)
    (also : field.Holds another number) :
    ∃ index sibling, field.index keyType key record = .ok index ∧
      field.index keyType other another = .ok sibling ∧
      ((RangeIndex.stem keyType other).toList <+: index.toList ↔ key = other) ∧
      (index = sibling ↔ key = other ∧ value = number) ∧
      (key = other → (Utf8.encode index < Utf8.encode sibling ↔ value < number)) ∧
      (∀ text, Integer.read64 (Text.trim text) = .ok value →
        field.boundary keyType key text = .ok index) ∧
      ∃ padded, RangeIndex.split index = .ok (RangeIndex.escape (keyType.toText key), padded) ∧
        field.type.unpad padded = .ok value := by
  obtain ⟨padded, done⟩ := RangeType.exists_pad holds.fits
  obtain ⟨beside, alsoDone⟩ := RangeType.exists_pad also.fits
  have free : RangeIndex.separator ∉ padded.toList := fun member =>
    absurd ((RangeType.digits_of_pad done).2.1 _ member) (by decide)
  have same : padded = beside ↔ value = number := by
    constructor
    · rintro rfl
      exact RangeType.eq_of_pad done alsoDone
    · rintro rfl
      exact Except.ok.inj (done.symm.trans alsoDone)
  refine ⟨_, _, index_of_extract (extract_eq_ok_iff_holds.2 holds) done key,
    index_of_extract (extract_eq_ok_iff_holds.2 also) alsoDone other,
    ?_, ?_, ?_, fun text read => boundary_of_read read done key, padded,
    RangeIndex.split_compose key free, RangeType.unpad_eq_ok_iff.2 (.inl done)⟩
  · exact RangeIndex.stem_isPrefix_compose_iff.trans eq_comm
  · rw [RangeIndex.compose_inj, same]
  · rintro rfl
    rw [Utf8.encode_lt_encode_iff, RangeIndex.compose_lt_compose_iff,
      RangeType.lt_iff_of_pad done alsoDone]

/-- The key that begins like another one, up to the separator, has no index key among those of
the other. -/
theorem index_keys_separate_escaped :
    let field : RangeField := ⟨"n", .int⟩
    let record (number : Int) : Json := .obj [("n", .int number)]
    field.Holds (record (-3)) (-3) ∧ field.Holds (record 5) 5 ∧
      ∃ index sibling, field.index .string "a_" (record (-3)) = .ok index ∧
        field.index .string "a" (record 5) = .ok sibling ∧
        ¬ (RangeIndex.stem .string "a").toList <+: index.toList ∧ index ≠ sibling ∧
        field.boundary .string "a_" " -3" = .ok index ∧
        ∃ padded, RangeIndex.split index = .ok ("a%5F", padded) ∧
          field.type.unpad padded = .ok (-3) := by
  intro field record
  have holds : field.Holds (record (-3)) (-3) := ⟨by decide, by decide⟩
  have also : field.Holds (record 5) 5 := ⟨by decide, by decide⟩
  obtain ⟨index, sibling, written, beside, begins, same, -, bound, padded, parts, read⟩ :=
    @index_keys_separate field .string "a_" "a" _ _ _ _ holds also
  have apart : ("a_" : String) ≠ "a" := by decide
  exact ⟨holds, also, index, sibling, written, beside, fun shared => apart (begins.1 shared),
    fun equal => apart (same.1 equal).1, bound " -3" rfl, padded, parts, read⟩

end RangeField

end ShardedView
