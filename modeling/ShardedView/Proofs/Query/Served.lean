import ShardedView.Query.Handler
import ShardedView.Proofs.Http.Envelope
import ShardedView.Proofs.Topic.Value

/-!
What clients read of the values that a replica serves. An envelope is one level of a document, a
list in it another one, and a client reads no more levels than a replica does of a record. So
values of the deepest records are served and cannot be read.
-/

namespace ShardedView

namespace Envelope

/-- A value is read back from its envelope if it leaves one level to the envelope. -/
theorem readValue_write_iff {value : Json} {depth : Nat} (plain : value.IsPlain depth)
    (canonical : value.IsCanonical) :
    (value.Nests (Json.greatestDepth - 1) → readValue (write value) = .ok value) ∧
      (¬ value.Nests (Json.greatestDepth - 1) →
        readValue (write value) = .error (.codec .notJson)) := by
  have read : value? (write value) = value.tree.json? (Json.greatestDepth - 1) := by
    rw [value?, open?_write]
    rfl
  constructor
  · intro nests
    exact readValue_write (nests.isPlain plain.isFloatless) canonical
  · intro deep
    cases found : value? (write value) with
    | none => rw [readValue, found]
    | some other =>
      rw [read, Json.json?_tree_eq_some_iff plain canonical] at found
      exact absurd found.1 deep

/-- A list of values is read back from its envelope if each leaves two levels to list and
envelope. -/
theorem readValues_write_iff {values : List Json} {depth : Nat}
    (plain : ∀ value ∈ values, value.IsPlain depth)
    (canonical : ∀ value ∈ values, value.IsCanonical) :
    ((∀ value ∈ values, value.Nests (Json.greatestDepth - 2)) →
        readValues (write (.arr values)) = .ok values) ∧
      ((∃ value ∈ values, ¬ value.Nests (Json.greatestDepth - 2)) →
        readValues (write (.arr values)) = .error (.codec .notJson)) := by
  have read : values? (write (.arr values)) =
      Json.Document.jsonItems? (Json.greatestDepth - 2) (Json.trees values) := by
    rw [values?, open?_write, Json.tree]
    rfl
  constructor
  · intro nests
    exact readValues_write
      (fun value listed => (nests value listed).isPlain (plain value listed).isFloatless) canonical
  · rintro ⟨value, listed, deep⟩
    cases found : values? (write (.arr values)) with
    | none => rw [readValues, found]
    | some others =>
      rw [read, Json.jsonItems?_trees_eq_some_iff plain canonical] at found
      exact absurd (found.1 value listed) deep

end Envelope

namespace Json

def nested : (levels : Nat) → Json
  | 0 => .null
  | levels + 1 => .obj [("of", nested levels)]

theorem isPlain_nested (levels : Nat) : (nested levels).IsPlain levels := by
  induction levels with
  | zero => exact .null
  | succ levels ih => exact .obj (List.forall_mem_singleton.2 ih)

theorem isCanonical_nested (levels : Nat) : (nested levels).IsCanonical := by
  induction levels with
  | zero => exact .null
  | succ levels ih => exact .obj (List.pairwise_singleton ..) (List.forall_mem_singleton.2 ih)

theorem nests_nested_iff {levels depth : Nat} : (nested levels).Nests depth ↔ levels ≤ depth := by
  constructor
  · intro nests
    induction levels generalizing depth with
    | zero => exact Nat.zero_le depth
    | succ levels ih =>
      cases nests with
      | obj nests => exact Nat.succ_le_succ (ih (nests _ (.head _)))
  · exact (isPlain_nested levels).nests.mono

end Json

namespace Http.Reply

theorem readValue_ofAnswer {value : Json} {depth : Nat} (plain : value.IsPlain depth)
    (canonical : value.IsCanonical) (stale : Bool) :
    (value.Nests (Json.greatestDepth - 1) →
      Envelope.readValue (ofAnswer ⟨value, stale⟩).body = .ok value) ∧
      (¬ value.Nests (Json.greatestDepth - 1) →
        Envelope.readValue (ofAnswer ⟨value, stale⟩).body = .error (.codec .notJson)) := by
  simp only [ofAnswer]
  exact Envelope.readValue_write_iff plain canonical

variable {type : DataType} {values : List Json}

/-- Values without floating-point numbers that are decoded from records are read back as they
were served, alone or in a list, exactly if they leave the levels of the envelope and the list. -/
theorem served_values_read_back
    (decoded : ∀ value ∈ values, ∃ bytes, type.decode bytes = .ok value)
    (floatless : ∀ value ∈ values, value.IsFloatless) (stale : Bool) :
    (∀ value ∈ values,
      (value.Nests (Json.greatestDepth - 1) →
        Envelope.readValue (ofAnswer ⟨value, stale⟩).body = .ok value) ∧
      (¬ value.Nests (Json.greatestDepth - 1) →
        Envelope.readValue (ofAnswer ⟨value, stale⟩).body = .error (.codec .notJson))) ∧
    ((∀ value ∈ values, value.Nests (Json.greatestDepth - 2)) →
      Envelope.readValues (ofAnswer ⟨.arr values, stale⟩).body = .ok values) ∧
    ((∃ value ∈ values, ¬ value.Nests (Json.greatestDepth - 2)) →
      Envelope.readValues (ofAnswer ⟨.arr values, stale⟩).body = .error (.codec .notJson)) := by
  have plain : ∀ value ∈ values, value.IsPlain Json.greatestDepth := by
    intro value listed
    obtain ⟨bytes, done⟩ := decoded value listed
    exact (DataType.nests_of_decode done).isPlain (floatless value listed)
  have canonical : ∀ value ∈ values, value.IsCanonical := by
    intro value listed
    obtain ⟨bytes, done⟩ := decoded value listed
    exact DataType.isCanonical_of_decode done
  constructor
  · intro value listed
    exact readValue_ofAnswer (plain value listed) (canonical value listed) stale
  · simp only [ofAnswer]
    exact Envelope.readValues_write_iff plain canonical

/-- Records of 126 levels are read back alone, and not in a list. -/
theorem served_values_read_back_nested :
    Envelope.readValue (ofAnswer ⟨.nested 126, false⟩).body = .ok (.nested 126) ∧
      Envelope.readValues (ofAnswer ⟨.arr [.nested 126], false⟩).body =
        .error (.codec .notJson) := by
  have decoded := DataType.decode_print ((Json.isPlain_nested 126).mono (by decide))
    (Json.isCanonical_nested 126)
  have floatless := (Json.isPlain_nested 126).isFloatless
  obtain ⟨alone, -, listed⟩ := served_values_read_back
    (List.forall_mem_singleton.2 ⟨_, decoded⟩) (List.forall_mem_singleton.2 floatless) false
  exact ⟨(alone _ (.head _)).1 (Json.nests_nested_iff.2 (by decide)),
    listed ⟨_, .head _, fun nests => absurd (Json.nests_nested_iff.1 nests) (by decide)⟩⟩

/-- A record of 127 levels is served, and its reply cannot be read. -/
theorem served_value_unreadable :
    DataType.schema.decode (Utf8.encode (Json.nested 127).print) = .ok (.nested 127) ∧
      (Json.nested 127).IsFloatless ∧
      Envelope.readValue (ofAnswer ⟨.nested 127, false⟩).body = .error (.codec .notJson) := by
  have plain := Json.isPlain_nested 127
  have canonical := Json.isCanonical_nested 127
  have deep : ¬ (Json.nested 127).Nests (Json.greatestDepth - 1) := fun nests =>
    absurd (Json.nests_nested_iff.1 nests) (by decide)
  exact ⟨DataType.decode_print plain canonical, plain.isFloatless,
    (readValue_ofAnswer plain canonical false).2 deep⟩

end Http.Reply

end ShardedView
