import ShardedView.Failure

/-!
Operations one after another, and on the items of a list, all of which must succeed.
-/

namespace ShardedView.Failure

theorem bind_of_ok {α β : Type} {first : Except Failure α} {value : α} (done : first = .ok value)
    (next : α → Except Failure β) : (first >>= next) = next value := by
  rw [done]
  rfl

theorem bind_of_error {α β : Type} {first : Except Failure α} {failure : Failure}
    (failed : first = .error failure) (next : α → Except Failure β) :
    (first >>= next) = .error failure := by
  rw [failed]
  rfl

theorem exists_of_bind {α β : Type} {first : Except Failure α} {next : α → Except Failure β}
    {result : β} (done : (first >>= next) = .ok result) :
    ∃ value, first = .ok value ∧ next value = .ok result := by
  cases first with
  | ok value => exact ⟨value, rfl, done⟩
  | error failure => contradiction

variable {α β : Type} {operation : α → Except Failure β}

theorem mapM_eq_ok_iff {list : List α} {results : List β} :
    list.mapM operation = .ok results ↔ list.map operation = results.map .ok := by
  induction list generalizing results with
  | nil =>
    rw [List.map_nil, eq_comm (a := []), List.map_eq_nil_iff]
    exact ⟨fun done => (Except.ok.inj done).symm, fun nothing => congrArg Except.ok nothing.symm⟩
  | cons item rest ih =>
    rw [List.mapM_cons, List.map_cons]
    cases first : operation item with
    | error failure =>
      refine ⟨nofun, fun same => ?_⟩
      cases results with
      | nil => contradiction
      | cons result results => exact absurd (List.cons.inj same).1 nofun
    | ok own =>
      cases others : rest.mapM operation with
      | error failure =>
        refine ⟨nofun, fun same => ?_⟩
        cases results with
        | nil => contradiction
        | cons result results =>
          rw [ih.2 (List.cons.inj same).2] at others
          contradiction
      | ok later =>
        constructor
        · intro done
          obtain rfl : own :: later = results := Except.ok.inj done
          rw [ih.1 others, List.map_cons]
        · intro same
          cases results with
          | nil => contradiction
          | cons result results =>
            obtain ⟨head, tail⟩ := List.cons.inj same
            rw [ih.2 tail] at others
            obtain rfl := Except.ok.inj head
            obtain rfl := Except.ok.inj others
            rfl

theorem length_of_mapM {list : List α} {results : List β}
    (done : list.mapM operation = .ok results) : results.length = list.length := by
  have same := congrArg List.length (mapM_eq_ok_iff.1 done)
  rwa [List.length_map, List.length_map, eq_comm] at same

theorem exists_of_mem_mapM {list : List α} {results : List β}
    (done : list.mapM operation = .ok results) {result : β} (member : result ∈ results) :
    ∃ item ∈ list, operation item = .ok result := by
  have listed := List.mem_map_of_mem (f := (Except.ok : β → Except Failure β)) member
  rw [← mapM_eq_ok_iff.1 done] at listed
  exact List.mem_map.1 listed

theorem mem_of_mapM {list : List α} {results : List β} (done : list.mapM operation = .ok results)
    {item : α} (member : item ∈ list) {result : β} (own : operation item = .ok result) :
    result ∈ results := by
  have listed := List.mem_map_of_mem (f := operation) member
  rw [mapM_eq_ok_iff.1 done, own] at listed
  obtain ⟨other, among, same⟩ := List.mem_map.1 listed
  exact Except.ok.inj same ▸ among

theorem exists_mapM_eq {γ : Type} {list : List α} {seen : β → γ} {expected : α → γ}
    (each : ∀ item ∈ list, ∃ result, operation item = .ok result ∧ seen result = expected item) :
    ∃ results, list.mapM operation = .ok results ∧ results.map seen = list.map expected := by
  induction list with
  | nil => exact ⟨[], rfl, rfl⟩
  | cons item rest ih =>
    obtain ⟨result, done, same⟩ := each item (.head _)
    obtain ⟨results, others, alike⟩ := ih fun item member => each item (.tail _ member)
    refine ⟨result :: results, ?_, by rw [List.map_cons, List.map_cons, same, alike]⟩
    rw [List.mapM_cons, done, others]
    rfl

theorem exists_mapM {list : List α} (each : ∀ item ∈ list, ∃ result, operation item = .ok result) :
    ∃ results, list.mapM operation = .ok results := by
  obtain ⟨results, done, -⟩ := @exists_mapM_eq α β operation Unit list (fun _ => ()) (fun _ => ())
    fun item member => (each item member).imp fun result done => ⟨done, rfl⟩
  exact ⟨results, done⟩

end ShardedView.Failure
