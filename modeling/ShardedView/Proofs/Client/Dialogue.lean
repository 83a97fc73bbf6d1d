import ShardedView.Client.Partitioned
import ShardedView.Proofs.Http.Traced

/-!
What becomes of a dialogue: with routes and a network that answer it, and with any answers at all.
-/

namespace ShardedView

open Http (Traced)

namespace Dialogue

variable {type : KeyType} {α β γ : Type}

theorem bind_done (dialogue : Dialogue type α) : dialogue.bind done = dialogue := by
  induction dialogue with
  | done result => rfl
  | ask question next ih => exact congrArg (ask question) (funext ih)

theorem bind_assoc (dialogue : Dialogue type α) (later : α → Dialogue type β)
    (last : β → Dialogue type γ) :
    (dialogue.bind later).bind last = dialogue.bind fun result => (later result).bind last := by
  induction dialogue with
  | done result => rfl
  | ask question next ih => exact congrArg (ask question) (funext ih)

instance : LawfulMonad (Dialogue type) :=
  LawfulMonad.mk' (Dialogue type) bind_done (fun _ _ => rfl) bind_assoc

end Dialogue

/-! ### Routes and a network that answer -/

namespace Routes

variable {type : KeyType} {α β : Type} (routes : Routes type) (send : Sender)

theorem hear_bind (dialogue : Dialogue type α) (later : α → Dialogue type β) :
    routes.hear send (dialogue >>= later) = do
      let (result, isOutdated) ← routes.hear send dialogue
      let (last, isLater) ← routes.hear send (later result)
      return (last, isOutdated || isLater) := by
  induction dialogue with
  | done result =>
    show routes.hear send (later result) = _
    simp only [hear, pure_bind, Bool.false_or]
    exact (bind_pure _).symm
  | ask question next ih =>
    show routes.hear send (.ask question fun answer => next answer >>= later) = _
    simp only [hear, ih, bind_assoc, pure_bind, Bool.or_assoc]

def conclusion (dialogue : Dialogue type α) : α :=
  (routes.hear send dialogue).result.1

def isOutdated (dialogue : Dialogue type α) : Bool :=
  (routes.hear send dialogue).result.2

theorem result_run (errand : Errand type α) :
    (routes.run send errand).result =
      ⟨routes.conclusion send errand.run, routes.isOutdated send errand.run⟩ := rfl

theorem conclusion_bind (dialogue : Dialogue type α) (later : α → Dialogue type β) :
    routes.conclusion send (dialogue >>= later) =
      routes.conclusion send (later (routes.conclusion send dialogue)) := by
  rw [conclusion, hear_bind]
  rfl

theorem isOutdated_bind (dialogue : Dialogue type α) (later : α → Dialogue type β) :
    routes.isOutdated send (dialogue >>= later) = (routes.isOutdated send dialogue ||
      routes.isOutdated send (later (routes.conclusion send dialogue))) := by
  rw [isOutdated, hear_bind]
  rfl

theorem conclusion_mapM (operation : α → Dialogue type β) (list : List α) :
    routes.conclusion send (list.mapM operation) =
      list.map fun item => routes.conclusion send (operation item) := by
  induction list with
  | nil => rfl
  | cons item rest ih =>
    rw [List.mapM_cons, List.map_cons, ← ih, conclusion_bind, conclusion_bind]
    rfl

theorem isOutdated_mapM (operation : α → Dialogue type β) (list : List α) :
    routes.isOutdated send (list.mapM operation) =
      list.any fun item => routes.isOutdated send (operation item) := by
  induction list with
  | nil => rfl
  | cons item rest ih =>
    rw [List.mapM_cons, List.any_cons, ← ih, isOutdated_bind, isOutdated_bind]
    exact congrArg _ (Bool.or_false _)

/-- An errand goes on with what it has come to so far, unless that is a failure. -/
theorem conclusion_errand (first : Errand type α) (next : α → Errand type β) :
    routes.conclusion send (first >>= next).run =
      routes.conclusion send first.run >>= fun value =>
        routes.conclusion send (next value).run := by
  refine (routes.conclusion_bind send first.run (ExceptT.bindCont next)).trans ?_
  cases routes.conclusion send first.run <;> rfl

theorem isOutdated_errand (first : Errand type α) (next : α → Errand type β) :
    routes.isOutdated send (first >>= next).run = (routes.isOutdated send first.run ||
      match routes.conclusion send first.run with
      | .ok value => routes.isOutdated send (next value).run
      | .error _ => false) := by
  refine (routes.isOutdated_bind send first.run (ExceptT.bindCont next)).trans ?_
  cases routes.conclusion send first.run <;> rfl

/-- What comes to a value without asking for a newer routing leaves the rest to what follows. -/
theorem result_run_bind {first : Errand type α} {value : α}
    (done : routes.conclusion send first.run = .ok value)
    (quiet : routes.isOutdated send first.run = false) (next : α → Errand type β) :
    (routes.run send (first >>= next)).result = (routes.run send (next value)).result := by
  rw [result_run, result_run, conclusion_errand, isOutdated_errand, done, quiet]
  rfl

theorem conclusion_lift (dialogue : Dialogue type α) :
    routes.conclusion send (liftM dialogue : Errand type α).run =
      .ok (routes.conclusion send dialogue) :=
  routes.conclusion_bind send dialogue _

theorem isOutdated_lift (dialogue : Dialogue type α) :
    routes.isOutdated send (liftM dialogue : Errand type α).run =
      routes.isOutdated send dialogue :=
  (routes.isOutdated_bind send dialogue _).trans (Bool.or_false _)

theorem conclusion_errand_mapM (operation : α → Errand type β) (list : List α) :
    routes.conclusion send (list.mapM operation).run =
      list.mapM fun item => routes.conclusion send (operation item).run := by
  induction list with
  | nil => rfl
  | cons item rest ih =>
    rw [List.mapM_cons, List.mapM_cons, conclusion_errand]
    refine congrArg _ (funext fun value => ?_)
    rw [conclusion_errand, ih]
    rfl

theorem conclusion_heed (isOutdated : Bool) :
    routes.conclusion send (Errand.heed isOutdated).run = .ok () := by
  cases isOutdated <;> rfl

end Routes

/-! ### Any answers at all -/

structure Event (type : KeyType) where
  question : Question type
  answer : question.Answer

namespace Dialogue

variable {type : KeyType} {α β : Type}

/-- Whether a dialogue may take its course with some answers, and come to a result. -/
def Runs : Dialogue type α → List (Event type) → α → Prop
  | done result, events, last => events = [] ∧ last = result
  | ask question next, events, last =>
    ∃ answer rest, events = ⟨question, answer⟩ :: rest ∧ (next answer).Runs rest last

theorem runs_bind {dialogue : Dialogue type α} {later : α → Dialogue type β}
    {events : List (Event type)} {last : β} (runs : (dialogue >>= later).Runs events last) :
    ∃ before after result, events = before ++ after ∧ dialogue.Runs before result ∧
      (later result).Runs after last := by
  induction dialogue generalizing events with
  | done result => exact ⟨[], events, result, rfl, ⟨rfl, rfl⟩, runs⟩
  | ask question next ih =>
    obtain ⟨answer, rest, rfl, runs⟩ := runs
    obtain ⟨before, after, result, rfl, first, second⟩ := ih answer runs
    exact ⟨⟨question, answer⟩ :: before, after, result, rfl, ⟨answer, before, rfl, first⟩, second⟩

/-- Of several dialogues the first one takes its course, and then the others. -/
theorem runs_mapM_cons {operation : α → Dialogue type β} {item : α} {items : List α}
    {events : List (Event type)} {results : List β}
    (runs : ((item :: items).mapM operation).Runs events results) :
    ∃ before after result later, events = before ++ after ∧ results = result :: later ∧
      (operation item).Runs before result ∧ (items.mapM operation).Runs after later := by
  rw [List.mapM_cons] at runs
  obtain ⟨before, after, result, rfl, first, runs⟩ := runs_bind runs
  obtain ⟨after, last, later, rfl, others, rfl, rfl⟩ := runs_bind runs
  rw [List.append_nil]
  exact ⟨before, after, result, later, rfl, rfl, first, others⟩

theorem Runs.bind {dialogue : Dialogue type α} {later : α → Dialogue type β}
    {before after : List (Event type)} {result : α} {last : β}
    (first : dialogue.Runs before result) (second : (later result).Runs after last) :
    (dialogue >>= later).Runs (before ++ after) last := by
  induction dialogue generalizing before with
  | done own =>
    obtain ⟨rfl, rfl⟩ := first
    exact second
  | ask question next ih =>
    obtain ⟨answer, rest, rfl, first⟩ := first
    exact ⟨answer, rest ++ after, rfl, ih answer first⟩

end Dialogue

namespace Errand

variable {type : KeyType} {α β : Type} {events : List (Event type)}

theorem ok_bind (value : α) (next : α → Errand type β) :
    (liftM (.ok value : Except Failure α) >>= next : Errand type β) = next value := rfl

theorem runs_bind {first : Errand type α} {next : α → Errand type β} {result : Except Failure β}
    (runs : (first >>= next).run.Runs events result) :
    (∃ failure, result = .error failure ∧ first.run.Runs events (.error failure)) ∨
      ∃ before after value, events = before ++ after ∧ first.run.Runs before (.ok value) ∧
        (next value).run.Runs after result := by
  obtain ⟨before, after, outcome, rfl, began, ended⟩ := Dialogue.runs_bind runs
  cases outcome with
  | ok value => exact .inr ⟨before, after, value, rfl, began, ended⟩
  | error failure =>
    obtain ⟨rfl, rfl⟩ := ended
    exact .inl ⟨failure, rfl, (List.append_nil before).symm ▸ began⟩

theorem runs_bind_of_ok {first : Errand type α} {next : α → Errand type β}
    {before after : List (Event type)} {value : α} {result : Except Failure β}
    (began : first.run.Runs before (.ok value)) (ended : (next value).run.Runs after result)
    (split : events = before ++ after) : (first >>= next).run.Runs events result :=
  split ▸ began.bind ended

theorem runs_lift {dialogue : Dialogue type α} {result : Except Failure α}
    (runs : (liftM dialogue : Errand type α).run.Runs events result) :
    ∃ value, result = .ok value ∧ dialogue.Runs events value := by
  obtain ⟨before, after, value, rfl, began, rfl, rfl⟩ := Dialogue.runs_bind runs
  exact ⟨value, rfl, (List.append_nil before).symm ▸ began⟩

theorem runs_bind_lift {dialogue : Dialogue type α} {next : α → Errand type β}
    {result : Except Failure β}
    (runs : (liftM dialogue >>= next : Errand type β).run.Runs events result) :
    ∃ before after value, events = before ++ after ∧ dialogue.Runs before value ∧
      (next value).run.Runs after result := by
  obtain ⟨failure, -, began⟩ | ⟨before, after, value, rfl, began, later⟩ := runs_bind runs
  · obtain ⟨value, same, -⟩ := runs_lift began
    cases same
  · obtain ⟨outcome, same, began⟩ := runs_lift began
    cases same
    exact ⟨before, after, value, rfl, began, later⟩

end Errand

/-! ### Routes and a network as one way to answer -/

namespace Routes

variable {type : KeyType} {α : Type}

/-- What a dialogue asks of routes and a network, with their answers. -/
def events (routes : Routes type) (send : Sender) : Dialogue type α → List (Event type)
  | .done _ => []
  | .ask question next =>
    let answer := (routes.answer send question).result
    ⟨question, answer⟩ :: routes.events send (next answer)

variable (routes : Routes type) (send : Sender)

theorem runs_events (dialogue : Dialogue type α) :
    dialogue.Runs (routes.events send dialogue) (routes.conclusion send dialogue) := by
  induction dialogue with
  | done result => exact ⟨rfl, rfl⟩
  | ask question next ih => exact ⟨_, _, rfl, ih _⟩

theorem isOutdated_eq_any (dialogue : Dialogue type α) :
    routes.isOutdated send dialogue =
      (routes.events send dialogue).any (·.question.isRefresh) := by
  induction dialogue with
  | done result => rfl
  | ask question next ih =>
    rw [events, List.any_cons, ← ih]
    rfl

theorem sent_hear (dialogue : Dialogue type α) :
    (routes.hear send dialogue).sent =
      (routes.events send dialogue).flatMap fun event =>
        (routes.answer send event.question).sent := by
  induction dialogue with
  | done result => rfl
  | ask question next ih =>
    rw [events, List.flatMap_cons, ← ih]
    exact congrArg ((routes.answer send question).sent ++ ·) (List.append_nil _)

theorem answer_of_mem_events {dialogue : Dialogue type α} {event : Event type}
    (listed : event ∈ routes.events send dialogue) :
    event.answer = (routes.answer send event.question).result := by
  induction dialogue with
  | done result => cases listed
  | ask question next ih =>
    rcases List.mem_cons.1 listed with rfl | later
    · rfl
    · exact ih _ later

end Routes

end ShardedView
