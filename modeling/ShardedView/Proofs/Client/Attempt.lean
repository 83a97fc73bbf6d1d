import ShardedView.Proofs.Client.Partitioned
import ShardedView.Proofs.Http.Url

/-!
What is asked in the course of a call, and one request of it: a host is asked once, and another
one in its place if it cannot be reached.
-/

namespace ShardedView

open Errand (byHost isFallback isUnreachable)
open Http (Url)

variable {type : KeyType}

/-! ### What is asked in the course of a call -/

namespace Event

def request? : Event type → Option (Url × Except Failure Received)
  | ⟨.send url, answer⟩ => some (url, answer)
  | _ => none

def lookup? : Event type → Option (type.Key × Except Failure Endpoint)
  | ⟨.find key, answer⟩ => some (key, answer)
  | _ => none

def endpoints : Event type → List Endpoint
  | ⟨.find _, .ok endpoint⟩ => [endpoint]
  | ⟨.hosts, .ok endpoints⟩ => endpoints
  | _ => []

/-- The requests in the course of a call, with what became of them. -/
def requests (events : List (Event type)) : List (Url × Except Failure Received) :=
  events.filterMap request?

def lookups (events : List (Event type)) : List (type.Key × Except Failure Endpoint) :=
  events.filterMap lookup?

def refreshes (events : List (Event type)) : Nat :=
  events.countP (·.question.isRefresh)

@[simp] theorem requests_append (before after : List (Event type)) :
    requests (before ++ after) = requests before ++ requests after := List.filterMap_append

@[simp] theorem lookups_append (before after : List (Event type)) :
    lookups (before ++ after) = lookups before ++ lookups after := List.filterMap_append

@[simp] theorem refreshes_append (before after : List (Event type)) :
    refreshes (before ++ after) = refreshes before + refreshes after := List.countP_append

theorem exists_of_mem_lookups {events : List (Event type)} (key : type.Key) {endpoint : Endpoint}
    (listed : (key, .ok endpoint) ∈ lookups events) :
    ∃ event ∈ events, endpoint ∈ event.endpoints := by
  obtain ⟨⟨question, answer⟩, member, same⟩ := List.mem_filterMap.1 listed
  refine ⟨_, member, ?_⟩
  cases question with
  | find other =>
    obtain ⟨rfl, rfl⟩ := Prod.mk.inj (Option.some.inj same)
    exact List.mem_singleton.2 rfl
  | _ => cases same

end Event

structure Contact where
  endpoint : Endpoint
  url : Url
  answer : Except Failure Received

namespace Contact

def request (contact : Contact) : Url × Except Failure Received := (contact.url, contact.answer)

end Contact

structure Attempt where
  first : Contact
  second : Option Contact

namespace Attempt

def contacts (attempt : Attempt) : List Contact :=
  attempt.first :: attempt.second.toList

def requests (attempt : Attempt) : List (Url × Except Failure Received) :=
  attempt.contacts.map Contact.request

/-- Whether a successful reply came from elsewhere than expected: from the second host, or with
the mark of one that had to ask another. -/
def isMarked (attempt : Attempt) : Bool :=
  match attempt.second with
  | some again => again.answer.isOk
  | none => isFallback attempt.first.answer

/-- A request is repeated only if the first host was not reached, and at another one. -/
structure IsLawful (attempt : Attempt) (build : Endpoint → Except Failure Url) : Prop where
  first : build attempt.first.endpoint = .ok attempt.first.url
  second : ∀ again ∈ attempt.second, isUnreachable attempt.first.answer = true ∧
    again.endpoint.isSameHost attempt.first.endpoint = false ∧
    build again.endpoint = .ok again.url

end Attempt

/-- Whether the requests are those of some attempts, and neither the host of a key nor a newer
routing is asked for. -/
structure Event.Comprises (events : List (Event type)) (attempts : List Attempt) : Prop where
  requests : requests events = attempts.flatMap Attempt.requests
  lookups : lookups events = []
  refreshes : refreshes events = 0

theorem Event.Comprises.append {before after : List (Event type)} {earlier later : List Attempt}
    (first : Comprises before earlier) (second : Comprises after later) :
    Comprises (before ++ after) (earlier ++ later) where
  requests := by
    rw [requests_append, first.requests, second.requests, List.flatMap_append]
  lookups := by
    rw [lookups_append, first.lookups, second.lookups]
    rfl
  refreshes := by
    rw [refreshes_append, first.refreshes, second.refreshes]

/-! ### Hosts whose requests can be written -/

/-- Whether an address can stand in a URL. -/
def Endpoint.IsWellFormed (endpoint : Endpoint) : Prop :=
  ∃ base, endpoint.url "/" = .ok base

instance (endpoint : Endpoint) : Decidable endpoint.IsWellFormed :=
  match built : endpoint.url "/" with
  | .ok base => isTrue ⟨base, built⟩
  | .error _ => isFalse fun ⟨_, other⟩ => nomatch built.symm.trans other

namespace Endpoint.IsWellFormed

variable {endpoint : Endpoint}

theorem exists_urlOfSegments (wellFormed : endpoint.IsWellFormed) (segments : List String) :
    ∃ url, endpoint.urlOfSegments segments = .ok url := by
  obtain ⟨base, known⟩ := wellFormed
  exact ⟨_, Failure.bind_of_ok known _⟩

theorem exists_keyUrl (wellFormed : endpoint.IsWellFormed) (text : String) :
    ∃ url, endpoint.keyUrl text = .ok url :=
  wellFormed.exists_urlOfSegments _

theorem exists_keysUrl (wellFormed : endpoint.IsWellFormed) (texts : List String) :
    ∃ url, endpoint.keysUrl texts = .ok url := by
  obtain ⟨url, built⟩ := wellFormed.exists_urlOfSegments ["mirror", "keys"]
  exact ⟨_, Failure.bind_of_ok built _⟩

theorem exists_rangeUrl (wellFormed : endpoint.IsWellFormed) (text lower upper : String) :
    ∃ url, endpoint.rangeUrl text lower upper = .ok url := by
  obtain ⟨url, built⟩ := wellFormed.exists_urlOfSegments ["mirror", "range", text]
  exact ⟨_, Failure.bind_of_ok built _⟩

theorem exists_allUrl (wellFormed : endpoint.IsWellFormed) :
    ∃ url, endpoint.allUrl = .ok url := by
  obtain ⟨base, known⟩ := wellFormed
  unfold url at known
  split at known
  · next root written =>
    rw [String.toList_append] at written
    obtain ⟨url, read⟩ := Url.exists_ofRemainder written "mirror".toList
    refine ⟨url, ?_⟩
    rw [allUrl, Endpoint.url, String.toList_append, show "/mirror".toList = '/' :: "mirror".toList
      from rfl, read]
  · cases known

end Endpoint.IsWellFormed

/-! ### One request and its repetition -/

namespace Errand

open Event (requests lookups refreshes)

variable {events : List (Event type)} {fallback : Option Endpoint}
  {build : Endpoint → Except Failure Url} {endpoint : Endpoint}

theorem runs_alternative? {result : Except Failure (Option Endpoint)}
    (runs : (alternative? fallback endpoint).run.Runs events result) :
    Event.Comprises events [] ∧
      ∀ other, result = .ok (some other) → other.isSameHost endpoint = false := by
  unfold alternative? at runs
  split at runs
  · next given other kept =>
    obtain ⟨rfl, rfl⟩ := runs
    refine ⟨⟨rfl, rfl, rfl⟩, fun same equal => ?_⟩
    cases equal
    simpa using (Option.filter_eq_some_iff.1 kept).2
  · obtain ⟨failure, rfl, answer, rest, rfl, rfl, same⟩ |
      ⟨before, after, hosts, rfl, ⟨_, rest, rfl, rfl, rfl⟩, later⟩ := runs_bind runs
    · exact ⟨⟨rfl, rfl, rfl⟩, nofun⟩
    · obtain ⟨number, rest, rfl, rfl, rfl⟩ := later
      refine ⟨⟨rfl, rfl, rfl⟩, fun other same => ?_⟩
      simpa using (List.mem_filter.1 (List.mem_of_getElem? (Except.ok.inj same))).2

theorem runs_send {url : Url} {result : Except Failure Received}
    (runs : (send url : Errand type _).run.Runs events result) :
    events = [⟨.send url, result⟩] := by
  obtain ⟨answer, rest, rfl, rfl, rfl⟩ := runs
  rfl

/-- In place of a host at most one other host is asked, whose reply is not the expected one. -/
theorem runs_elsewhere {failure : Failure} {result : Except Failure Received}
    (runs : (elsewhere fallback build endpoint failure).run.Runs events result) :
    ∃ second : Option Contact, requests events = second.toList.map Contact.request ∧
      lookups events = [] ∧ refreshes events = 0 ∧
      (∀ again ∈ second, again.endpoint.isSameHost endpoint = false ∧
        build again.endpoint = .ok again.url) ∧
      isFallback result = second.any (·.answer.isOk) := by
  obtain ⟨reason, rfl, asked⟩ | ⟨before, after, alternative, rfl, asked, later⟩ := runs_bind runs
  · obtain ⟨quiet, -⟩ := runs_alternative? asked
    exact ⟨none, quiet.requests, quiet.lookups, quiet.refreshes, by simp, rfl⟩
  obtain ⟨quiet, apart⟩ := runs_alternative? asked
  have nobody : after = [] → isFallback result = false → ∃ second : Option Contact,
      requests (before ++ after) = second.toList.map Contact.request ∧
      lookups (before ++ after) = [] ∧ refreshes (before ++ after) = 0 ∧
      (∀ again ∈ second, again.endpoint.isSameHost endpoint = false ∧
        build again.endpoint = .ok again.url) ∧
      isFallback result = second.any (·.answer.isOk) := by
    rintro rfl primary
    rw [List.append_nil]
    exact ⟨none, quiet.requests, quiet.lookups, quiet.refreshes, by simp, primary⟩
  cases alternative with
  | none => exact nobody later.1 (later.2 ▸ rfl)
  | some other =>
    dsimp only at later
    cases built : build other with
    | error reason =>
      rw [built] at later
      exact nobody later.1 (later.2 ▸ rfl)
    | ok url =>
      rw [built, ok_bind] at later
      obtain ⟨answer, rest, rfl, later⟩ := later
      have ended : rest = [] ∧ result = answer.map Received.asFallback := by
        cases answer <;> exact later
      obtain ⟨rfl, rfl⟩ := ended
      refine ⟨some ⟨other, url, answer⟩, ?_, ?_, ?_, ?_, ?_⟩
      · rw [Event.requests_append, quiet.requests]
        rfl
      · rw [Event.lookups_append, quiet.lookups]
        rfl
      · rw [Event.refreshes_append, quiet.refreshes]
        rfl
      · rintro again ⟨⟩
        exact ⟨apart other rfl, built⟩
      · cases answer <;> rfl

/-- Where a request can be written, it is one lawful attempt, which tells whether the reply is
marked. -/
theorem exists_attempt {result : Except Failure Received} {url : Url}
    (runs : (request fallback build endpoint).run.Runs events result)
    (built : build endpoint = .ok url) :
    ∃ attempt : Attempt, attempt.IsLawful build ∧ attempt.first.endpoint = endpoint ∧
      Event.Comprises events [attempt] ∧ isFallback result = attempt.isMarked := by
  rw [request, built, ok_bind] at runs
  obtain ⟨answer, rest, rfl, later⟩ := runs
  have alone : rest = [] → result = answer → ∃ attempt : Attempt, attempt.IsLawful build ∧
      attempt.first.endpoint = endpoint ∧
      Event.Comprises (⟨.send url, answer⟩ :: rest) [attempt] ∧
      isFallback result = attempt.isMarked := by
    rintro rfl rfl
    exact ⟨⟨⟨endpoint, url, result⟩, none⟩, ⟨built, by simp⟩, rfl, ⟨rfl, rfl, rfl⟩, rfl⟩
  cases answer with
  | ok received => exact alone later.1 later.2
  | error failure =>
    replace later : (if failure.kind = .unreachable then
      elsewhere fallback build endpoint failure else throw failure).run.Runs rest result := later
    by_cases unreachable : failure.kind = .unreachable
    · rw [if_pos unreachable] at later
      obtain ⟨second, sent, asked, quiet, lawful, marked⟩ := runs_elsewhere later
      refine ⟨⟨⟨endpoint, url, .error failure⟩, second⟩, ⟨built, fun again repeated => ?_⟩, rfl,
        ⟨?_, asked, quiet⟩, ?_⟩
      · exact ⟨decide_eq_true unreachable, lawful again repeated⟩
      · rw [List.flatMap_singleton]
        exact congrArg (_ :: ·) sent
      · rw [marked]
        cases second <;> rfl
    · rw [if_neg unreachable] at later
      exact alone later.1 later.2

theorem runs_request_of_error {result : Except Failure Received} {failure : Failure}
    (runs : (request fallback build endpoint).run.Runs events result)
    (failed : build endpoint = .error failure) : events = [] ∧ result = .error failure := by
  rw [request, failed] at runs
  exact runs

theorem runs_heed {isOutdated : Bool} {result : Except Failure Unit}
    (runs : (heed isOutdated).run.Runs events result) :
    result = .ok () ∧ requests events = [] ∧ lookups events = [] ∧
      refreshes events = if isOutdated then 1 else 0 := by
  cases isOutdated with
  | false =>
    obtain ⟨rfl, rfl⟩ := runs
    exact ⟨rfl, rfl, rfl, rfl⟩
  | true =>
    obtain ⟨⟨⟩, rest, rfl, rfl, rfl⟩ := runs
    exact ⟨rfl, rfl, rfl, rfl⟩

/-- The last steps of all operations: a newer routing is asked for if need be, and the replies are
read. -/
theorem runs_settle {α : Type} {isOutdated : Bool} {read : Except Failure α}
    {result : Except Failure α}
    (runs : (do heed isOutdated; liftM read : Errand type α).run.Runs events result) :
    requests events = [] ∧ lookups events = [] ∧
      refreshes events = if isOutdated then 1 else 0 := by
  obtain ⟨failure, rfl, heeded⟩ | ⟨before, after, value, rfl, heeded, rfl, rfl⟩ := runs_bind runs
  · exact (runs_heed heeded).2
  · rw [List.append_nil]
    exact (runs_heed heeded).2

/-- One key is asked for in three parts: its host, one request, and a newer routing if need be. -/
theorem runs_one {α : Type} {key : type.Key} {read : Received → Except Failure α}
    {result : Except Failure α}
    (runs : (do
      let endpoint ← find key
      let received ← request fallback build endpoint
      heed received.isFallback
      liftM (read received) : Errand type α).run.Runs events result) :
    (∃ failure, events = [⟨.find key, .error failure⟩]) ∨
      ∃ endpoint asked rest outcome, events = [⟨.find key, .ok endpoint⟩] ++ (asked ++ rest) ∧
        (request fallback build endpoint).run.Runs asked outcome ∧
        requests rest = [] ∧ lookups rest = [] ∧
        refreshes rest = if isFallback outcome then 1 else 0 := by
  obtain ⟨failure, rfl, answer, rest, rfl, rfl, rfl⟩ |
    ⟨before, after, endpoint, rfl, ⟨_, rest, rfl, rfl, rfl⟩, later⟩ := runs_bind runs
  · exact .inl ⟨failure, rfl⟩
  clear runs
  obtain ⟨failure, rfl, asked⟩ | ⟨before, rest, received, rfl, asked, settled⟩ := runs_bind later
  · exact .inr ⟨endpoint, after, [], _, by rw [List.append_nil], asked, rfl, rfl, rfl⟩
  · exact .inr ⟨endpoint, before, rest, _, rfl, asked, runs_settle settled⟩

end Errand

end ShardedView
