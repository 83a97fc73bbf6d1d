import ShardedView.Proofs.Http.Path
import ShardedView.Proofs.Query.Route

/-!
The paths for requests between replicas. Whatever a host is written like and whatever the
text of a key is, the URL that a replica builds from them names nothing but what replicas
ask each other for.
-/

namespace ShardedView

open Http (Url)

namespace Route

def isInternal : Route → Bool
  | internalPoint _ | internalRange _ => true
  | _ => false

/-- What else than a request between replicas a path may name: one or two segments of which
the first is not `internal`, or a range. -/
theorem ofSegments?_cases {segments : List Bytes} {route : Route}
    (named : ofSegments? segments = some route) :
    route.isInternal = true ∨ (segments.length ≤ 2 ∧ segments.head? ≠ some internal) ∨
      ∃ third, segments = [view, span, third] := by
  have foreign : view ≠ internal ∧ Utf8.encode "streams" ≠ internal := by decide
  unfold ofSegments? at named
  split at named
  · split at named
    · next first same => exact .inr (.inl ⟨Nat.le_succ 1, by simp [same, foreign.1]⟩)
    · contradiction
  · split at named
    · next first second same => exact .inr (.inl ⟨Nat.le_refl 2, by simp [same, foreign.1]⟩)
    · split at named
      · next first second other both =>
        exact .inr (.inl ⟨Nat.le_refl 2, by simp [both.1, foreign.2]⟩)
      · contradiction
  · split at named
    · contradiction
    · split at named
      · next first second third present both => exact .inr (.inr ⟨third, by rw [both.1, both.2]⟩)
      · split at named
        · exact .inl (Option.some.inj named ▸ rfl)
        · contradiction
  · split at named
    · exact .inl (Option.some.inj named ▸ rfl)
    · contradiction
  · contradiction

/-- Wherever `internal` stands in a path with something behind it, nothing else is named
than what replicas ask each other for. -/
theorem isInternal_of_ofSegments? {before rest : List Bytes} {next : Bytes} {route : Route}
    (named : ofSegments? (before ++ internal :: next :: rest) = some route) :
    route.isInternal = true := by
  rcases ofSegments?_cases named with own | ⟨short, other⟩ | ⟨third, range⟩
  · exact own
  · rw [List.length_append, List.length_cons, List.length_cons] at short
    obtain rfl : before = [] := List.length_eq_zero_iff.1 (by omega)
    exact absurd rfl other
  · have foreign : internal ≠ view ∧ internal ≠ span := by decide
    match before with
    | [] => exact absurd (List.cons.inj range).1 foreign.1
    | [first] => exact absurd (List.cons.inj (List.cons.inj range).2).1 foreign.2
    | first :: second :: before =>
      have length := congrArg List.length range
      simp only [List.cons_append, List.length_cons, List.length_append, List.length_nil] at length
      omega

end Route

namespace Endpoint

/-- The first segment of the paths for requests between replicas. -/
def internalSegment : List Char :=
  Url.encodeSegment "internal"

/-- A request between replicas to a host: it goes to the server of that host, and its path
is one for such requests. The address of a member has no path before it. -/
structure Internal (host : String) (url : Url) : Prop where
  server : ∃ base, (direct host).url "/" = .ok base ∧ url.server = base.server
  path : ∃ before next rest, url.segments = before ++ internalSegment :: next :: rest
  rooted : ∀ member : Member, member.host = host → ['/'] ++ internalSegment ++ ['/'] <+: url.path
  whole : ∀ segment ∈ url.segments, Url.IsWhole segment
  query : ∀ query ∈ url.query, '#' ∉ query

variable {host : String} {base url : Url}

theorem Internal.addQuery (internal : Internal host url) (pairs : List (String × String)) :
    Internal host (url.addQuery pairs) := by
  refine ⟨internal.server, internal.path, internal.rooted, internal.whole, ?_⟩
  have added := Form.not_mem_encodePairs '#' rfl (by decide) (by decide) pairs
  intro query known
  obtain rfl := Option.some.inj known
  split
  · exact added
  · next before found =>
    split
    · exact added
    · intro member
      rcases List.mem_append.1 member with earlier | member
      · exact internal.query _ found earlier
      · rcases List.mem_cons.1 member with sign | later
        · exact absurd sign (by decide)
        · exact added later

theorem exists_addSegment_behind (url : Url) {before rest : List (List Char)}
    {first second : List Char} (segments : url.segments = before ++ first :: second :: rest)
    (whole : ∀ segment ∈ url.segments, Url.IsWhole segment) (text : String) :
    ∃ next later, url.addSegment text = { url with segments := before ++ first :: next :: later } ∧
      ∀ segment ∈ before ++ first :: next :: later, Url.IsWhole segment := by
  have path : url.segments ≠ [[]] := by
    intro same
    have length := congrArg List.length (segments.symm.trans same)
    simp only [List.length_append, List.length_cons, List.length_nil] at length
    omega
  have ends : ∀ {kept : List (List Char)} {last : List Char}, Url.IsWhole last →
      (∀ segment ∈ kept, segment ∈ url.segments) →
        ∀ segment ∈ kept ++ [last], Url.IsWhole segment := by
    intro kept last own within segment member
    rcases List.mem_append.1 member with earlier | member
    · exact whole segment (within segment earlier)
    · exact List.mem_singleton.1 member ▸ own
  rcases Url.addSegment_cases url text path with same | ⟨last, own, added | replaced⟩
  · exact ⟨second, rest, by rw [same, ← segments], segments ▸ whole⟩
  · have equal : url.segments ++ [last] = before ++ first :: second :: (rest ++ [last]) := by
      rw [segments, List.append_assoc, List.cons_append, List.cons_append]
    exact ⟨second, rest ++ [last], by rw [added, equal], equal ▸ ends own fun _ member => member⟩
  · obtain ⟨next, later, found⟩ :
        ∃ next later, (second :: rest).dropLast ++ [last] = next :: later :=
      List.exists_cons_of_ne_nil (by simp)
    have equal : url.segments.dropLast ++ [last] = before ++ first :: next :: later := by
      rw [segments, List.dropLast_append_of_ne_nil (List.cons_ne_nil _ _), List.append_assoc,
        List.dropLast_cons_of_ne_nil (List.cons_ne_nil _ _), List.cons_append, found]
    exact ⟨next, later, by rw [replaced, equal],
      equal ▸ ends own (List.dropLast_sublist url.segments).subset⟩

theorem isWhole_of_url {path : String} (known : (direct host).url path = .ok base) :
    (∀ segment ∈ base.segments, Url.IsWhole segment) ∧ ∀ query ∈ base.query, '#' ∉ query := by
  rw [Endpoint.url] at known
  split at known
  · next done => exact Except.ok.inj known ▸ Url.isWhole_of_ofRemainder done
  · contradiction

/-- Whatever the text of a key is, the segments before it make the path one for requests
between replicas. -/
theorem internal_addSegments (names : List String) (known : (direct host).url "/" = .ok base)
    {name : String} (addressable : ∀ part ∈ name :: names, Url.IsAddressable part)
    (text : String) :
    Internal host (base.addSegments ("internal" :: name :: names ++ [text])) := by
  obtain ⟨whole, query⟩ := isWhole_of_url known
  generalize cut : (if base.segments.getLast? = some [] then base.segments.dropLast
    else base.segments) = path
  have within : ∀ segment ∈ path, segment ∈ base.segments := by
    intro segment member
    rw [← cut] at member
    split at member
    · exact (List.dropLast_sublist _).subset member
    · exact member
  obtain ⟨before, places, started⟩ :=
    Url.exists_addSegment_eq { base with segments := path }
      (show Url.IsAddressable "internal" by decide)
  have longer : before ++ [internalSegment] ≠ [[]] := by
    intro same
    rw [← List.nil_append [[]]] at same
    exact Url.encodeSegment_ne_nil (by decide) (List.cons.inj (List.append_inj' same rfl).2).1
  have named := @Url.foldl_addSegment { base with segments := before ++ [internalSegment] } _
    addressable longer
  have behind : before ++ [internalSegment] ++ (name :: names).map Url.encodeSegment =
      before ++ internalSegment :: Url.encodeSegment name :: names.map Url.encodeSegment := by
    rw [List.append_assoc]
    rfl
  have parts : ∀ segment ∈ before ++ ("internal" :: name :: names).map Url.encodeSegment,
      Url.IsWhole segment := by
    intro segment member
    rcases List.mem_append.1 member with earlier | member
    · rcases places with rfl | rfl
      · contradiction
      · exact whole segment (within segment earlier)
    · obtain ⟨part, -, rfl⟩ := List.mem_map.1 member
      exact Url.isWhole_encodeSegment part
  obtain ⟨next, later, ended, parts⟩ := exists_addSegment_behind
    { base with segments :=
      before ++ internalSegment :: Url.encodeSegment name :: names.map Url.encodeSegment }
    rfl parts text
  have built : base.addSegments ("internal" :: name :: names ++ [text]) =
      { base with segments := before ++ internalSegment :: next :: later } := by
    rw [Url.addSegments, cut, List.foldl_append]
    show ((name :: names).foldl Url.addSegment (Url.addSegment _ "internal")).addSegment text = _
    rw [started]
    exact (congrArg (Url.addSegment · text) (named.trans (by rw [behind]))).trans ended
  rw [built]
  refine ⟨⟨base, known, rfl⟩, ⟨before, next, later, rfl⟩, ?_, parts, query⟩
  rintro member rfl
  have bare : before = [] := by
    rcases places with rfl | rfl
    · rfl
    · rw [← cut, (segments_of_url known).1]
      rfl
  rw [bare]
  exact ⟨_, rfl⟩

theorem internal_of_internalKeyUrl {text : String}
    (built : (direct host).internalKeyUrl text = .ok url) : Internal host url := by
  rw [internalKeyUrl, urlOfSegments] at built
  cases known : (direct host).url "/" with
  | error failure =>
    rw [known] at built
    contradiction
  | ok base =>
    rw [known] at built
    obtain rfl := Except.ok.inj built
    refine internal_addSegments [] known (fun part member => ?_) text
    rw [List.mem_singleton.1 member]
    exact isAddressable_name (by decide)

theorem internal_of_internalRangeUrl {text lower upper : String}
    (built : (direct host).internalRangeUrl text lower upper = .ok url) : Internal host url := by
  rw [internalRangeUrl, urlOfSegments] at built
  cases known : (direct host).url "/" with
  | error failure =>
    rw [known] at built
    contradiction
  | ok base =>
    rw [known] at built
    obtain rfl := Except.ok.inj built
    refine (internal_addSegments ["range"] known (fun part member => ?_) text).addQuery _
    exact isAddressable_name (List.mem_of_mem_tail member)

end Endpoint

/-- A request between replicas names nothing but what they ask each other for. -/
theorem Endpoint.Internal.isInternal_route {host : String} {url : Url}
    (internal : Endpoint.Internal host url) {route : Route}
    (named : Route.ofPath? (Request.ofTarget "GET" url.target).path = some route) :
    route.isInternal = true := by
  obtain ⟨before, next, rest, segments⟩ := internal.path
  have absent : ∀ symbol : Char, symbol ≠ '/' → (∀ segment ∈ url.segments, symbol ∉ segment) →
      symbol ∉ url.path := by
    intro symbol other within member
    rcases List.mem_cons.1 member with slash | member
    · exact other slash
    · rcases Net.mem_intercalate member with slash | ⟨part, among, inside⟩
      · exact other slash
      · exact within part among inside
  have free : '#' ∉ url.path ∧ '?' ∉ url.path :=
    ⟨absent '#' (by decide) fun segment member => (internal.whole segment member).noNumber,
      absent '?' (by decide) fun segment member => (internal.whole segment member).noQuestion⟩
  rw [Request.ofTarget_target "GET" free internal.query] at named
  have nonempty : url.segments ≠ [] := by
    rw [segments]
    simp
  replace named : Route.ofSegments? (Route.segments
      ((['/'].intercalate url.segments).flatMap Utf8.encodeChar)) = some route := named
  rw [Route.segments_intercalate nonempty fun part member => (internal.whole part member).noSlash,
    segments, List.map_append, List.map_cons, List.map_cons] at named
  exact Route.isInternal_of_ofSegments? named

end ShardedView
