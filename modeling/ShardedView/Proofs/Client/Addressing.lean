import ShardedView.Proofs.Query.Reply
import ShardedView.Proofs.Query.Route
import ShardedView.Proofs.Topic.Key

/-!
The URLs that clients and replicas build from the text of a key and from bounds: what a
server makes of their paths and queries.

A text is read back from its own segment of the path. Texts that are no segment of their
own are the ones that the path drops or resolves, and one text is a segment that names
something else.
-/

namespace ShardedView

open Http (Url)

namespace Request

def ofUrl (url : Url) : Request :=
  .ofTarget "GET" url.target

/-- Whether a request is for the key of a text, by a kind of route. -/
def Names (request : Request) (route : Bytes → Route) (text : String) : Prop :=
  ∃ segment, Route.ofPath? request.path = some (route segment) ∧ keyText segment = .ok text

/-- Whether a request is for a range of the key of a text, by a kind of route. -/
def NamesRange (request : Request) (route : Bytes → Route) (text lower upper : String) : Prop :=
  ∃ segment, Route.ofPath? request.path = some (route segment) ∧
    Replica.rangeArguments segment request.query = .ok (text, lower, upper)

/-- What stands in the segments and the query of a URL is what its request is for. -/
theorem ofUrl_of_segments {url : Url} {texts : List String} (nonempty : texts ≠ [])
    (segments : url.segments = texts.map Url.encodeSegment)
    (query : ∀ query ∈ url.query, '#' ∉ query) :
    Route.ofPath? (ofUrl url).path = Route.ofSegments?
        (texts.map fun text => (Url.encodeSegment text).flatMap Utf8.encodeChar) ∧
      (ofUrl url).query = (url.query.getD []).flatMap Utf8.encodeChar := by
  rw [ofUrl, ofTarget_target "GET" (Url.path_free segments) query]
  exact ⟨Route.ofPath?_path nonempty segments, rfl⟩

end Request

namespace Route

theorem ofSegments?_point {key : Bytes} (nonempty : key ≠ []) (other : key ≠ keys) :
    ofSegments? [view, key] = some (point key) := by
  simp [ofSegments?, other, nonempty]

theorem ofSegments?_range {key : Bytes} (nonempty : key ≠ []) :
    ofSegments? [view, span, key] = some (range key) := by
  simp [ofSegments?, nonempty]

end Route

theorem KeyType.isAddressable_toText {type : KeyType} (number : type ≠ .string)
    (key : type.Key) : Url.IsAddressable (type.toText key) ∧ type.toText key ≠ "keys" := by
  obtain ⟨value, written⟩ : ∃ value, (type.toText key).toList = Digits.ofInt value := by
    cases type with
    | string => contradiction
    | integer => exact ⟨_, String.toList_ofList⟩
    | long => exact ⟨_, String.toList_ofList⟩
  have chars : ∀ char ∈ (type.toText key).toList, char = '-' ∨ Digits.isDigit char = true := by
    intro char member
    exact Digits.mem_ofInt (written ▸ member)
  have other : ∀ {text : String} (char : Char), char ∈ text.toList → char ≠ '-' →
      Digits.isDigit char = false → type.toText key ≠ text := by
    rintro _ char member noSign noDigit rfl
    rcases chars char member with sign | digit
    · exact noSign sign
    · simp [noDigit] at digit
  refine ⟨⟨?_, ?_, ?_, fun char member => ?_⟩, ?_⟩
  · intro nothing
    have empty : Digits.ofInt value = [] := by rw [← written, nothing]; rfl
    cases value with
    | ofNat number =>
      obtain ⟨digit, rest, first, -⟩ := Digits.exists_cons number
      rw [Digits.ofInt, first] at empty
      contradiction
    | negSucc number => contradiction
  · exact other '.' (by decide) (by decide) rfl
  · exact other '.' (by decide) (by decide) rfl
  · cases dropped : Url.isDropped char with
    | false => rfl
    | true =>
      simp only [Url.isDropped, Bool.or_eq_true, decide_eq_true_eq] at dropped
      rcases chars char member with rfl | digit
      · simp at dropped
      · rcases dropped with (rfl | rfl) | rfl <;> contradiction
  · exact other 'k' (by decide) (by decide) rfl

namespace Endpoint

/-- A host whose URL leads to a server, without a path or a query. -/
structure LeadsTo (endpoint : Endpoint) (base : Url) : Prop where
  known : endpoint.url "/" = .ok base
  root : base.segments = [[]]
  noQuery : base.query = none

theorem leadsTo_of_known {member : Member} {base : Url}
    (known : (direct member.host).url "/" = .ok base) : (direct member.host).LeadsTo base :=
  ⟨known, (segments_of_url known).1, (segments_of_url known).2⟩

variable {endpoint : Endpoint} {base : Url}

theorem LeadsTo.exists_urlOfSegments (leads : endpoint.LeadsTo base) {texts : List String}
    (nonempty : texts ≠ [])
    (built : base.addSegments texts = { base with segments := texts.map Url.encodeSegment }) :
    ∃ url, endpoint.urlOfSegments texts = .ok url ∧ url.server = base.server ∧
      url.segments = texts.map Url.encodeSegment ∧ url.query = none ∧
      Route.ofPath? (Request.ofUrl url).path = Route.ofSegments?
        (texts.map fun text => (Url.encodeSegment text).flatMap Utf8.encodeChar) := by
  have noQuery : (base.addSegments texts).query = none := by rw [built, leads.noQuery]
  have segments : (base.addSegments texts).segments = texts.map Url.encodeSegment := by rw [built]
  refine ⟨base.addSegments texts, by rw [urlOfSegments, leads.known]; rfl, by rw [built]; rfl,
    segments, noQuery, ?_⟩
  exact (Request.ofUrl_of_segments nonempty segments (by simp [noQuery])).1

/-- With pairs added, such a URL is for the same, and the pairs are its query. -/
theorem request_addQuery {url : Url} {texts : List String} (nonempty : texts ≠ [])
    (segments : url.segments = texts.map Url.encodeSegment) (noQuery : url.query = none)
    (pairs : List (String × String)) :
    Route.ofPath? (Request.ofUrl (url.addQuery pairs)).path =
        Route.ofPath? (Request.ofUrl url).path ∧
      (Request.ofUrl (url.addQuery pairs)).query =
        (Form.encodePairs pairs).flatMap Utf8.encodeChar := by
  have added : (url.addQuery pairs).query = some (Form.encodePairs pairs) := by
    rw [Url.addQuery, noQuery]
  have free := Form.not_mem_encodePairs '#' rfl (by decide) (by decide) pairs
  obtain ⟨path, query⟩ := @Request.ofUrl_of_segments (url.addQuery pairs) texts nonempty segments
    (by rw [added]; rintro _ ⟨⟩; exact free)
  refine ⟨?_, by rw [query, added]; rfl⟩
  rw [path, (Request.ofUrl_of_segments nonempty segments (by simp [noQuery])).1]

theorem LeadsTo.exists_names (leads : endpoint.LeadsTo base) {names : List String}
    {route : Bytes → Route} {text : String}
    (addressable : ∀ part ∈ names ++ [text], Url.IsAddressable part)
    (named : Route.ofSegments? ((names ++ [text]).map fun part =>
      (Url.encodeSegment part).flatMap Utf8.encodeChar) =
        some (route ((Url.encodeSegment text).flatMap Utf8.encodeChar))) :
    ∃ url, endpoint.urlOfSegments (names ++ [text]) = .ok url ∧ url.server = base.server ∧
      (Request.ofUrl url).Names route text := by
  obtain ⟨url, built, server, -, -, path⟩ :=
    leads.exists_urlOfSegments (by simp) (Url.addSegments_eq leads.root addressable)
  exact ⟨url, built, server, _, path.trans named, Request.keyText_encodeSegment text⟩

/-- With bounds behind it, it is for the range of the key between the bounds. -/
theorem LeadsTo.exists_namesRange (leads : endpoint.LeadsTo base) {names : List String}
    {route : Bytes → Route} {text : String} (lower upper : String)
    (addressable : ∀ part ∈ names ++ [text], Url.IsAddressable part)
    (named : Route.ofSegments? ((names ++ [text]).map fun part =>
      (Url.encodeSegment part).flatMap Utf8.encodeChar) =
        some (route ((Url.encodeSegment text).flatMap Utf8.encodeChar))) :
    ∃ url, endpoint.urlOfSegments (names ++ [text]) = .ok url ∧ url.server = base.server ∧
      (Request.ofUrl (url.addQuery [("from", lower), ("to", upper)])).NamesRange route
        text lower upper := by
  obtain ⟨url, built, server, segments, noQuery, path⟩ :=
    leads.exists_urlOfSegments (by simp) (Url.addSegments_eq leads.root addressable)
  obtain ⟨same, query⟩ :=
    request_addQuery (by simp) segments noQuery [("from", lower), ("to", upper)]
  refine ⟨url, built, server, _, same.trans (path.trans named), ?_⟩
  rw [Replica.rangeArguments, query, Request.keyText_encodeSegment, Request.bounds_encodePairs]
  rfl

/-- The segment of a text is the name of the batch of keys only if the text is. -/
theorem segmentBytes_ne_keys {text : String} (other : text ≠ "keys") :
    (Url.encodeSegment text).flatMap Utf8.encodeChar ≠ Route.keys := by
  intro same
  refine other (Url.eq_of_decode ?_)
  rw [same]
  rfl

/-- Whatever key a client or a replica asks for, the URL is for this key and these bounds: by
the routes for clients and by those for replicas. Only the text `keys` as a segment of its own
names the batch of keys instead. -/
theorem urls_name_key (leads : endpoint.LeadsTo base) (type : KeyType) (key : type.Key)
    (lower upper : String)
    (addressable : type = .string → Url.IsAddressable (type.toText key)) :
    let text := type.toText key
    (∃ url, endpoint.keyUrl text = .ok url ∧ url.server = base.server ∧
        if type = .string ∧ text = "keys" then
          Route.ofPath? (Request.ofUrl url).path = some .many
        else (Request.ofUrl url).Names .point text) ∧
      (∃ url, endpoint.rangeUrl text lower upper = .ok url ∧ url.server = base.server ∧
        (Request.ofUrl url).NamesRange .range text lower upper) ∧
      (∃ url, endpoint.internalKeyUrl text = .ok url ∧ url.server = base.server ∧
        (Request.ofUrl url).Names .internalPoint text) ∧
      ∃ url, endpoint.internalRangeUrl text lower upper = .ok url ∧ url.server = base.server ∧
        (Request.ofUrl url).NamesRange .internalRange text lower upper := by
  intro text
  have own : Url.IsAddressable text := by
    by_cases string : type = .string
    · exact addressable string
    · exact (KeyType.isAddressable_toText string key).1
  have present := segmentBytes_ne_nil own.nonempty
  have behind : ∀ {names : List String}, (∀ name ∈ names, name ∈ ["internal", "mirror", "range"]) →
      ∀ part ∈ names ++ [text], Url.IsAddressable part := by
    intro names known part member
    rcases List.mem_append.1 member with name | last
    · exact isAddressable_name (known part name)
    · exact List.mem_singleton.1 last ▸ own
  refine ⟨?_, ?_, ?_, ?_⟩
  · by_cases reserved : type = .string ∧ text = "keys"
    · obtain ⟨url, built, server, -, -, path⟩ :=
        leads.exists_urlOfSegments (by simp)
          (Url.addSegments_eq leads.root (@behind ["mirror"] (by simp)))
      refine ⟨url, built, server, ?_⟩
      rw [if_pos reserved, path, reserved.2]
      rfl
    · have other : text ≠ "keys" := by
        by_cases string : type = .string
        · exact fun same => reserved ⟨string, same⟩
        · exact (KeyType.isAddressable_toText string key).2
      simp only [if_neg reserved]
      exact leads.exists_names (@behind ["mirror"] (by simp))
        (Route.ofSegments?_point present (segmentBytes_ne_keys other))
  · obtain ⟨url, built, server, names⟩ :=
      leads.exists_namesRange lower upper (@behind ["mirror", "range"] (by simp))
        (Route.ofSegments?_range present)
    exact ⟨_, Failure.bind_of_ok built _, server, names⟩
  · exact leads.exists_names (@behind ["internal", "mirror"] (by simp))
      (Route.ofSegments?_internalPoint present)
  · obtain ⟨url, built, server, names⟩ :=
      leads.exists_namesRange lower upper (@behind ["internal", "mirror", "range"] (by simp))
        (Route.ofSegments?_internalRange present)
    exact ⟨_, Failure.bind_of_ok built _, server, names⟩

theorem leadsTo_of_toOption (known : (endpoint.url "/").toOption = some base)
    (root : base.segments = [[]]) (noQuery : base.query = none) : endpoint.LeadsTo base := by
  refine ⟨?_, root, noQuery⟩
  cases built : endpoint.url "/" with
  | error failure => simp [built, Except.toOption] at known
  | ok url => simpa [built, Except.toOption] using known

/-- A service with a lead before its name, and a key with a slash, a percent sign, a question
mark, a blank and a letter beyond ASCII. -/
theorem urls_name_key_prefixed :
    let endpoint : Endpoint := ⟨"purchases", some defaultLead⟩
    let text := "50%/é ?.."
    (∃ url, endpoint.keyUrl text = .ok url ∧
        url.text = "http://quick-mirror-purchases/mirror/50%25%2F%C3%A9%20%3F.." ∧
        (Request.ofUrl url).Names .point text) ∧
      ∃ url, endpoint.rangeUrl text "-1" "a&b" = .ok url ∧
        (Request.ofUrl url).NamesRange .range text "-1" "a&b" := by
  intro endpoint text
  let base : Url := ⟨[], "quick-mirror-purchases".toList, none, [[]], none, none⟩
  have leads : endpoint.LeadsTo base := leadsTo_of_toOption (by decide +kernel) rfl rfl
  obtain ⟨⟨url, built, -, names⟩, ⟨rangeUrl, rangeBuilt, -, namesRange⟩, -⟩ :=
    urls_name_key leads .string text "-1" "a&b" fun _ => by decide
  refine ⟨⟨url, built, ?_, names⟩, rangeUrl, rangeBuilt, namesRange⟩
  have written : (endpoint.keyUrl text).toOption.map Url.text =
      some "http://quick-mirror-purchases/mirror/50%25%2F%C3%A9%20%3F.." := by decide +kernel
  rw [show endpoint.keyUrl text = .ok url from built] at written
  exact Option.some.inj written

/-- The name of the batch of keys, and texts that are no segment of their own: a request for
one of them is for all keys, for several, for another key or for nothing. -/
theorem urls_name_other :
    let route := fun url => Route.ofPath? (Request.ofUrl url).path
    let endpoint := direct "127.0.0.1:8001"
    ((endpoint.keyUrl "keys").toOption.map route = some (some .many) ∧
        (endpoint.keyUrl ".").toOption.map route = some (some .all) ∧
        (endpoint.keyUrl "").toOption.map route = some none ∧
        (endpoint.keyUrl "a\tb").toOption.map route = some (some (.point (Utf8.encode "ab"))) ∧
        (endpoint.rangeUrl ".." "1" "2").toOption.map route =
          some (some (.point (Utf8.encode "range"))) ∧
        (endpoint.internalKeyUrl ".").toOption.map route = some none ∧
        (endpoint.internalRangeUrl "." "1" "2").toOption.map route =
          some (some (.internalPoint (Utf8.encode "range")))) ∧
      ∀ text ∈ ["keys", ".", "", "a\tb"], ∀ url, endpoint.keyUrl text = .ok url →
        ¬ (Request.ofUrl url).Names .point text := by
  intro route endpoint
  have routes : (endpoint.keyUrl "keys").toOption.map route = some (some .many) ∧
      (endpoint.keyUrl ".").toOption.map route = some (some .all) ∧
      (endpoint.keyUrl "").toOption.map route = some none ∧
      (endpoint.keyUrl "a\tb").toOption.map route = some (some (.point (Utf8.encode "ab"))) := by
    decide +kernel
  have other : ∀ {text : String} {named : Option Route},
      (endpoint.keyUrl text).toOption.map route = some named →
        (∀ segment, named = some (.point segment) → Request.keyText segment ≠ .ok text) →
          ∀ url, endpoint.keyUrl text = .ok url → ¬ (Request.ofUrl url).Names .point text := by
    rintro text named known apart url built ⟨segment, names, read⟩
    rw [built] at known
    exact apart segment ((Option.some.inj known).symm.trans names) read
  obtain ⟨many, all, nothing, shorter⟩ := routes
  refine ⟨⟨many, all, nothing, shorter, by decide +kernel⟩, fun text member => ?_⟩
  simp only [List.mem_cons, List.not_mem_nil, or_false] at member
  rcases member with rfl | rfl | rfl | rfl
  · exact other many nofun
  · exact other all nofun
  · exact other nothing nofun
  · refine other shorter ?_
    rintro _ ⟨⟩ same
    have read : Request.keyText (Utf8.encode "ab") = .ok "ab" := by rfl
    exact absurd (Except.ok.inj (read.symm.trans same)) (by decide)

end Endpoint

end ShardedView
