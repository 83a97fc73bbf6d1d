import ShardedView.Proofs.Http.Url
import ShardedView.Query.Handler

/-!
The request that a URL stands for, and the key and the bounds that are read back
from it.
-/

namespace ShardedView

namespace Request

open Http (Url)

theorem ofTarget_target (method : String) {url : Url}
    (path : '#' ∉ url.path ∧ '?' ∉ url.path) (query : ∀ query ∈ url.query, '#' ∉ query) :
    ofTarget method url.target =
      ⟨method, url.path.flatMap Utf8.encodeChar, (url.query.getD []).flatMap Utf8.encodeChar⟩ := by
  have differs : ∀ {symbol : Char} {chars : List Char}, symbol ∉ chars →
      ∀ char ∈ chars, decide (char ≠ symbol) = true := by
    intro symbol chars absent char member
    refine decide_eq_true ?_
    rintro rfl
    exact absent member
  have whole : '#' ∉ url.target := by
    intro member
    rcases List.mem_append.1 member with inside | inside
    · exact path.1 inside
    · split at inside
      · contradiction
      · next known =>
        rcases List.mem_cons.1 inside with sign | inside
        · contradiction
        · exact query _ known inside
  have kept := (Url.takeWhile_eq_self (fun char => decide (char ≠ '#')) (differs whole) [] nofun).1
  rw [List.append_nil] at kept
  have rooted : behindServer url.target = url.target := rfl
  obtain ⟨tail, parts, opened⟩ : ∃ tail, url.target = url.path ++ tail ∧
      (tail = [] ∧ url.query = none ∨ ∃ query, tail = '?' :: query ∧ url.query = some query) := by
    rw [Url.target]
    cases url.query with
    | none => exact ⟨[], rfl, .inl ⟨rfl, rfl⟩⟩
    | some query => exact ⟨_, rfl, .inr ⟨query, rfl, rfl⟩⟩
  have ends : ∀ char ∈ tail.head?, decide (char ≠ '?') = false := by
    rcases opened with ⟨rfl, -⟩ | ⟨query, rfl, -⟩
    · nofun
    · rintro _ ⟨⟩
      rfl
  obtain ⟨before, behind⟩ :=
    Url.takeWhile_eq_self (fun char => decide (char ≠ '?')) (differs path.2) tail ends
  rw [ofTarget, kept, rooted, parts, before, behind]
  rcases opened with ⟨rfl, none⟩ | ⟨query, rfl, some⟩
  · rw [none]
    rfl
  · rw [some]
    rfl

end Request

namespace Route

theorem segments_ne_nil (bytes : Bytes) : segments bytes ≠ [] := by
  cases bytes with
  | nil => nofun
  | cons byte rest =>
    rw [segments]
    split
    · nofun
    · split <;> nofun

theorem segments_of_not_mem {segment : Bytes} (whole : 0x2F ∉ segment) :
    segments segment = [segment] := by
  induction segment with
  | nil => rfl
  | cons byte segment ih =>
    rw [segments, ih fun member => whole (.tail _ member)]
    have plain : byte ≠ 0x2F := fun same => whole (same ▸ .head _)
    simp only [plain, if_false]

theorem segments_append {segment : Bytes} (whole : 0x2F ∉ segment) (rest : Bytes) :
    segments (segment ++ 0x2F :: rest) = segment :: segments rest := by
  induction segment with
  | nil =>
    rw [List.nil_append, segments]
    cases others : segments rest with
    | nil => exact absurd others (segments_ne_nil rest)
    | cons first later => rfl
  | cons byte segment ih =>
    rw [List.cons_append, segments, ih fun member => whole (.tail _ member)]
    have plain : byte ≠ 0x2F := fun same => whole (same ▸ .head _)
    simp only [plain, if_false]

theorem segments_intercalate {parts : List (List Char)} (nonempty : parts ≠ [])
    (whole : ∀ part ∈ parts, '/' ∉ part) :
    segments ((['/'].intercalate parts).flatMap Utf8.encodeChar) =
      parts.map (·.flatMap Utf8.encodeChar) := by
  have slashless : ∀ part ∈ parts, 0x2F ∉ part.flatMap Utf8.encodeChar := fun part member =>
    Utf8.not_mem_flatMap_encodeChar (whole part member) (by decide) rfl
  induction parts with
  | nil => exact absurd rfl nonempty
  | cons part rest ih =>
    cases rest with
    | nil =>
      rw [List.intercalate_singleton, segments_of_not_mem (slashless part (.head _))]
      rfl
    | cons next rest =>
      have later := ih nofun (fun part member => whole part (.tail _ member))
        fun part member => slashless part (.tail _ member)
      have slash : ['/'].flatMap Utf8.encodeChar = [0x2F] := rfl
      rw [List.intercalate_cons_cons, List.flatMap_append, List.flatMap_append, slash,
        List.append_assoc, List.singleton_append, segments_append (slashless part (.head _)), later]
      rfl

theorem ofSegments?_internalPoint {key : Bytes} (nonempty : key ≠ []) :
    ofSegments? [internal, view, key] = some (internalPoint key) := by
  have present : key.isEmpty = false := List.isEmpty_eq_false_iff.2 nonempty
  have foreign : ¬ (internal = view ∧ view = span) := by decide
  rw [ofSegments?, present, if_neg Bool.false_ne_true, if_neg foreign, if_pos ⟨rfl, rfl⟩]

theorem ofSegments?_internalRange {key : Bytes} (nonempty : key ≠ []) :
    ofSegments? [internal, view, span, key] = some (internalRange key) := by
  have present : key.isEmpty = false := List.isEmpty_eq_false_iff.2 nonempty
  rw [ofSegments?, present, if_pos ⟨rfl, rfl, rfl, rfl⟩]

end Route

open Http (Url)

theorem Route.ofPath?_path {url : Url} {texts : List String} (nonempty : texts ≠ [])
    (segments : url.segments = texts.map Url.encodeSegment) :
    Route.ofPath? (url.path.flatMap Utf8.encodeChar) =
      Route.ofSegments?
        (texts.map fun text => (Url.encodeSegment text).flatMap Utf8.encodeChar) := by
  have slash : ∀ rest : List Char, ('/' :: rest).flatMap Utf8.encodeChar =
      0x2F :: rest.flatMap Utf8.encodeChar := fun rest => rfl
  have parts : texts.map Url.encodeSegment ≠ [] := by
    intro nothing
    exact nonempty (List.map_eq_nil_iff.1 nothing)
  rw [Url.path, segments, slash]
  show Route.ofSegments? (Route.segments _) = _
  rw [Route.segments_intercalate parts, List.map_map]
  · rfl
  · intro part member
    obtain ⟨text, -, rfl⟩ := List.mem_map.1 member
    exact Url.not_mem_encodeSegment '/' rfl (by decide) rfl text

theorem Url.path_free {url : Url} {texts : List String}
    (segments : url.segments = texts.map Url.encodeSegment) :
    '#' ∉ url.path ∧ '?' ∉ url.path := by
  have free : ∀ symbol : Char, symbol ≠ '/' → Percent.isReservedInSegment symbol = true →
      symbol ≠ '%' → symbol.isAlphanum = false → symbol ∉ url.path := by
    intro symbol noSlash reserved noPercent symbolic member
    rw [Url.path, segments] at member
    rcases List.mem_cons.1 member with slash | member
    · exact noSlash slash
    · rcases Net.mem_intercalate member with slash | ⟨part, found, inside⟩
      · exact noSlash slash
      · obtain ⟨text, -, rfl⟩ := List.mem_map.1 found
        exact Url.not_mem_encodeSegment symbol reserved noPercent symbolic text inside
  exact ⟨free '#' (by decide) rfl (by decide) rfl, free '?' (by decide) rfl (by decide) rfl⟩

theorem Request.keyText_encodeSegment (text : String) :
    Request.keyText ((Url.encodeSegment text).flatMap Utf8.encodeChar) = .ok text := by
  rw [Request.keyText, Url.decode_encodeSegment, Utf8.decode_encode]

theorem Request.bounds_encodePairs (lower upper : String) :
    Request.bounds ((Form.encodePairs [("from", lower), ("to", upper)]).flatMap Utf8.encodeChar) =
      .ok (lower, upper) := by
  rw [Request.bounds, Request.fields, Form.decodePairs_encodePairs]
  rfl

namespace Endpoint

theorem kind_of_url {endpoint : Endpoint} {path : String} {failure : Failure}
    (failed : endpoint.url path = .error failure) : failure.kind = .badArgument := by
  rw [url] at failed
  split at failed
  · contradiction
  · exact Except.error.inj failed ▸ rfl

theorem toList_address (member : Member) (path : String) :
    ((direct member.host).address ++ path).toList = member.http.chars ++ path.toList := by
  have named : (direct member.host).address = member.host := String.empty_append
  rw [named, String.toList_append, Member.host, Net.Address.text, String.toList_ofList]

/-- The URL of a member's host leads to no path yet, and with a path to the same server. -/
theorem url_of_known {member : Member} {url : Url}
    (known : (direct member.host).url "/" = .ok url) :
    url.segments = [[]] ∧ url.query = none ∧
      ∀ (path : String) (rest : List Char), path.toList = '/' :: rest →
        (∀ char ∈ rest, Url.isDropped char = false ∧ char ∉ ['?', '#']) →
        (direct member.host).url path = .ok { url with
          segments := Url.resolve [] ((Url.splitSegments rest).map
            (Percent.encode Percent.isReservedInPath)) } := by
  rw [Endpoint.url, toList_address] at known
  split at known
  · next done =>
    obtain rfl := Except.ok.inj known
    obtain ⟨root, query, paths⟩ := Url.ofRemainder_address member.http.chars_ne_nil
      (fun char => Net.Address.isAddressChar_of_mem_chars) done
    refine ⟨root, query, fun path rest written whole => ?_⟩
    rw [Endpoint.url, toList_address, written, paths rest whole]
  · contradiction

theorem segments_of_url {member : Member} {url : Url}
    (known : (direct member.host).url "/" = .ok url) : url.segments = [[]] ∧ url.query = none :=
  ⟨(url_of_known known).1, (url_of_known known).2.1⟩

/-- A path that names no key leads to the server of its host, and to one route there. -/
theorem url_eq_of_route {member : Member} {url : Url} {path : String} {rest : List Char}
    {texts : List String} {route : Route} (known : (direct member.host).url "/" = .ok url)
    (written : path.toList = '/' :: rest)
    (whole : rest.all (fun char => !Url.isDropped char && char != '?' && char != '#') = true)
    (nonempty : texts ≠ [])
    (split : Url.resolve [] ((Url.splitSegments rest).map
      (Percent.encode Percent.isReservedInPath)) = texts.map Url.encodeSegment)
    (named : Route.ofSegments? (texts.map fun text =>
      (Url.encodeSegment text).flatMap Utf8.encodeChar) = some route) :
    ∃ pathUrl, (direct member.host).url path = .ok pathUrl ∧ pathUrl.server = url.server ∧
      ∀ (replica : Replica) (send : Sender),
        replica.reply send (.ofTarget "GET" pathUrl.target) = replica.replyTo send [] route := by
  obtain ⟨-, query, paths⟩ := url_of_known known
  have plain : ∀ char ∈ rest, Url.isDropped char = false ∧ char ∉ ['?', '#'] := by
    intro char member
    simpa [and_assoc] using List.all_eq_true.1 whole char member
  refine ⟨_, paths path rest written plain, rfl, fun replica send => ?_⟩
  generalize pathUrl_eq : Url.mk .. = pathUrl
  have segments : pathUrl.segments = texts.map Url.encodeSegment := by rw [← pathUrl_eq, ← split]
  have noQuery : pathUrl.query = none := by rw [← pathUrl_eq, query]
  have found : Route.ofPath? (pathUrl.path.flatMap Utf8.encodeChar) = some route := by
    rw [Route.ofPath?_path nonempty segments, named]
  rw [Request.ofTarget_target "GET" (Url.path_free segments) (by rw [noQuery]; nofun),
    Replica.reply, found, noQuery]
  rfl

theorem allUrl_eq {member : Member} {url : Url} (known : (direct member.host).url "/" = .ok url) :
    ∃ allUrl, (direct member.host).allUrl = .ok allUrl ∧ allUrl.server = url.server ∧
      ∀ (replica : Replica) (send : Sender),
        replica.reply send (.ofTarget "GET" allUrl.target) = replica.replyTo send [] .all :=
  @url_eq_of_route _ _ _ _ ["mirror"] _ known rfl (by decide) nofun rfl (by decide)

theorem partitionsUrl_eq {member : Member} {url : Url}
    (known : (direct member.host).url "/" = .ok url) :
    ∃ mapUrl, (direct member.host).partitionsUrl = .ok mapUrl ∧ mapUrl.server = url.server ∧
      ∀ (replica : Replica) (send : Sender),
        replica.reply send (.ofTarget "GET" mapUrl.target) = replica.replyTo send [] .partitions :=
  @url_eq_of_route _ _ _ _ ["streams", "partitions"] _ known rfl (by decide) nofun rfl (by decide)

theorem isAddressable_name {name : String} (known : name ∈ ["internal", "mirror", "range"]) :
    Url.IsAddressable name := by
  simp only [List.mem_cons, List.not_mem_nil, or_false] at known
  rcases known with rfl | rfl | rfl <;> decide

theorem segmentBytes_ne_nil {text : String} (nonempty : text ≠ "") :
    (Url.encodeSegment text).flatMap Utf8.encodeChar ≠ [] := by
  intro nothing
  refine nonempty (Url.eq_of_decode ?_)
  rw [nothing]
  rfl

/-- The request for a key leads to the server of its host, which looks for it among
its own partitions. -/
theorem internalKeyUrl_eq {member : Member} {url : Url} {text : String}
    (known : (direct member.host).url "/" = .ok url) (addressable : Url.IsAddressable text) :
    ∃ keyUrl, (direct member.host).internalKeyUrl text = .ok keyUrl ∧
      keyUrl.server = url.server ∧
      ∀ (replica : Replica) (send : Sender),
        (replica.reply send (.ofTarget "GET" keyUrl.target)).result =
          .ofValue (replica.topic.keyType.ofText text >>= replica.getHere) := by
  obtain ⟨root, query⟩ := segments_of_url known
  let texts := ["internal", "mirror", text]
  have all : ∀ part ∈ texts, Url.IsAddressable part := by
    intro part member
    simp only [texts, List.mem_cons, List.not_mem_nil, or_false] at member
    rcases member with rfl | rfl | rfl
    · exact isAddressable_name (by decide)
    · exact isAddressable_name (by decide)
    · exact addressable
  have built := Url.addSegments_eq root all
  refine ⟨url.addSegments texts, by rw [internalKeyUrl, urlOfSegments, known]; rfl, ?_, ?_⟩
  · rw [built]
    rfl
  · intro replica send
    rw [built]
    generalize keyUrl_eq : { url with segments := texts.map Url.encodeSegment } = keyUrl
    have segments : keyUrl.segments = texts.map Url.encodeSegment := by rw [← keyUrl_eq]
    have noQuery : keyUrl.query = none := by rw [← keyUrl_eq, query]
    have route : Route.ofPath? (keyUrl.path.flatMap Utf8.encodeChar) =
        some (.internalPoint ((Url.encodeSegment text).flatMap Utf8.encodeChar)) := by
      rw [Route.ofPath?_path (List.cons_ne_nil _ _) segments]
      exact Route.ofSegments?_internalPoint (segmentBytes_ne_nil addressable.nonempty)
    rw [Request.ofTarget_target "GET" (Url.path_free segments) (by rw [noQuery]; nofun),
      Replica.reply, route]
    simp only [if_true]
    show replica.replyPointHere _ = _
    rw [Replica.replyPointHere, Request.keyText_encodeSegment]

/-- The request for a range of a key leads to the server of its host, which looks for it
among its own partitions. -/
theorem internalRangeUrl_eq {member : Member} {url : Url} {text : String} (lower upper : String)
    (known : (direct member.host).url "/" = .ok url) (addressable : Url.IsAddressable text) :
    ∃ rangeUrl, (direct member.host).internalRangeUrl text lower upper = .ok rangeUrl ∧
      rangeUrl.server = url.server ∧
      ∀ (replica : Replica) (send : Sender),
        (replica.reply send (.ofTarget "GET" rangeUrl.target)).result =
          .ofValues (replica.topic.keyType.ofText text >>= fun key =>
            replica.getRangeHere key lower upper) := by
  obtain ⟨root, query⟩ := segments_of_url known
  let texts := ["internal", "mirror", "range", text]
  have all : ∀ part ∈ texts, Url.IsAddressable part := by
    intro part member
    simp only [texts, List.mem_cons, List.not_mem_nil, or_false] at member
    rcases member with rfl | rfl | rfl | rfl
    · exact isAddressable_name (by decide)
    · exact isAddressable_name (by decide)
    · exact isAddressable_name (by decide)
    · exact addressable
  have built := Url.addSegments_eq root all
  let pairs := [("from", lower), ("to", upper)]
  refine ⟨(url.addSegments texts).addQuery pairs,
    by rw [internalRangeUrl, urlOfSegments, known]; rfl, ?_, ?_⟩
  · rw [built]
    rfl
  · intro replica send
    rw [built]
    generalize rangeUrl_eq :
      Url.addQuery { url with segments := texts.map Url.encodeSegment } pairs = rangeUrl
    have segments : rangeUrl.segments = texts.map Url.encodeSegment := by rw [← rangeUrl_eq]; rfl
    have added : rangeUrl.query = some (Form.encodePairs pairs) := by
      rw [← rangeUrl_eq, Url.addQuery, query]
    have route : Route.ofPath? (rangeUrl.path.flatMap Utf8.encodeChar) =
        some (.internalRange ((Url.encodeSegment text).flatMap Utf8.encodeChar)) := by
      rw [Route.ofPath?_path (List.cons_ne_nil _ _) segments]
      exact Route.ofSegments?_internalRange (segmentBytes_ne_nil addressable.nonempty)
    have noFragment := Form.not_mem_encodePairs '#' rfl (by decide) (by decide) pairs
    rw [Request.ofTarget_target "GET" (Url.path_free segments)
        (by rw [added]; rintro _ ⟨⟩; exact noFragment), Replica.reply, route]
    simp only [if_true]
    show replica.replyRangeHere _ _ = _
    rw [Replica.replyRangeHere, Replica.rangeArguments, Request.keyText_encodeSegment, added,
      Option.getD_some, Request.bounds_encodePairs]
    rfl

end Endpoint

end ShardedView
