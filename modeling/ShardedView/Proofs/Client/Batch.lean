import ShardedView.Proofs.Client.Addressing
import ShardedView.Proofs.Client.Partitioned
import ShardedView.Proofs.Client.Routing
import ShardedView.Proofs.Query.Batch

/-!
Asking for several keys at once against asking for each of them: what a client gets for the
keys together are the values that it gets for them one by one.

A key alone is a segment of a path, and several are pieces of one text between commas. Both
ways lead to the same key unless the path drops or resolves the text, or the server drops
blanks around the piece.
-/

namespace ShardedView

open Errand (byHost)
open Http (Network Reply Traced Url)
open Http.Exchange (outcome outcome_bind outcome_lift)

namespace Endpoint

/-- Whether a replica replies to all requests to a host; what it learns from others comes from
the network `peers`. -/
def IsServedBy (endpoint : Endpoint) (network : Network) (replica : Replica) (peers : Network) :
    Prop :=
  ∃ base, endpoint.LeadsTo base ∧ ∀ url : Url, url.server = base.server →
    (network url).result = some (replica.reply peers.sender (.ofUrl url)).result

variable {endpoint : Endpoint} {network peers : Network} {replica : Replica}

theorem told_of_route {base url : Url} {built : Except Failure Url} {route : Route}
    (replies : ∀ url : Url, url.server = base.server →
      (network url).result = some (replica.reply peers.sender (.ofUrl url)).result)
    (same : built = .ok url) (server : url.server = base.server)
    (named : Route.ofPath? (Request.ofUrl url).path = some route) :
    told network.sender built = Received.ofReply
      (replica.replyTo peers.sender (Request.ofUrl url).query route).result := by
  have get : (Request.ofUrl url).method = "GET" := rfl
  rw [told, Failure.bind_of_ok same, Network.outcome_sender, replies url server, Replica.reply,
    named]
  simp only [get, if_true]

/-- The reply to the request for a key is what the replica knows of its text. -/
theorem IsServedBy.told_keyUrl (served : endpoint.IsServedBy network replica peers) {text : String}
    (addressable : Url.IsAddressable text) (other : text ≠ "keys") :
    told network.sender (endpoint.keyUrl text) =
      Received.ofReply (.ofValue (replica.findText peers.sender text)) := by
  obtain ⟨base, leads, replies⟩ := served
  have parts : ∀ part ∈ ["mirror"] ++ [text], Url.IsAddressable part := by
    intro part member
    rcases List.mem_append.1 member with name | last
    · exact isAddressable_name (List.mem_singleton.1 name ▸ .tail _ (.head _))
    · exact List.mem_singleton.1 last ▸ addressable
  obtain ⟨url, built, server, segment, named, read⟩ := leads.exists_names parts
    (Route.ofSegments?_point (segmentBytes_ne_nil addressable.nonempty)
      (segmentBytes_ne_keys other))
  refine (told_of_route replies built server named).trans ?_
  rw [Replica.replyTo, Replica.result_replyPoint, read]
  rfl

/-- The request for the key `keys` is one for several keys without any, and fails. -/
theorem IsServedBy.told_keyUrl_keys (served : endpoint.IsServedBy network replica peers) :
    told network.sender (endpoint.keyUrl "keys") =
      Received.ofReply (.ofFault (.missingField "ids")) := by
  obtain ⟨base, leads, replies⟩ := served
  obtain ⟨url, built, server, segments, noQuery, path⟩ :=
    @LeadsTo.exists_urlOfSegments _ _ leads ["mirror", "keys"] (by simp)
      (Url.addSegments_eq leads.root (by decide))
  have query : (Request.ofUrl url).query = [] := by
    rw [(Request.ofUrl_of_segments (by simp) segments (by simp [noQuery])).2, noQuery]
    rfl
  have named : Route.ofPath? (Request.ofUrl url).path = some .many := path
  refine (told_of_route replies built server named).trans ?_
  rw [Replica.replyTo, Replica.result_replyMany, query]
  rfl

theorem IsServedBy.told_keyUrl_empty (served : endpoint.IsServedBy network replica peers) :
    told network.sender (endpoint.keyUrl "") = .ok ⟨none, .primary⟩ := by
  obtain ⟨base, leads, replies⟩ := served
  obtain ⟨url, built, server, -, -, path⟩ :=
    @LeadsTo.exists_urlOfSegments _ _ leads (["mirror"] ++ [""]) (by simp)
      (Url.addSegments_append_empty leads.root (by decide) (by simp))
  have nothing : Route.ofPath? (Request.ofUrl url).path = none := path
  refine (Failure.bind_of_ok built _).trans ?_
  rw [Network.outcome_sender, replies url server, Replica.reply, nothing]
  rfl

/-- The reply to a request for several keys is what the replica knows of their texts, put
together. -/
theorem IsServedBy.told_keysUrl (served : endpoint.IsServedBy network replica peers)
    {texts : List String} (pieces : ∀ text ∈ texts, Request.IsPiece text)
    (parsed : ∀ text ∈ texts, ∃ key, replica.topic.keyType.ofText text = .ok key) :
    told network.sender (endpoint.keysUrl texts) = Received.ofReply (.ofValues
      (Replica.merge ((texts.filter (· ≠ "")).map (replica.findText peers.sender)))) := by
  obtain ⟨base, leads, replies⟩ := served
  obtain ⟨url, built, server, segments, noQuery, path⟩ :=
    @LeadsTo.exists_urlOfSegments _ _ leads ["mirror", "keys"] (by simp)
      (Url.addSegments_eq leads.root (by decide))
  obtain ⟨same, query⟩ :=
    request_addQuery (by simp) segments noQuery [("ids", ",".intercalate texts)]
  have named := same.trans (show _ = some Route.many from path)
  have asked : endpoint.keysUrl texts = .ok (url.addQuery [("ids", ",".intercalate texts)]) :=
    Failure.bind_of_ok built _
  have kept : ∀ text ∈ texts.filter (· ≠ ""),
      ∃ key, replica.topic.keyType.ofText text = .ok key :=
    fun text listed => parsed text (List.mem_filter.1 listed).1
  refine (told_of_route replies asked server named).trans ?_
  rw [query, Replica.replyTo, Replica.result_replyMany, Request.keyTexts_encodePairs pieces]
  exact congrArg (fun result => Received.ofReply (.ofValues result))
    (Replica.getMany_of_texts kept)

/-- Whether a text names one key: as a segment of a path, unless it is empty, and as it stands
between blanks. -/
structure NamesOne (text : String) : Prop where
  segment : text = "" ∨ Url.IsAddressable text
  trimmed : Text.trimChars text.toList = text.toList

theorem IsServedBy.exists_reply (served : endpoint.IsServedBy network replica peers) {text : String}
    (names : NamesOne text) :
    ∃ reply, told network.sender (endpoint.keyUrl text) = Received.ofReply reply := by
  rcases names.segment with rfl | addressable
  · exact ⟨.empty 404, served.told_keyUrl_empty⟩
  · by_cases same : text = "keys"
    · exact ⟨_, same ▸ served.told_keyUrl_keys⟩
    · exact ⟨_, served.told_keyUrl addressable same⟩

/-- A key whose request succeeds has no text and no value, or what the replica knows of its
text. -/
theorem IsServedBy.cases_of_value (served : endpoint.IsServedBy network replica peers)
    {text : String} (names : NamesOne text) {value : Option Json}
    (told : (told network.sender (endpoint.keyUrl text) >>= Received.value?) = .ok value) :
    (text = "" ∧ value = none) ∨ (text ≠ "" ∧
      (Received.ofReply (.ofValue (replica.findText peers.sender text)) >>= Received.value?) =
        .ok value) := by
  rcases names.segment with rfl | addressable
  · rw [served.told_keyUrl_empty] at told
    exact .inl ⟨rfl, (Except.ok.inj told).symm⟩
  · by_cases same : text = "keys"
    · rw [same, served.told_keyUrl_keys, Failure.bind_of_error
        (Received.ofReply_of_failed (by decide) (by decide))] at told
      cases told
    · rw [served.told_keyUrl addressable same] at told
      exact .inr ⟨addressable.nonempty, told⟩

/-- Whether some replica with keys of a type replies to all requests to a host. -/
def IsServed (endpoint : Endpoint) (network : Network) (type : KeyType) : Prop :=
  ∃ replica peers, replica.topic.keyType = type ∧ endpoint.IsServedBy network replica peers

/-- A text of a key of a type that may be asked for alone or together with others, if there is
this value of it. -/
structure IsShared (type : KeyType) (text : String) (value : Option Json) : Prop where
  names : NamesOne text
  parsed : ∃ key, type.ofText text = .ok key
  shallow : ∀ found ∈ value, found.Nests (Json.greatestDepth - 2)

/-- Of keys whose requests succeed one by one, a request for all of them finds the same
values. -/
theorem IsServed.exists_received {type : KeyType} (served : endpoint.IsServed network type)
    {texts : List String} {known : String → Option Json}
    (whole : ∀ text ∈ texts, isBatchable text = true)
    (shared : ∀ text ∈ texts, IsShared type text (known text))
    (each : ∀ text ∈ texts,
      (told network.sender (endpoint.keyUrl text) >>= Received.value?) = .ok (known text)) :
    ∃ reply received, told network.sender (endpoint.keysUrl texts) = Received.ofReply reply ∧
      Received.ofReply reply = .ok received ∧ received.values = .ok (texts.filterMap known) := by
  obtain ⟨replica, peers, rfl, served⟩ := served
  have pieces : ∀ text ∈ texts, Request.IsPiece text := fun text listed =>
    ⟨of_decide_eq_true (whole text listed), (shared text listed).names.trimmed⟩
  let kept := texts.filter (· ≠ "")
  have listed : ∀ {text}, text ∈ kept → text ∈ texts ∧ text ≠ "" := by
    intro text member
    simpa [kept] using member
  obtain ⟨merged, done, read⟩ : ∃ merged,
      Replica.merge (kept.map (replica.findText peers.sender)) = .ok merged ∧
        Json.Document.jsonItems? (Json.greatestDepth - 2) (Json.trees merged.value) =
          some (kept.filterMap known) := by
    apply Replica.exists_merge
    · intro text _
      exact (KeyType.failsAs_ofText _ _).genuine.bind (replica.failsAs_get peers)
    · intro text _ answer found
      obtain ⟨key, -, own⟩ := Failure.exists_of_bind found
      exact Replica.isCanonical_of_get own
    · intro text member
      obtain ⟨among, filled⟩ := listed member
      rcases served.cases_of_value (shared text among).names (each text among) with nothing | own
      · exact absurd nothing.1 filled
      · exact own.2
    · exact fun text member => (shared text (listed member).1).shallow
  have same : kept.filterMap known = texts.filterMap known := by
    refine filterMap_filter_of_none fun text member dropped => ?_
    rcases served.cases_of_value (shared text member).names (each text member) with nothing | own
    · exact nothing.2
    · simp [own.1] at dropped
  rw [same] at read
  obtain ⟨received, replied, values⟩ := Received.exists_of_ofValues read
  exact ⟨_, received,
    done ▸ served.told_keysUrl pieces fun text among => (shared text among).parsed, replied, values⟩

theorem IsServed.exists_reply {type : KeyType} (served : endpoint.IsServed network type)
    {text : String} (names : NamesOne text) :
    ∃ reply, told network.sender (endpoint.keyUrl text) = Received.ofReply reply := by
  obtain ⟨replica, peers, -, served⟩ := served
  exact served.exists_reply names

theorem namesOne_toText {type : KeyType} (number : type ≠ .string) (key : type.Key) :
    NamesOne (type.toText key) := by
  refine ⟨.inr (KeyType.isAddressable_toText number key).1, ?_⟩
  have trimmed : ∀ number : Int,
      Text.trimChars (String.ofList (Digits.ofInt number)).toList =
        (String.ofList (Digits.ofInt number)).toList := by
    intro number
    have same := congrArg String.toList (Text.trim_ofInt number)
    rwa [Text.trim, String.toList_ofList] at same
  cases type with
  | string => exact absurd rfl number
  | integer => exact trimmed _
  | long => exact trimmed _

end Endpoint

namespace Lookup

variable (send : Sender) (endpoint : Endpoint)

theorem outcome_get (type : KeyType) (key : type.Key) :
    (get send endpoint type key).outcome =
      (Endpoint.told send (endpoint.keyUrl (type.toText key)) >>= Received.value?) := by
  unfold get Endpoint.told
  simp only [outcome_bind, outcome_lift, bind_assoc]

theorem outcome_getBatch (texts : List String) :
    (getBatch send endpoint texts).outcome =
      (Endpoint.told send (endpoint.keysUrl texts) >>= Received.values) := by
  unfold getBatch Endpoint.told
  simp only [outcome_bind, outcome_lift, bind_assoc]

variable {send endpoint} {known : String → Option Json}

theorem outcome_getEach {texts : List String} (each : ∀ text ∈ texts,
      (Endpoint.told send (endpoint.keyUrl text) >>= Received.value?) = .ok (known text)) :
    (getEach send endpoint texts).outcome = .ok (texts.filterMap known) := by
  induction texts with
  | nil => rfl
  | cons text rest ih =>
    obtain ⟨received, replied, value⟩ := Failure.exists_of_bind (each text (.head _))
    obtain ⟨url, built, replied⟩ := Failure.exists_of_bind replied
    have later := ih fun text listed => each text (.tail _ listed)
    rw [getEach, outcome_bind, outcome_lift, Failure.bind_of_ok built, outcome_bind,
      Failure.bind_of_ok replied, outcome_bind, outcome_lift, Failure.bind_of_ok value,
      outcome_bind, Failure.bind_of_ok later, List.filterMap_cons]
    cases known text <;> rfl

/-- A client that asks one host, and gets something for each key, gets it for the keys
together. -/
theorem exists_getMany {network : Network} {endpoint : Endpoint} {type : KeyType}
    (served : endpoint.IsServed network type) {keys : List type.Key} {known : String → Option Json}
    (shared : ∀ text ∈ keys.map type.toText, isBatchable text = true →
      Endpoint.IsShared type text (known text))
    (each : ∀ text ∈ keys.map type.toText,
      (Endpoint.told network.sender (endpoint.keyUrl text) >>= Received.value?) =
        .ok (known text)) :
    ∃ found, (getMany network.sender endpoint type keys).outcome = .ok found ∧
      found.Perm ((keys.map type.toText).filterMap known) := by
  let texts := keys.map type.toText
  have later := @outcome_getEach network.sender endpoint known (texts.filter (!isBatchable ·))
    fun text listed => each text (List.mem_filter.1 listed).1
  have finish : ∀ values : List Json, (do
      return values ++ (← getEach network.sender endpoint (texts.filter (!isBatchable ·))) :
        Http.Exchange (List Json)).outcome =
          .ok (values ++ (texts.filter (!isBatchable ·)).filterMap known) := by
    intro values
    rw [outcome_bind, Failure.bind_of_ok later]
    rfl
  refine ⟨(texts.filter isBatchable).filterMap known ++
    (texts.filter (!isBatchable ·)).filterMap known, ?_, ?_⟩
  · unfold getMany
    dsimp only
    split
    · next empty =>
      rw [show texts.filter isBatchable = [] from List.isEmpty_iff.1 empty]
      exact finish []
    · obtain ⟨reply, received, replied, done, values⟩ := served.exists_received
        (fun text listed => (List.mem_filter.1 listed).2)
        (fun text listed => shared text (List.mem_filter.1 listed).1 (List.mem_filter.1 listed).2)
        (fun text listed => each text (List.mem_filter.1 listed).1)
      rw [outcome_bind, outcome_getBatch, replied, Failure.bind_of_ok done,
        Failure.bind_of_ok values]
      exact finish _
  · rw [← List.filterMap_append]
    exact (List.filter_append_perm _ _).filterMap known

end Lookup

namespace Routes

variable {network : Network} {type : KeyType} {known : String → Option Json}

/-- Texts that a client asks a host for one by one, and gets something for each, it may ask the
host for together. -/
theorem values_of_group (routes : Routes type) {endpoint : Endpoint}
    (served : endpoint.IsServed network type) {texts : List String}
    (whole : ∀ text ∈ texts, isBatchable text = true)
    (shared : ∀ text ∈ texts, Endpoint.IsShared type text (known text))
    (each : ∀ text ∈ texts, (routes.ask network.sender (·.keyUrl text) endpoint >>=
      Received.value?) = .ok (known text)) :
    (routes.ask network.sender (·.keysUrl texts) endpoint >>= Received.values) =
      .ok (texts.filterMap known) := by
  have told : ∀ text ∈ texts,
      (Endpoint.told network.sender (endpoint.keyUrl text) >>= Received.value?) =
        .ok (known text) := by
    intro text listed
    obtain ⟨reply, replied⟩ := served.exists_reply (shared text listed).names
    have own := each text listed
    rw [ask_of_told routes (·.keyUrl text) endpoint replied] at own
    exact replied ▸ own
  obtain ⟨reply, received, replied, done, values⟩ := served.exists_received whole shared told
  rw [ask_of_told routes (·.keysUrl texts) endpoint replied, Failure.bind_of_ok done, values]

/-- A client that gets something for each key has found a host of the table for it. -/
theorem exists_requests {router : Router} {fallback : Option Endpoint} {draw : Nat}
    {send : Sender} {keys : List type.Key}
    (each : ∀ key ∈ keys, ((ofRouter type router fallback draw).get send key).result.result =
      .ok (known (type.toText key))) :
    let routes := ofRouter type router fallback draw
    ∃ requests, (keys.mapM fun key =>
        (routes.find key).map fun host => (host, type.toText key)) = .ok requests ∧
      requests.map Prod.snd = keys.map type.toText ∧
      ∀ request ∈ requests, request.1 ∈ router.table.endpoints ∧
        (routes.ask send (·.keyUrl request.2) request.1 >>= Received.value?) =
          .ok (known request.2) := by
  intro routes
  obtain ⟨requests, found, texts⟩ : ∃ requests,
      (keys.mapM fun key => (routes.find key).map fun host => (host, type.toText key)) =
        .ok requests ∧ requests.map Prod.snd = keys.map type.toText := by
    apply Failure.exists_mapM_eq
    intro key listed
    obtain ⟨endpoint, found, -⟩ := exists_of_get (each key listed)
    exact ⟨(endpoint, type.toText key), by simp [routes, found, Except.map], rfl⟩
  refine ⟨requests, found, texts, fun request listed => ?_⟩
  obtain ⟨key, among, own⟩ := Failure.exists_of_mem_mapM found listed
  obtain ⟨endpoint, host, value⟩ := exists_of_get (each key among)
  rw [host] at own
  cases own
  exact ⟨RoutingTable.mem_endpoints_of_find host, value⟩

/-- A client that asks the hosts of a routing table, and gets something for each key, gets it
for the keys together. -/
theorem exists_getMany {router : Router}
    (served : ∀ endpoint ∈ router.table.endpoints, endpoint.IsServed network type)
    (fallback : Option Endpoint) (draw : Nat) {keys : List type.Key}
    (shared : ∀ text ∈ keys.map type.toText, isBatchable text = true →
      Endpoint.IsShared type text (known text))
    (each : ∀ key ∈ keys, ((ofRouter type router fallback draw).get network.sender
      key).result.result = .ok (known (type.toText key))) :
    ∃ found, ((ofRouter type router fallback draw).getMany network.sender keys).result.result =
        .ok found ∧
      found.Perm ((keys.map type.toText).filterMap known) := by
  obtain ⟨requests, found, texts, asked⟩ := exists_requests each
  let batch := requests.filter fun request => isBatchable request.2
  have within : ∀ {request}, request ∈ batch → request ∈ requests ∧
      isBatchable request.2 = true := List.mem_filter.1
  have gathers : Gathers batch (byHost batch) := by
    apply gathers_byHost
    intro request listed
    obtain ⟨host, -, direct⟩ := List.mem_map.1 (asked request (within listed).1).1
    exact direct ▸ rfl
  have together : ∀ group ∈ byHost batch,
      ((ofRouter type router fallback draw).ask network.sender (·.keysUrl group.2)
        group.1 >>= Received.values) = .ok (group.2.filterMap known) := by
    intro group listed
    have inside : ∀ text ∈ group.2, (group.1, text) ∈ batch := by
      intro text among
      apply gathers.perm.mem_iff.1
      exact List.mem_flatMap.2 ⟨group, listed, List.mem_map_of_mem among⟩
    obtain ⟨request, member, host⟩ := gathers.hosts group listed
    apply values_of_group
    · rw [host]
      exact served _ (asked request (within member).1).1
    · exact fun text among => (within (inside text among)).2
    · intro text among
      obtain ⟨listed, whole⟩ := within (inside text among)
      exact shared text (texts ▸ List.mem_map_of_mem listed) whole
    · exact fun text among => (asked _ (within (inside text among)).1).2
  have alone : ∀ request ∈ requests.filter fun request => !isBatchable request.2,
      ((ofRouter type router fallback draw).ask network.sender (·.keyUrl request.2)
        request.1 >>= Received.value?) = .ok (known request.2) :=
    fun request listed => (asked request (List.mem_filter.1 listed).1).2
  refine ⟨_, result_getMany _ network.sender found together alone, ?_⟩
  rw [flatMap_filterMap_eq, ← texts, List.filterMap_map]
  refine ((gathers.perm.filterMap _).append_right _).trans ?_
  rw [← List.filterMap_append]
  exact (List.filter_append_perm _ _).filterMap _

end Routes

/-- Asking for keys together finds what asking for each of them finds, each value as often as
its key is asked for: at one host, and at the hosts of a routing table. -/
theorem getMany_agrees_with_get (network : Network) (type : KeyType) (keys : List type.Key)
    (values : type.Key → Option Json)
    (names : type = .string → ∀ key ∈ keys, isBatchable (type.toText key) = true →
      Endpoint.NamesOne (type.toText key))
    (shallow : ∀ key ∈ keys, isBatchable (type.toText key) = true →
      ∀ value ∈ values key, value.Nests (Json.greatestDepth - 2)) :
    (∀ endpoint : Endpoint, endpoint.IsServed network type →
      (∀ key ∈ keys, (Lookup.get network.sender endpoint type key).outcome = .ok (values key)) →
        ∃ found, (Lookup.getMany network.sender endpoint type keys).outcome = .ok found ∧
          found.Perm (keys.filterMap values)) ∧
      ∀ (router : Router) (fallback : Option Endpoint) (draw : Nat),
        (∀ endpoint ∈ router.table.endpoints, endpoint.IsServed network type) →
          (∀ key ∈ keys, ((Routes.ofRouter type router fallback draw).get network.sender
            key).result.result = .ok (values key)) →
            ∃ found, ((Routes.ofRouter type router fallback draw).getMany network.sender
                keys).result.result = .ok found ∧
              found.Perm (keys.filterMap values) := by
  let known := fun text : String => (type.ofText text).toOption.bind values
  have known_toText : ∀ key, known (type.toText key) = values key := by
    intro key
    simp only [known, KeyType.ofText_toText, Except.toOption, Option.bind_some]
  have total : (keys.map type.toText).filterMap known = keys.filterMap values := by
    rw [List.filterMap_map]
    congr 1
    exact funext known_toText
  have shared : ∀ text ∈ keys.map type.toText, isBatchable text = true →
      Endpoint.IsShared type text (known text) := by
    intro text member batchable
    obtain ⟨key, listed, rfl⟩ := List.mem_map.1 member
    refine ⟨?_, ⟨key, KeyType.ofText_toText type key⟩, ?_⟩
    · by_cases string : type = .string
      · exact names string key listed batchable
      · exact Endpoint.namesOne_toText string key
    · rw [known_toText]
      exact shallow key listed batchable
  rw [← total]
  refine ⟨fun endpoint served each => ?_, fun table fallback draw served each => ?_⟩
  · refine Lookup.exists_getMany served shared fun text member => ?_
    obtain ⟨key, listed, rfl⟩ := List.mem_map.1 member
    rw [← Lookup.outcome_get, known_toText]
    exact each key listed
  · refine Routes.exists_getMany served fallback draw shared fun key listed => ?_
    rw [known_toText]
    exact each key listed

/-! ### One replica with one key -/

/-- A replica that has the value `v` of a key, and counts on nobody else. -/
def Replica.keeping (key : String) (self : Member) : Site :=
  (Site.start ⟨"t", .string, .string, .mutable, none, none⟩ ⟨1, 0, .murmur⟩ ⟨self, []⟩ 1).run
    ([.append ⟨Utf8.encode key, some (Utf8.encode "v"), 0⟩, .members [self]] ++ [.step])

theorem Cluster.isServed_of_delivers {cluster : Cluster} {replica : Replica}
    (delivers : cluster.Delivers replica) (hops : Nat) :
    (Endpoint.direct replica.host).IsServed (cluster.network (hops + 1)) replica.topic.keyType := by
  obtain ⟨base, name, known, found, reached⟩ := delivers
  refine ⟨replica, cluster.network hops, rfl, base, Endpoint.leadsTo_of_known known, ?_⟩
  intro url server
  rw [← server] at found reached
  rw [network_of_found found reached]
  rfl

theorem Replica.isServed_keeping (key : String) (hops : Nat) :
    let self := Member.fixed "a" ⟨.v4 0x7F000001, 8001, 0⟩
    let cluster : Cluster :=
      ⟨[("127.0.0.1:8001", .replica (keeping key self).replica)], fun _ => true⟩
    (Endpoint.direct "127.0.0.1:8001").IsServed (cluster.network (hops + 1)) .string := by
  intro self cluster
  have view : (keeping key self).replica.view = ⟨self, [self]⟩ := by
    rw [keeping, Site.run_append]
    exact view_stepAmid _ _ _
  have host : (keeping key self).replica.host = "127.0.0.1:8001" := by
    rw [Replica.host, view]
    decide +kernel
  have topic : (keeping key self).replica.topic = ⟨"t", .string, .string, .mutable, none, none⟩ :=
    (Site.sameSetting_run _ _).topic
  have delivers : cluster.Delivers (keeping key self).replica := by
    refine Cluster.delivers_of_found "127.0.0.1:8001" ?_ (by simp [cluster]) rfl
    rw [host]
    decide +kernel
  have served := Cluster.isServed_of_delivers delivers hops
  rwa [host, topic] at served

def Json.shows (result : Except Failure (Option Json)) (text : Option String) : Bool :=
  match result, text with
  | .ok (some (.str found)), some text => found = text
  | .ok none, none => true
  | _, _ => false

theorem Json.eq_of_shows {result : Except Failure (Option Json)} {text : Option String}
    (shown : shows result text = true) : result = .ok (text.map .str) := by
  unfold shows at shown
  split at shown
  · rw [of_decide_eq_true shown]
    rfl
  · rfl
  · cases shown

/-- A key that is asked for twice, and one with a comma. -/
theorem getMany_agrees_with_get_keeping :
    let self := Member.fixed "a" ⟨.v4 0x7F000001, 8001, 0⟩
    let cluster : Cluster :=
      ⟨[("127.0.0.1:8001", .replica (Replica.keeping "k" self).replica)], fun _ => true⟩
    let send := (cluster.network 1).sender
    let endpoint := Endpoint.direct "127.0.0.1:8001"
    let router : Router := ⟨none, .murmur, ⟨.ofList [(0, "127.0.0.1:8001")]⟩⟩
    let routes := Routes.ofRouter .string router none 0
    (∃ found, (Lookup.getMany send endpoint .string ["k", "a,b", "k"]).outcome = .ok found ∧
        found.Perm [.str "v", .str "v"]) ∧
      ∃ found, (routes.getMany send ["k", "a,b", "k"]).result.result = .ok found ∧
        found.Perm [.str "v", .str "v"] := by
  intro self cluster send endpoint router routes
  have served := Replica.isServed_keeping "k" 0
  let text := fun key : String => if key = "k" then some "v" else none
  have shown : (["k", "a,b", "k"].all fun key =>
      Json.shows (Lookup.get send endpoint .string key).outcome (text key) &&
        Json.shows (routes.get send key).result.result (text key)) = true := by
    decide +kernel
  have each : ∀ key ∈ ["k", "a,b", "k"],
      (Lookup.get send endpoint .string key).outcome = .ok ((text key).map .str) ∧
        (routes.get send key).result.result = .ok ((text key).map .str) := by
    intro key listed
    have own := List.all_eq_true.1 shown key listed
    rw [Bool.and_eq_true] at own
    exact ⟨Json.eq_of_shows own.1, Json.eq_of_shows own.2⟩
  have names : ∀ key ∈ ["k", "a,b", "k"], isBatchable key = true → Endpoint.NamesOne key := by
    intro key listed _
    simp only [List.mem_cons, List.not_mem_nil, or_false] at listed
    rcases listed with rfl | rfl | rfl <;> exact ⟨.inr (by decide), by decide⟩
  have shallow : ∀ key ∈ ["k", "a,b", "k"], isBatchable key = true →
      ∀ value ∈ (text key).map Json.str, value.Nests (Json.greatestDepth - 2) := by
    intro key _ _ value found
    obtain ⟨shown, -, rfl⟩ := Option.map_eq_some_iff.1 found
    exact .str shown
  obtain ⟨alone, routed⟩ := getMany_agrees_with_get (cluster.network 1) .string ["k", "a,b", "k"]
    (fun key => (text key).map .str) (fun _ => names) shallow
  exact ⟨alone endpoint served fun key listed => (each key listed).1,
    routed router none 0 (fun other listed => List.mem_singleton.1 listed ▸ served)
      fun key listed => (each key listed).2⟩

/-- A key with a blank before it has a value, but asked for together with others, it has none:
the server looks for the key without the blank. -/
theorem getMany_without_blank :
    let self := Member.fixed "a" ⟨.v4 0x7F000001, 8001, 0⟩
    let cluster : Cluster :=
      ⟨[("127.0.0.1:8001", .replica (Replica.keeping " k" self).replica)], fun _ => true⟩
    let send := (cluster.network 1).sender
    let endpoint := Endpoint.direct "127.0.0.1:8001"
    endpoint.IsServed (cluster.network 1) .string ∧
      (Lookup.get send endpoint .string " k").outcome = .ok (some (.str "v")) ∧
      ∃ found, (Lookup.getMany send endpoint .string [" k"]).outcome = .ok found ∧
        ¬ found.Perm [.str "v"] := by
  intro self cluster send endpoint
  have shown : (Json.shows (Lookup.get send endpoint .string " k").outcome (some "v") &&
      (Lookup.getMany send endpoint .string [" k"]).outcome.toOption.map List.isEmpty ==
        some true) = true := by
    decide +kernel
  obtain ⟨alone, together⟩ := (Bool.and_eq_true ..).mp shown
  refine ⟨Replica.isServed_keeping " k" 0, Json.eq_of_shows alone, [], ?_, by simp⟩
  generalize (Lookup.getMany send endpoint .string [" k"]).outcome = result at together
  cases result with
  | error failure => simp [Except.toOption] at together
  | ok found => simpa [Except.toOption] using together

end ShardedView
