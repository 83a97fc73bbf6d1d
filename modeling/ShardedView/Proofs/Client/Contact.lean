import ShardedView.Proofs.Client.Attempt
import ShardedView.Proofs.Client.Batch
import ShardedView.Proofs.Query.Home

/-!
What a client asks a host for, and what the server of that host makes of it: wherever the path
leads, it leads to this server, and for texts that stand for themselves in paths and queries, to
the keys of these texts.
-/

namespace ShardedView

open Http (Reply Url)

/-! ### Servers of URLs -/

namespace Http.Url

theorem server_addSegment (url : Url) (text : String) :
    (url.addSegment text).server = url.server := by
  unfold addSegment
  split <;> rfl

theorem server_addSegments (url : Url) (texts : List String) :
    (url.addSegments texts).server = url.server := by
  have run : ∀ (texts : List String) (url : Url),
      (texts.foldl addSegment url).server = url.server := by
    intro texts
    induction texts with
    | nil => exact fun url => rfl
    | cons text rest ih => exact fun url => (ih _).trans (server_addSegment url text)
  exact run texts _

end Http.Url

theorem Endpoint.server_of_urlOfSegments {endpoint : Endpoint} {base url : Url}
    {texts : List String} (known : endpoint.url "/" = .ok base)
    (built : endpoint.urlOfSegments texts = .ok url) : url.server = base.server := by
  rw [urlOfSegments, Failure.bind_of_ok known] at built
  obtain rfl := Except.ok.inj built
  exact Url.server_addSegments base texts

/-- Whether a contact asks for keys of some texts: for one, for a range of one, for several
together, or for all keys. -/
inductive Contact.IsFor (contact : Contact) (texts : List String) : Prop
  | point (text : String) (listed : text ∈ texts)
    (built : contact.endpoint.keyUrl text = .ok contact.url)
  | range (text lower upper : String) (listed : text ∈ texts)
    (built : contact.endpoint.rangeUrl text lower upper = .ok contact.url)
  | many (batch : List String) (listed : ∀ text ∈ batch, text ∈ texts ∧ isBatchable text = true)
    (built : contact.endpoint.keysUrl batch = .ok contact.url)
  | all (built : contact.endpoint.allUrl = .ok contact.url)

/-- A text that stands for itself: as a segment of a path, and between blanks. -/
structure IsVerbatim (text : String) : Prop where
  addressable : Url.IsAddressable text
  trimmed : Text.trimChars text.toList = text.toList

theorem KeyType.isVerbatim_toText {type : KeyType} (number : type ≠ .string) (key : type.Key) :
    IsVerbatim (type.toText key) :=
  ⟨(isAddressable_toText number key).1, (Endpoint.namesOne_toText number key).trimmed⟩

namespace Endpoint.LeadsTo

variable {endpoint : Endpoint} {base url : Url} {text other : String}

theorem isAddressable_behind (verbatim : IsVerbatim text) {names : List String}
    (known : ∀ name ∈ names, name ∈ ["internal", "mirror", "range"]) :
    ∀ part ∈ names ++ [text], Url.IsAddressable part := by
  intro part member
  rcases List.mem_append.1 member with name | last
  · exact isAddressable_name (known part name)
  · exact List.mem_singleton.1 last ▸ verbatim.addressable

/-- The URL of a key names this key, or none if its text is the word for several. -/
theorem eq_of_mem_keyUrl (leads : endpoint.LeadsTo base) (verbatim : IsVerbatim text)
    (built : endpoint.keyUrl text = .ok url) (named : other ∈ (Request.ofUrl url).publicTexts) :
    other = text := by
  have addressable := @isAddressable_behind _ verbatim ["mirror"] (by simp)
  by_cases reserved : text = "keys"
  · obtain ⟨known, begun, -, segments, noQuery, path⟩ :=
      leads.exists_urlOfSegments (List.cons_ne_nil _ _) (Url.addSegments_eq leads.root addressable)
    obtain rfl := Except.ok.inj (begun.symm.trans built)
    have route : Route.ofPath? (Request.ofUrl known).path = some .many := by
      rw [path, reserved]
      rfl
    have query : (Request.ofUrl known).query = [] := by
      rw [(Request.ofUrl_of_segments (by simp) segments (by simp [noQuery])).2, noQuery]
      rfl
    rw [Request.publicTexts, route, query] at named
    exact absurd named List.not_mem_nil
  · obtain ⟨known, begun, -, segment, route, read⟩ :=
      leads.exists_names addressable
        (Route.ofSegments?_point (segmentBytes_ne_nil verbatim.addressable.nonempty)
          (segmentBytes_ne_keys reserved))
    obtain rfl := Except.ok.inj (begun.symm.trans built)
    rw [Request.publicTexts, route] at named
    dsimp only at named
    rw [read] at named
    exact List.mem_singleton.1 named

theorem eq_of_mem_rangeUrl (leads : endpoint.LeadsTo base) (verbatim : IsVerbatim text)
    {lower upper : String} (built : endpoint.rangeUrl text lower upper = .ok url)
    (named : other ∈ (Request.ofUrl url).publicTexts) : other = text := by
  obtain ⟨known, begun, -, segment, route, read⟩ :=
    leads.exists_namesRange lower upper
      (@isAddressable_behind _ verbatim ["mirror", "range"] (by simp))
      (Route.ofSegments?_range (segmentBytes_ne_nil verbatim.addressable.nonempty))
  have added : endpoint.rangeUrl text lower upper =
      .ok (known.addQuery [("from", lower), ("to", upper)]) := Failure.bind_of_ok begun _
  rw [← Except.ok.inj (added.symm.trans built), Request.publicTexts, route] at named
  dsimp only at named
  rw [Replica.keyText_of_rangeArguments read] at named
  exact List.mem_singleton.1 named

theorem mem_of_mem_keysUrl (leads : endpoint.LeadsTo base) {batch : List String}
    (whole : ∀ text ∈ batch, IsVerbatim text ∧ isBatchable text = true)
    (built : endpoint.keysUrl batch = .ok url)
    (named : other ∈ (Request.ofUrl url).publicTexts) : other ∈ batch := by
  obtain ⟨known, begun, -, segments, noQuery, path⟩ :=
    @exists_urlOfSegments _ _ leads ["mirror", "keys"] (by simp)
      (Url.addSegments_eq leads.root (by decide))
  obtain ⟨same, query⟩ :=
    request_addQuery (by simp) segments noQuery [("ids", ",".intercalate batch)]
  have pieces : ∀ text ∈ batch, Request.IsPiece text := fun text member =>
    ⟨of_decide_eq_true (whole text member).2, (whole text member).1.trimmed⟩
  have added : endpoint.keysUrl batch =
      .ok (known.addQuery [("ids", ",".intercalate batch)]) := Failure.bind_of_ok begun _
  rw [← Except.ok.inj (added.symm.trans built), Request.publicTexts,
    same.trans (show _ = some Route.many from path), query] at named
  dsimp only at named
  rw [Request.keyTexts_encodePairs pieces] at named
  exact (List.mem_filter.1 named).1

end Endpoint.LeadsTo

namespace Contact.IsFor

variable {contact : Contact} {texts : List String} {member : Member} {base : Url}

theorem server (asks : contact.IsFor texts) (direct : contact.endpoint = .direct member.host)
    (known : (Endpoint.direct member.host).url "/" = .ok base) :
    contact.url.server = base.server := by
  rw [← direct] at known
  cases asks with
  | point text listed built => exact Endpoint.server_of_urlOfSegments known built
  | range text lower upper listed built =>
    obtain ⟨url, begun, same⟩ := Failure.exists_of_bind built
    rw [← Except.ok.inj same]
    exact (Endpoint.server_of_urlOfSegments known begun : url.server = _)
  | many batch listed built =>
    obtain ⟨url, begun, same⟩ := Failure.exists_of_bind built
    rw [← Except.ok.inj same]
    exact (Endpoint.server_of_urlOfSegments known begun : url.server = _)
  | all built =>
    rw [direct] at built known
    obtain ⟨url, begun, server, -⟩ := Endpoint.allUrl_eq known
    rw [begun] at built
    exact Except.ok.inj built ▸ server

theorem publicTexts (asks : contact.IsFor texts) (leads : contact.endpoint.LeadsTo base)
    (verbatim : ∀ text ∈ texts, IsVerbatim text) :
    contact.endpoint.allUrl = .ok contact.url ∨
      ∀ text ∈ (Request.ofUrl contact.url).publicTexts, text ∈ texts := by
  cases asks with
  | point text listed built =>
    right
    intro other named
    exact leads.eq_of_mem_keyUrl (verbatim text listed) built named ▸ listed
  | range text lower upper listed built =>
    right
    intro other named
    exact leads.eq_of_mem_rangeUrl (verbatim text listed) built named ▸ listed
  | many batch listed built =>
    right
    intro other named
    have whole := fun text (among : text ∈ batch) => (listed text among).imp_left (verbatim text)
    exact (listed other (leads.mem_of_mem_keysUrl whole built named)).1
  | all built => exact .inl built

/-- A host that asks nobody else for the keys of these texts answers at first hand. -/
theorem isFirstHand (asks : contact.IsFor texts) (direct : contact.endpoint = .direct member.host)
    (known : (Endpoint.direct member.host).url "/" = .ok base)
    (verbatim : ∀ text ∈ texts, IsVerbatim text) {replica : Replica}
    (keeps : replica.KeepsTexts texts) (send : Sender) :
    Reply.IsFirstHand (replica.reply send (.ofUrl contact.url)) := by
  rcases asks.publicTexts (direct ▸ Endpoint.leadsTo_of_known known) verbatim with built | within
  · obtain ⟨url, begun, -, reply⟩ := Endpoint.allUrl_eq known
    rw [direct, begun] at built
    obtain rfl := Except.ok.inj built
    rw [Request.ofUrl, reply]
    refine ⟨rfl, Replica.stale_of_replyTo_of_silent _ _ _ _ fun segment => ⟨?_, ?_, ?_⟩⟩ <;>
      (intro same; cases same)
  · exact Replica.isFirstHand_reply fun text named => keeps text (within text named)

end Contact.IsFor

end ShardedView
