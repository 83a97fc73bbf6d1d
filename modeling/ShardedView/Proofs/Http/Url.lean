import ShardedView.Http.Url
import ShardedView.Proofs.Http.Form
import ShardedView.Proofs.Net.Address

/-!
URLs that are built from a host and segments: a text becomes one segment, which is
neither dropped nor resolved as dots, and is read back from it.
-/

namespace ShardedView.Http.Url

/-! ### The URL of a host -/

theorem takeWhile_eq_self (test : Char → Bool) {chars : List Char}
    (all : ∀ char ∈ chars, test char = true) (rest : List Char)
    (ends : ∀ char ∈ rest.head?, test char = false) :
    (chars ++ rest).takeWhile test = chars ∧ (chars ++ rest).dropWhile test = rest := by
  rw [List.takeWhile_append_of_pos all, List.dropWhile_append_of_pos all]
  cases rest with
  | nil => exact ⟨List.append_nil _, rfl⟩
  | cons char rest =>
    have fails := ends char rfl
    rw [List.takeWhile_cons, List.dropWhile_cons, fails]
    exact ⟨List.append_nil _, rfl⟩

theorem plain_of_isAddressChar {char : Char} (plain : Net.isAddressChar char = true) :
    isDropped char = false ∧ endsAuthority char = false := by
  constructor
  · cases dropped : isDropped char with
    | false => rfl
    | true =>
      simp only [isDropped, Bool.or_eq_true, decide_eq_true_eq] at dropped
      rcases dropped with (rfl | rfl) | rfl <;> exact absurd plain (by decide)
  · cases ends : endsAuthority char with
    | false => rfl
    | true =>
      simp only [endsAuthority, decide_eq_true_eq, List.mem_cons, List.not_mem_nil,
        or_false] at ends
      rcases ends with rfl | rfl | rfl | rfl <;> exact absurd plain (by decide)

/-- The URL of an address and a path, of which the address decides the server and the path
the segments. -/
theorem ofRemainder_address_path {host rest : List Char} (nonempty : host ≠ [])
    (plain : ∀ char ∈ host, Net.isAddressChar char = true)
    (whole : ∀ char ∈ rest, isDropped char = false ∧ char ∉ ['?', '#']) :
    ofRemainder (host ++ '/' :: rest) = (do
      let (credentials, server) := splitCredentials host
      let (name, digits) := splitHost false server
      let name ← Host.normalize name
      let portNumber ← readPortNumber (digits.getD [])
      return {
        credentials := (credentials.map normalizeCredentials).getD []
        host := name
        portNumber
        segments := resolve [] ((splitSegments rest).map (Percent.encode Percent.isReservedInPath))
        query := none
        fragment := none }) := by
  have kept : (host ++ '/' :: rest).filter (!isDropped ·) = host ++ '/' :: rest := by
    refine List.filter_eq_self.2 fun char member => ?_
    rcases List.mem_append.1 member with inside | behind
    · rw [(plain_of_isAddressChar (plain char inside)).1]
      rfl
    · rcases List.mem_cons.1 behind with slash | behind
      · rw [slash]
        rfl
      · rw [(whole char behind).1]
        rfl
  have started : (host ++ '/' :: rest).dropWhile (· ∈ ['/', '\\']) = host ++ '/' :: rest := by
    cases host with
    | nil => exact absurd rfl nonempty
    | cons char others =>
      have first : char ∉ ['/', '\\'] := by
        intro member
        have alone := plain char (.head _)
        simp only [List.mem_cons, List.not_mem_nil, or_false] at member
        rcases member with rfl | rfl <;> exact absurd alone (by decide)
      rw [List.cons_append, List.dropWhile_cons, if_neg (mt of_decide_eq_true first)]
  obtain ⟨authority, behind⟩ := takeWhile_eq_self (fun char => !endsAuthority char)
    (fun char member => by rw [(plain_of_isAddressChar (plain char member)).2]; rfl) ('/' :: rest)
    (by rintro _ ⟨⟩; rfl)
  obtain ⟨path, ended⟩ := takeWhile_eq_self (fun char => decide (char ∉ ['?', '#']))
    (fun char (member : char ∈ '/' :: rest) => by
      rcases List.mem_cons.1 member with slash | behind
      · rw [slash]
        rfl
      · exact decide_eq_true (whole char behind).2) [] nofun
  rw [List.append_nil] at path
  simp only [ofRemainder, kept, started, authority, behind, path, List.drop_length, List.drop_one,
    List.tail_cons, List.takeWhile_nil, List.dropWhile_nil, List.isEmpty_nil, if_true]

/-- The URL of an address has neither a path nor a query, and with a path it leads to the
same server. -/
theorem ofRemainder_address {host : List Char} {url : Url} (nonempty : host ≠ [])
    (plain : ∀ char ∈ host, Net.isAddressChar char = true)
    (done : ofRemainder (host ++ ['/']) = .ok url) :
    url.segments = [[]] ∧ url.query = none ∧
      ∀ rest : List Char, (∀ char ∈ rest, isDropped char = false ∧ char ∉ ['?', '#']) →
        ofRemainder (host ++ '/' :: rest) = .ok { url with
          segments := resolve [] ((splitSegments rest).map
            (Percent.encode Percent.isReservedInPath)) } := by
  rw [@ofRemainder_address_path host [] nonempty plain nofun] at done
  simp only [bind, Except.bind] at done
  split at done
  · contradiction
  · next name normal =>
    split at done
    · contradiction
    · next number read =>
      obtain rfl := Except.ok.inj done
      refine ⟨rfl, rfl, fun rest whole => ?_⟩
      rw [ofRemainder_address_path nonempty plain whole]
      simp only [bind, Except.bind, normal, read]
      rfl

/-! ### Any address -/

/-- The part of a remainder that names the server. -/
def authority (written : List Char) : List Char :=
  ((written.filter (!isDropped ·)).dropWhile (· ∈ ['/', '\\'])).takeWhile (!endsAuthority ·)

def NamesServer (authority : List Char) : Prop :=
  let server := splitHost false (splitCredentials authority).2
  (∃ host, Host.normalize server.1 = .ok host) ∧
    ∃ portNumber, readPortNumber (server.2.getD []) = .ok portNumber

theorem exists_ofRemainder_iff (written : List Char) :
    (∃ url, ofRemainder written = .ok url) ↔ NamesServer (authority written) := by
  unfold ofRemainder NamesServer authority
  dsimp only
  generalize splitHost false _ = server
  cases Host.normalize server.1 with
  | error fault => exact ⟨nofun, nofun⟩
  | ok host =>
    cases readPortNumber (server.2.getD []) with
    | error fault => exact ⟨nofun, nofun⟩
    | ok portNumber => exact ⟨fun _ => ⟨⟨_, rfl⟩, _, rfl⟩, fun _ => ⟨_, rfl⟩⟩

theorem takeWhile_append_of_not {test : Char → Bool} {stop : Char} (ends : test stop = false)
    (front rest : List Char) :
    (front ++ stop :: rest).takeWhile test = front.takeWhile test := by
  induction front with
  | nil => rw [List.nil_append, List.takeWhile_cons, ends]; rfl
  | cons head front ih => rw [List.cons_append, List.takeWhile_cons, List.takeWhile_cons, ih]

theorem exists_ofRemainder {address : List Char} {base : Url}
    (known : ofRemainder (address ++ ['/']) = .ok base) (rest : List Char) :
    ∃ url, ofRemainder (address ++ '/' :: rest) = .ok url := by
  have named := (exists_ofRemainder_iff _).1 ⟨base, known⟩
  rw [exists_ofRemainder_iff]
  have kept : ∀ rest : List Char, ('/' :: rest).filter (!isDropped ·) =
      '/' :: rest.filter (!isDropped ·) := fun rest => List.filter_cons_of_pos rfl
  unfold authority at named ⊢
  rw [List.filter_append, List.dropWhile_append] at named ⊢
  split at named
  · exact absurd named.1 nofun
  · next filled =>
    rw [kept, takeWhile_append_of_not rfl] at named
    rw [if_neg filled, kept, takeWhile_append_of_not rfl]
    exact named

/-! ### Segments -/

structure IsAddressable (text : String) : Prop where
  nonempty : text ≠ ""
  noDot : text ≠ "."
  noDots : text ≠ ".."
  kept : ∀ char ∈ text.toList, isDropped char = false

instance (text : String) : Decidable (IsAddressable text) :=
  decidable_of_iff (text ≠ "" ∧ text ≠ "." ∧ text ≠ ".." ∧ text.toList.all (!isDropped ·) = true)
    ⟨fun ⟨nonempty, noDot, noDots, kept⟩ => ⟨nonempty, noDot, noDots, by simpa using kept⟩,
      fun ⟨nonempty, noDot, noDots, kept⟩ => ⟨nonempty, noDot, noDots, by simpa using kept⟩⟩

def encodeSegment (text : String) : List Char :=
  Percent.encode Percent.isReservedInSegment text.toList

theorem decode_encodeSegment (text : String) :
    Percent.decode ((encodeSegment text).flatMap Utf8.encodeChar) = Utf8.encode text :=
  Percent.decode_encode rfl text.toList

theorem eq_of_decode {text other : String}
    (same : Percent.decode ((encodeSegment text).flatMap Utf8.encodeChar) = Utf8.encode other) :
    text = other := by
  rw [decode_encodeSegment] at same
  exact Utf8.encode_injective same

theorem encodeSegment_ne_nil {text : String} (nonempty : text ≠ "") : encodeSegment text ≠ [] := by
  intro nothing
  refine nonempty (eq_of_decode ?_)
  rw [nothing]
  rfl

theorem toLower_cases (char : Char) :
    char.toLower = char ∨ char.toNat ≤ 90 ∧ 65 ≤ char.toNat ∧
      char.toLower.toNat = char.toNat + 32 := by
  unfold Char.toLower
  split
  · next upper =>
    have least := UInt32.le_iff_toNat_le.1 upper.1
    have greatest := UInt32.le_iff_toNat_le.1 upper.2
    refine .inr ⟨greatest, least, ?_⟩
    show (char.val + ('a'.val - 'A'.val)).toNat = char.val.toNat + 32
    have greatest : char.val.toNat ≤ 90 := greatest
    rw [UInt32.toNat_add]
    show (char.val.toNat + 32) % 4294967296 = _
    omega
  · exact .inl rfl

theorem eq_of_toLower_eq {char symbol : Char} (lower : char.toLower = symbol)
    (symbolic : symbol.toNat < 97) : char = symbol := by
  rcases toLower_cases char with same | ⟨-, least, shifted⟩
  · exact same.symm.trans lower
  · rw [lower] at shifted
    omega

theorem eq_of_toLower_eq_e {char : Char} (lower : char.toLower = 'e') :
    char = 'e' ∨ char = 'E' := by
  rcases toLower_cases char with same | ⟨-, -, shifted⟩
  · exact .inl (same.symm.trans lower)
  · rw [lower] at shifted
    have code : 'e'.toNat = 101 := rfl
    right
    rw [← Char.ofNat_toNat char, show char.toNat = 69 by omega]

def IsPoint (chars : List Char) : Prop :=
  chars = ['.'] ∨ chars = ['%', '2', 'e'] ∨ chars = ['%', '2', 'E']

theorem isPoint_of_map_toLower_point {chars : List Char} (lower : chars.map Char.toLower = ['.']) :
    IsPoint chars := by
  obtain ⟨char, rfl, same⟩ := List.map_eq_singleton_iff.1 lower
  exact .inl (by rw [eq_of_toLower_eq same (by decide)])

theorem isPoint_of_map_toLower_code {chars : List Char}
    (lower : chars.map Char.toLower = ['%', '2', 'e']) : IsPoint chars := by
  obtain ⟨percent, rest, rfl, first, lower⟩ := List.map_eq_cons_iff.1 lower
  obtain ⟨two, rest, rfl, second, lower⟩ := List.map_eq_cons_iff.1 lower
  obtain ⟨letter, rfl, third⟩ := List.map_eq_singleton_iff.1 lower
  rw [eq_of_toLower_eq first (by decide), eq_of_toLower_eq second (by decide)]
  rcases eq_of_toLower_eq_e third with rfl | rfl
  · exact .inr (.inl rfl)
  · exact .inr (.inr rfl)

theorem decode_point_append {chars : List Char} (point : IsPoint chars) (rest : Bytes) :
    Percent.decode (chars.flatMap Utf8.encodeChar ++ rest) = 0x2E :: Percent.decode rest := by
  have coded : ∀ low : UInt8, Bytes.hexValue? (Char.ofNat low.toNat) = some 14 →
      Percent.decode (0x25 :: 0x32 :: low :: rest) = 0x2E :: Percent.decode rest :=
    fun low read => Percent.decode_of_hexValue? rfl read rest
  rcases point with rfl | rfl | rfl
  · exact Percent.decode_cons (by decide) rest
  · exact coded 0x65 rfl
  · exact coded 0x45 rfl

/-- No text but a point is written as one, so that nothing else is resolved as the same
place. -/
theorem isSingleDot_encodeSegment {text : String} (noDot : text ≠ ".") :
    isSingleDot (encodeSegment text) = false := by
  cases single : isSingleDot (encodeSegment text) with
  | false => rfl
  | true =>
    simp only [isSingleDot, Bool.or_eq_true, decide_eq_true_eq] at single
    have point : IsPoint (encodeSegment text) :=
      single.elim isPoint_of_map_toLower_point isPoint_of_map_toLower_code
    have decoded := decode_point_append point []
    rw [List.append_nil] at decoded
    exact absurd (eq_of_decode (decoded.trans rfl)) noDot

theorem exists_points_of_isDoubleDot {chars : List Char} (double : isDoubleDot chars = true) :
    ∃ first second, chars = first ++ second ∧ IsPoint first ∧ IsPoint second := by
  have split : ∀ (first : List Char) {second : List Char},
      chars.map Char.toLower = first ++ second → ∃ left right,
        chars = left ++ right ∧ left.map Char.toLower = first ∧
          right.map Char.toLower = second := fun _ _ equal => List.map_eq_append_iff.1 equal
  simp only [isDoubleDot, Bool.or_eq_true, decide_eq_true_eq] at double
  rcases double with ((lower | lower) | lower) | lower
  · obtain ⟨left, right, rfl, first, second⟩ := split ['.'] lower
    exact ⟨left, right, rfl, isPoint_of_map_toLower_point first,
      isPoint_of_map_toLower_point second⟩
  · obtain ⟨left, right, rfl, first, second⟩ := split ['.'] lower
    exact ⟨left, right, rfl, isPoint_of_map_toLower_point first, isPoint_of_map_toLower_code second⟩
  · obtain ⟨left, right, rfl, first, second⟩ := split ['%', '2', 'e'] lower
    exact ⟨left, right, rfl, isPoint_of_map_toLower_code first, isPoint_of_map_toLower_point second⟩
  · obtain ⟨left, right, rfl, first, second⟩ := split ['%', '2', 'e'] lower
    exact ⟨left, right, rfl, isPoint_of_map_toLower_code first, isPoint_of_map_toLower_code second⟩

theorem isDoubleDot_encodeSegment {text : String} (noDots : text ≠ "..") :
    isDoubleDot (encodeSegment text) = false := by
  cases double : isDoubleDot (encodeSegment text) with
  | false => rfl
  | true =>
    obtain ⟨first, second, equal, firstPoint, secondPoint⟩ := exists_points_of_isDoubleDot double
    have decoded := decode_point_append secondPoint []
    rw [List.append_nil] at decoded
    refine absurd (eq_of_decode ?_) noDots
    rw [equal, List.flatMap_append, decode_point_append firstPoint, decoded]
    rfl

theorem addSegment_eq {url : Url} {text : String} (addressable : IsAddressable text)
    (path : url.segments ≠ [[]]) :
    url.addSegment text = { url with segments := url.segments ++ [encodeSegment text] } := by
  have dots : ¬ (text = "." ∨ text = "..") :=
    fun either => either.elim addressable.noDot addressable.noDots
  have kept : text.toList.filter (!isDropped ·) = text.toList :=
    List.filter_eq_self.2 fun char member => by rw [addressable.kept char member]; rfl
  rw [addSegment, if_neg dots, kept, ← encodeSegment]
  simp only [if_neg path, addResolved, isDoubleDot_encodeSegment addressable.noDots,
    isSingleDot_encodeSegment addressable.noDot, Bool.false_eq_true, if_false]

theorem foldl_addSegment {url : Url} {texts : List String}
    (addressable : ∀ text ∈ texts, IsAddressable text) (path : url.segments ≠ [[]]) :
    texts.foldl addSegment url =
      { url with segments := url.segments ++ texts.map encodeSegment } := by
  induction texts generalizing url with
  | nil => rw [List.map_nil, List.append_nil]; rfl
  | cons text rest ih =>
    have own := addressable text (.head _)
    have longer : url.segments ++ [encodeSegment text] ≠ [[]] := by
      intro same
      rw [← List.nil_append [[]]] at same
      exact encodeSegment_ne_nil own.nonempty
        (List.cons.inj (List.append_inj' same rfl).2).1
    rw [List.foldl_cons, addSegment_eq own path,
      ih (fun text member => addressable text (.tail _ member)) longer, List.map_cons,
      List.append_assoc, List.singleton_append]

theorem addSegments_eq {url : Url} {texts : List String} (root : url.segments = [[]])
    (addressable : ∀ text ∈ texts, IsAddressable text) :
    url.addSegments texts = { url with segments := texts.map encodeSegment } := by
  have bare : (if url.segments.getLast? = some [] then url.segments.dropLast else url.segments) =
      [] := by
    rw [root]
    rfl
  rw [addSegments, bare]
  exact foldl_addSegment addressable nofun

theorem addSegments_append_empty {url : Url} {texts : List String} (root : url.segments = [[]])
    (addressable : ∀ text ∈ texts, IsAddressable text) (nonempty : texts ≠ []) :
    url.addSegments (texts ++ [""]) =
      { url with segments := (texts ++ [""]).map encodeSegment } := by
  have longer : texts.map encodeSegment ≠ [[]] := by
    intro same
    obtain ⟨text, rfl, own⟩ := List.map_eq_singleton_iff.1 same
    exact encodeSegment_ne_nil (addressable text (.head _)).nonempty own
  have added := addSegments_eq root addressable
  unfold addSegments at added ⊢
  rw [List.foldl_append, added, List.foldl_cons, List.foldl_nil, addSegment,
    if_neg (by decide), if_neg longer, List.map_append]
  rfl

theorem not_mem_encodeSegment (char : Char) (reserved : Percent.isReservedInSegment char = true)
    (noPercent : char ≠ '%') (symbol : char.isAlphanum = false) (text : String) :
    char ∉ encodeSegment text :=
  Percent.not_mem_encode reserved noPercent symbol text.toList

end ShardedView.Http.Url
