import ShardedView.Proofs.Grouping
import ShardedView.Proofs.Json.Printer
import ShardedView.Proofs.SortedMap

/-!
Which maps from numbers to texts are read from documents. Those that were printed are read back:
the members stand there in the order of their names, which is not that of the numbers.
-/

namespace ShardedView.Json

namespace Document

def numberedText? (member : List Piece × Document) : Option (Nat × String) := do
  return (← number32? member.1, ← text? member.2)

theorem isSome_numberedText? {member : List Piece × Document} :
    (numberedText? member).isSome = true ↔ number32? member.1 ≠ none ∧ text? member.2 ≠ none := by
  rw [numberedText?]
  cases number32? member.1 <;> cases text? member.2 <;> simp

theorem bind_numberedText? (member : List Piece × Document) (number : Nat) :
    (numberedText? member).bind (fun entry => if entry.1 = number then some entry.2 else none) =
      if number32? member.1 = some number then text? member.2 else none := by
  rw [numberedText?]
  cases number32? member.1 with
  | none => rfl
  | some name => by_cases own : name = number <;> cases text? member.2 <;> simp [own]

/-- The text that stands for a number: of several members with the number, the last one's. -/
def textFor? (members : List (List Piece × Document)) (number : Nat) : Option String :=
  members.reverse.findSome? fun member =>
    if number32? member.1 = some number then text? member.2 else none

/-- A document lists a map: it is an object with numbers as names and texts as values, and the map
has these. -/
def Lists (document : Document) (map : SortedMap Nat String) : Prop :=
  ∃ members, document = object members ∧
    (∀ member ∈ members, number32? member.1 ≠ none ∧ text? member.2 ≠ none) ∧
    ∀ number, map.find? number = textFor? members number

theorem numberedTexts?_object (members : List (List Piece × Document)) :
    numberedTexts? (object members) = (members.mapM numberedText?).map .ofList := by
  rw [Option.map_eq_bind]
  rfl

theorem find?_ofList_of_members {members : List (List Piece × Document)}
    {entries : List (Nat × String)} (read : members.map numberedText? = entries.map some)
    (number : Nat) : (SortedMap.ofList entries).find? number = textFor? members number := by
  let pick := fun entry : Nat × String => if entry.1 = number then some entry.2 else none
  calc (SortedMap.ofList entries).find? number
    _ = entries.reverse.findSome? pick := SortedMap.find?_ofList entries number
    _ = (entries.map some).reverse.findSome? (·.bind pick) := by
      rw [← List.map_reverse, List.findSome?_map]
      rfl
    _ = members.reverse.findSome? fun member => (numberedText? member).bind pick := by
      rw [← read, ← List.map_reverse, List.findSome?_map]
      rfl
    _ = textFor? members number := by simp only [pick, bind_numberedText?, textFor?]

theorem numberedTexts?_eq_some_iff {document : Document} {map : SortedMap Nat String} :
    numberedTexts? document = some map ↔ document.Lists map := by
  constructor
  · intro read
    cases document with
    | object members =>
      rw [numberedTexts?_object] at read
      obtain ⟨entries, done, rfl⟩ := Option.map_eq_some_iff.1 read
      rw [mapM_eq_some_iff] at done
      refine ⟨members, rfl, fun member listed => ?_, find?_ofList_of_members done⟩
      obtain ⟨entry, -, own⟩ := List.mem_map.1 (done ▸ List.mem_map_of_mem listed)
      exact isSome_numberedText?.1 (own ▸ rfl)
    | _ => cases read
  · rintro ⟨members, rfl, each, found⟩
    obtain ⟨entries, read⟩ := exists_map_some fun member listed =>
      isSome_numberedText?.2 (each member listed)
    rw [numberedTexts?_object, mapM_eq_some_iff.2 read, Option.map_some]
    congr 1
    apply SortedMap.ext_find?
    intro number
    rw [found, find?_ofList_of_members read]

end Document

/-! ### Maps that were printed -/

theorem perm_ofMembers {members : List (String × Json)}
    (distinct : (members.map (·.1)).Nodup) :
    ∃ sorted : List (String × Json), ofMembers members = .obj sorted ∧ sorted.Perm members :=
  ⟨_, rfl, @SortedMap.perm_foldl_insertEntry _ _ _ _ _ _ _ [] members distinct⟩

def numbered (entry : Nat × String) : String × Json :=
  (String.ofList (Digits.ofNat entry.1), .str entry.2)

theorem numbered_injective {left right : Nat × String}
    (same : (numbered left).1 = (numbered right).1) : left.1 = right.1 := by
  rw [← Digits.valueFrom_ofNat left.1, ← Digits.valueFrom_ofNat right.1,
    String.ofList_injective same]

theorem pieceOf_of_isDigit {char : Char} (digit : Digits.isDigit char = true) :
    pieceOf char = .char char := by
  have printable : ¬ (char.toNat < 0x20 ∧ char ∉ lettered) := by
    rw [Digits.isDigit] at digit
    simp only [Bool.and_eq_true, decide_eq_true_eq] at digit
    omega
  rw [pieceOf, if_neg printable]

namespace Document

theorem number32?_pieces {number : Nat} (small : number < UInt32.size) :
    number32? (pieces (String.ofList (Digits.ofNat number))) = some number := by
  have plain : pieces (String.ofList (Digits.ofNat number)) =
      (Digits.ofNat number).map Piece.char := by
    rw [pieces, String.toList_ofList]
    exact List.map_congr_left fun char member =>
      pieceOf_of_isDigit (Digits.isDigit_of_mem_ofNat member)
  have chars : ∀ {read : Piece → Option Char}, (∀ char, read (.char char) = some char) →
      ∀ chars : List Char, (chars.map Piece.char).mapM read = some chars := by
    intro read each chars
    rw [mapM_eq_some_iff, List.map_map]
    exact List.map_congr_left fun char _ => each char
  have read : Numeral.read? (Digits.ofNat number) =
      some ⟨false, Digits.ofNat number, none, none⟩ := Numeral.read?_ofInt (number : Int)
  rw [number32?, plain]
  refine (congrArg (Option.bind · _) (chars (fun _ => rfl) _)).trans ?_
  simp only [bind, Option.bind, read, Digits.valueFrom_ofNat, small, if_true]

/-- What is read for a member that stands for a text with a number. -/
def entryOf (member : String × Json) : Nat × String :=
  (Digits.valueFrom 0 member.1.toList, member.2.text?.getD "")

theorem entryOf_numbered (entry : Nat × String) : entryOf (numbered entry) = entry := by
  rw [entryOf, numbered, String.toList_ofList, Digits.valueFrom_ofNat]
  rfl

theorem mapM_treeMembers {read : List Piece × Document → Option (Nat × String)}
    {members : List (String × Json)}
    (each : ∀ member ∈ members, read (treeMember member) = some (entryOf member)) :
    (treeMembers members).mapM read = some (members.map entryOf) := by
  induction members with
  | nil => rfl
  | cons member rest ih =>
    rw [treeMembers, List.mapM_cons, each member (.head _),
      ih fun member later => each member (.tail _ later)]
    rfl

theorem numberedTexts?_treeMembers {members : List (String × Json)}
    (known : ∀ member ∈ members, ∃ entry, member = numbered entry ∧ entry.1 < UInt32.size) :
    numberedTexts? (.object (treeMembers members)) = some (.ofList (members.map entryOf)) := by
  rw [numberedTexts?, mapM_treeMembers]
  · rfl
  intro member listed
  obtain ⟨entry, rfl, small⟩ := known member listed
  rw [entryOf_numbered, numbered, treeMember]
  simp only [number32?_pieces small, tree, text?, textOf?_pieces, bind, Option.bind, pure,
    Option.map_some, String.ofList_toList]

/-- A map from numbers to texts is read back from the object that it is printed as. -/
theorem numberedTexts?_print {map : SortedMap Nat String}
    (small : ∀ entry ∈ map.entries, entry.1 < UInt32.size) :
    (ofBytes? (Utf8.encode (Json.ofMembers (map.entries.map numbered)).print)).bind
      numberedTexts? = some map := by
  have distinct : ((map.entries.map numbered).map (·.1)).Nodup := by
    rw [List.map_map]
    refine List.pairwise_map.2 (map.sorted.imp fun {first second} less equal => ?_)
    exact Nat.ne_of_lt less (numbered_injective equal)
  obtain ⟨sorted, written, permuted⟩ := perm_ofMembers distinct
  have known : ∀ member ∈ sorted, ∃ entry, member = numbered entry ∧ entry.1 < UInt32.size := by
    intro member found
    obtain ⟨entry, listed, rfl⟩ := List.mem_map.1 (permuted.mem_iff.1 found)
    exact ⟨entry, rfl, small entry listed⟩
  have restored : (sorted.map entryOf).Perm map.entries := by
    refine (permuted.map entryOf).trans ?_
    rw [List.map_map, show entryOf ∘ numbered = id from funext entryOf_numbered, List.map_id]
  rw [written, ofBytes?_print, Option.bind_some, tree, numberedTexts?_treeMembers known,
    SortedMap.ofList_of_perm restored]

end Document

end ShardedView.Json
