import ShardedView.Proofs.Http.Url

/-!
The paths of URLs that segments are added to, whatever the host is written like and
whatever the texts are: a text that is no segment of its own takes at most the place of
the one before it.
-/

namespace ShardedView

theorem Percent.mem_of_mem_encode {reserved : Char → Bool} {char : Char} {chars : List Char}
    (noPercent : char ≠ '%') (symbol : char.isAlphanum = false)
    (member : char ∈ encode reserved chars) : char ∈ chars := by
  obtain ⟨other, among, member⟩ := List.mem_flatMap.1 member
  split at member
  · obtain ⟨byte, -, member⟩ := List.mem_flatMap.1 member
    rcases mem_triplet member with same | alphanumeric
    · exact absurd same noPercent
    · rw [symbol] at alphanumeric
      contradiction
  · exact List.mem_singleton.1 member ▸ among

namespace Http.Url

structure IsWhole (segment : List Char) : Prop where
  noSlash : '/' ∉ segment
  noQuestion : '?' ∉ segment
  noNumber : '#' ∉ segment

theorem isWhole_nil : IsWhole [] := ⟨nofun, nofun, nofun⟩

theorem isWhole_encode {reserved : Char → Bool} {chars : List Char}
    (slash : '/' ∉ chars ∨ reserved '/' = true) (question : reserved '?' = true)
    (number : reserved '#' = true) : IsWhole (Percent.encode reserved chars) where
  noSlash member := slash.elim
    (fun absent => absent (Percent.mem_of_mem_encode (by decide) rfl member))
    fun taken => Percent.not_mem_encode taken (by decide) rfl chars member
  noQuestion := Percent.not_mem_encode question (by decide) rfl chars
  noNumber := Percent.not_mem_encode number (by decide) rfl chars

theorem isWhole_encodeSegment (text : String) : IsWhole (encodeSegment text) :=
  isWhole_encode (.inr rfl) rfl rfl

/-! ### Reading -/

theorem not_mem_splitSegments {chars segment : List Char}
    (member : segment ∈ splitSegments chars) : '/' ∉ segment := by
  induction chars generalizing segment with
  | nil =>
    rw [List.mem_singleton.1 member]
    nofun
  | cons char rest ih =>
    rw [splitSegments] at member
    split at member
    · next nothing =>
      cases rest with
      | nil => contradiction
      | cons next rest =>
        rw [splitSegments] at nothing
        split at nothing
        · contradiction
        · split at nothing <;> contradiction
    · next first later found =>
      have before : ∀ part ∈ first :: later, '/' ∉ part := fun part among => ih (found ▸ among)
      split at member
      · rcases List.mem_cons.1 member with rfl | member
        · nofun
        · exact before segment member
      · next plain =>
        simp only [Bool.or_eq_true, decide_eq_true_eq, not_or] at plain
        rcases List.mem_cons.1 member with rfl | member
        · intro slash
          rcases List.mem_cons.1 slash with same | inside
          · exact plain.1 same.symm
          · exact before first (.head _) inside
        · exact before segment (.tail _ member)

theorem mem_of_mem_above {path : List (List Char)} {segment : List Char}
    (member : segment ∈ above path) : segment ∈ path := by
  unfold above at member
  split at member
  · exact member
  · exact (List.dropLast_sublist path).subset member

theorem mem_addResolved {isLast : Bool} {path : List (List Char)} {added segment : List Char}
    (member : segment ∈ addResolved isLast path added) :
    segment ∈ path ∨ segment = added ∨ segment = [] := by
  have ends : ∀ {start : List (List Char)} {last : List Char}, segment ∈ start ++ [last] →
      segment ∈ start ∨ segment = last := fun among =>
    (List.mem_append.1 among).imp_right List.mem_singleton.1
  unfold addResolved at member
  split at member
  · split at member
    · exact (ends member).imp mem_of_mem_above .inr
    · exact .inl (mem_of_mem_above member)
  · split at member
    · split at member
      · exact (ends member).imp_right .inr
      · exact .inl member
    · exact (ends member).imp_right .inl

theorem mem_resolve {path added : List (List Char)} {segment : List Char}
    (member : segment ∈ resolve path added) :
    segment ∈ path ∨ segment ∈ added ∨ segment = [] := by
  induction added generalizing path with
  | nil => exact .inl member
  | cons first rest ih =>
    cases rest with
    | nil => exact (mem_addResolved member).imp_right (.imp_left List.mem_singleton.2)
    | cons second rest =>
      rcases ih member with earlier | later | empty
      · refine (mem_addResolved earlier).imp_right (.imp_left ?_)
        rintro rfl
        exact .head _
      · exact .inr (.inl (.tail _ later))
      · exact .inr (.inr empty)

/-- Whatever is read as a URL, the parts of its path and its query end where they are
said to end. -/
theorem isWhole_of_ofRemainder {written : List Char} {url : Url}
    (done : ofRemainder written = .ok url) :
    (∀ segment ∈ url.segments, IsWhole segment) ∧ ∀ query ∈ url.query, '#' ∉ query := by
  unfold ofRemainder at done
  simp only [bind, Except.bind] at done
  split at done
  · contradiction
  · split at done
    · contradiction
    · obtain rfl := Except.ok.inj done
      constructor
      · intro segment member
        rcases mem_resolve member with nowhere | split | rfl
        · contradiction
        · obtain ⟨part, among, rfl⟩ := List.mem_map.1 split
          exact isWhole_encode (.inl (not_mem_splitSegments among)) rfl rfl
        · exact isWhole_nil
      · intro query known
        simp only at known
        split at known
        · contradiction
        · obtain rfl := Option.some.inj known
          exact Percent.not_mem_encode rfl (by decide) rfl _

/-! ### Adding segments -/

/-- A text becomes the last segment, takes the place of the last segment, or is left
out. -/
theorem addSegment_cases (url : Url) (text : String) (path : url.segments ≠ [[]]) :
    url.addSegment text = url ∨ ∃ last, IsWhole last ∧
      (url.addSegment text = { url with segments := url.segments ++ [last] } ∨
        url.addSegment text = { url with segments := url.segments.dropLast ++ [last] }) := by
  by_cases dots : text = "." ∨ text = ".."
  · exact .inl (if_pos dots)
  · simp only [addSegment, if_neg dots, if_neg path, addResolved, above, if_true]
    split
    · refine .inr ⟨[], isWhole_nil, ?_⟩
      split
      · exact .inl rfl
      · exact .inr rfl
    · split
      · exact .inr ⟨[], isWhole_nil, .inl rfl⟩
      · exact .inr ⟨_, isWhole_encode (.inr rfl) rfl rfl, .inl rfl⟩

/-- A text that is a segment of its own stands behind a path, or alone behind the path
`/`. -/
theorem exists_addSegment_eq (url : Url) {text : String} (addressable : IsAddressable text) :
    ∃ before, (before = [] ∨ before = url.segments) ∧
      url.addSegment text = { url with segments := before ++ [encodeSegment text] } := by
  by_cases path : url.segments = [[]]
  · have bare := @addSegment_eq { url with segments := [] } text addressable nofun
    have dots : ¬ (text = "." ∨ text = "..") :=
      fun either => either.elim addressable.noDot addressable.noDots
    refine ⟨[], .inl rfl, ?_⟩
    rw [← bare, addSegment, addSegment, if_neg dots, if_neg dots, if_pos path]
    rfl
  · exact ⟨_, .inr rfl, addSegment_eq addressable path⟩

end Http.Url

end ShardedView
