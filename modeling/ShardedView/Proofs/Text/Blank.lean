import Mathlib.Data.List.TakeWhile
import ShardedView.Text.Blank

/-!
What trimming leaves of a text: the part between the blanks at its ends, and nothing of a text of
blanks.
-/

namespace ShardedView.Text

theorem trimChars_append {front inner back : List Char}
    (blank : ∀ char ∈ front ++ back, isBlank char = true) (nonempty : inner ≠ [])
    (solid : ∀ char ∈ inner, isBlank char = false) :
    trimChars (front ++ inner ++ back) = inner := by
  have kept : ∀ {chars : List Char} (rest : List Char), chars ≠ [] →
      (∀ char ∈ chars, isBlank char = false) →
        (chars ++ rest).dropWhile isBlank = chars ++ rest := by
    intro chars rest some solid
    obtain ⟨char, others, rfl⟩ := List.exists_cons_of_ne_nil some
    exact List.dropWhile_cons_of_neg (by simp [solid char (.head _)])
  have blankFront := fun char member => blank char (List.mem_append_left _ member)
  have blankBack : ∀ char ∈ back.reverse, isBlank char = true := fun char member =>
    blank char (List.mem_append_right _ (List.mem_reverse.1 member))
  have reversed := kept [] (mt List.reverse_eq_nil_iff.1 nonempty) fun char member =>
    solid char (List.mem_reverse.1 member)
  rw [List.append_nil] at reversed
  rw [trimChars, List.append_assoc, List.dropWhile_append_of_pos blankFront,
    kept back nonempty solid, List.reverse_append, List.dropWhile_append_of_pos blankBack, reversed,
    List.reverse_reverse]

theorem exists_blanks (chars : List Char) :
    ∃ front back, chars = front ++ trimChars chars ++ back ∧
      ∀ char ∈ front ++ back, isBlank char = true := by
  let rest := chars.dropWhile isBlank
  refine ⟨chars.takeWhile isBlank, (rest.reverse.takeWhile isBlank).reverse, ?_, ?_⟩
  · rw [List.append_assoc, trimChars, ← List.reverse_append, List.takeWhile_append_dropWhile,
      List.reverse_reverse, List.takeWhile_append_dropWhile]
  · intro char member
    rcases List.mem_append.1 member with front | back
    · exact List.all_eq_true.1 List.all_takeWhile char front
    · exact List.all_eq_true.1 List.all_takeWhile char (List.mem_reverse.1 back)

theorem isEmpty_trim (text : String) : (trim text).isEmpty = text.toList.all isBlank := by
  rw [Bool.eq_iff_iff, String.isEmpty_iff, trim, List.all_eq_true]
  constructor
  · intro empty char member
    obtain ⟨front, back, whole, blank⟩ := exists_blanks text.toList
    rw [String.ofList_injective (empty.trans String.ofList_nil.symm), List.append_nil] at whole
    exact blank char (whole ▸ member)
  · intro blank
    rw [trimChars, List.dropWhile_eq_nil_iff.2 blank]
    rfl

end ShardedView.Text
