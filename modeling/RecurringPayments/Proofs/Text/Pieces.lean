import RecurringPayments.Text.Blank
import Mathlib

/-!
Splitting at a separator undoes joining with it, as long as no piece holds the separator.
-/
namespace RecurringPayments.Text

variable {separator : Char}

theorem splitAt_ne_nil (s : List Char) : splitAt separator s ≠ [] := by
  induction s with
  | nil => exact List.cons_ne_nil _ _
  | cons c cs ih =>
    rw [splitAt]
    split
    · exact List.cons_ne_nil _ _
    · split <;> exact List.cons_ne_nil _ _

theorem splitAt_cons_separator (s : List Char) :
    splitAt separator (separator :: s) = [] :: splitAt separator s := by
  rw [splitAt]
  split
  · rename_i nothing
    exact absurd nothing (splitAt_ne_nil s)
  · rename_i piece pieces rest
    rw [if_pos (beq_self_eq_true separator), rest]

theorem splitAt_cons_of_ne {c : Char} (h : c ≠ separator) {s piece : List Char}
    {pieces : List (List Char)} (split : splitAt separator s = piece :: pieces) :
    splitAt separator (c :: s) = (c :: piece) :: pieces := by
  have other : (c == separator) = false := beq_false_of_ne h
  rw [splitAt, split]
  simp only [other, Bool.false_eq_true, if_false]

theorem splitAt_append {piece : List Char} (inside : separator ∉ piece) {s first : List Char}
    {pieces : List (List Char)} (split : splitAt separator s = first :: pieces) :
    splitAt separator (piece ++ s) = (piece ++ first) :: pieces := by
  induction piece with
  | nil => exact split
  | cons c piece ih =>
    rw [List.mem_cons, not_or] at inside
    exact splitAt_cons_of_ne (Ne.symm inside.1) (ih inside.2)

theorem not_mem_splitAt (s : List Char) : ∀ piece ∈ splitAt separator s, separator ∉ piece := by
  induction s with
  | nil => simp [splitAt]
  | cons c s ih =>
    have some : splitAt separator s ≠ [] := splitAt_ne_nil s
    obtain ⟨first, pieces, split⟩ := List.exists_cons_of_ne_nil some
    rw [split] at ih
    by_cases h : c = separator
    · rw [h, splitAt_cons_separator, split, List.forall_mem_cons]
      exact ⟨List.not_mem_nil, ih⟩
    · rw [List.forall_mem_cons] at ih
      rw [splitAt_cons_of_ne h split, List.forall_mem_cons, List.mem_cons, not_or]
      exact ⟨⟨Ne.symm h, ih.1⟩, ih.2⟩

theorem splitAt_joinWith {pieces : List (List Char)} (nonempty : pieces ≠ [])
    (inside : ∀ piece ∈ pieces, separator ∉ piece) :
    splitAt separator (joinWith [separator] pieces) = pieces := by
  induction pieces using joinWith.induct with
  | case1 => exact absurd rfl nonempty
  | case2 piece =>
    have nothing : splitAt separator [] = [[]] := rfl
    have whole := splitAt_append (inside piece (.head _)) nothing
    rwa [List.append_nil] at whole
  | case3 piece pieces more ih =>
    rw [List.forall_mem_cons] at inside
    have rest : splitAt separator ([separator] ++ joinWith [separator] pieces) = [] :: pieces := by
      rw [List.singleton_append, splitAt_cons_separator, ih more inside.2]
    rw [joinWith.eq_3 _ _ _ more, List.append_assoc, splitAt_append inside.1 rest, List.append_nil]

end RecurringPayments.Text
