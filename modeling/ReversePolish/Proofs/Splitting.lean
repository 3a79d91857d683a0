import Mathlib.Data.List.Basic

/-!
# Lists cut into pieces

The pieces of a list that is cut at the members with some property lie in the list and have no such
members: `uncut_of_mem_splitOnP`.
-/

namespace ReversePolish

variable {α : Type} {p : α → Bool} {as piece : List α}

/-- The first piece begins the list; the others lie further on. -/
theorem exists_splitOnP (p : α → Bool) (as : List α) :
    ∃ first rest, as.splitOnP p = first :: rest ∧ first <+: as ∧ (∀ a ∈ first, p a = false) ∧
      ∀ piece ∈ rest, piece <:+: as ∧ ∀ a ∈ piece, p a = false := by
  induction as with
  | nil => exact ⟨[], [], rfl, List.prefix_rfl, by simp, by simp⟩
  | cons a as ih =>
    obtain ⟨first, rest, split, front, free, later⟩ := ih
    have longer : ∀ piece ∈ rest, piece <:+: a :: as ∧ ∀ b ∈ piece, p b = false := by
      intro piece member
      obtain ⟨inside, clear⟩ := later piece member
      exact ⟨List.infix_cons inside, clear⟩
    rw [List.splitOnP_cons_eq_if_modifyHead, split]
    by_cases cut : p a = true
    · refine ⟨[], first :: rest, if_pos cut, List.nil_prefix, by simp, ?_⟩
      exact List.forall_mem_cons.2 ⟨⟨List.infix_cons front.isInfix, free⟩, longer⟩
    · refine ⟨a :: first, rest, if_neg cut, List.cons_prefix_cons.2 ⟨rfl, front⟩, ?_, longer⟩
      exact List.forall_mem_cons.2 ⟨by simpa using cut, free⟩

theorem uncut_of_mem_splitOnP (h : piece ∈ as.splitOnP p) :
    piece <:+: as ∧ ∀ a ∈ piece, p a = false := by
  obtain ⟨first, rest, split, front, free, later⟩ := exists_splitOnP p as
  rw [split] at h
  rcases List.mem_cons.1 h with rfl | member
  · exact ⟨front.isInfix, free⟩
  · exact later piece member

end ReversePolish
