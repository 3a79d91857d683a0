import ReversePolish.Proofs.Console.Echo

/-!
# Bare texts

A text that is escaped and shown may lose backslashes in front of its brackets or gain one at its
end, and some control characters are never shown. But for these it is shown as it is, whatever it
holds and wherever it stands between tags: `bare_echo`, `bare_unslashed`.
-/

namespace ReversePolish

namespace Markup

/-- A text without its backslashes and without the characters that are never shown. -/
def bare (cs : List Char) : List Char := cs.filter fun c => c != '\\' && !isDropped c

/-- What is shown of a text, bare. -/
def shownBare (cs : List Char) : List Char := bare (shownChars (pieces cs))

theorem bare_append (as bs : List Char) : bare (as ++ bs) = bare as ++ bare bs :=
  List.filter_append ..

theorem bare_cons (c : Char) (cs : List Char) : bare (c :: cs) = bare [c] ++ bare cs :=
  bare_append [c] cs

theorem shownBare_eq (cs : List Char) : shownBare cs = bare (visible (pieces cs)) := by
  rw [shownBare, shownChars, bare, List.filter_filter, bare]
  simp

theorem bare_unslashed (cs : List Char) : bare (unslashed cs) = bare cs := by
  fun_induction unslashed cs with
  | case1 => rfl
  | case2 c cs lost ih =>
    rw [ih, lost.1]
    rfl
  | case3 c cs _ ih => rw [bare_cons, ih, ← bare_cons]

theorem bare_echo (cs : List Char) : bare (echo cs) = bare cs := by
  have guard : bare (endGuard cs) = [] := by
    unfold endGuard
    split <;> rfl
  rw [echo, bare_append, bare_unslashed, guard, List.append_nil]

end Markup

end ReversePolish
