import Mathlib.Data.List.Basic
import ReversePolish.File.Loader

/-!
# Lines of a file

Lines may be ended by a line feed, a carriage return, or the one after the other, each in its own
way. The expressions of a file are told from its lines alone, `expressionsIn_holds`: where the end of
a line and the line feed of a blank one after it are read as one end, no expression is lost.
-/

namespace ReversePolish

namespace Text

def lineEnds : List (List Char) := [['\n'], ['\r', '\n'], ['\r']]

def Unbroken (cs : List Char) : Prop := '\n' ∉ cs ∧ '\r' ∉ cs

/-- A text that holds some lines, each with an end of its own. The last one may lack it. -/
inductive HoldsLines : List (List Char) → List Char → Prop
  | nil : HoldsLines [] []
  | last (l : List Char) : HoldsLines [l] l
  | line {l stop ls cs} : stop ∈ lineEnds → HoldsLines ls cs → HoldsLines (l :: ls) (l ++ stop ++ cs)

theorem linesFrom_unbroken {cs : List Char} (h : Unbroken cs) (line rest : List Char) :
    linesFrom line (cs ++ rest) = linesFrom (cs.reverse ++ line) rest := by
  induction cs generalizing line with
  | nil => rfl
  | cons c cs ih =>
    obtain ⟨feed, ret⟩ := h
    rw [List.mem_cons, not_or] at feed ret
    have other : ¬ (c = '\n' ∨ c = '\r') := by
      rintro (rfl | rfl)
      · exact feed.1 rfl
      · exact ret.1 rfl
    rw [List.cons_append, linesFrom, if_neg other, ih ⟨feed.2, ret.2⟩]
    · simp
    · intro _ same
      exact absurd same (Ne.symm ret.1)

theorem lines_unbroken {l : List Char} (h : Unbroken l) : lines l = [l] := by
  have read := linesFrom_unbroken h [] []
  simpa [lines, linesFrom] using read

theorem lines_feed {l : List Char} (h : Unbroken l) (cs : List Char) :
    lines (l ++ '\n' :: cs) = l :: lines cs := by
  rw [lines, linesFrom_unbroken h, List.append_nil, linesFrom]
  · simp [lines]
  · simp

theorem lines_return_feed {l : List Char} (h : Unbroken l) (cs : List Char) :
    lines (l ++ '\r' :: '\n' :: cs) = l :: lines cs := by
  rw [lines, linesFrom_unbroken h, List.append_nil, linesFrom, List.reverse_reverse, lines]

theorem lines_return {l : List Char} (h : Unbroken l) {cs : List Char}
    (other : cs.head? ≠ some '\n') : lines (l ++ '\r' :: cs) = l :: lines cs := by
  rw [lines, linesFrom_unbroken h, List.append_nil, linesFrom]
  · simp [lines]
  · rintro rest - rfl
    exact other rfl

end Text

namespace Loader

open Text

/-- The lines that are expressions, trimmed. -/
def kept (ls : List (List Char)) : List (List Char) := (ls.map trim).filter isExpression

theorem kept_cons (l : List Char) (ls : List (List Char)) : kept (l :: ls) = kept [l] ++ kept ls := by
  rw [kept, kept, kept, ← List.filter_append, ← List.map_append, List.singleton_append]

theorem kept_blank (ls : List (List Char)) : kept ([] :: ls) = kept ls := rfl

theorem kept_feed (cs : List Char) : kept (lines ('\n' :: cs)) = kept (lines cs) := by
  have blank : Unbroken [] := ⟨List.not_mem_nil, List.not_mem_nil⟩
  rw [← List.nil_append ('\n' :: cs), lines_feed blank, kept_blank]

/-- A line is kept or not whatever comes after its end. A carriage return may take a line feed that
comes after it, and with it no more than a blank line. -/
theorem kept_line {l stop : List Char} (h : Unbroken l) (ends : stop ∈ lineEnds) (cs : List Char) :
    kept (lines (l ++ stop ++ cs)) = kept [l] ++ kept (lines cs) := by
  simp only [lineEnds, List.mem_cons, List.not_mem_nil, or_false] at ends
  rcases ends with rfl | rfl | rfl
  · rw [List.append_assoc, List.singleton_append, lines_feed h, kept_cons]
  · rw [List.append_assoc, List.cons_append, List.singleton_append, lines_return_feed h, kept_cons]
  · rw [List.append_assoc, List.singleton_append]
    by_cases feed : cs.head? = some '\n'
    · obtain ⟨rest, rfl⟩ := List.head?_eq_some_iff.1 feed
      rw [lines_return_feed h, kept_cons, kept_feed]
    · rw [lines_return h feed, kept_cons]

theorem kept_holds {ls : List (List Char)} {cs : List Char} (h : HoldsLines ls cs)
    (unbroken : ∀ l ∈ ls, Unbroken l) : kept (lines cs) = kept ls := by
  induction h with
  | nil => rfl
  | last l => rw [lines_unbroken (unbroken l List.mem_cons_self)]
  | line ends _ ih =>
    obtain ⟨first, rest⟩ := List.forall_mem_cons.1 unbroken
    rw [kept_line first ends, ih rest, ← kept_cons]

/-- However the lines of a file are ended, its expressions are those of its lines. -/
theorem expressionsIn_holds {ls : List (List Char)} {cs : List Char} (h : HoldsLines ls cs)
    (unbroken : ∀ l ∈ ls, Unbroken l) : expressionsIn cs = (kept ls).map String.ofList :=
  congrArg (List.map String.ofList) (kept_holds h unbroken)

/-- A text that is an expression as it stands on a line. -/
structure Stands (s : String) : Prop where
  unbroken : Unbroken s.toList
  trimmed : trim s.toList = s.toList
  visible : isExpression s.toList = true

/-- Texts that stand on the lines of a file are its expressions. -/
theorem expressionsIn_stands {texts : List String} {cs : List Char}
    (stands : ∀ s ∈ texts, Stands s) (holds : HoldsLines (texts.map String.toList) cs) :
    expressionsIn cs = texts := by
  have unbroken : ∀ l ∈ texts.map String.toList, Unbroken l := by
    intro l member
    obtain ⟨s, present, rfl⟩ := List.mem_map.1 member
    exact (stands s present).unbroken
  have trimmed : (texts.map String.toList).map trim = texts.map String.toList := by
    rw [List.map_map, List.map_inj_left]
    exact fun s present => (stands s present).trimmed
  have all : kept (texts.map String.toList) = texts.map String.toList := by
    rw [kept, trimmed, List.filter_eq_self]
    intro l member
    obtain ⟨s, present, rfl⟩ := List.mem_map.1 member
    exact (stands s present).visible
  rw [expressionsIn_holds holds unbroken, all, List.map_map]
  exact (List.map_congr_left fun s _ => String.ofList_toList).trans (List.map_id' texts)

end Loader

end ReversePolish
