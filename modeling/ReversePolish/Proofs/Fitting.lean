import Mathlib.Algebra.Ring.Nat
import Mathlib.Data.List.DropRight
import ReversePolish.Text.Wrap

/-!
# Texts in their places

A text that a place has room for stays on its line, `wrap_fitting`. Any other is broken between words
or cut, and nothing but that is done to it: `flatten_wrap`, `shorten_cases`, `exists_trimBeyond`.
-/

namespace ReversePolish.Text

/-! ### Widths of parts -/

theorem widthFrom_joiner (last : Option Char) (d : Char) (cs : List Char) :
    widthFrom last (joiner :: d :: cs) = widthFrom last cs := by
  rw [widthFrom.eq_def]
  exact if_pos rfl

theorem widthFrom_selector (last : Option Char) (cs : List Char) :
    widthFrom last (selector :: cs) =
      (if last.any isPicture then 1 else 0) + widthFrom none cs := by
  rw [widthFrom.eq_def]
  exact (if_neg (by decide)).trans (if_pos rfl)

theorem widthFrom_other {c : Char} (joins : c ≠ joiner) (selects : c ≠ selector)
    (last : Option Char) (cs : List Char) :
    widthFrom last (c :: cs) = columns c + widthFrom (if columns c = 0 then last else some c) cs := by
  rw [widthFrom.eq_def]
  exact (if_neg joins).trans (if_neg selects)

/-- What comes before a text can only add to its width. -/
theorem width_le_widthFrom (last : Option Char) (cs : List Char) : width cs ≤ widthFrom last cs := by
  rw [width]
  fun_induction widthFrom last cs with
  | case1 => exact Nat.le_refl 0
  | case2 => exact Nat.le_refl 0
  | case3 last d cs ih => rwa [widthFrom_joiner]
  | case4 last cs _ _ =>
    rw [widthFrom_selector]
    simp
  | case5 last c cs joins selects ih =>
    rw [widthFrom_other joins selects]
    split
    · next narrow =>
      rw [if_pos narrow] at ih
      omega
    · exact Nat.le_refl _

theorem widthFrom_le_append (last : Option Char) (xs ys : List Char) :
    widthFrom last xs ≤ widthFrom last (xs ++ ys) := by
  fun_induction widthFrom last xs with
  | case1 => exact Nat.zero_le _
  | case2 => exact Nat.zero_le _
  | case3 last d cs ih =>
    rw [List.cons_append, List.cons_append, widthFrom_joiner]
    exact ih
  | case4 last cs _ ih =>
    rw [List.cons_append, widthFrom_selector]
    omega
  | case5 last c cs joins selects ih =>
    rw [List.cons_append, widthFrom_other joins selects]
    omega

theorem apart_of_cons {c : Char} {cs : List Char} (apart : (c :: cs).getLast? ≠ some joiner) :
    cs.getLast? ≠ some joiner := by
  intro joins
  apply apart
  rw [List.getLast?_cons, joins]
  rfl

/-- A text in front of another that does not join it takes the columns it takes alone. -/
theorem widthFrom_append (last : Option Char) (xs : List Char)
    (apart : xs.getLast? ≠ some joiner) :
    ∃ next, ∀ ys, widthFrom last (xs ++ ys) = widthFrom last xs + widthFrom next ys := by
  fun_induction widthFrom last xs with
  | case1 last => exact ⟨last, fun ys => (Nat.zero_add _).symm⟩
  | case2 => exact absurd rfl apart
  | case3 last d cs ih =>
    obtain ⟨next, sums⟩ := ih (apart_of_cons (apart_of_cons apart))
    refine ⟨next, fun ys => ?_⟩
    rw [List.cons_append, List.cons_append, widthFrom_joiner]
    exact sums ys
  | case4 last cs _ ih =>
    obtain ⟨next, sums⟩ := ih (apart_of_cons apart)
    refine ⟨next, fun ys => ?_⟩
    rw [List.cons_append, widthFrom_selector, sums ys, Nat.add_assoc]
  | case5 last c cs joins selects ih =>
    obtain ⟨next, sums⟩ := ih (apart_of_cons apart)
    refine ⟨next, fun ys => ?_⟩
    rw [List.cons_append, widthFrom_other joins selects, sums ys, Nat.add_assoc]

theorem width_add_le {xs : List Char} (apart : xs.getLast? ≠ some joiner) (ys : List Char) :
    width xs + width ys ≤ width (xs ++ ys) := by
  obtain ⟨next, sums⟩ := widthFrom_append none xs apart
  have rest := width_le_widthFrom next ys
  rw [width] at rest
  rw [width, width, width, sums]
  omega

theorem width_prefix_le {xs ys : List Char} (h : xs <+: ys) : width xs ≤ width ys := by
  obtain ⟨rest, rfl⟩ := h
  exact widthFrom_le_append none xs rest

/-! ### Words -/

theorem trimEnd_front (cs : List Char) : trimEnd cs <+: cs := List.rdropWhile_prefix isSpace cs

/-- The words are the text, unless it is blank and has none. -/
theorem flatten_spacedWordsFrom (word : List Char) (filled : Bool) (cs : List Char) :
    (spacedWordsFrom word filled cs = [] ∧ filled = false) ∨
      (spacedWordsFrom word filled cs).flatten = word.reverse ++ cs := by
  fun_induction spacedWordsFrom word filled cs with
  | case1 word => exact .inr (by simp)
  | case2 word filled blank => exact .inl ⟨rfl, by simpa using blank⟩
  | case3 word filled c cs _ ih => simpa using ih
  | case4 word filled c cs _ _ ih =>
    rcases ih with ⟨-, absurd⟩ | kept
    · cases absurd
    · exact .inr (by rw [List.flatten_cons, kept]; rfl)
  | case5 word filled c cs _ _ ih =>
    rcases ih with ⟨-, absurd⟩ | kept
    · cases absurd
    · exact .inr (by simpa using kept)

theorem sum_width_spacedWordsFrom (word : List Char) (filled : Bool) (cs : List Char) :
    ((spacedWordsFrom word filled cs).map width).sum ≤ width (word.reverse ++ cs) := by
  fun_induction spacedWordsFrom word filled cs with
  | case1 word => simp
  | case2 word => simp
  | case3 word filled c cs _ ih => simpa using ih
  | case4 word filled c cs _ space ih =>
    -- white space ends the word, so that it joins nothing
    have apart : word.reverse.getLast? ≠ some joiner := by
      rw [List.getLast?_reverse]
      intro joins
      rw [joins, Bool.and_eq_true] at space
      exact absurd space.2 (by decide)
    have sum := width_add_le apart (c :: cs)
    rw [List.map_cons, List.sum_cons]
    exact Nat.le_trans (Nat.add_le_add_left ih _) sum
  | case5 word filled c cs _ _ ih => simpa using ih

/-! ### Lines -/

theorem flatten_filledLine (line : List Char) : (filledLine line).flatten = line := by
  unfold filledLine
  split
  · next empty => exact empty.symm
  · simp

theorem flatten_wrapFrom (limit : Nat) (line : List Char) (used : Nat) (words : List (List Char)) :
    (wrapFrom .ellipsis limit line used words).flatten = line ++ words.flatten := by
  induction words generalizing line used with
  | nil => simp [wrapFrom]
  | cons word words ih =>
    rw [wrapFrom]
    split
    · rw [ih, List.flatten_cons, List.append_assoc]
    · rw [if_pos (.inr rfl), List.flatten_append, flatten_filledLine, ih, List.flatten_cons]

theorem wrapFrom_fitting (o : Overflow) {limit used : Nat} (line : List Char)
    {words : List (List Char)} (room : used + (words.map width).sum ≤ limit) :
    wrapFrom o limit line used words = [line ++ words.flatten] := by
  induction words generalizing line used with
  | nil => simp [wrapFrom]
  | cons word words ih =>
    rw [List.map_cons, List.sum_cons] at room
    have trimmed := width_prefix_le (trimEnd_front word)
    rw [wrapFrom, if_pos (by omega), ih _ (by omega), List.flatten_cons, List.append_assoc]

/-- A line that is wrapped is broken, and nothing of it is lost. -/
theorem flatten_wrap (limit : Nat) (cs : List Char) : (wrap .ellipsis limit cs).flatten = cs := by
  unfold wrap
  split
  · simp
  · next words some =>
    rcases flatten_spacedWordsFrom [] false cs with ⟨none, -⟩ | kept
    · exact absurd none some
    · rw [flatten_wrapFrom]
      exact kept

theorem wrap_fitting (o : Overflow) {limit : Nat} {cs : List Char} (room : width cs ≤ limit) :
    wrap o limit cs = [cs] := by
  unfold wrap
  split
  · rfl
  · next words some =>
    have sum : ((spacedWords cs).map width).sum ≤ limit :=
      Nat.le_trans (sum_width_spacedWordsFrom [] false cs) room
    rcases flatten_spacedWordsFrom [] false cs with ⟨none, -⟩ | kept
    · exact absurd none some
    · rw [wrapFrom_fitting o [] (by omega)]
      exact congrArg (fun line => [line]) kept

/-! ### Cuts -/

theorem exists_cutClusters (limit : Nat) (ks : List Cluster) :
    ∃ front n, front <+: (ks.map Cluster.chars).flatten ∧
      cutClusters limit ks = front ++ List.replicate n ' ' := by
  induction ks generalizing limit with
  | nil => exact ⟨[], 0, List.nil_prefix, rfl⟩
  | cons k ks ih =>
    rw [cutClusters]
    split
    · obtain ⟨front, n, begins, rest⟩ := ih (limit - k.columns)
      refine ⟨k.chars ++ front, n, ?_, by rw [rest, List.append_assoc]⟩
      exact (List.prefix_append_right_inj k.chars).2 begins
    · exact ⟨[], limit, List.nil_prefix, rfl⟩

/-- A line is shortened only if it is too wide. Then it is shown as far as there is room for it. -/
theorem shorten_cases (limit : Nat) (cs : List Char) :
    width cs ≤ limit ∧ shorten limit cs = cs ∨
      limit < width cs ∧ ∃ front n, front <+: cs ∧
        shorten limit cs = front ++ List.replicate n ' ' ++ ['…'] := by
  unfold shorten
  split
  · next room => exact .inl ⟨room, rfl⟩
  · next wide =>
    obtain ⟨front, n, begins, cut⟩ := exists_cutClusters (limit - 1) (clusters cs)
    rw [flatten_clusters] at begins
    exact .inr ⟨by omega, front, n, begins, by rw [cut]⟩

/-- Nothing but white space is trimmed. -/
theorem exists_trimEnd (cs : List Char) :
    ∃ spaces, cs = trimEnd cs ++ spaces ∧ ∀ c ∈ spaces, isSpace c = true := by
  refine ⟨(cs.reverse.takeWhile isSpace).reverse, ?_, fun c member => ?_⟩
  · rw [trimEnd, ← List.reverse_append, List.takeWhile_append_dropWhile, List.reverse_reverse]
  · exact List.mem_takeWhile_imp (List.mem_reverse.1 member)

theorem exists_trimBeyond (limit : Nat) (cs : List Char) :
    ∃ spaces, cs = trimBeyond limit cs ++ spaces ∧ ∀ c ∈ spaces, isSpace c = true := by
  obtain ⟨spaces, whole, blank⟩ := exists_trimEnd cs
  refine ⟨cs.drop (max limit (trimEnd cs).length), (List.take_append_drop ..).symm, ?_⟩
  have later := congrArg (List.drop (trimEnd cs).length) whole
  rw [List.drop_left] at later
  intro c member
  refine blank c ?_
  rw [← later]
  exact (List.drop_suffix_drop_left cs (Nat.le_max_right ..)).subset member

end ReversePolish.Text
