import Mathlib.Data.List.TakeWhile
import ReversePolish.Proofs.Conversion.Run

/-!
# Brackets and refusals

The open brackets on the stack are those of the elements so far that no close bracket has taken:
`step_depth` for one element, `run_safe` for a list. So the brackets and the unknown elements of a
list decide alone whether it is converted, and which refusal it meets otherwise: `toPostfix_cases`.
-/

namespace ReversePolish

namespace Element

def isUnknown : Element → Bool
  | token _ => false
  | _ => true

def opens : Element → Bool
  | token t => t.kind == .openPar
  | _ => false

def closes : Element → Bool
  | token t => t.kind == .closePar
  | _ => false

end Element

namespace Conversion

/-! ### One element -/

def State.depth (s : State) : Nat := s.stack.countP isOpen

namespace State

theorem depth_start : start.depth = 0 := rfl

theorem depth_hold (s : State) (t : Token) : (s.hold t).depth = s.depth + (isOpen t).toNat := by
  cases h : isOpen t <;> simp [depth, hold, h]

theorem depth_release (s : State) {p : Token → Bool} (h : ∀ t, p t = true → isOpen t = false) :
    (s.release p).depth = s.depth := by
  have taken : (s.stack.takeWhile p).countP isOpen = 0 := by
    rw [List.countP_eq_zero]
    intro t member
    simp [h t (List.mem_takeWhile_imp member)]
  have parts := congrArg (List.countP isOpen) (s.stack.takeWhile_append_dropWhile (p := p))
  rw [List.countP_append, taken, Nat.zero_add] at parts
  exact parts

/-- A close bracket takes the last open one. -/
theorem close_depth (s : State) :
    (s.depth = 0 ∧ s.close = .error .unmatchedBracket) ∨
      ∃ s', s.close = .ok s' ∧ s.depth = s'.depth + 1 := by
  have depth := s.depth_release (p := (!isOpen ·)) (by simp)
  have head := List.head?_dropWhile_not (!isOpen ·) s.stack
  unfold close
  dsimp only
  split
  · next rest =>
    rw [← depth, State.depth, rest]
    exact .inl ⟨rfl, rfl⟩
  · next t waiting rest =>
    rw [show s.stack.dropWhile (!isOpen ·) = t :: waiting from rest] at head
    have opening : isOpen t = true := by simpa using head
    refine .inr ⟨_, rfl, ?_⟩
    rw [← depth, State.depth, rest, List.countP_cons_of_pos opening]
    rfl

end State

theorem step_unknown (s : State) {e : Element} (h : e.isUnknown = true) :
    step s e = .error (.unexpectedToken e.subject) := by
  cases e with
  | token t => cases h
  | foreign label value => rfl
  | stray d => rfl

theorem step_unmatched {s : State} {e : Element} (closes : e.closes = true) (flat : s.depth = 0) :
    step s e = .error .unmatchedBracket := by
  cases e with
  | token t =>
    have kind : t.kind = .closePar := by simpa [Element.closes] using closes
    rcases s.close_depth with ⟨_, refused⟩ | ⟨s', _, depth⟩
    · simpa [step, kind] using refused
    · omega
  | _ => cases closes

/-- Every other element is taken, and the brackets that wait are counted. -/
theorem step_depth {s : State} {e : Element} (known : e.isUnknown = false)
    (matched : e.closes = true → s.depth ≠ 0) :
    ∃ s', step s e = .ok s' ∧ s'.depth + e.closes.toNat = s.depth + e.opens.toNat := by
  cases e with
  | token t =>
    obtain ⟨k, v⟩ := t
    cases k with
    | var => exact ⟨_, rfl, rfl⟩
    | const => exact ⟨_, rfl, rfl⟩
    | openPar =>
      refine ⟨_, rfl, ?_⟩
      rw [State.depth_hold]
      rfl
    | not =>
      refine ⟨_, rfl, ?_⟩
      rw [State.depth_hold]
      rfl
    | and =>
      refine ⟨_, rfl, ?_⟩
      rw [State.depth_hold, State.depth_release _ fun _ => not_open_of_leavesBefore]
      rfl
    | or =>
      refine ⟨_, rfl, ?_⟩
      rw [State.depth_hold, State.depth_release _ fun _ => not_open_of_leavesBefore]
      rfl
    | closePar =>
      rcases s.close_depth with ⟨flat, _⟩ | ⟨s', closed, depth⟩
      · exact absurd flat (matched rfl)
      · exact ⟨s', closed, depth.symm⟩
  | _ => cases known

/-! ### Lists of elements -/

def opened (es : List Element) : Nat := es.countP Element.opens

def closed (es : List Element) : Nat := es.countP Element.closes

theorem opened_cons (e : Element) (es : List Element) :
    opened (e :: es) = opened es + e.opens.toNat := by
  cases h : e.opens <;> simp [opened, h]

theorem closed_cons (e : Element) (es : List Element) :
    closed (e :: es) = closed es + e.closes.toNat := by
  cases h : e.closes <;> simp [closed, h]

theorem opened_append (xs ys : List Element) : opened (xs ++ ys) = opened xs + opened ys :=
  List.countP_append

theorem closed_append (xs ys : List Element) : closed (xs ++ ys) = closed xs + closed ys :=
  List.countP_append

theorem not_opens_of_closes {e : Element} (h : e.closes = true) : e.opens = false := by
  cases e with
  | token t =>
    have kind : t.kind = .closePar := by simpa [Element.closes] using h
    simp [Element.opens, kind]
  | _ => rfl

/-- No element is unknown, and every close bracket has its open one, `depth` of them in front. -/
structure Safe (depth : Nat) (es : List Element) : Prop where
  known : ∀ e ∈ es, e.isUnknown = false
  nested : ∀ pre, pre <+: es → closed pre ≤ depth + opened pre

theorem Safe.closed_le {depth : Nat} {es : List Element} (h : Safe depth es) :
    closed es ≤ depth + opened es := h.nested es List.prefix_rfl

theorem safe_nil (depth : Nat) : Safe depth [] :=
  ⟨by simp, fun pre h => by simp [List.prefix_nil.1 h, closed]⟩

theorem safe_cons_iff {depth : Nat} {e : Element} {es : List Element} :
    Safe depth (e :: es) ↔ e.isUnknown = false ∧ (e.closes = true → depth ≠ 0) ∧
      Safe (depth + e.opens.toNat - e.closes.toNat) es := by
  constructor
  · rintro ⟨known, nested⟩
    have first := nested [e] (by simp)
    rw [opened_cons, closed_cons] at first
    refine ⟨known e List.mem_cons_self, ?_, ?_, ?_⟩
    · intro closes flat
      simp [not_opens_of_closes closes, closes, flat, opened, closed] at first
    · exact fun x member => known x (List.mem_cons_of_mem _ member)
    · intro pre h
      have longer := nested (e :: pre) (List.cons_prefix_cons.2 ⟨rfl, h⟩)
      rw [opened_cons, closed_cons] at longer
      omega
  · rintro ⟨known, matched, knowns, nested⟩
    refine ⟨List.forall_mem_cons.2 ⟨known, knowns⟩, ?_⟩
    intro pre h
    rcases List.prefix_cons_iff.1 h with rfl | ⟨pre, rfl, inner⟩
    · simp [closed]
    · have shorter := nested pre inner
      rw [opened_cons, closed_cons]
      cases closes : e.closes with
      | false => simp [closes] at shorter ⊢; omega
      | true =>
        have front := matched closes
        simp [closes] at shorter ⊢
        omega

theorem run_safe {s : State} {es : List Element} (h : Safe s.depth es) :
    ∃ s', run s es = .ok s' ∧ s'.depth + closed es = s.depth + opened es := by
  induction es generalizing s with
  | nil => exact ⟨s, rfl, rfl⟩
  | cons e es ih =>
    obtain ⟨known, matched, rest⟩ := safe_cons_iff.1 h
    obtain ⟨s₁, taken, depth⟩ := step_depth known matched
    rw [← depth, Nat.add_sub_cancel] at rest
    obtain ⟨s₂, ran, depths⟩ := ih rest
    refine ⟨s₂, (run_of_step _ taken).trans ran, ?_⟩
    rw [opened_cons, closed_cons]
    omega

/-- Only safe lists are taken as a whole. -/
theorem safe_of_run {s s' : State} {es : List Element} (h : run s es = .ok s') :
    Safe s.depth es := by
  induction es generalizing s with
  | nil => exact safe_nil _
  | cons e es ih =>
    obtain ⟨s₁, taken, ran⟩ := bind_ok_iff.1 h
    have known : e.isUnknown = false := by
      rw [← Bool.not_eq_true]
      intro unknown
      simp [step_unknown s unknown] at taken
    have matched : e.closes = true → s.depth ≠ 0 := by
      intro closes flat
      simp [step_unmatched closes flat] at taken
    obtain ⟨s₂, taken', depth⟩ := step_depth known matched
    have same : s₁ = s₂ := Except.ok.inj (taken.symm.trans taken')
    refine safe_cons_iff.2 ⟨known, matched, ?_⟩
    rw [← depth, Nat.add_sub_cancel, ← same]
    exact ih ran

theorem run_unknown {s : State} {pre : List Element} {e : Element} (post : List Element)
    (safe : Safe s.depth pre) (unknown : e.isUnknown = true) :
    run s (pre ++ e :: post) = .error (.unexpectedToken e.subject) := by
  obtain ⟨s', ran, _⟩ := run_safe safe
  rw [run_of_run _ ran, run_cons, step_unknown s' unknown]
  rfl

theorem run_unmatched {s : State} {pre : List Element} {e : Element} (post : List Element)
    (safe : Safe s.depth pre) (closes : e.closes = true)
    (excess : s.depth + opened pre ≤ closed pre) :
    run s (pre ++ e :: post) = .error .unmatchedBracket := by
  obtain ⟨s', ran, depth⟩ := run_safe safe
  rw [run_of_run _ ran, run_cons, step_unmatched closes (by omega)]
  rfl

/-! ### Conversions -/

theorem finish_eq (s : State) :
    finish s = if s.depth = 0 then .ok (s.output ++ s.stack).toList else .error .unmatchedBracket := by
  have flat : s.stack.any isOpen = false ↔ s.depth = 0 := by
    simp [State.depth, List.countP_eq_zero]
  unfold finish
  cases open? : s.stack.any isOpen with
  | false => rw [if_neg Bool.false_ne_true, if_pos (flat.1 open?)]
  | true =>
    rw [if_pos rfl, if_neg]
    intro depth
    simp [flat.2 depth] at open?

theorem toPostfix_safe {es : List Element} (safe : Safe 0 es) (balanced : opened es = closed es) :
    ∃ p, toPostfix es = .ok p := by
  obtain ⟨s, ran, depth⟩ := run_safe (s := .start) safe
  rw [State.depth_start] at depth
  rw [toPostfix_eq_run, ran]
  refine ⟨(s.output ++ s.stack).toList, ?_⟩
  exact (finish_eq s).trans (if_pos (by omega))

theorem toPostfix_unclosed {es : List Element} (safe : Safe 0 es) (open? : closed es < opened es) :
    toPostfix es = .error .unmatchedBracket := by
  obtain ⟨s, ran, depth⟩ := run_safe (s := .start) safe
  rw [State.depth_start] at depth
  rw [toPostfix_eq_run, ran]
  exact (finish_eq s).trans (if_neg (by omega))

theorem safe_of_toPostfix {es : List Element} {p : List Token} (h : toPostfix es = .ok p) :
    Safe 0 es := by
  obtain ⟨s, ran, _⟩ := bind_ok_iff.1 h
  exact safe_of_run ran

/-! ### The first offence -/

def unknownAt? (es : List Element) : Option Nat := es.findIdx? Element.isUnknown

/-- Where the close brackets first outnumber the open ones. -/
def excessAt? (es : List Element) : Option Nat :=
  (List.range es.length).find? fun j => opened (es.take (j + 1)) < closed (es.take (j + 1))

theorem unknownAt?_eq_some {es : List Element} {i : Nat} (h : i ∈ unknownAt? es) :
    ∃ e, es[i]? = some e ∧ e.isUnknown = true := by
  obtain ⟨bound, unknown, _⟩ := List.findIdx?_eq_some_iff_getElem.1 h
  exact ⟨es[i], List.getElem?_eq_getElem bound, unknown⟩

theorem excessAt?_eq_some {es : List Element} {j : Nat} (h : j ∈ excessAt? es) :
    j < es.length ∧ opened (es.take (j + 1)) < closed (es.take (j + 1)) := by
  obtain ⟨excess, bound, _⟩ := List.find?_range_eq_some.1 h
  exact ⟨List.mem_range.1 bound, by simpa using excess⟩

theorem known_before {es : List Element} {k n : Nat} {e : Element}
    (unknown : ∀ i ∈ unknownAt? es, n ≤ i) (before : k < n) (found : es[k]? = some e) :
    e.isUnknown = false := by
  cases first : unknownAt? es with
  | none => exact List.findIdx?_eq_none_iff.1 first e (List.mem_of_getElem? found)
  | some i =>
    obtain ⟨_, _, earlier⟩ := List.findIdx?_eq_some_iff_getElem.1 first
    obtain ⟨_, rfl⟩ := List.getElem?_eq_some_iff.1 found
    simpa using earlier k (Nat.lt_of_lt_of_le before (unknown i first))

theorem nested_before {es : List Element} {k n : Nat} (excess : ∀ j ∈ excessAt? es, n ≤ j)
    (before : k < n) (bound : k < es.length) :
    closed (es.take (k + 1)) ≤ opened (es.take (k + 1)) := by
  cases first : excessAt? es with
  | none => simpa using List.find?_range_eq_none.1 first k bound
  | some j =>
    obtain ⟨_, _, earlier⟩ := List.find?_range_eq_some.1 first
    simpa using earlier k (Nat.lt_of_lt_of_le before (excess j first))

/-- A list is safe up to the first offence. -/
theorem safe_take {es : List Element} {n : Nat} (unknown : ∀ i ∈ unknownAt? es, n ≤ i)
    (excess : ∀ j ∈ excessAt? es, n ≤ j) : Safe 0 (es.take n) := by
  constructor
  · intro e member
    obtain ⟨k, found⟩ := List.mem_iff_getElem?.1 member
    rw [List.getElem?_take] at found
    split at found
    · next before => exact known_before unknown before found
    · cases found
  · intro pre h
    -- a prefix that is not empty ends at a position before the offence
    have whole := List.prefix_iff_eq_take.1 h
    have short := h.length_le
    rw [List.length_take] at short
    cases size : pre.length with
    | zero => simp [List.length_eq_zero_iff.1 size, closed]
    | succ k =>
      rw [size, List.take_take, Nat.min_eq_left (by omega)] at whole
      rw [whole, Nat.zero_add]
      exact nested_before excess (by omega) (by omega)

theorem safe_of_none {es : List Element} (unknown : unknownAt? es = none)
    (excess : excessAt? es = none) : Safe 0 es := by
  have whole : Safe 0 (es.take es.length) := safe_take (by simp [unknown]) (by simp [excess])
  rwa [List.take_length] at whole

theorem take_append_getElem? {es : List Element} {i : Nat} {e : Element} (h : es[i]? = some e) :
    es = es.take i ++ e :: es.drop (i + 1) := by
  obtain ⟨bound, rfl⟩ := List.getElem?_eq_some_iff.1 h
  rw [List.getElem_cons_drop, List.take_append_drop]

theorem toPostfix_unknownAt {es : List Element} {i : Nat} (h : i ∈ unknownAt? es)
    (first : ∀ j ∈ excessAt? es, i < j) :
    ∃ e ∈ es[i]?, toPostfix es = .error (.unexpectedToken e.subject) := by
  obtain ⟨e, found, unknown⟩ := unknownAt?_eq_some h
  have safe : Safe 0 (es.take i) :=
    safe_take (by simp [Option.mem_def.1 h]) fun j excess => (first j excess).le
  refine ⟨e, found, ?_⟩
  rw [take_append_getElem? found, toPostfix_eq_run, run_unknown (s := .start) _ safe unknown]
  rfl

theorem toPostfix_excessAt {es : List Element} {j : Nat} (h : j ∈ excessAt? es)
    (first : ∀ i ∈ unknownAt? es, j ≤ i) : toPostfix es = .error .unmatchedBracket := by
  obtain ⟨bound, excess⟩ := excessAt?_eq_some h
  have safe : Safe 0 (es.take j) := safe_take first (by simp [Option.mem_def.1 h])
  have nested := safe.closed_le
  have found := List.getElem?_eq_getElem bound
  rw [List.take_add_one, found, opened_append, closed_append] at excess
  have closes : es[j].closes = true := by
    rw [← Bool.not_eq_false]
    intro other
    simp [opened, closed, other] at excess nested
    omega
  rw [take_append_getElem? found, toPostfix_eq_run, run_unmatched (s := .start) _ safe closes]
  · rfl
  · rw [State.depth_start]
    simp [opened, closed, closes] at excess nested ⊢
    omega

/-- Tokens are all known, so that only brackets can be at fault. -/
theorem toPostfix_misnested {ts : List Token} (misnested : ¬ Safe 0 (ts.map .token)) :
    toPostfix (ts.map .token) = .error .unmatchedBracket := by
  have known : unknownAt? (ts.map .token) = none := by
    rw [unknownAt?, List.findIdx?_eq_none_iff]
    intro e member
    obtain ⟨t, _, rfl⟩ := List.mem_map.1 member
    rfl
  cases excess : excessAt? (ts.map .token) with
  | none => exact absurd (safe_of_none known excess) misnested
  | some j => exact toPostfix_excessAt excess (by simp [known])

/-- An unknown element or a close bracket without its open one decides, whichever comes first, else an
open bracket without its close one. -/
theorem toPostfix_cases (es : List Element) :
    (∃ i ∈ unknownAt? es, (∀ j ∈ excessAt? es, i < j) ∧
      ∃ e ∈ es[i]?, toPostfix es = .error (.unexpectedToken e.subject)) ∨
    (∀ i ∈ unknownAt? es, ∃ j ∈ excessAt? es, j ≤ i) ∧
      ((excessAt? es ≠ none ∨ closed es < opened es) ∧ toPostfix es = .error .unmatchedBracket ∨
        (excessAt? es = none ∧ opened es ≤ closed es) ∧ ∃ p, toPostfix es = .ok p) := by
  by_cases first : ∃ i ∈ unknownAt? es, ∀ j ∈ excessAt? es, i < j
  · obtain ⟨i, unknown, first⟩ := first
    exact .inl ⟨i, unknown, first, toPostfix_unknownAt unknown first⟩
  · have later : ∀ i ∈ unknownAt? es, ∃ j ∈ excessAt? es, j ≤ i := by
      intro i unknown
      by_contra none
      refine first ⟨i, unknown, fun j excess => ?_⟩
      exact Nat.lt_of_not_le fun order => none ⟨j, excess, order⟩
    refine .inr ⟨later, ?_⟩
    cases excess : excessAt? es with
    | some j =>
      have first : ∀ i ∈ unknownAt? es, j ≤ i := by
        intro i unknown
        obtain ⟨j', same, order⟩ := later i unknown
        rwa [Option.some.inj (excess.symm.trans same)]
      exact .inl ⟨.inl (Option.some_ne_none j), toPostfix_excessAt excess first⟩
    | none =>
      have known : unknownAt? es = none := by
        rw [Option.eq_none_iff_forall_not_mem]
        intro i unknown
        obtain ⟨j, found, _⟩ := later i unknown
        simp [excess] at found
      have safe := safe_of_none known excess
      have nested := safe.closed_le
      by_cases unclosed : closed es < opened es
      · exact .inl ⟨.inr unclosed, toPostfix_unclosed safe unclosed⟩
      · exact .inr ⟨⟨rfl, by omega⟩, toPostfix_safe safe (by omega)⟩

end Conversion

end ReversePolish
