import Mathlib.Data.List.TakeWhile
import ReversePolish.Conversion

/-!
# Runs of the converter

A run takes the elements of a list one after the other. It may be cut anywhere, `run_append`, and a
conversion is a run from the empty state followed by `finish`. What one step can do is said once, by
`Takes`, and what lasts with every step lasts through a run, `run_induction`.
-/

namespace ReversePolish.Conversion

def run (s : State) (es : List Element) : Except Refusal State := es.foldlM step s

theorem toPostfix_eq_run (es : List Element) : toPostfix es = run .start es >>= finish := rfl

theorem run_cons (s : State) (e : Element) (es : List Element) :
    run s (e :: es) = step s e >>= (run · es) := rfl

theorem run_append (s : State) (xs ys : List Element) :
    run s (xs ++ ys) = run s xs >>= (run · ys) := List.foldlM_append

theorem run_of_step {s s' : State} {e : Element} (es : List Element) (h : step s e = .ok s') :
    run s (e :: es) = run s' es := by
  rw [run_cons, h]
  rfl

theorem run_of_run {s s' : State} {xs : List Element} (ys : List Element) (h : run s xs = .ok s') :
    run s (xs ++ ys) = run s' ys := by
  rw [run_append, h]
  rfl

/-- Operators leave the stack before others, brackets do not. -/
theorem not_open_of_leavesBefore {k : Kind} {t : Token} (h : leavesBefore k t = true) :
    isOpen t = false := by
  obtain ⟨j, v⟩ := t
  cases j <;> first | rfl | cases h

theorem finish_ok {s : State} {p : List Token} (h : finish s = .ok p) :
    s.stack.any isOpen = false ∧ p = (s.output ++ s.stack).toList := by
  unfold finish at h
  split at h
  · cases h
  · next closed =>
    cases h
    exact ⟨Bool.not_eq_true _ ▸ closed, rfl⟩

/-! ### One step -/

/-- What a step does with a token that it takes. -/
inductive Takes (s : State) (t : Token) : State → Prop
  | sent : t.kind.isOperand = true → Takes s t (s.emit t)
  | held : t.kind = .openPar ∨ t.kind = .not → Takes s t (s.hold t)
  | joined : t.kind.isBinary = true → Takes s t ((s.release (leavesBefore t.kind)).hold t)
  | closed {u waiting} : t.kind = .closePar → isOpen u = true →
      (s.release (!isOpen ·)).stack = u :: waiting →
      Takes s t ⟨(s.release (!isOpen ·)).output, waiting⟩

theorem step_operand {t : Token} (h : t.kind.isOperand = true) (s : State) :
    step s (.token t) = .ok (s.emit t) := by
  cases kind : t.kind <;> simp_all [step, Kind.isOperand]

theorem close_ok {s s' : State} (h : s.close = .ok s') :
    ∃ u, isOpen u = true ∧ (s.release (!isOpen ·)).stack = u :: s'.stack ∧
      s'.output = (s.release (!isOpen ·)).output := by
  unfold State.close at h
  dsimp only at h
  split at h
  · cases h
  · next u waiting rest =>
    cases h
    refine ⟨u, ?_, rest, rfl⟩
    have last := List.head?_dropWhile_not (!isOpen ·) s.stack
    have first : (s.stack.dropWhile (!isOpen ·)).head? = some u := by
      rw [show s.stack.dropWhile (!isOpen ·) = u :: waiting from rest]
      rfl
    simpa [first] using last

theorem takes_of_step {s s' : State} {e : Element} (h : step s e = .ok s') :
    ∃ t, e = .token t ∧ Takes s t s' := by
  cases e with
  | foreign label value => cases h
  | stray d => cases h
  | token t =>
    refine ⟨t, rfl, ?_⟩
    cases kind : t.kind with
    | var | const =>
      simp only [step, kind] at h
      cases h
      exact .sent (by rw [kind]; rfl)
    | openPar =>
      simp only [step, kind] at h
      cases h
      exact .held (.inl kind)
    | not =>
      simp only [step, kind] at h
      cases h
      exact .held (.inr kind)
    | and | or =>
      simp only [step, kind] at h
      cases h
      rw [← kind]
      exact .joined (by rw [kind]; rfl)
    | closePar =>
      simp only [step, kind] at h
      obtain ⟨u, opened, stack, output⟩ := close_ok h
      have taken : Takes s t ⟨_, s'.stack⟩ := .closed kind opened stack
      rwa [← output] at taken

/-- What each step does alike on two sides, a run does alike on both. -/
theorem run_map {f : State → State} {g : Element → Element}
    (alike : ∀ s e, step (f s) (g e) = f <$> step s e) (s : State) (es : List Element) :
    run (f s) (es.map g) = f <$> run s es := by
  induction es generalizing s with
  | nil => rfl
  | cons e es ih =>
    rw [List.map_cons, run_cons, run_cons, alike]
    cases step s e with
    | error r => rfl
    | ok s' => exact ih s'

/-- What holds at the start of a run and lasts with every token that is taken holds after the run. -/
theorem run_induction {motive : List Token → State → Prop} {s s' : State} {ts : List Token}
    (h : run s (ts.map .token) = .ok s') (start : motive [] s)
    (next : ∀ us t r r', motive us r → Takes r t r' → motive (us ++ [t]) r') : motive ts s' := by
  induction ts generalizing s motive with
  | nil =>
    cases h
    exact start
  | cons t ts ih =>
    obtain ⟨r, first, rest⟩ := bind_ok_iff.1 h
    obtain ⟨_, ⟨⟩, takes⟩ := takes_of_step first
    exact ih (motive := fun us => motive (t :: us)) rest (next [] t s r start takes)
      fun us => next (t :: us)

end ReversePolish.Conversion
