import ReversePolish.Proofs.Conversion.Brackets

/-!
# Bracketed units

What went out before a run plays no part in it, `run_after`, and neither does what waits below an
open bracket, `run_atop`. So a list between brackets sends out its postfix form and leaves the stack
as it found it, `selfContained_bracketed`, which is what an operand does: the two may stand for each
other in any list, `toPostfix_unit`.
-/

namespace ReversePolish.Conversion

namespace State

/-- The state after more tokens have gone out before its own. -/
def after (out : Array Token) (s : State) : State := { s with output := out ++ s.output }

/-- The state while more tokens wait below its own. -/
def atop (below : List Token) (s : State) : State := { s with stack := s.stack ++ below }

end State

/-! ### What went out before -/

variable {s s' : State} {e : Element} {below : List Token}

theorem release_after (out : Array Token) (s : State) (p : Token → Bool) :
    (s.after out).release p = (s.release p).after out := by
  have joined : out ++ s.output ++ s.stack.takeWhile p = out ++ (s.output ++ s.stack.takeWhile p) :=
    Array.toList_inj.1 (by simp)
  simp only [State.release, State.after, joined]

theorem hold_after (out : Array Token) (s : State) (t : Token) :
    (s.after out).hold t = (s.hold t).after out := rfl

theorem emit_after (out : Array Token) (s : State) (t : Token) :
    (s.after out).emit t = (s.emit t).after out := by
  simp [State.emit, State.after]

theorem close_after (out : Array Token) (s : State) :
    (s.after out).close = State.after out <$> s.close := by
  unfold State.close
  rw [release_after]
  dsimp only [State.after]
  split <;> rfl

theorem step_after (out : Array Token) (s : State) (e : Element) :
    step (s.after out) e = State.after out <$> step s e := by
  cases e with
  | foreign label value => rfl
  | stray d => rfl
  | token t =>
    cases kind : t.kind with
    | var | const => simp only [step, kind, emit_after]; rfl
    | openPar | not => simp only [step, kind, hold_after]; rfl
    | and | or => simp only [step, kind, release_after, hold_after]; rfl
    | closePar => simp only [step, kind, close_after]

theorem run_after (out : Array Token) (s : State) (es : List Element) :
    run (s.after out) es = State.after out <$> run s es := by
  have alike := run_map (g := id) (step_after out) s es
  rwa [List.map_id] at alike

theorem finish_after (out : Array Token) (s : State) :
    finish (s.after out) = (out.toList ++ ·) <$> finish s := by
  cases waits : s.stack.any isOpen with
  | true => simp [finish, State.after, waits]
  | false => simp [finish, State.after, waits]

/-! ### What waits below -/

theorem takeWhile_atop {p : Token → Bool} (stay : ∀ t ∈ below.head?, p t = false)
    (stack : List Token) :
    (stack ++ below).takeWhile p = stack.takeWhile p ∧
      (stack ++ below).dropWhile p = stack.dropWhile p ++ below := by
  induction stack with
  | nil =>
    cases below with
    | nil => simp
    | cons t below => simp [stay t rfl]
  | cons t stack ih =>
    obtain ⟨taken, dropped⟩ := ih
    by_cases leaves : p t = true
    · simp [leaves, taken, dropped]
    · simp [leaves]

section

variable (shielded : ∀ t ∈ below.head?, isOpen t = true)
include shielded

theorem release_atop {p : Token → Bool} (h : ∀ t, p t = true → isOpen t = false) (s : State) :
    (s.atop below).release p = (s.release p).atop below := by
  have stay : ∀ t ∈ below.head?, p t = false := by
    intro t top
    rw [← Bool.not_eq_true]
    intro leaves
    have opened := shielded t top
    rw [h t leaves] at opened
    cases opened
  obtain ⟨taken, dropped⟩ := takeWhile_atop stay s.stack
  simp only [State.release, State.atop, taken, dropped]

theorem close_atop (h : s.close = .ok s') : (s.atop below).close = .ok (s'.atop below) := by
  unfold State.close at h ⊢
  rw [release_atop shielded (by simp)]
  dsimp only [State.atop] at h ⊢
  split at h
  · cases h
  · next t waiting rest =>
    cases h
    rw [rest]
    rfl

/-- An open bracket shields what waits below it from every step that can be taken above it. -/
theorem step_atop (h : step s e = .ok s') : step (s.atop below) e = .ok (s'.atop below) := by
  cases e with
  | foreign label value => cases h
  | stray d => cases h
  | token t =>
    cases kind : t.kind with
    | var | const | openPar | not =>
      simp only [step, kind] at h ⊢
      cases h
      rfl
    | and | or =>
      simp only [step, kind] at h ⊢
      cases h
      rw [release_atop shielded fun _ => not_open_of_leavesBefore]
      rfl
    | closePar =>
      simp only [step, kind] at h ⊢
      exact close_atop shielded h

theorem run_atop {es : List Element} (h : run s es = .ok s') :
    run (s.atop below) es = .ok (s'.atop below) := by
  induction es generalizing s with
  | nil =>
    cases h
    rfl
  | cons e es ih =>
    obtain ⟨next, first, rest⟩ := bind_ok_iff.1 h
    rw [run_of_step es (step_atop shielded first)]
    exact ih rest

end

/-! ### Units -/

/-- A close bracket sends out what waits above the open one, and leaves what waits below. -/
theorem close_above {o : Token} (opening : isOpen o = true) (flat : s.stack.any isOpen = false)
    (stack : List Token) :
    (s.atop (o :: stack)).close = .ok ⟨s.output ++ s.stack, stack⟩ := by
  have leave : ∀ t ∈ s.stack, (!isOpen t) = true := by simpa using flat
  simp [State.close, State.release, State.atop, opening, List.takeWhile_append_of_pos leave,
    List.dropWhile_append_of_pos leave]

/-- A list that sends out some tokens in every state, and leaves the stack as it finds it. -/
def SelfContained (es : List Element) (p : List Token) : Prop :=
  ∀ s : State, run s es = .ok ⟨s.output ++ p, s.stack⟩

theorem selfContained_operand {x : Token} (h : x.kind.isOperand = true) :
    SelfContained [.token x] [x] := by
  intro s
  have joined : s.output.push x = s.output ++ [x] := Array.toList_inj.1 (by simp)
  rw [run_of_step [] (step_operand h s), ← joined]
  rfl

theorem selfContained_bracketed {es : List Element} {p : List Token} {o c : Token}
    (h : toPostfix es = .ok p) (opens : o.kind = .openPar) (closes : c.kind = .closePar) :
    SelfContained ([.token o] ++ es ++ [.token c]) p := by
  intro s
  have opening : isOpen o = true := by simp [isOpen, opens]
  obtain ⟨inner, ran, finished⟩ := bind_ok_iff.1 h
  obtain ⟨flat, rfl⟩ := finish_ok finished
  have first : step s (.token o) = .ok (s.hold o) := by simp only [step, opens]
  -- the open bracket is put under an empty state, so that the run of `es` alone applies
  have frame : s.hold o = (State.start.atop (o :: s.stack)).after s.output := by
    simp [State.hold, State.after, State.atop, State.start]
  have shielded : ∀ t ∈ (o :: s.stack).head?, isOpen t = true := by
    rintro t ⟨⟩
    exact opening
  have within := run_atop shielded ran
  have last : step (inner.atop (o :: s.stack)) (.token c) =
      .ok ⟨inner.output ++ inner.stack, s.stack⟩ := by
    simp only [step, closes, close_above opening flat]
  have joined : s.output ++ (inner.output ++ inner.stack) =
      s.output ++ (inner.output ++ inner.stack).toList := Array.toList_inj.1 (by simp)
  rw [List.append_assoc, List.singleton_append, run_of_step _ first, frame, run_after, run_append,
    within]
  change State.after s.output <$> run _ [.token c] = _
  rw [run_of_step [] last, ← joined]
  rfl

theorem finish_run (s : State) (ys : List Element) :
    run s ys >>= finish = (s.output.toList ++ ·) <$> (run ⟨#[], s.stack⟩ ys >>= finish) := by
  have front : s = State.after s.output ⟨#[], s.stack⟩ := by simp [State.after]
  conv => lhs; rw [front, run_after]
  cases run ⟨#[], s.stack⟩ ys with
  | error r => rfl
  | ok s' => exact finish_after s.output s'

theorem toPostfix_of_refused {xs : List Element} {r : Refusal} (h : run .start xs = .error r)
    (ys : List Element) : toPostfix (xs ++ ys) = .error r := by
  rw [toPostfix_eq_run, run_append, h]
  rfl

theorem toPostfix_around {es xs : List Element} {p : List Token} {s : State}
    (unit : SelfContained es p) (h : run .start xs = .ok s) (ys : List Element) :
    toPostfix (xs ++ es ++ ys) =
      (s.output.toList ++ p ++ ·) <$> (run ⟨#[], s.stack⟩ ys >>= finish) := by
  rw [toPostfix_eq_run, List.append_assoc, run_of_run _ h, run_of_run _ (unit s), finish_run]
  simp

/-- A list between brackets and an operand may stand for each other: what comes out of the one list
comes out of the other, with the postfix form where the operand is, and both are refused alike. -/
theorem toPostfix_unit {ts : List Element} {p : List Token} {x o c : Token}
    (converts : toPostfix ts = .ok p) (operand : x.kind.isOperand = true)
    (opens : o.kind = .openPar) (closes : c.kind = .closePar) :
    (∀ xs ys : List Element,
      (∀ q, toPostfix (xs ++ [.token x] ++ ys) = .ok q → ∃ q₁ q₂, q = q₁ ++ [x] ++ q₂ ∧
        toPostfix (xs ++ ([.token o] ++ ts ++ [.token c]) ++ ys) = .ok (q₁ ++ p ++ q₂)) ∧
      ∀ e, toPostfix (xs ++ [.token x] ++ ys) = .error e →
        toPostfix (xs ++ ([.token o] ++ ts ++ [.token c]) ++ ys) = .error e) ∧
    toPostfix ([.token o] ++ ts ++ [.token c]) = toPostfix ts := by
  have unit := selfContained_bracketed converts opens closes
  -- the run up to the unit decides: it is refused alike, or what comes after it is the same
  refine ⟨fun xs ys => ?_, ?_⟩
  · cases front : run .start xs with
    | error r =>
      rw [List.append_assoc, List.append_assoc, toPostfix_of_refused front,
        toPostfix_of_refused front]
      exact ⟨fun _ h => (nomatch h), fun _ => id⟩
    | ok s =>
      rw [toPostfix_around (selfContained_operand operand) front, toPostfix_around unit front]
      cases run ⟨#[], s.stack⟩ ys >>= finish with
      | error r => exact ⟨fun _ h => (nomatch h), fun _ => id⟩
      | ok q₂ =>
        refine ⟨?_, fun _ h => (nomatch h)⟩
        rintro q ⟨⟩
        exact ⟨s.output.toList, q₂, rfl, rfl⟩
  · have alone := @toPostfix_around _ [] p .start unit rfl []
    rw [List.nil_append, List.append_nil] at alone
    rw [alone, converts]
    change Except.ok (_ ++ p ++ _) = _
    simp [State.start]

/-- A sum between brackets in place of an operand that is negated, and the same before an element
that is unknown. -/
theorem toPostfix_unit_sum :
    let a : Token := ⟨.var, some "A"⟩
    let b : Token := ⟨.const, some "1"⟩
    let sum : List Element := [.token a, .token ⟨.or, none⟩, .token b]
    let p : List Token := [a, b, ⟨.or, none⟩]
    let unit : List Element := [.token ⟨.openPar, none⟩] ++ sum ++ [.token ⟨.closePar, none⟩]
    toPostfix sum = .ok p ∧ a.kind.isOperand = true ∧
    toPostfix ([.token ⟨.not, none⟩] ++ [.token a] ++ [.token ⟨.and, none⟩, .token b]) =
      .ok [a, ⟨.not, none⟩, b, ⟨.and, none⟩] ∧
    (∃ q₁ q₂, [a, ⟨.not, none⟩, b, ⟨.and, none⟩] = q₁ ++ [a] ++ q₂ ∧
      toPostfix ([.token ⟨.not, none⟩] ++ unit ++ [.token ⟨.and, none⟩, .token b]) =
        .ok (q₁ ++ p ++ q₂)) ∧
    toPostfix ([.token ⟨.not, none⟩] ++ unit ++ [.stray .null]) =
      .error (.unexpectedToken (.datum .null)) := by
  intro a b sum p unit
  have converts : toPostfix sum = .ok p := rfl
  obtain ⟨around, -⟩ :=
    @toPostfix_unit sum p a ⟨.openPar, none⟩ ⟨.closePar, none⟩ converts rfl rfl rfl
  have negated := (around [.token ⟨.not, none⟩] [.token ⟨.and, none⟩, .token b]).1
  have refused := (around [.token ⟨.not, none⟩] [.stray .null]).2
  exact ⟨converts, rfl, rfl, negated _ rfl, refused _ rfl⟩

end ReversePolish.Conversion
