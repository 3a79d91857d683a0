import Mathlib.Tactic.Choose
import ReversePolish.Proofs.Conversion.Brackets

/-!
# Relabelled tokens

Where a token goes depends on its kind alone, and all operands go the same way. So a list in which
operands stand for operands, and the other tokens keep their kinds, is taken in step with the list
that it comes from, `run_relabel`: the same is sent out, relabelled, or the same is refused.
`toPostfix_relabel` says this of whole conversions.
-/

namespace ReversePolish

/-- Operands for operands, tokens of their own kind for all other tokens, values at will; what is
unknown stays as it is. -/
structure Relabels (f : Element → Element) : Prop where
  operand : ∀ t : Token, t.kind.isOperand = true →
    ∃ u : Token, f (.token t) = .token u ∧ u.kind.isOperand = true
  other : ∀ t : Token, t.kind.isOperand = false →
    ∃ u : Token, f (.token t) = .token u ∧ u.kind = t.kind
  unknown : ∀ e : Element, e.isUnknown = true → f e = e

/-- A function on tokens, on the tokens among the elements. -/
def Element.relabel (g : Token → Token) : Element → Element
  | token t => .token (g t)
  | e => e

namespace Conversion

def State.relabel (g : Token → Token) (s : State) : State := ⟨s.output.map g, s.stack.map g⟩

/-- The kind of a token may only change from one sort of operand to the other. -/
def Keeps (g : Token → Token) : Prop :=
  ∀ t, (g t).kind = t.kind ∨ t.kind.isOperand = true ∧ (g t).kind.isOperand = true

variable {g : Token → Token}

/-! ### In step -/

theorem isOpen_operand {t : Token} (h : t.kind.isOperand = true) : isOpen t = false := by
  cases kind : t.kind <;> simp_all [isOpen, Kind.isOperand]

theorem leavesBefore_operand {t : Token} (h : t.kind.isOperand = true) (k : Kind) :
    leavesBefore k t = false := by
  cases kind : t.kind <;> simp_all [leavesBefore, Kind.isOperand, Kind.precedence?]

theorem Keeps.isOpen_eq (keeps : Keeps g) (t : Token) : isOpen (g t) = isOpen t := by
  rcases keeps t with same | ⟨before, after⟩
  · rw [isOpen, isOpen, same]
  · rw [isOpen_operand before, isOpen_operand after]

theorem Keeps.leavesBefore_eq (keeps : Keeps g) (k : Kind) (t : Token) :
    leavesBefore k (g t) = leavesBefore k t := by
  rcases keeps t with same | ⟨before, after⟩
  · rw [leavesBefore, leavesBefore, same]
  · rw [leavesBefore_operand before, leavesBefore_operand after]

theorem emit_relabel (s : State) (t : Token) :
    (s.relabel g).emit (g t) = (s.emit t).relabel g := by
  simp [State.relabel, State.emit]

theorem release_relabel {p : Token → Bool} (same : ∀ t, p (g t) = p t) (s : State) :
    (s.relabel g).release p = (s.release p).relabel g := by
  have pulled : p ∘ g = p := funext same
  simp only [State.release, State.relabel, List.takeWhile_map, List.dropWhile_map, pulled]
  congr 1
  apply Array.toList_inj.1
  simp

theorem close_relabel (keeps : Keeps g) (s : State) :
    (s.relabel g).close = State.relabel g <$> s.close := by
  have same : ∀ t, (!isOpen (g t)) = !isOpen t := fun t => congrArg (!·) (keeps.isOpen_eq t)
  unfold State.close
  rw [release_relabel same]
  obtain ⟨output, stack⟩ := s.release (!isOpen ·)
  cases stack <;> rfl

theorem step_relabel (keeps : Keeps g) (s : State) (e : Element) :
    step (s.relabel g) (e.relabel g) = State.relabel g <$> step s e := by
  cases e with
  | foreign label value => rfl
  | stray d => rfl
  | token t =>
    show step (s.relabel g) (.token (g t)) = _
    rcases keeps t with same | ⟨before, after⟩
    · cases kind : t.kind with
      | var | const => simp only [step, same, kind, emit_relabel]; rfl
      | openPar | not => simp only [step, same, kind]; rfl
      | and | or =>
        simp only [step, same, kind, release_relabel (keeps.leavesBefore_eq _)]
        rfl
      | closePar => simp only [step, same, kind, close_relabel keeps]
    · rw [step_operand after, step_operand before, emit_relabel]
      rfl

theorem run_relabel (keeps : Keeps g) (s : State) (es : List Element) :
    run (s.relabel g) (es.map (Element.relabel g)) = State.relabel g <$> run s es :=
  run_map (step_relabel keeps) s es

theorem finish_relabel (keeps : Keeps g) (s : State) :
    finish (s.relabel g) = List.map g <$> finish s := by
  have waits : (s.relabel g).stack.any isOpen = s.stack.any isOpen := by
    show (s.stack.map g).any isOpen = _
    rw [List.any_map]
    congr 1
    exact funext keeps.isOpen_eq
  unfold finish
  rw [waits]
  split
  · rfl
  · simp [State.relabel]

/-! ### Conversions -/

theorem toPostfix_map (keeps : Keeps g) (es : List Element) :
    toPostfix (es.map (Element.relabel g)) = List.map g <$> toPostfix es := by
  have start : State.start.relabel g = .start := by simp [State.relabel, State.start]
  have ran := run_relabel keeps .start es
  rw [start] at ran
  rw [toPostfix_eq_run, toPostfix_eq_run, ran]
  cases run .start es with
  | error r => rfl
  | ok s => exact finish_relabel keeps s

theorem exists_keeps {f : Element → Element} (h : Relabels f) :
    ∃ g, Keeps g ∧ f = Element.relabel g := by
  have token : ∀ t : Token, ∃ u : Token, f (.token t) = .token u ∧
      (u.kind = t.kind ∨ t.kind.isOperand = true ∧ u.kind.isOperand = true) := by
    intro t
    cases sort : t.kind.isOperand with
    | true =>
      obtain ⟨u, same, operand⟩ := h.operand t sort
      exact ⟨u, same, .inr ⟨rfl, operand⟩⟩
    | false =>
      obtain ⟨u, same, kind⟩ := h.other t sort
      exact ⟨u, same, .inl kind⟩
  choose g same keeps using token
  refine ⟨g, keeps, funext fun e => ?_⟩
  cases e with
  | token t => exact same t
  | foreign label value => exact h.unknown _ rfl
  | stray d => exact h.unknown _ rfl

/-- What comes out of a relabelled list is what comes out of the list, relabelled, and the one is
refused as the other is. -/
theorem toPostfix_relabel {f : Element → Element} (h : Relabels f) (es : List Element) :
    (∀ q : List Token, toPostfix (es.map f) = .ok q ↔
      ∃ p, toPostfix es = .ok p ∧ q.map Element.token = (p.map .token).map f) ∧
    ∀ e, toPostfix (es.map f) = .error e ↔ toPostfix es = .error e := by
  obtain ⟨g, keeps, rfl⟩ := exists_keeps h
  rw [toPostfix_map keeps]
  have elements : ∀ p : List Token,
      (p.map Element.token).map (Element.relabel g) = (p.map g).map .token := by
    intro p
    rw [List.map_map, List.map_map]
    rfl
  have tokens : ∀ p q : List Token, q.map Element.token = p.map .token ↔ q = p := fun p q =>
    List.map_inj_right fun _ _ => Element.token.inj
  cases toPostfix es with
  | error r => simp
  | ok p =>
    refine ⟨fun q => ⟨?_, ?_⟩, fun e => ⟨fun h => (nomatch h), fun h => (nomatch h)⟩⟩
    · rintro ⟨⟩
      exact ⟨p, rfl, (elements p).symm⟩
    · rintro ⟨_, ⟨⟩, same⟩
      rw [elements, tokens] at same
      rw [same]
      rfl

/-- Variables and constants change places, and operators and brackets get values, in a list that is
converted and in one that is refused. -/
theorem toPostfix_relabel_swapped :
    let f : Element → Element
      | .token ⟨.var, _⟩ => .token ⟨.const, some "1"⟩
      | .token ⟨.const, _⟩ => .token ⟨.var, none⟩
      | .token ⟨k, _⟩ => .token ⟨k, some "x"⟩
      | e => e
    let es : List Element :=
      [.token ⟨.not, none⟩, .token ⟨.openPar, none⟩, .token ⟨.var, some "A"⟩,
        .token ⟨.or, none⟩, .token ⟨.const, some "0"⟩, .token ⟨.closePar, none⟩]
    Relabels f ∧
    toPostfix es = .ok [⟨.var, some "A"⟩, ⟨.const, some "0"⟩, ⟨.or, none⟩, ⟨.not, none⟩] ∧
    toPostfix (es.map f) =
      .ok [⟨.const, some "1"⟩, ⟨.var, none⟩, ⟨.or, some "x"⟩, ⟨.not, some "x"⟩] ∧
    toPostfix ((es ++ [Element.stray .null]).map f) =
      .error (.unexpectedToken (.datum .null)) := by
  intro f es
  have relabels : Relabels f := by
    refine ⟨?_, ?_, ?_⟩
    · rintro ⟨k, v⟩ operand
      cases k with
      | var => exact ⟨_, rfl, rfl⟩
      | const => exact ⟨_, rfl, rfl⟩
      | _ => cases operand
    · rintro ⟨k, v⟩ other
      cases k with
      | var | const => cases other
      | _ => exact ⟨_, rfl, rfl⟩
    · rintro e unknown
      cases e with
      | token t => cases unknown
      | _ => rfl
  refine ⟨relabels, rfl, ((toPostfix_relabel relabels es).1 _).2 ⟨_, rfl, rfl⟩, ?_⟩
  exact ((toPostfix_relabel relabels (es ++ [Element.stray .null])).2 _).2 rfl

end Conversion

end ReversePolish
