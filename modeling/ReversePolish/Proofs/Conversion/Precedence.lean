import ReversePolish.Proofs.Conversion.Run
import ReversePolish.Proofs.Grammar

/-!
# Precedence and grouping

A phrase of the grammar leaves some operators waiting, and what has been sent out, followed by what
waits, is the postfix form of its formula. `run_derives` shows this for every phrase in every
context that the grammar puts it in.
-/

namespace ReversePolish

def Layer.operator : Layer → Kind
  | .sum => .or
  | .product => .and
  | .factor => .not

namespace Conversion

theorem leavesBefore_or {t : Token} (h : leavesBefore .and t = true) :
    leavesBefore .or t = true := by
  obtain ⟨k, v⟩ := t
  cases k <;> first | rfl | cases h

theorem leavesBefore_and {t : Token} (h : leavesBefore .not t = true) :
    leavesBefore .and t = true := by
  obtain ⟨k, v⟩ := t
  cases k <;> first | rfl | cases h

/-- Nothing on the stack leaves before the operators of a phrase that comes next. -/
def Quiet : Layer → List Token → Prop
  | .factor, _ => True
  | layer, stack => ∀ t ∈ stack.head?, leavesBefore layer.operator t = false

/-- What a phrase does: some operators that bind as tightly as the phrase wait on the old stack, and
once they are out the postfix form of the formula is. -/
def Conveys (layer : Layer) (f : Formula) (s s' : State) : Prop :=
  ∃ waiting, (∀ t ∈ waiting, leavesBefore layer.operator t = true) ∧
    s'.stack = waiting ++ s.stack ∧
    s'.output.toList ++ waiting = s.output.toList ++ f.postorder

theorem takeWhile_waiting {p : Token → Bool} {waiting stack : List Token}
    (leave : ∀ t ∈ waiting, p t = true) (stay : ∀ t ∈ stack.head?, p t = false) :
    (waiting ++ stack).takeWhile p = waiting ∧ (waiting ++ stack).dropWhile p = stack := by
  rw [List.takeWhile_append_of_pos leave, List.dropWhile_append_of_pos leave]
  cases stack with
  | nil => simp
  | cons t stack => simp [stay t rfl]

theorem release_conveyed {layer : Layer} {f : Formula} {s s' : State} {p : Token → Bool}
    (h : Conveys layer f s s') (leave : ∀ t, leavesBefore layer.operator t = true → p t = true)
    (stay : ∀ t ∈ s.stack.head?, p t = false) :
    s'.release p = ⟨s.output ++ f.postorder, s.stack⟩ := by
  obtain ⟨waiting, bound, stack, out⟩ := h
  obtain ⟨taken, dropped⟩ := takeWhile_waiting (fun t member => leave t (bound t member)) stay
  rw [State.release, stack, taken, dropped]
  congr 1
  apply Array.toList_inj.1
  simpa using out

/-- An operator sends out the phrase on its left and waits in its place. -/
theorem step_operator {layer : Layer} {f : Formula} {s s' : State} (h : Conveys layer f s s')
    (quiet : Quiet layer s.stack) (joins : layer ≠ .factor) :
    step s' (.token (.plain layer.operator)) =
      .ok ⟨s.output ++ f.postorder, .plain layer.operator :: s.stack⟩ := by
  cases layer with
  | sum =>
    have released := release_conveyed h (fun _ => id) quiet
    exact congrArg (fun r : State => Except.ok (r.hold (.plain .or))) released
  | product =>
    have released := release_conveyed h (fun _ => id) quiet
    exact congrArg (fun r : State => Except.ok (r.hold (.plain .and))) released
  | factor => exact absurd rfl joins

/-- An operator that waits under the phrase on its right waits after it too. -/
theorem conveys_operator {layer right : Layer} {f g : Formula} {done : List Token} {s s' : State}
    (h : Conveys right g ⟨s.output ++ done, .plain layer.operator :: s.stack⟩ s')
    (tighter : ∀ t, leavesBefore right.operator t = true → leavesBefore layer.operator t = true)
    (form : f.postorder = done ++ g.postorder ++ [.plain layer.operator]) :
    Conveys layer f s s' := by
  obtain ⟨waiting, bound, stack, out⟩ := h
  refine ⟨waiting ++ [.plain layer.operator], ?_, by simpa using stack, ?_⟩
  · intro t member
    rcases List.mem_append.1 member with old | new
    · exact tighter t (bound t old)
    · rw [List.mem_singleton.1 new]
      cases layer <;> rfl
  · rw [← List.append_assoc, out, form]
    simp

theorem conveys_operand {f : Formula} {s : State} {t : Token} (form : f.postorder = [t]) :
    Conveys .factor f s (s.emit t) :=
  ⟨[], by simp, rfl, by simp [form, State.emit]⟩

theorem Conveys.loosen {layer looser : Layer} {f : Formula} {s s' : State}
    (h : Conveys layer f s s')
    (tighter : ∀ t, leavesBefore layer.operator t = true → leavesBefore looser.operator t = true) :
    Conveys looser f s s' := by
  obtain ⟨waiting, bound, rest⟩ := h
  exact ⟨waiting, fun t member => tighter t (bound t member), rest⟩

theorem quiet_product {stack : List Token} (h : Quiet .sum stack) : Quiet .product stack := by
  intro t top
  rw [← Bool.not_eq_true]
  intro leaves
  have stays := h t top
  rw [show Layer.operator .sum = .or from rfl, leavesBefore_or leaves] at stays
  cases stays

/-- A close bracket sends out what waits of the phrase between the brackets. -/
theorem close_conveyed {f : Formula} {s s' : State}
    (h : Conveys .sum f (s.hold (.plain .openPar)) s') :
    ∃ s'', step s' (.token (.plain .closePar)) = .ok s'' ∧ Conveys .factor f s s'' := by
  have released := release_conveyed (p := (!isOpen ·)) h
    (fun t leaves => by simp [not_open_of_leavesBefore leaves]) (by rintro t ⟨⟩; rfl)
  refine ⟨⟨s.output ++ f.postorder, s.stack⟩, ?_, [], by simp, rfl, by simp⟩
  change s'.close = _
  rw [State.close, released]
  rfl

/-- Every phrase is conveyed, wherever nothing that waits has to leave before its operators. -/
theorem run_derives {layer : Layer} {ts : List Token} {f : Formula} (h : Derives layer ts f)
    {s : State} (quiet : Quiet layer s.stack) :
    ∃ s', run s (ts.map .token) = .ok s' ∧ Conveys layer f s s' := by
  induction h generalizing s with
  | letter c => exact ⟨_, rfl, conveys_operand rfl⟩
  | digit b => exact ⟨_, rfl, conveys_operand rfl⟩
  | product _ ih =>
    obtain ⟨s₁, ran, conveys⟩ := ih (quiet_product quiet)
    exact ⟨s₁, ran, conveys.loosen fun _ => leavesBefore_or⟩
  | factor _ ih =>
    obtain ⟨s₁, ran, conveys⟩ := ih (s := s) trivial
    exact ⟨s₁, ran, conveys.loosen fun _ => leavesBefore_and⟩
  | or _ _ ihl ihr =>
    obtain ⟨s₁, ranl, left⟩ := ihl quiet
    have operator := step_operator left quiet (by decide)
    obtain ⟨s₂, ranr, right⟩ := ihr (s := ⟨_, .plain .or :: s.stack⟩) (by rintro t ⟨⟩; rfl)
    refine ⟨s₂, ?_, conveys_operator right (fun _ => leavesBefore_or) rfl⟩
    rw [List.map_append, run_of_run _ ranl, List.map_cons]
    exact (run_of_step _ operator).trans ranr
  | and _ _ ihl ihr =>
    -- a factor is quiet on any stack, also on that of an AND or a NOT
    obtain ⟨s₁, ranl, left⟩ := ihl quiet
    have operator := step_operator left quiet (by decide)
    obtain ⟨s₂, ranr, right⟩ := ihr (s := ⟨_, .plain .and :: s.stack⟩) trivial
    refine ⟨s₂, ?_, conveys_operator right (fun _ => leavesBefore_and) rfl⟩
    rw [List.map_append, run_of_run _ ranl, List.map_cons]
    exact (run_of_step _ operator).trans ranr
  | @not xs f _ ih =>
    obtain ⟨s₁, ran, conveys⟩ := ih (s := s.hold (.plain .not)) trivial
    have form : (Formula.not f).postorder = [] ++ f.postorder ++ [.plain .not] := rfl
    refine ⟨s₁, (run_of_step _ rfl).trans ran, conveys_operator ?_ (fun _ => id) form⟩
    simpa [State.hold, Layer.operator] using conveys
  | brackets _ ih =>
    -- the open bracket on top shields the stack, whatever waits on it
    obtain ⟨s₁, ran, conveys⟩ := ih (s := s.hold (.plain .openPar)) (by rintro t ⟨⟩; rfl)
    obtain ⟨s₂, closed, conveyed⟩ := close_conveyed conveys
    refine ⟨s₂, ?_, conveyed⟩
    rw [List.cons_append, List.map_cons, List.map_append]
    refine (run_of_step _ rfl).trans ((run_of_run _ ran).trans ?_)
    exact run_of_step [] closed

theorem toPostfix_derives {ts : List Token} {f : Formula} (h : Derives .sum ts f) :
    toPostfix (ts.map .token) = .ok f.postorder := by
  obtain ⟨s, ran, waiting, bound, stack, out⟩ := run_derives h (s := .start) (by rintro t ⟨⟩)
  have bracketless : s.stack.any isOpen = false := by
    rw [stack, List.any_eq_false]
    intro t member
    simp [not_open_of_leavesBefore (bound t (by simpa [State.start] using member))]
  rw [toPostfix_eq_run, ran]
  change finish s = _
  rw [finish, bracketless, if_neg Bool.false_ne_true]
  simp [stack, State.start] at out ⊢
  exact out

end Conversion

end ReversePolish
