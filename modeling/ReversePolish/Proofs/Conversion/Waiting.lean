import Mathlib.Data.List.Chain
import ReversePolish.Proofs.Conversion.Brackets
import ReversePolish.Proofs.Conversion.Held
import ReversePolish.Proofs.Splitting

/-!
# What waits

An AND or OR is put on the stack after all that leaves before it, so that it rests on something that
does not, `Rests`. This carries over from step to step, `step_settled`, whatever the order of the
tokens, and orders what waits between two open brackets: at most one OR, on it at most one AND, on
these any number of NOT. `run_waiting` has all that is known of a state that a run can reach.
-/

namespace ReversePolish.Conversion

/-- An AND or OR rests on nothing that leaves before it; others rest on anything. -/
def Rests (above below : Token) : Prop :=
  above.kind.isBinary = true → leavesBefore above.kind below = false

/-- At most one OR, then at most one AND, then any number of NOT. -/
def Layered (level : List Token) : Prop :=
  ∃ o ≤ 1, ∃ a ≤ 1, ∃ n, level.map (·.kind) =
    List.replicate o .or ++ List.replicate a .and ++ List.replicate n .not

/-- Operators and open brackets wait, and each may rest on what is below it. -/
structure State.Settled (s : State) : Prop where
  sorts : ∀ t ∈ s.stack, t.kind.isOperand = false ∧ t.kind ≠ .closePar
  rests : s.stack.IsChain Rests

/-! ### One step -/

namespace State

theorem settled_start : start.Settled := ⟨by simp [start], .nil⟩

variable {s s' : State} {t : Token}

theorem Settled.of_suffix (settled : s.Settled) (h : s'.stack <:+ s.stack) : s'.Settled :=
  ⟨fun t member => settled.sorts t (h.subset member), settled.rests.suffix h⟩

theorem Settled.release (settled : s.Settled) (p : Token → Bool) : (s.release p).Settled :=
  settled.of_suffix (List.dropWhile_suffix p)

theorem Settled.hold (settled : s.Settled) (sort : t.kind.isOperand = false ∧ t.kind ≠ .closePar)
    (rests : ∀ u ∈ s.stack.head?, Rests t u) : (s.hold t).Settled :=
  ⟨List.forall_mem_cons.2 ⟨sort, settled.sorts⟩, List.isChain_cons.2 ⟨rests, settled.rests⟩⟩

theorem rests_released (s : State) (t : Token) :
    ∀ u ∈ (s.release (leavesBefore t.kind)).stack.head?, Rests t u := by
  intro u top _
  have stays := List.head?_dropWhile_not (leavesBefore t.kind) s.stack
  rw [show (s.stack.dropWhile (leavesBefore t.kind)).head? = some u from top] at stays
  simpa using stays

end State

theorem step_settled {s s' : State} {t : Token} (settled : s.Settled) (h : Takes s t s') :
    s'.Settled := by
  cases h with
  | sent operand => exact settled.of_suffix List.suffix_rfl
  | held kind =>
    refine settled.hold ?_ ?_
    · rcases kind with kind | kind <;> simp [kind, Kind.isOperand]
    · intro u _ binary
      rcases kind with kind | kind <;> rw [kind] at binary <;> cases binary
  | joined binary =>
    -- what leaves before the operator is gone when the operator comes to rest
    refine (settled.release _).hold ?_ (s.rests_released t)
    cases kind : t.kind <;> simp_all [Kind.isOperand, Kind.isBinary]
  | @closed u waiting kind opened rest =>
    refine (settled.release (!isOpen ·)).of_suffix ?_
    rw [rest]
    exact List.suffix_cons u waiting

theorem run_settled {s s' : State} {ts : List Token} (settled : s.Settled)
    (h : run s (ts.map .token) = .ok s') : s'.Settled :=
  run_induction (motive := fun _ r => r.Settled) h settled fun _ _ _ _ => step_settled

/-! ### Between two open brackets -/

def IsOperator (t : Token) : Prop := t.kind.isBinary = true ∨ t.kind = .not

/-- Of two operators the upper one is an AND and the lower one an OR, unless the upper is a NOT. -/
theorem and_on_or {t u : Token} (binary : t.kind.isBinary = true) (operator : IsOperator u)
    (rests : Rests t u) : t.kind = .and ∧ u.kind = .or := by
  have stays := rests binary
  obtain ⟨k, v⟩ := t
  obtain ⟨j, w⟩ := u
  unfold IsOperator at operator
  cases k <;> cases j <;> simp_all [leavesBefore, Kind.precedence?, Kind.isBinary]

theorem nothing_under_or {t : Token} {ts : List Token} (kind : t.kind = .or)
    (operators : ∀ u ∈ ts, IsOperator u) (rests : (t :: ts).IsChain Rests) : ts = [] := by
  cases ts with
  | nil => rfl
  | cons u us =>
    have binary : t.kind.isBinary = true := by rw [kind]; rfl
    have upper := (and_on_or binary (operators u List.mem_cons_self) rests.rel).1
    rw [kind] at upper
    cases upper

/-- From the top: NOTs, then at most one AND, then at most one OR. -/
theorem layers_of_rests {ts : List Token} (operators : ∀ t ∈ ts, IsOperator t)
    (rests : ts.IsChain Rests) :
    ∃ o ≤ 1, ∃ a ≤ 1, ∃ n, ts.map (·.kind) =
      List.replicate n .not ++ List.replicate a .and ++ List.replicate o .or := by
  induction ts with
  | nil => exact ⟨0, by omega, 0, by omega, 0, rfl⟩
  | cons t ts ih =>
    obtain ⟨operator, operators⟩ := List.forall_mem_cons.1 operators
    rcases operator with binary | kind
    · cases ts with
      | nil =>
        cases kind : t.kind with
        | and => exact ⟨0, by omega, 1, by omega, 0, by simp [kind]⟩
        | or => exact ⟨1, by omega, 0, by omega, 0, by simp [kind]⟩
        | _ => rw [kind] at binary; cases binary
      | cons u us =>
        obtain ⟨lower, deeper⟩ := List.forall_mem_cons.1 operators
        obtain ⟨upper, under⟩ := and_on_or binary lower rests.rel
        obtain rfl := nothing_under_or under deeper rests.tail
        exact ⟨1, by omega, 1, by omega, 0, by simp [upper, under]⟩
    · obtain ⟨o, single, a, single', n, form⟩ := ih operators rests.tail
      refine ⟨o, single, a, single', n + 1, ?_⟩
      rw [List.map_cons, form, kind]
      rfl

/-! ### The whole stack -/

theorem layered_of_settled {s : State} (settled : s.Settled) {level : List Token}
    (h : level ∈ s.stack.reverse.splitOnP isOpen) : Layered level := by
  obtain ⟨inside, closed⟩ := uncut_of_mem_splitOnP h
  have turned : level.reverse <:+: s.stack := by
    rwa [← List.reverse_infix, List.reverse_reverse]
  have operators : ∀ t ∈ level.reverse, IsOperator t := by
    intro t member
    have unopened := closed t (List.mem_reverse.1 member)
    obtain ⟨other, unclosed⟩ := settled.sorts t (turned.subset member)
    cases kind : t.kind <;> simp_all [IsOperator, isOpen, Kind.isOperand, Kind.isBinary]
  have rests : level.reverse.IsChain Rests := List.IsChain.infix settled.rests turned
  obtain ⟨o, single, a, single', n, form⟩ := layers_of_rests operators rests
  refine ⟨o, single, a, single', n, ?_⟩
  rw [← List.reverse_inj, ← List.map_reverse, form]
  simp

theorem unbracketed_held {s : State} (sorted : s.Sorted) :
    unbracketed s.held = s.output.toList ++ unbracketed s.stack := by
  have free : unbracketed s.output.toList = s.output.toList := by
    rw [unbracketed, List.filter_eq_self]
    intro t member
    simp [sorted.output t member]
  rw [State.held, unbracketed_append, free]

/-- What waits after any list of tokens that is taken, and so whenever a conversion has come that
far: the stack from the bottom up, cut at its open brackets; what it never holds; how many brackets
are open; and that all tokens are out or wait, but for the brackets. -/
theorem run_waiting {ts : List Token} {s : State} (h : run .start (ts.map .token) = .ok s) :
    (∀ rest, toPostfix (ts.map .token ++ rest) = run s rest >>= finish) ∧
    (∀ level ∈ s.stack.reverse.splitOnP isOpen, Layered level) ∧
    (∀ t ∈ s.stack, t.kind.isOperand = false ∧ t.kind ≠ .closePar) ∧
    s.depth + closed (ts.map .token) = opened (ts.map .token) ∧
    (s.output.toList ++ unbracketed s.stack).Perm (unbracketed ts) := by
  have settled := run_settled State.settled_start h
  refine ⟨?_, fun level => layered_of_settled settled, settled.sorts, ?_, ?_⟩
  · intro rest
    rw [toPostfix_eq_run, run_of_run rest h]
  · obtain ⟨s', ran, depth⟩ := run_safe (safe_of_run h)
    obtain rfl : s' = s := Except.ok.inj (ran.symm.trans h)
    rwa [State.depth_start, Nat.zero_add] at depth
  · obtain ⟨sorted, held⟩ := run_held State.sorted_start h
    rwa [unbracketed_held sorted] at held

/-- Tokens that begin no expression: two operands side by side, an AND after an open bracket. -/
theorem run_waiting_unruly :
    let a : Token := ⟨.var, some "A"⟩
    let bang : Token := ⟨.not, some "!"⟩
    let dot : Token := ⟨.and, none⟩
    let plus : Token := ⟨.or, none⟩
    let paren : Token := ⟨.openPar, none⟩
    let ts : List Token := [bang, a, plus, a, a, paren, dot, bang, bang]
    let s : State := ⟨#[a, bang, a, a], [bang, bang, dot, paren, plus]⟩
    run .start (ts.map .token) = .ok s ∧
    s.stack.reverse.splitOnP isOpen = [[plus], [dot, bang, bang]] ∧
    Layered [plus] ∧ Layered [dot, bang, bang] ∧
    s.depth + closed (ts.map .token) = opened (ts.map .token) ∧
    (s.output.toList ++ unbracketed s.stack).Perm (unbracketed ts) := by
  intro a bang dot plus paren ts s
  have ran : run .start (ts.map .token) = .ok s := rfl
  have levels : s.stack.reverse.splitOnP isOpen = [[plus], [dot, bang, bang]] := rfl
  obtain ⟨-, layered, -, depth, held⟩ := run_waiting ran
  rw [levels] at layered
  exact ⟨ran, levels, layered _ (by simp), layered _ (by simp), depth, held⟩

end ReversePolish.Conversion
