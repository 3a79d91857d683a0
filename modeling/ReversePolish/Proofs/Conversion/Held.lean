import Mathlib.Data.List.TakeWhile
import ReversePolish.Proofs.Conversion.Run

/-!
# What a conversion holds

A token that is taken is either out or waits, and only brackets are dropped: `run_held` says so of
every run. Since no bracket goes out, `State.Sorted`, the postfix form of a list of tokens is a
permutation of its tokens other than brackets, `toPostfix_perm`. No operand ever waits, so that
operands keep their order, `run_operands`. `toPostfix_keeps` has both.
-/

namespace ReversePolish.Conversion

def unbracketed (ts : List Token) : List Token := ts.filter (!·.kind.isBracket)

theorem unbracketed_append (xs ys : List Token) :
    unbracketed (xs ++ ys) = unbracketed xs ++ unbracketed ys :=
  List.filter_append _ _

theorem unbracketed_bracket {t : Token} (h : t.kind.isBracket = true) : unbracketed [t] = [] := by
  simp [unbracketed, h]

namespace State

/-- The tokens that are out, and those that wait. -/
def held (s : State) : List Token := s.output.toList ++ s.stack

/-- No bracket is out, and no close bracket waits. -/
structure Sorted (s : State) : Prop where
  output : ∀ t ∈ s.output.toList, t.kind.isBracket = false
  stack : ∀ t ∈ s.stack, t.kind ≠ .closePar

theorem sorted_start : start.Sorted := ⟨by simp [start], by simp [start]⟩

theorem held_emit (s : State) (t : Token) : (s.emit t).held.Perm (s.held ++ [t]) := by
  have moved : ([t] ++ s.stack).Perm (s.stack ++ [t]) := List.perm_append_comm
  simpa [held, emit, List.append_assoc] using moved.append_left s.output.toList

theorem held_hold (s : State) (t : Token) : (s.hold t).held.Perm (s.held ++ [t]) := by
  have moved : ([t] ++ s.stack).Perm (s.stack ++ [t]) := List.perm_append_comm
  simpa [held, hold, List.append_assoc] using moved.append_left s.output.toList

theorem held_release (s : State) (p : Token → Bool) : (s.release p).held = s.held :=
  s.release_append p

/-- Before a bracket is closed, what is released is held, then the open bracket and the rest. -/
theorem held_closed {s : State} {p : Token → Bool} {u : Token} {waiting : List Token}
    (h : (s.release p).stack = u :: waiting) :
    s.held = (s.release p).output.toList ++ ([u] ++ waiting) := by
  rw [← s.held_release p, held, h]
  rfl

theorem Sorted.hold {s : State} {t : Token} (sorted : s.Sorted) (h : t.kind ≠ .closePar) :
    (s.hold t).Sorted :=
  ⟨sorted.output, List.forall_mem_cons.2 ⟨h, sorted.stack⟩⟩

theorem Sorted.emit {s : State} {t : Token} (sorted : s.Sorted) (h : t.kind.isBracket = false) :
    (s.emit t).Sorted := by
  refine ⟨?_, sorted.stack⟩
  intro u member
  rw [State.emit, Array.toList_push] at member
  rcases List.mem_append.1 member with out | same
  · exact sorted.output u out
  · rw [List.mem_singleton.1 same]
    exact h

/-- What is released holds no open bracket. -/
theorem Sorted.release {s : State} {p : Token → Bool} (sorted : s.Sorted)
    (h : ∀ t, p t = true → isOpen t = false) : (s.release p).Sorted := by
  constructor
  · intro t member
    rw [State.release, Array.toList_appendList] at member
    rcases List.mem_append.1 member with out | released
    · exact sorted.output t out
    · have closed := h t (List.mem_takeWhile_imp released)
      have waited := sorted.stack t ((List.takeWhile_sublist p).subset released)
      cases kind : t.kind <;> simp_all [isOpen, Kind.isBracket]
  · intro t member
    exact sorted.stack t ((List.dropWhile_sublist p).subset member)

end State

/-- A step holds what was held and the token that it takes, unless this is a bracket. -/
theorem step_held {s s' : State} {t : Token} (sorted : s.Sorted) (h : Takes s t s') :
    s'.Sorted ∧ (unbracketed s'.held).Perm (unbracketed (s.held ++ [t])) := by
  cases h with
  | sent operand =>
    have free : t.kind.isBracket = false := by
      cases kind : t.kind <;> simp_all [Kind.isOperand, Kind.isBracket]
    exact ⟨sorted.emit free, (s.held_emit t).filter _⟩
  | held kind =>
    exact ⟨sorted.hold (by rcases kind with kind | kind <;> simp [kind]), (s.held_hold t).filter _⟩
  | joined binary =>
    have other : t.kind ≠ .closePar := by
      intro kind
      rw [kind] at binary
      cases binary
    refine ⟨(sorted.release fun t => not_open_of_leavesBefore).hold other, ?_⟩
    have moved := (s.release (leavesBefore t.kind)).held_hold t
    rw [State.held_release] at moved
    exact moved.filter _
  | @closed u waiting kind opened rest =>
    have released : (s.release (!isOpen ·)).Sorted := sorted.release fun t closed => by
      simpa using closed
    refine ⟨⟨released.output, fun t member =>
      released.stack t (rest ▸ List.mem_cons_of_mem _ member)⟩, ?_⟩
    have bracket : u.kind.isBracket = true := by
      rw [beq_iff_eq.1 opened]
      rfl
    have dropped : t.kind.isBracket = true := by
      rw [kind]
      rfl
    rw [State.held_closed rest]
    simp only [State.held, unbracketed_append, unbracketed_bracket bracket,
      unbracketed_bracket dropped, List.nil_append, List.append_nil, List.Perm.refl]

theorem run_held {s s' : State} {ts : List Token} (sorted : s.Sorted)
    (h : run s (ts.map .token) = .ok s') :
    s'.Sorted ∧ (unbracketed s'.held).Perm (unbracketed (s.held ++ ts)) := by
  refine run_induction (motive := fun us r =>
    r.Sorted ∧ (unbracketed r.held).Perm (unbracketed (s.held ++ us))) h ?_ ?_
  · rw [List.append_nil]
    exact ⟨sorted, .refl _⟩
  · rintro us t r r' ⟨sorted', held⟩ takes
    obtain ⟨sorted'', taken⟩ := step_held sorted' takes
    refine ⟨sorted'', taken.trans ?_⟩
    rw [← List.append_assoc, unbracketed_append, unbracketed_append _ [t]]
    exact held.append_right _

theorem held_of_finish {s : State} {p : List Token} (h : finish s = .ok p) : p = s.held :=
  (finish_ok h).2.trans Array.toList_appendList

/-- The postfix form holds the tokens other than brackets, each as often as it was taken. -/
theorem toPostfix_perm {ts p : List Token} (h : toPostfix (ts.map .token) = .ok p) :
    (∀ t ∈ p, t.kind.isBracket = false) ∧ p.Perm (unbracketed ts) := by
  rw [toPostfix_eq_run] at h
  obtain ⟨s, taken, finished⟩ := bind_ok_iff.1 h
  obtain ⟨sorted, held⟩ := run_held State.sorted_start taken
  have closed : ∀ t ∈ s.stack, ¬ isOpen t = true := List.any_eq_false.1 (finish_ok finished).1
  have free : ∀ t ∈ s.held, t.kind.isBracket = false := by
    intro t member
    rcases List.mem_append.1 member with out | waits
    · exact sorted.output t out
    · have bracket := sorted.stack t waits
      have other := closed t waits
      cases kind : t.kind <;> simp_all [isOpen, Kind.isBracket]
  have all : unbracketed s.held = s.held := by
    rw [unbracketed, List.filter_eq_self]
    intro t member
    simp [free t member]
  rw [all] at held
  rw [held_of_finish finished]
  exact ⟨free, held⟩

theorem mem_of_toPostfix {ts p : List Token} (h : toPostfix (ts.map .token) = .ok p) {t : Token}
    (member : t ∈ p) : t ∈ ts :=
  (List.mem_filter.1 ((toPostfix_perm h).2.subset member)).1

/-! ### The order of operands -/

def operands (ts : List Token) : List Token := ts.filter (·.kind.isOperand)

theorem operands_append (xs ys : List Token) : operands (xs ++ ys) = operands xs ++ operands ys :=
  List.filter_append _ _

theorem operands_skip {t : Token} (h : t.kind.isOperand = false) (xs ys : List Token) :
    operands (xs ++ t :: ys) = operands (xs ++ ys) := by
  simp [operands, h]

theorem operands_dropWhile {stack : List Token} (h : operands stack = []) (p : Token → Bool) :
    operands (stack.dropWhile p) = [] := by
  rw [operands, List.filter_eq_nil_iff] at h ⊢
  exact fun t member => h t ((List.dropWhile_sublist p).subset member)

theorem held_hold_operands {s : State} {t : Token} (h : t.kind.isOperand = false) :
    operands (s.hold t).held = operands (s.held ++ [t]) := by
  rw [State.held, State.hold, operands_skip h, operands_skip h, List.append_nil]
  rfl

/-- No operand waits, and a step puts its operand after all others. -/
theorem step_operands {s s' : State} {t : Token} (bare : operands s.stack = []) (h : Takes s t s') :
    operands s'.stack = [] ∧ operands s'.held = operands (s.held ++ [t]) := by
  cases h with
  | sent operand =>
    refine ⟨bare, ?_⟩
    simp only [State.held, State.emit, Array.toList_push, operands_append, bare, List.append_nil]
  | held kind =>
    have other : t.kind.isOperand = false := by rcases kind with kind | kind <;> rw [kind] <;> rfl
    exact ⟨(operands_skip other [] s.stack).trans bare, held_hold_operands other⟩
  | joined binary =>
    have other : t.kind.isOperand = false := by
      cases kind : t.kind <;> simp_all [Kind.isOperand, Kind.isBinary]
    refine ⟨(operands_skip other [] _).trans (operands_dropWhile bare _), ?_⟩
    rw [held_hold_operands other, State.held_release]
  | @closed u waiting kind opened rest =>
    have below := operands_dropWhile bare (!isOpen ·)
    rw [show s.stack.dropWhile (!isOpen ·) = u :: waiting from rest] at below
    have bracket : u.kind.isOperand = false := by
      rw [beq_iff_eq.1 opened]
      rfl
    have dropped : t.kind.isOperand = false := by
      rw [kind]
      rfl
    refine ⟨(operands_skip bracket [] waiting).symm.trans below, ?_⟩
    rw [operands_skip dropped, List.append_nil, State.held_closed rest, List.singleton_append,
      operands_skip bracket]
    rfl

theorem run_operands {s s' : State} {ts : List Token} (bare : operands s.stack = [])
    (h : run s (ts.map .token) = .ok s') :
    operands s'.held = operands (s.held ++ ts) := by
  -- that no operand waits carries over from state to state
  refine (run_induction (motive := fun us r =>
    operands r.stack = [] ∧ operands r.held = operands (s.held ++ us)) h ?_ ?_).2
  · rw [List.append_nil]
    exact ⟨bare, rfl⟩
  · rintro us t r r' ⟨bare', held⟩ takes
    obtain ⟨bare'', taken⟩ := step_operands bare' takes
    refine ⟨bare'', ?_⟩
    rw [taken, operands_append, held, ← operands_append, List.append_assoc]

theorem exists_tokens {s s' : State} {es : List Element} (h : run s es = .ok s') :
    ∃ ts : List Token, es = ts.map .token := by
  induction es generalizing s with
  | nil => exact ⟨[], rfl⟩
  | cons e es ih =>
    obtain ⟨next, first, rest⟩ := bind_ok_iff.1 h
    obtain ⟨t, rfl, -⟩ := takes_of_step first
    obtain ⟨ts, rfl⟩ := ih rest
    exact ⟨t :: ts, rfl⟩

/-- What comes out of a list is its tokens other than brackets, each as often as in the list and
with its value, and the operands in their order. -/
theorem toPostfix_keeps {es : List Element} {p : List Token} (h : toPostfix es = .ok p) :
    ∃ ts : List Token, es = ts.map .token ∧ (∀ t ∈ p, t.kind.isBracket = false) ∧
      p.Perm (unbracketed ts) ∧ operands p = operands ts := by
  obtain ⟨s, ran, finished⟩ := bind_ok_iff.1 h
  obtain ⟨ts, rfl⟩ := exists_tokens ran
  obtain ⟨free, perm⟩ := toPostfix_perm h
  refine ⟨ts, rfl, free, perm, ?_⟩
  rw [held_of_finish finished]
  exact run_operands (s := .start) rfl ran

/-- Tokens that make no expression, with values where none belong. -/
theorem toPostfix_keeps_unruly :
    let a : Token := ⟨.var, none⟩
    let b : Token := ⟨.const, some "b"⟩
    let bang : Token := ⟨.not, some "!"⟩
    let dot : Token := ⟨.and, none⟩
    let es : List Element := [.token dot, .token a, .token bang, .token ⟨.openPar, some "["⟩,
      .token b, .token dot, .token ⟨.closePar, none⟩, .token a]
    toPostfix es = .ok [a, b, dot, a, bang, dot] ∧
    ∃ ts : List Token, es = ts.map .token ∧
      (∀ t ∈ [a, b, dot, a, bang, dot], t.kind.isBracket = false) ∧
      [a, b, dot, a, bang, dot].Perm (unbracketed ts) ∧
      operands [a, b, dot, a, bang, dot] = operands ts := by
  intro a b bang dot es
  have converts : toPostfix es = .ok [a, b, dot, a, bang, dot] := rfl
  exact ⟨converts, toPostfix_keeps converts⟩

end ReversePolish.Conversion
