import ReversePolish.Proofs.Conversion.Brackets
import ReversePolish.Proofs.Conversion.Precedence
import ReversePolish.Proofs.Neighbours

/-!
# Lists that are phrases

The converse of `Derives.joined`: a list whose neighbours fit and whose brackets nest is derived by
the grammar, `exists_derives`. The list is read from the left, the longest phrase of each layer
first, and `Continues` says what may follow.
-/

namespace ReversePolish

/-- Tokens that may follow, `depth` brackets being open, where an operand has just ended or not. -/
inductive Continues : Bool → Nat → List Token → Prop
  | done : Continues true 0 []
  | letter {depth ts} (c : Letter) : Continues true depth ts →
      Continues false depth (.letter c :: ts)
  | digit {depth ts} (b : Bool) : Continues true depth ts → Continues false depth (.digit b :: ts)
  | not {depth ts} : Continues false depth ts → Continues false depth (.plain .not :: ts)
  | opening {depth ts} : Continues false (depth + 1) ts →
      Continues false depth (.plain .openPar :: ts)
  | closing {depth ts} : Continues true depth ts →
      Continues true (depth + 1) (.plain .closePar :: ts)
  | and {depth ts} : Continues false depth ts → Continues true depth (.plain .and :: ts)
  | or {depth ts} : Continues false depth ts → Continues true depth (.plain .or :: ts)

namespace Layer

def operators : Layer → List Kind
  | sum => [.or, .and]
  | product => [.and]
  | factor => []

/-- A phrase does not go on into these tokens. -/
def Stops (layer : Layer) (ts : List Token) : Prop :=
  ∀ k ∈ layer.operators, ts.head? ≠ some (.plain k)

end Layer

/-- The tokens begin with a phrase that is as long as can be. -/
def Begins (layer : Layer) (depth : Nat) (ts : List Token) : Prop :=
  ∃ xs rest f, ts = xs ++ rest ∧ Derives layer xs f ∧ Continues true depth rest ∧
    layer.Stops rest

/-- What is left after a sum is the end, or the bracket that closes it. -/
theorem rest_of_sum {depth : Nat} {ts : List Token} (h : Continues true depth ts)
    (stops : Layer.Stops .sum ts) :
    (depth = 0 ∧ ts = []) ∨
      ∃ d rest, depth = d + 1 ∧ ts = .plain .closePar :: rest ∧ Continues true d rest := by
  cases h with
  | done => exact .inl ⟨rfl, rfl⟩
  | closing rest => exact .inr ⟨_, _, rfl, rfl, rest⟩
  | and _ => exact absurd rfl (stops .and (by decide))
  | or _ => exact absurd rfl (stops .or (by decide))

theorem begins_factor {n : Nat}
    (sums : ∀ depth ts, ts.length < n → Continues false depth ts → Begins .sum depth ts)
    {depth : Nat} {ts : List Token} (short : ts.length ≤ n) (h : Continues false depth ts) :
    Begins .factor depth ts := by
  induction ts generalizing depth with
  | nil => cases h
  | cons t ts ih =>
    rw [List.length_cons] at short
    cases h with
    | letter c left => exact ⟨[.letter c], ts, _, rfl, .letter c, left, by rintro k ⟨⟩⟩
    | digit b left => exact ⟨[.digit b], ts, _, rfl, .digit b, left, by rintro k ⟨⟩⟩
    | not inner =>
      obtain ⟨xs, rest, f, rfl, derives, left⟩ := ih (by omega) inner
      exact ⟨_ :: xs, rest, _, rfl, .not derives, left⟩
    | opening inner =>
      obtain ⟨xs, rest, f, rfl, derives, left, stops⟩ := sums _ _ (by omega) inner
      rcases rest_of_sum left stops with ⟨flat, _⟩ | ⟨d, rest, same, rfl, left⟩
      · cases flat
      · cases same
        exact ⟨_ :: xs ++ [.plain .closePar], rest, f, by simp, .brackets derives, left,
          by rintro k ⟨⟩⟩

/-- A phrase takes in one part after the other, as long as the operator of its layer follows. -/
theorem begins_chain {layer right : Layer} {n : Nat}
    (operators : layer.operators = layer.operator :: right.operators)
    (joins : ∀ {xs ys l r}, Derives layer xs l → Derives right ys r →
      ∃ f, Derives layer (xs ++ .plain layer.operator :: ys) f)
    (enters : ∀ {depth ts}, Continues true depth (.plain layer.operator :: ts) →
      Continues false depth ts)
    (parts : ∀ {depth ts}, ts.length ≤ n → Continues false depth ts → Begins right depth ts)
    {depth : Nat} {xs rest : List Token} {f : Formula} (short : rest.length ≤ n)
    (derives : Derives layer xs f) (left : Continues true depth rest)
    (stops : right.Stops rest) : Begins layer depth (xs ++ rest) := by
  -- each part uses up an operator, so that what is left gets shorter
  induction size : rest.length using Nat.strong_induction_on generalizing xs rest f with
  | _ m ih =>
    by_cases follows : rest.head? = some (.plain layer.operator)
    · obtain ⟨ts, rfl⟩ := List.head?_eq_some_iff.1 follows
      rw [List.length_cons] at size short
      obtain ⟨ys, rest, g, rfl, part, left, stops⟩ := parts (by omega) (enters left)
      obtain ⟨h, longer⟩ := joins derives part
      rw [List.length_append] at size short
      have whole := ih rest.length (by omega) (by omega) longer left stops rfl
      simpa using whole
    · refine ⟨xs, rest, f, rfl, derives, left, ?_⟩
      intro k member
      rw [operators] at member
      rcases List.mem_cons.1 member with rfl | other
      · exact follows
      · exact stops k other

theorem begins_sum {depth : Nat} {ts : List Token} (h : Continues false depth ts) :
    Begins .sum depth ts := by
  -- the sum between brackets is shorter than the factor that they make of it
  induction size : ts.length using Nat.strong_induction_on generalizing depth ts with
  | _ n ih =>
    have factors {depth ts} (short : List.length ts ≤ n) (h : Continues false depth ts) :=
      begins_factor (fun _ _ shorter inner => ih _ shorter inner rfl) short h
    have products {depth ts} (short : List.length ts ≤ n) (h : Continues false depth ts) :
        Begins .product depth ts := by
      obtain ⟨xs, rest, f, rfl, derives, left, stops⟩ := factors short h
      rw [List.length_append] at short
      exact begins_chain rfl (fun l r => ⟨_, .and l r⟩) (fun | .and inner => inner) factors
        (by omega) (.factor derives) left stops
    obtain ⟨xs, rest, f, rfl, derives, left, stops⟩ := products size.le h
    rw [List.length_append] at size
    exact begins_chain rfl (fun l r => ⟨_, .or l r⟩) (fun | .or inner => inner) products
      (by omega) (.product derives) left stops

theorem exists_derives {ts : List Token} (h : Continues false 0 ts) :
    ∃ f, Derives .sum ts f := by
  obtain ⟨xs, rest, f, rfl, derives, left, stops⟩ := begins_sum h
  rcases rest_of_sum left stops with ⟨_, rfl⟩ | ⟨d, rest, deeper, _⟩
  · exact ⟨f, by simpa using derives⟩
  · cases deeper

/-! ### Neighbours that fit -/

open Conversion

/-- Tokens whose neighbours fit and whose brackets nest may follow a token `l`. -/
theorem continues_of_fits {l : Kind} {depth : Nat} {ts : List Token}
    (spelled : ∀ t ∈ ts, ∃ c, Spelling t c) (fits : (l :: ts.map Token.kind).IsChain Kind.Fits)
    (ends : ∀ k ∈ (l :: ts.map Token.kind).getLast?, k.cannotEnd = false)
    (safe : Safe depth (ts.map .token))
    (balanced : depth + opened (ts.map .token) = closed (ts.map .token)) :
    Continues (!l.cannotEnd) depth ts := by
  induction ts generalizing l depth with
  | nil =>
    rw [ends l rfl]
    obtain rfl : depth = 0 := balanced
    exact .done
  | cons t ts ih =>
    obtain ⟨⟨c, spelling⟩, spelled⟩ := List.forall_mem_cons.1 spelled
    obtain ⟨fit, fits⟩ := List.isChain_cons_cons.1 fits
    obtain ⟨_, matched, safe⟩ := safe_cons_iff.1 safe
    rw [List.map_cons, opened_cons, closed_cons] at balanced
    have inner := ih spelled fits (by simpa using ends) safe
    -- only operands and what is in front of them may follow what cannot end an expression
    have turn : l.cannotEnd = !t.kind.cannotStart := Bool.eq_not.2 fit
    rw [turn]
    cases spelling with
    | capital c => exact .letter c (inner balanced)
    | small c => exact .letter c (inner balanced)
    | digit b => exact .digit b (inner balanced)
    | sign => exact .not (inner balanced)
    | bang => exact .not (inner balanced)
    | dot => exact .and (inner balanced)
    | plus => exact .or (inner balanced)
    | opening =>
      change depth + (opened (ts.map .token) + 1) = closed (ts.map .token) at balanced
      have deeper : depth + 1 + opened (ts.map .token) = closed (ts.map .token) := by omega
      exact .opening (inner deeper)
    | closing =>
      obtain ⟨d, rfl⟩ := Nat.exists_eq_succ_of_ne_zero (matched rfl)
      change d + 1 + opened (ts.map .token) = closed (ts.map .token) + 1 at balanced
      have flatter : d + opened (ts.map .token) = closed (ts.map .token) := by omega
      exact .closing (inner flatter)

end ReversePolish
