import ReversePolish.Token

/-!
# Formulas

The trees that expressions stand for, their postfix form, and the lists of tokens that are the
postfix form of something: those that run on a stack of values and leave one of them.
-/

namespace ReversePolish

abbrev Letter := { c : Char // c.isUpper = true }

namespace Token

def letter (c : Letter) : Token := ⟨.var, some (String.singleton c.1)⟩

def digit (b : Bool) : Token := ⟨.const, some (if b then "1" else "0")⟩

def plain (k : Kind) : Token := ⟨k, none⟩

@[simp] theorem kind_letter (c : Letter) : (letter c).kind = .var := rfl

@[simp] theorem kind_digit (b : Bool) : (digit b).kind = .const := rfl

@[simp] theorem kind_plain (k : Kind) : (plain k).kind = k := rfl

end Token

inductive Formula where
  | var (letter : Letter)
  | const (value : Bool)
  | not (f : Formula)
  | and (l r : Formula)
  | or (l r : Formula)
  deriving DecidableEq, Repr

/-- The tokens of a formula, each operator after what it applies to. -/
def Formula.postorder : Formula → List Token
  | var c => [.letter c]
  | const b => [.digit b]
  | not f => f.postorder ++ [.plain .not]
  | and l r => l.postorder ++ r.postorder ++ [.plain .and]
  | or l r => l.postorder ++ r.postorder ++ [.plain .or]

namespace Postfix

/-- The number of values on a stack after a token, if there are as many as the token needs. -/
def apply (n : Nat) (t : Token) : Option Nat :=
  match t.kind with
  | .var | .const => some (n + 1)
  | .not => if 1 ≤ n then some n else none
  | .and | .or => if 2 ≤ n then some (n - 1) else none
  | .openPar | .closePar => none

/-- The number of values on a stack that held `n` of them, after a list of tokens. -/
def values (n : Nat) (ts : List Token) : Option Nat := ts.foldlM apply n

/-- Run on an empty stack, the tokens never lack a value and leave exactly one. -/
def WellFormed (ts : List Token) : Prop := values 0 ts = some 1

instance (ts : List Token) : Decidable (WellFormed ts) := inferInstanceAs (Decidable (_ = _))

theorem values_append (n : Nat) (xs ys : List Token) :
    values n (xs ++ ys) = (values n xs).bind (values · ys) := by
  simp only [values, List.foldlM_append]
  rfl

theorem values_singleton (n : Nat) (t : Token) : values n [t] = apply n t := by
  simp [values]

/-- A formula adds one value to those that are there. -/
theorem values_postorder (f : Formula) (n : Nat) : values n f.postorder = some (n + 1) := by
  induction f generalizing n with
  | var c => rfl
  | const b => rfl
  | not f ih => simp [Formula.postorder, values_append, values_singleton, ih, apply]
  | and l r ihl ihr =>
    simp [Formula.postorder, values_append, values_singleton, ihl, ihr, apply]
  | or l r ihl ihr =>
    simp [Formula.postorder, values_append, values_singleton, ihl, ihr, apply]

theorem wellFormed_postorder (f : Formula) : WellFormed f.postorder := values_postorder f 0

end Postfix

end ReversePolish
