import ReversePolish.Token

/-!
# Refusals

Why an expression is refused, by cause. The stage that refuses it, the rule that is broken, the
message and what the message points at are read off the cause.
-/

namespace ReversePolish

/-- The stage that refuses an expression. -/
inductive Stage where
  /-- Reading the text as tokens. -/
  | lexing
  /-- Putting tokens into postfix order. -/
  | converting
  /-- Neither of the two. -/
  | general
  deriving DecidableEq, Repr

inductive Rule where
  | emptyExpression
  | invalidCharacter
  | invalidStart
  | invalidEnd
  | adjacentOperators
  | mismatchedBrackets
  | unexpectedToken
  deriving DecidableEq, Repr

namespace Rule

def all : List Rule :=
  [emptyExpression, invalidCharacter, invalidStart, invalidEnd, adjacentOperators,
    mismatchedBrackets, unexpectedToken]

def name : Rule → String
  | emptyExpression => "empty_expression"
  | invalidCharacter => "invalid_character"
  | invalidStart => "invalid_start"
  | invalidEnd => "invalid_end"
  | adjacentOperators => "adjacent_binary_operators"
  | mismatchedBrackets => "mismatched_parentheses"
  | unexpectedToken => "unexpected_token"

def ofName? (name : String) : Option Rule := all.find? (·.name == name)

theorem ofName?_name (r : Rule) : ofName? r.name = some r := by cases r <;> decide

end Rule

/-- Why an expression is refused. -/
inductive Refusal where
  | emptyExpression
  | invalidCharacter (found : Subject)
  | invalidStart (first : Subject)
  | invalidEnd (last : Subject)
  | adjacentOperators (left right : Subject)
  /-- An expression has more brackets of one sort than of the other. -/
  | unequalBrackets
  /-- A bracket has no partner where one is looked for. -/
  | unmatchedBracket
  | unexpectedToken (found : Subject)
  /-- A refusal in the caller's own words. -/
  | reported (stage : Stage) (rule : Rule) (message : String) (detail : Subject)
  deriving DecidableEq, Repr

namespace Refusal

def stage : Refusal → Stage
  | emptyExpression | invalidCharacter _ | invalidStart _ | invalidEnd _ | adjacentOperators ..
  | unequalBrackets => .lexing
  | unmatchedBracket | unexpectedToken _ => .converting
  | reported stage .. => stage

def rule : Refusal → Rule
  | emptyExpression => .emptyExpression
  | invalidCharacter _ => .invalidCharacter
  | invalidStart _ => .invalidStart
  | invalidEnd _ => .invalidEnd
  | adjacentOperators .. => .adjacentOperators
  | unequalBrackets | unmatchedBracket => .mismatchedBrackets
  | unexpectedToken _ => .unexpectedToken
  | reported _ rule .. => rule

def message : Refusal → String
  | emptyExpression => "Expression is empty"
  | invalidCharacter found => "Invalid character found: " ++ found.describe
  | invalidStart first => "Expressions cannot start with: " ++ first.describe
  | invalidEnd last => "Expressions cannot end with: " ++ last.describe
  | adjacentOperators left right => left.describe ++ " cannot be next to " ++ right.describe
  | unequalBrackets => "Mismatched brackets"
  | unmatchedBracket => "Mismatched parentheses"
  | unexpectedToken found => "Unexpected token: " ++ found.describe
  | reported _ _ message _ => message

/-- The message can be written where numbers have at most so many digits. -/
def fits (digits : Nat) : Refusal → Bool
  | invalidCharacter found | unexpectedToken found => found.fits digits
  | invalidStart first => first.fits digits
  | invalidEnd last => last.fits digits
  | adjacentOperators left right => left.fits digits && right.fits digits
  | emptyExpression | unequalBrackets | unmatchedBracket | reported .. => true

def detail : Refusal → Subject
  | invalidCharacter found | unexpectedToken found => found
  | invalidStart first => first
  | invalidEnd last => last
  | adjacentOperators left _ => left
  | emptyExpression | unequalBrackets | unmatchedBracket => .datum .null
  | reported _ _ _ detail => detail

end Refusal

/-! ### Computations that may be refused -/

section

variable {ε α β : Type} {x : Except ε α} {f : α → Except ε β}

theorem bind_ok_iff {b : β} : x >>= f = .ok b ↔ ∃ a, x = .ok a ∧ f a = .ok b := by
  cases x <;> simp [bind, Except.bind]

theorem bind_error {e : ε} (h : x >>= f = .error e) :
    x = .error e ∨ ∃ a, x = .ok a ∧ f a = .error e := by
  cases x with
  | error e' => exact .inl (by simpa [bind, Except.bind] using h)
  | ok a => exact .inr ⟨a, rfl, h⟩

end

end ReversePolish
