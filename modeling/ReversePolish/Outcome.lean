import ReversePolish.Conversion
import ReversePolish.Failure

/-!
# Outcomes

What a stage ends with, as it is shown and counted: the elements it gives, or why it refuses. A
success may also be stated without any list.
-/

namespace ReversePolish

abbrev Outcome := Except Refusal (Option (List Element))

namespace Outcome

def ofTokens : Except Refusal (List Token) → Outcome :=
  Except.map fun ts => some (ts.map .token)

def isSuccess : Outcome → Bool
  | .ok _ => true
  | .error _ => false

def message : Outcome → String
  | .ok _ => ""
  | .error e => e.message

/-- An outcome in short: how many elements there are, or what went wrong. -/
def describe : Outcome → Except Failure String
  | .ok (some es) => .ok ("Result(ok, " ++ es.length.repr ++ " tokens)")
  | .ok none => .error .noCount
  | .error e => .ok ("Result(failed, " ++ e.rule.name ++ ": " ++ e.message ++ ")")

end Outcome

end ReversePolish
