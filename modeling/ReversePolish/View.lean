import ReversePolish.Format

/-!
# Views

What is shown of a conversion besides its outcome.
-/

namespace ReversePolish

structure View where
  /-- Its tokens on a line. -/
  tokens : Bool
  /-- Tokens by the names of their kinds. -/
  names : Bool
  /-- Its tokens as a table. -/
  verbose : Bool
  deriving DecidableEq, Repr

namespace View

def plain : View := ⟨false, false, false⟩

def naming (v : View) : Naming := if v.names then .names else .symbols

end View

end ReversePolish
