import ReversePolish.Failure

/-!
# Tokens as text

A list of tokens is written by symbols or by names, with a separator between each two. Names can
always be written; symbols only where each element is a token that has one.
-/

namespace ReversePolish

namespace Element

/-- How an element is written in an expression; an operand may lack its value. -/
def symbol : Element → Except Failure (Option String)
  | token t => .ok t.symbol?
  | foreign label _ => .error (.unknownKind label)
  | stray d => .error (.notAToken d "symbol")

end Element

/-- Whether tokens are written by their symbols or by the names of their kinds. -/
inductive Naming where
  | symbols
  | names
  deriving DecidableEq, Repr

namespace Format

/-- The texts of a list that starts at a given position, all of which must be there. -/
def presentFrom (position : Nat) : List (Option String) → Except Failure (List String)
  | [] => .ok []
  | none :: _ => .error (.missingValue position)
  | some s :: rest => (s :: ·) <$> presentFrom (position + 1) rest

/-- What is written for each element. The kinds are looked at before the values. -/
def pieces (naming : Naming) (es : List Element) : Except Failure (List String) :=
  match naming with
  | .names => .ok (es.map Element.describe)
  | .symbols => es.mapM Element.symbol >>= presentFrom 0

end Format

def format (separator : String) (naming : Naming) (es : List Element) : Except Failure String :=
  separator.intercalate <$> Format.pieces naming es

end ReversePolish
