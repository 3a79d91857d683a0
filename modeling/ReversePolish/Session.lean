import ReversePolish.Display
import ReversePolish.View

/-!
# Sessions

Expressions are converted and shown one after the other, and each that is not blank gives a row. In
an interactive session the expressions are answers, up to one that is missing, blank or a quit word.
-/

namespace ReversePolish

structure Row where
  expression : String
  result : Except Refusal (List Token)

namespace Row

def failed (r : Row) : Bool := !(Outcome.ofTokens r.result).isSuccess

def shown (r : Row) : String × Outcome := (r.expression, .ofTokens r.result)

end Row

namespace Session

/-- The tokens that are shown of an expression, if the view asks for any and they can be read. -/
def tokensShown (v : View) (expression : String) : Option (List Element) :=
  if v.tokens || v.verbose then
    (Expression.tokens expression).toOption.map (·.map .token)
  else none

/-- Shows what comes of an expression. A blank one gives no row. -/
def convert (v : View) (expression : String) : Printed (Option Row) :=
  match parse expression with
  | none => do
    Printed.line "[dim]Skipping blank expression[/dim]"
    return none
  | some result => do
    let tokens := tokensShown v expression
    if v.verbose then
      if let some es := tokens then
        Display.tokenTable "Tokens" es
    Display.conversion v.naming (if v.tokens then tokens else none) expression (.ofTokens result)
    return some ⟨expression, result⟩

def convertAll (v : View) : List String → Printed (List Row)
  | [] => return []
  | expression :: rest => do
    let row ← convert v expression
    let rows ← convertAll v rest
    return row.toList ++ rows

/-! ### Answers -/

def quitWords : List String := ["quit", "exit", "q"]

/-- A text in the form in which it is compared with quit words. -/
def folded (cs : List Char) : String := String.ofList (Text.lower (Text.trim cs))

def ends : Option String → Bool
  | none => true
  | some s => Text.isBlank s.toList || quitWords.contains (folded s.toList)

inductive Reply where
  | answer (a : Option String)
  /-- The session is broken off. -/
  | interruption
  deriving DecidableEq, Repr

/-- A line that is typed is an answer without the white space at its ends. -/
def Reply.ofLine (line : String) : Reply := .answer (some (String.ofList (Text.trim line.toList)))

inductive Turn where
  | proceeds (row : Option Row)
  | closed
  | interrupted

def greeting : String :=
  "[cyan]Enter expressions to convert (empty line or 'quit' to finish)[/cyan]"

def farewell : String := "\n[yellow]Operation interrupted by user[/yellow]"

def turn (v : View) : Reply → Printed Turn
  | .interruption => do
    Printed.line farewell
    return .interrupted
  | .answer none => return .closed
  | .answer (some s) => if ends s then return .closed else .proceeds <$> convert v s

/-- How a session ended, and the rows and the replies that it leaves. -/
structure Transcript where
  rows : List Row
  unread : List Reply
  interrupted : Bool

/-- Asks with a prompt until a reply ends the session or none is left. -/
def ask (prompt : String) (v : View) : List Reply → Printed Transcript
  | [] => do
    Printed.write prompt
    return ⟨[], [], false⟩
  | reply :: rest => do
    Printed.write prompt
    match ← turn v reply with
    | .closed => return ⟨[], rest, false⟩
    | .interrupted => return ⟨[], rest, true⟩
    | .proceeds row => do
      let later ← ask prompt v rest
      return { later with rows := row.toList ++ later.rows }

def interact (prompt : String) (v : View) (replies : List Reply) : Printed Transcript := do
  Printed.line greeting
  ask prompt v replies

end Session

end ReversePolish
