import ReversePolish.Console.Printed
import ReversePolish.Console.Table
import ReversePolish.Format
import ReversePolish.Outcome

/-!
# What is shown

Tokens as a table, a conversion as a line, and conversions as a table. Expressions and messages are
escaped, so that nothing in them is read as a tag.
-/

namespace ReversePolish

inductive Style where
  | success
  | error
  | warning
  | info
  | dim
  deriving DecidableEq, Repr

namespace Style

def all : List Style := [success, error, warning, info, dim]

def name : Style → String
  | success => "success"
  | error => "error"
  | warning => "warning"
  | info => "info"
  | dim => "dim"

def tag : Style → String
  | success => "green"
  | error => "red"
  | warning => "yellow"
  | info => "cyan"
  | dim => "dim"

def ofName (name : String) : Except Failure Style :=
  match all.find? (·.name == name) with
  | some style => .ok style
  | none => .error (.unknownStyle name)

end Style

namespace Display

/-- Markup that is read as the text, in a style. -/
def inStyle (style : Style) (text : String) : String :=
  "[" ++ style.tag ++ "]" ++ Markup.escape text ++ "[/" ++ style.tag ++ "]"

/-! ### Tables -/

def shownCell (cell : Markup.Styled) : Except Failure Cell := do
  return ⟨String.ofList (← cell.text), cell.isStyled⟩

/-- A title as it is shown, if there is one. -/
def shownTitle (title : String) : Except Failure (Option String) := do
  if title.isEmpty then return none
  let styled ← Markup.readChars title.toList
  return some (String.ofList (← styled.endTrimmed.text))

/-- Prints a table whose title and cells are markup. All of it is read before any of it is shown. -/
def table (title : String) (columns : List Column) (rows : List (List String)) : Printed Unit := do
  let cells ← Printed.ofExcept (rows.mapM (·.mapM fun cell => Markup.readChars cell.toList))
  let title ← Printed.ofExcept (shownTitle title)
  let shown ← Printed.ofExcept (cells.mapM (·.mapM shownCell))
  Printed.write (Table.layout title columns shown)

def tokenColumns : List Column :=
  [⟨"#", .right, true⟩, ⟨"Kind", .left, false⟩, ⟨"Value", .left, true⟩, ⟨"Symbol", .left, true⟩]

def tokenCells (position : Nat) (e : Element) : Except Failure (List String) := do
  let (kind, value) ← match e with
    | .token t => .ok (t.kind.name, t.value)
    | .foreign label value => .ok (label.describe, value)
    | .stray d => .error (.notAToken d "kind")
  match ← e.symbol with
  | some symbol => .ok [position.repr, kind, value.getD "", Markup.escape symbol]
  | none => .error .emptyCell

/-- Prints one row for each element, counted from one. -/
def tokenTable (title : String) (es : List Element) : Printed Unit := do
  let rows ← Printed.ofExcept (es.zipIdx.mapM fun (e, i) => tokenCells (i + 1) e)
  table title tokenColumns rows

def summaryColumns : List Column :=
  [⟨"Expression", .left, false⟩, ⟨"Postfix / Error", .left, true⟩, ⟨"Status", .left, true⟩]

/-- The elements of a success as text. -/
def formatted (naming : Naming) : Option (List Element) → Except Failure String
  | some es => format " " naming es
  | none => .error .noTokens

/-- The cells of an expression and its outcome in the table of conversions. -/
def summaryCells (naming : Naming) (expression : String) : Outcome → Except Failure (List String)
  | .ok es => do
    let shown ← formatted naming es
    return [Markup.escape expression, Markup.escape shown, inStyle .success "✓ ok"]
  | .error e =>
    .ok [Markup.escape expression, inStyle .error e.message, inStyle .error ("✗ " ++ e.rule.name)]

def summaryTable (title : String) (naming : Naming) (rows : List (String × Outcome)) :
    Printed Unit := do
  let rows ← Printed.ofExcept (rows.mapM fun (expression, o) => summaryCells naming expression o)
  table title summaryColumns rows

/-! ### Lines -/

def tokensLine (naming : Naming) (es : List Element) : Except Failure String := do
  let shown ← format " " naming es
  return inStyle .info "Tokens:" ++ "  " ++ Markup.escape shown

def conversionLine (naming : Naming) (expression : String) : Outcome → Except Failure String
  | .ok es => do
    let shown ← formatted naming es
    return inStyle .success "✓" ++ " " ++ Markup.escape expression ++ " → " ++ Markup.escape shown
  | .error e =>
    .ok (inStyle .error "✗" ++ " " ++ Markup.escape expression ++ " → " ++ inStyle .error e.message)

/-- Prints the line of tokens, if they are given, and the line of the outcome. -/
def conversion (naming : Naming) (tokens : Option (List Element)) (expression : String)
    (o : Outcome) : Printed Unit := do
  if let some es := tokens then
    Printed.line (← Printed.ofExcept (tokensLine naming es))
  Printed.line (← Printed.ofExcept (conversionLine naming expression o))

end Display

end ReversePolish
