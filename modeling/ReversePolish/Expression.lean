import ReversePolish.Refusal
import ReversePolish.Text.Blank

/-!
# Reading expressions

An expression is read in two steps. `clean` drops white space and capitalises letters; `tokens`
turns each character that is left into a token and refuses lists that no expression has. Of several
faults the first character that is none of the alphabet is reported, then the first rule of `fault?`
that is broken. The order of brackets is no matter here, only their number. `cleanChars_eq` gives
the cleaned form character by character.
-/

namespace ReversePolish.Expression

/-- An expression without its white space, with the letters a to z and no others in capitals. -/
def cleanChars (cs : List Char) : List Char := (Text.words cs).flatten.map Char.toUpper

def clean (text : String) : String := String.ofList (cleanChars text.toList)

theorem cleanChars_eq (cs : List Char) :
    cleanChars cs = (cs.filter (!Text.isSpace ·)).map Char.toUpper := by
  rw [cleanChars, Text.flatten_words]

theorem cleanChars_append (as bs : List Char) :
    cleanChars (as ++ bs) = cleanChars as ++ cleanChars bs := by
  simp [cleanChars_eq]

def digits : List Char := ['0', '1']

/-- The token that a character of a cleaned expression is. The letters A to Z name variables. -/
def token? (c : Char) : Option Token :=
  if c.isUpper then some (.var (String.singleton c))
  else match Kind.ofChar? c with
    | some k => some ⟨k, none⟩
    | none => if c ∈ digits then some (.const (String.singleton c)) else none

def readChar (c : Char) : Except Refusal Token :=
  match token? c with
  | some t => .ok t
  | none => .error (.invalidCharacter (.datum (.text (String.singleton c))))

/-! ### Rules that need no parse -/

def startFault? (ts : List Token) : Option Refusal :=
  match ts.head? with
  | none => some .emptyExpression
  | some t => if t.kind.cannotStart then some (.invalidStart t.kind) else none

def endFault? (ts : List Token) : Option Refusal :=
  match ts.getLast? with
  | none => none
  | some t => if t.kind.cannotEnd then some (.invalidEnd t.kind) else none

/-- Negations may follow each other, the other operators may not. -/
def adjacentFault? : List Token → Option Refusal
  | left :: right :: rest =>
    if left.kind.isBinary && right.kind.isBinary then
      some (.adjacentOperators left.kind right.kind)
    else adjacentFault? (right :: rest)
  | _ => none

def bracketFault? (ts : List Token) : Option Refusal :=
  if ts.countP (·.kind = .openPar) = ts.countP (·.kind = .closePar) then none
  else some .unequalBrackets

/-- The first rule that a list of tokens breaks. -/
def fault? (ts : List Token) : Option Refusal :=
  startFault? ts |>.or (endFault? ts) |>.or (adjacentFault? ts) |>.or (bracketFault? ts)

def tokensOfChars (cs : List Char) : Except Refusal (List Token) := do
  let ts ← cs.mapM readChar
  match fault? ts with
  | some e => .error e
  | none => .ok ts

def tokens (text : String) : Except Refusal (List Token) :=
  tokensOfChars (cleanChars text.toList)

end ReversePolish.Expression
