/-!
# Tokens

The seven kinds of token, tokens themselves, and the elements of a list that is to be put into
postfix order: besides tokens such a list may hold things that the converter does not know.
-/

namespace ReversePolish

/-- What a token is: an operand (a variable or a constant), an operator or a bracket. -/
inductive Kind where
  | var
  | const
  | and
  | or
  | not
  | openPar
  | closePar
  deriving DecidableEq, Repr

namespace Kind

def all : List Kind := [var, const, and, or, not, openPar, closePar]

def name : Kind → String
  | var => "VAR"
  | const => "CONST"
  | and => "AND"
  | or => "OR"
  | not => "NOT"
  | openPar => "OPENPAR"
  | closePar => "CLOSEPAR"

def ofName? (name : String) : Option Kind := all.find? (·.name == name)

/-- How an operator or a bracket is written; an operand is written as its value. -/
def symbol? : Kind → Option String
  | var | const => none
  | and => some "."
  | or => some "+"
  | not => some "¬"
  | openPar => some "("
  | closePar => some ")"

/-- The operator or bracket that a character stands for. Negation has two spellings. -/
def ofChar? : Char → Option Kind
  | '¬' => some not
  | '!' => some not
  | '+' => some or
  | '.' => some and
  | '(' => some openPar
  | ')' => some closePar
  | _ => none

def symbolChars : List Char := ['¬', '!', '+', '.', '(', ')']

def isOperand : Kind → Bool
  | var | const => true
  | _ => false

def isBracket : Kind → Bool
  | openPar | closePar => true
  | _ => false

def isBinary : Kind → Bool
  | and | or => true
  | _ => false

def precedence? : Kind → Option Nat
  | or => some 0
  | and => some 1
  | not => some 2
  | _ => none

/-- No expression begins with a token of such a kind. -/
def cannotStart : Kind → Bool
  | closePar | and | or => true
  | _ => false

/-- No expression ends with a token of such a kind. -/
def cannotEnd : Kind → Bool
  | openPar | and | or | not => true
  | _ => false

theorem ofName?_name (k : Kind) : ofName? k.name = some k := by cases k <;> decide

theorem ofChar?_eq_none_iff {c : Char} : ofChar? c = none ↔ c ∉ symbolChars := by
  simp only [ofChar?, symbolChars]; split <;> simp_all

end Kind

/-- A token: its kind, and for an operand the letter or digit that it is. -/
structure Token where
  kind : Kind
  value : Option String
  deriving DecidableEq, Repr

namespace Token

def var (letter : Option String) : Token := ⟨.var, letter⟩

def const (digit : Option String) : Token := ⟨.const, digit⟩

/-- The token without a value that an operator or a bracket is; an operand needs its value. -/
def operator? (k : Kind) : Option Token := if k.isOperand then none else some ⟨k, none⟩

/-- How a token is written in an expression. Only an operand that lacks its value is not. -/
def symbol? (t : Token) : Option String := if t.kind.isOperand then t.value else t.kind.symbol?

def describe (t : Token) : String :=
  if t.kind.isOperand then t.kind.name ++ "(" ++ t.value.getD "None" ++ ")" else t.kind.name

end Token

/-- A plain value, which may stand where a token or its kind should. -/
inductive Datum where
  | text (s : String)
  | number (n : Int)
  | truth (b : Bool)
  | null
  deriving DecidableEq, Repr

namespace Datum

def describe : Datum → String
  | text s => s
  | number n => n.repr
  | truth true => "True"
  | truth false => "False"
  | null => "None"

/-- Where numbers are written with at most so many digits, a longer one cannot be described. -/
def fits (digits : Nat) : Datum → Bool
  | number n => n.natAbs < Nat.pow 10 digits
  | _ => true

def typeName : Datum → String
  | text _ => "str"
  | number _ => "int"
  | truth _ => "bool"
  | null => "NoneType"

end Datum

/-- What a message about an expression points at. -/
inductive Subject where
  | kind (k : Kind)
  | datum (d : Datum)
  /-- A token that has no kind. -/
  | kindless (value : Option String)
  deriving DecidableEq, Repr

namespace Subject

instance : Coe Kind Subject := ⟨kind⟩

instance : Coe Datum Subject := ⟨datum⟩

def describe : Subject → String
  | kind k => k.name
  | datum d => d.describe
  | kindless _ => Datum.null.describe

def fits (digits : Nat) : Subject → Bool
  | datum d => d.fits digits
  | _ => true

end Subject

/-- A member of a list that is to be converted or shown. -/
inductive Element where
  | token (t : Token)
  /-- A token whose kind is none of the seven. -/
  | foreign (label : Datum) (value : Option String)
  /-- Something that is no token at all. -/
  | stray (d : Datum)
  deriving DecidableEq, Repr

namespace Element

instance : Coe Token Element := ⟨token⟩

def isOperand : Element → Bool
  | token t => t.kind.isOperand
  | _ => false

def isBracket : Element → Bool
  | token t => t.kind.isBracket
  | _ => false

/-- What a message about an element points at: its kind, or all of it where it has none. -/
def subject : Element → Subject
  | token t => t.kind
  | foreign .null value => .kindless value
  | foreign label _ => label
  | stray d => d

def describe : Element → String
  | token t => t.describe
  | foreign label _ => label.describe
  | stray d => d.describe

end Element

end ReversePolish
