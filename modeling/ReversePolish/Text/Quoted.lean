import ReversePolish.Text.Silent

/-!
# Quoted text

A text as a literal in quotes. Single quotes are used, and double quotes where the text holds a
single quote and no double one. What does not print is written as an escape, so that every literal
is one line of printing characters.
-/

namespace ReversePolish.Text

/-- The last `width` hexadecimal digits of a number, in small letters. -/
def hexDigits : Nat → Nat → List Char
  | 0, _ => []
  | width + 1, n => hexDigits width (n / 16) ++ [Nat.digitChar (n % 16)]

/-- The quote that a literal of the text stands in. -/
def quoteFor (cs : List Char) : Char := if '\'' ∈ cs ∧ '"' ∉ cs then '"' else '\''

/-- A character as it stands in a literal with the given quotes. -/
def quoteChar (quote c : Char) : List Char :=
  if c = quote ∨ c = '\\' then ['\\', c]
  else if c = '\t' then ['\\', 't']
  else if c = '\n' then ['\\', 'n']
  else if c = '\r' then ['\\', 'r']
  else if isSilent c then
    if c.toNat < 0x100 then '\\' :: 'x' :: hexDigits 2 c.toNat
    else if c.toNat < 0x10000 then '\\' :: 'u' :: hexDigits 4 c.toNat
    else '\\' :: 'U' :: hexDigits 8 c.toNat
  else [c]

def quoteChars (cs : List Char) : List Char :=
  let quote := quoteFor cs
  quote :: cs.flatMap (quoteChar quote) ++ [quote]

def quote (s : String) : String := String.ofList (quoteChars s.toList)

end ReversePolish.Text
