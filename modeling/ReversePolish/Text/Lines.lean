/-!
# Lines

A text as lines, which a line feed, a carriage return, or the one after the other ends. No other
character ends a line.
-/

namespace ReversePolish.Text

/-- The lines of a text after `line`, the part of the current line that has been read, last
character first. -/
def linesFrom (line : List Char) : List Char → List (List Char)
  | [] => [line.reverse]
  | '\r' :: '\n' :: cs => line.reverse :: linesFrom [] cs
  | c :: cs =>
    if c = '\n' ∨ c = '\r' then line.reverse :: linesFrom [] cs else linesFrom (c :: line) cs

/-- The lines of a text, the last of which may be empty. -/
def lines (cs : List Char) : List (List Char) := linesFrom [] cs

end ReversePolish.Text
