import ReversePolish.Text.Blank
import ReversePolish.Text.Width

/-!
# Wrapping

A line that is too wide for its place goes on in the next lines. It is broken between words, and the
white space after a word stays with the word. A word that no line has room for is folded or, where an
ellipsis shall tell of what is missing, left as it is.
-/

namespace ReversePolish.Text

inductive Overflow where
  | fold
  | ellipsis
  deriving DecidableEq, Repr

/-- The spaced words of a text after `word`, the part of the current one that has been read, last
character first. It is `filled` once it holds more than white space. -/
def spacedWordsFrom (word : List Char) (filled : Bool) : List Char → List (List Char)
  | [] => if filled then [word.reverse] else []
  | c :: cs =>
    if isSpace c then spacedWordsFrom (c :: word) filled cs
    else if filled && word.head?.any isSpace then word.reverse :: spacedWordsFrom [c] true cs
    else spacedWordsFrom (c :: word) true cs

/-- The words of a text with the white space after them, and the first one also with that before it.
A blank text has none. -/
def spacedWords (cs : List Char) : List (List Char) := spacedWordsFrom [] false cs

/-- A line, unless nothing is on it. -/
def filledLine (line : List Char) : List (List Char) := if line = [] then [] else [line]

/-- The lines that words fill after `line`, which takes `used` columns. -/
def wrapFrom (o : Overflow) (limit : Nat) (line : List Char) (used : Nat) :
    List (List Char) → List (List Char)
  | [] => [line]
  | word :: words =>
    if used + width (trimEnd word) ≤ limit then
      wrapFrom o limit (line ++ word) (used + width word) words
    else if width (trimEnd word) ≤ limit ∨ o = .ellipsis then
      filledLine line ++ wrapFrom o limit word (width word) words
    else
      let parts := chop limit word
      let last := parts.getLast?.getD []
      filledLine line ++ parts.dropLast ++ wrapFrom o limit last (width last) words

/-- The lines that a line becomes where it may not be wider than a limit. -/
def wrap (o : Overflow) (limit : Nat) (cs : List Char) : List (List Char) :=
  match spacedWords cs with
  | [] => [cs]
  | words => wrapFrom o limit [] 0 words

/-- A line without the white space at its end that lies beyond a number of characters. -/
def trimBeyond (limit : Nat) (cs : List Char) : List Char := cs.take (max limit (trimEnd cs).length)

/-- A line that is still too wide, without the rest of it. -/
def limitWidth (o : Overflow) (limit : Nat) (cs : List Char) : List Char :=
  match o with
  | .ellipsis => shorten limit cs
  | .fold => if width cs ≤ limit then cs else cutClusters limit (clusters cs)

end ReversePolish.Text
