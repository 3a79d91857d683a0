/-!
# Blank characters

The characters that count as white space, and the three ways a text is read with respect to them:
its words, its trimmed form, and whether it is blank. `flatten_words` shows that joining the words
of a text drops its white space and nothing else.
-/

namespace ReversePolish.Text

/-- White space is any character that Unicode separates words or lines with, the information
separators U+001C to U+001F included and the zero-width spaces left out. -/
def isSpace (c : Char) : Bool :=
  let n := c.toNat
  (0x09 ≤ n && n ≤ 0x0D) || (0x1C ≤ n && n ≤ 0x20) || n == 0x85 || n == 0xA0 || n == 0x1680 ||
    (0x2000 ≤ n && n ≤ 0x200A) || n == 0x2028 || n == 0x2029 || n == 0x202F || n == 0x205F ||
    n == 0x3000

/-- The words of a text after `word`, the part of the current word that has been read, last
character first. -/
def wordsFrom (word : List Char) : List Char → List (List Char)
  | [] => if word.isEmpty then [] else [word.reverse]
  | c :: cs =>
    if isSpace c then
      if word.isEmpty then wordsFrom [] cs else word.reverse :: wordsFrom [] cs
    else wordsFrom (c :: word) cs

/-- The longest runs of a text that hold no white space, in order. -/
def words (cs : List Char) : List (List Char) := wordsFrom [] cs

def trimEnd (cs : List Char) : List Char := (cs.reverse.dropWhile isSpace).reverse

def trim (cs : List Char) : List Char := trimEnd (cs.dropWhile isSpace)

/-- Nothing is left of a blank text once its ends are trimmed. -/
def isBlank (cs : List Char) : Bool := (trim cs).isEmpty

/-! ### Joining the words -/

theorem flatten_wordsFrom (word cs : List Char) :
    (wordsFrom word cs).flatten = word.reverse ++ cs.filter (!isSpace ·) := by
  induction cs generalizing word with
  | nil => cases word <;> simp [wordsFrom]
  | cons c cs ih =>
    by_cases h : isSpace c
    · cases word <;> simp [wordsFrom, h, ih]
    · simp [wordsFrom, h, ih]

theorem flatten_words (cs : List Char) : (words cs).flatten = cs.filter (!isSpace ·) := by
  simp [words, flatten_wordsFrom]

end ReversePolish.Text
