import ReversePolish.Console.Appearance
import ReversePolish.Console.Literal
import ReversePolish.Failure

/-!
# Console markup

Text for the console carries style tags in square brackets. `read` tells what is shown once the tags
are gone and which styles are laid on it, `render` leaves the text alone, and `escape` writes a text
so that its own brackets are not taken for tags.
-/

namespace ReversePolish.Markup

/-- Markup falls into tags and the characters between them. A tag keeps the number of backslashes in
front of it and what stands between its brackets. -/
inductive Piece where
  | char (c : Char)
  | tag (slashes : Nat) (body : List Char)
  deriving DecidableEq, Repr

def startsTag (c : Char) : Bool := ('a' ≤ c && c ≤ 'z') || c == '#' || c == '/' || c == '@'

def staysInTag (c : Char) : Bool := c != '[' && c != ']'

/-- The body of the bracket that a text begins with, and what follows the bracket. -/
def bracket? : List Char → Option (List Char × List Char)
  | '[' :: c :: cs =>
    if startsTag c then
      match cs.dropWhile staysInTag with
      | ']' :: rest => some (c :: cs.takeWhile staysInTag, rest)
      | _ => none
    else none
  | _ => none

/-- The number of backslashes and the body of the tag that a text begins with, and what follows. -/
def tag? (cs : List Char) : Option (Nat × List Char × List Char) :=
  (bracket? (cs.dropWhile (· == '\\'))).map ((cs.takeWhile (· == '\\')).length, ·)

theorem bracket?_length {cs body rest : List Char} (h : bracket? cs = some (body, rest)) :
    rest.length < cs.length := by
  unfold bracket? at h
  split at h
  · rename_i c cs
    have shorter : (cs.dropWhile staysInTag).length ≤ cs.length :=
      (List.dropWhile_suffix staysInTag).length_le
    split at h
    · split at h
      · rename_i tail found
        obtain ⟨-, rfl⟩ := h
        rw [found, List.length_cons] at shorter
        simp only [List.length_cons]
        omega
      · cases h
    · cases h
  · cases h

theorem tag?_length {cs body rest : List Char} {n : Nat} (h : tag? cs = some (n, body, rest)) :
    rest.length < cs.length := by
  obtain ⟨found, bracket, e⟩ := Option.map_eq_some_iff.mp h
  obtain ⟨-, rfl⟩ := Prod.mk.inj e
  exact Nat.lt_of_lt_of_le (bracket?_length bracket) (List.dropWhile_suffix _).length_le

/-- The pieces of a text, each tag as far to the left as it can be. -/
def pieces (cs : List Char) : List Piece :=
  match _h : tag? cs with
  | some (n, body, rest) => .tag n body :: pieces rest
  | none =>
    match cs with
    | [] => []
    | c :: cs => .char c :: pieces cs
termination_by cs.length
decreasing_by
  · exact tag?_length _h
  · simp

/-! ### Escaping -/

def backslashes (n : Nat) : List Char := List.replicate n '\\'

def bracketed (body : List Char) : List Char := '[' :: body ++ [']']

def escapePiece : Piece → List Char
  | .char c => [c]
  | .tag n body => backslashes (2 * n + 1) ++ bracketed body

/-- A single backslash at the end is doubled, lest it escape what follows. -/
def guardEnd (cs : List Char) : List Char :=
  match cs.reverse with
  | '\\' :: '\\' :: _ => cs
  | '\\' :: _ => cs ++ ['\\']
  | _ => cs

def escapeChars (cs : List Char) : List Char := guardEnd ((pieces cs).flatMap escapePiece)

def escape (s : String) : String := String.ofList (escapeChars s.toList)

/-! ### What is shown -/

/-- Of the backslashes in front of a tag every second one is read, and an odd one turns the tag into
text. Between tags a backslash vanishes in front of a bracket. -/
def visible : List Piece → List Char
  | [] => []
  | .char '\\' :: .char '[' :: rest => '[' :: visible rest
  | .char c :: rest => c :: visible rest
  | .tag n body :: rest =>
    backslashes (n / 2) ++ (if n % 2 = 1 then bracketed body else []) ++ visible rest

/-- The bell, the backspace, the vertical tab, the form feed and the carriage return. -/
def isDropped (c : Char) : Bool :=
  let n := c.toNat
  n == 0x07 || n == 0x08 || n == 0x0B || n == 0x0C || n == 0x0D

def shownChars (ps : List Piece) : List Char := (visible ps).filter (!isDropped ·)

/-! ### Tags -/

/-- The style tags of a text, each with the number of characters that are shown in front of it. -/
def styleTags (shown : Nat) : List Piece → List (Nat × List Char)
  | [] => []
  | .char '\\' :: .char '[' :: rest => styleTags (shown + 1) rest
  | .char c :: rest => styleTags (if isDropped c then shown else shown + 1) rest
  | .tag n body :: rest =>
    let before := shown + n / 2
    if n % 2 = 1 then styleTags (before + (bracketed body).countP (!isDropped ·)) rest
    else (before, body) :: styleTags before rest

/-- What stands before the first equals sign of a tag, and the parameters after it. -/
def splitTag (body : List Char) : List Char × Option (List Char) :=
  match body.dropWhile (· != '=') with
  | _ :: parameters => (body.takeWhile (· != '='), some parameters)
  | [] => (body, none)

/-- The form of a name in which names are compared: names that ask for the same are alike. -/
def normalName (name : List Char) : Except Failure (List Char) :=
  match Appearance.ofText name with
  | .ok a => .ok a.toText
  | .error .unknown => .ok (Text.lower (Text.trim name))
  | .error .missingPart => .error .missingNumber

/-- A tag that is not closed yet: where it opens, its name in normal form, and its parameters. -/
structure OpenTag where
  start : Nat
  name : List Char
  parameters : Option (List Char)
  deriving DecidableEq, Repr

namespace OpenTag

def style (t : OpenTag) : List Char :=
  match t.parameters with
  | none => t.name
  | some parameters => t.name ++ ' ' :: parameters

/-- The arguments of an action: those in brackets after its name, or none after a name alone. What
is no name is all arguments. -/
def actionArguments (cs : List Char) : List Char :=
  match cs.dropWhile fun c => Text.isWordCharacter c || c == '.' with
  | [] => "()".toList
  | '(' :: rest => if rest.getLast? = some ')' ∧ '\n' ∉ rest then '(' :: rest else cs
  | _ => cs

/-- A tag for an action needs arguments that can be read, if it has parameters at all. -/
def isSound (t : OpenTag) : Bool :=
  match t.name, t.parameters with
  | '@' :: _, some (c :: cs) => Literal.reads (actionArguments (Text.trim (c :: cs)))
  | _, _ => true

end OpenTag

structure Span where
  start : Nat
  stop : Nat
  style : List Char
  deriving DecidableEq, Repr

/-- The tags that are open, the last one first, and the stretches of those that are closed. -/
structure Tagging where
  opened : List OpenTag
  closed : List Span
  deriving DecidableEq, Repr

namespace Tagging

def start : Tagging := ⟨[], []⟩

def close (t : Tagging) (position : Nat) (tag : OpenTag) : Except Failure Tagging :=
  if tag.isSound then
    .ok ⟨t.opened.erase tag, ⟨tag.start, position, tag.style⟩ :: t.closed⟩
  else .error .unreadableAction

/-- The tag that is closed under a name: the last one of this name, or of all if the name is blank. -/
def lastOpen (t : Tagging) (name : List Char) : Except Failure OpenTag := do
  let named ←
    if Text.isBlank name then pure t.opened
    else do
      let name ← normalName (Text.trim name)
      pure (t.opened.filter (·.name == name))
  match named with
  | last :: _ => return last
  | [] => throw .unopenedTag

/-- Takes a style tag. One that begins with a slash closes another. -/
def take (t : Tagging) (tag : Nat × List Char) : Except Failure Tagging := do
  match splitTag tag.2 with
  | ('/' :: name, _) => t.close tag.1 (← t.lastOpen name)
  | (name, parameters) =>
    return { t with opened := ⟨tag.1, ← normalName name, parameters⟩ :: t.opened }

/-- All stretches, where tags that are still open reach up to the end. -/
def spans (t : Tagging) (length : Nat) : List Span :=
  t.opened.map (fun tag => ⟨tag.start, length, tag.style⟩) ++ t.closed

end Tagging

/-! ### Rendering -/

structure Styled where
  chars : List Char
  spans : List Span
  deriving DecidableEq, Repr

def readChars (cs : List Char) : Except Failure Styled := do
  let ps := pieces cs
  let tagging ← (styleTags 0 ps).foldlM Tagging.take .start
  return ⟨shownChars ps, tagging.spans (shownChars ps).length⟩

namespace Styled

/-- Text that is shown in one piece. Lines and tabs divide a text. -/
def isWhole (s : Styled) : Bool := !s.chars.any fun c => c == '\n' || c == '\t'

/-- A style is met where it lies on a character of a line, and in a whole text in any case. -/
def meets (s : Styled) (span : Span) : Bool :=
  s.isWhole || ((s.chars.take span.stop).drop span.start).any (· != '\n')

/-- Text whose white space at the end is not shown, and with it no style that begins there. -/
def endTrimmed (s : Styled) : Styled :=
  let kept := (Text.trimEnd s.chars).length
  if kept = s.chars.length then s else { s with spans := s.spans.filter (·.start < kept) }

/-- A style lies on all of the text. -/
def isStyled (s : Styled) : Bool :=
  s.spans.any fun span => span.start == 0 && span.stop == s.chars.length

/-- The text, if all styles that are met can be shown. A style that is not known is passed over, one
that lacks a number is not. -/
def text (s : Styled) : Except Failure (List Char) :=
  if s.spans.any fun span => s.meets span && Appearance.lacksPart span.style then
    .error .missingNumber
  else .ok s.chars

end Styled

def renderChars (cs : List Char) : Except Failure (List Char) := readChars cs >>= Styled.text

def render (markup : String) : Except Failure String :=
  String.ofList <$> renderChars markup.toList

end ReversePolish.Markup
