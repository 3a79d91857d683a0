import ReversePolish.Console.Color
import ReversePolish.Text.Blank

/-!
# Appearances

What a style tag asks for, by the words it is written with: kinds of emphasis, the colors of the
text and of the ground, and a link. The words of an appearance may be abbreviated and stand in any
order; `toText` writes them in full and in one order, so that tags that ask for the same are alike.
-/

namespace ReversePolish

inductive Emphasis where
  | bold
  | dim
  | italic
  | underline
  | blink
  | fastBlink
  | reverse
  | conceal
  | strike
  | doubleUnderline
  | frame
  | encircle
  | overline
  deriving DecidableEq, Repr

namespace Emphasis

/-- All kinds of emphasis in the order in which they are written. -/
def all : List Emphasis := [
  bold, dim, italic, underline, blink, fastBlink, reverse, conceal, strike, doubleUnderline, frame,
  encircle, overline]

def name : Emphasis → String
  | bold => "bold"
  | dim => "dim"
  | italic => "italic"
  | underline => "underline"
  | blink => "blink"
  | fastBlink => "blink2"
  | reverse => "reverse"
  | conceal => "conceal"
  | strike => "strike"
  | doubleUnderline => "underline2"
  | frame => "frame"
  | encircle => "encircle"
  | overline => "overline"

def abbreviation? : Emphasis → Option String
  | bold => some "b"
  | dim => some "d"
  | italic => some "i"
  | underline => some "u"
  | reverse => some "r"
  | conceal => some "c"
  | strike => some "s"
  | doubleUnderline => some "uu"
  | overline => some "o"
  | blink | fastBlink | frame | encircle => none

def ofWord? (word : String) : Option Emphasis :=
  all.find? fun e => e.name == word || e.abbreviation? == some word

end Emphasis

structure Appearance where
  /-- What is turned on or off, the last one first. -/
  emphases : List (Emphasis × Bool)
  color : Option (List Char)
  ground : Option (List Char)
  link : Option (List Char)
  deriving DecidableEq, Repr

namespace Appearance

def plain : Appearance := ⟨[], none, none, none⟩

def turn (on : Bool) (e : Emphasis) (a : Appearance) : Appearance :=
  { a with emphases := (e, on) :: a.emphases }

/-- What an appearance becomes with further words. The word that says what the next one is for is
read in any letters, and so is a color. -/
def readWords (a : Appearance) : List (List Char) → Except Color.Fault Appearance
  | [] => .ok a
  | word :: words =>
    let key := String.ofList (Text.lower word)
    if key = "on" then
      match words with
      | [] => .error .unknown
      | ground :: words => do readWords { a with ground := some (← Color.read ground) } words
    else if key = "not" then
      match words with
      | [] => .error .unknown
      | off :: words =>
        match Emphasis.ofWord? (String.ofList off) with
        | some e => readWords (a.turn false e) words
        | none => .error .unknown
    else if key = "link" then
      match words with
      | [] => .error .unknown
      | target :: words => readWords { a with link := some target } words
    else match Emphasis.ofWord? key with
      | some e => readWords (a.turn true e) words
      | none => do readWords { a with color := some (← Color.read word) } words

/-- The word for an appearance that asks for nothing. -/
def nothing : String := "none"

def ofText (cs : List Char) : Except Color.Fault Appearance :=
  if String.ofList (Text.trim cs) = nothing then .ok plain
  else readWords plain (Text.words cs)

/-- The color of an appearance lacks a part. -/
def lacksPart (cs : List Char) : Bool :=
  match ofText cs with
  | .error .missingPart => true
  | _ => false

def words (a : Appearance) : List (List Char) :=
  (Emphasis.all.flatMap fun e =>
    match a.emphases.lookup e with
    | some true => [e.name.toList]
    | some false => ["not".toList, e.name.toList]
    | none => []) ++
  a.color.toList ++
  (a.ground.map fun c => ["on".toList, c]).getD [] ++
  (a.link.map fun target => ["link".toList, target]).getD []

def toText (a : Appearance) : List Char :=
  match a.words with
  | [] => nothing.toList
  | words => [' '].intercalate words

end Appearance

end ReversePolish
