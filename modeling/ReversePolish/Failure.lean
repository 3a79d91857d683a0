import ReversePolish.Text.Quoted
import ReversePolish.Token

/-!
# Failures

What can go wrong with a value that is no expression: a token that cannot be built or written out, a
number that is too long to be written, a result that has nothing to show, markup that cannot be shown,
a path that no file can have.
-/

namespace ReversePolish

inductive Failure where
  | unknownKindName (name : String)
  | unknownRuleName (name : String)
  /-- An operand is asked for without its value. -/
  | valueNeeded (k : Kind)
  /-- Nothing is known of how a token of this kind is written. -/
  | unknownKind (label : Datum)
  | unknownStyle (name : String)
  /-- Something that is no token is asked for its kind or symbol. -/
  | notAToken (found : Datum) (asked : String)
  /-- The operand at this position has no value to be joined with the others. -/
  | missingValue (position : Nat)
  /-- An operand has no value to fill its cell. -/
  | emptyCell
  /-- A success without a list of tokens is asked for its tokens. -/
  | noTokens
  /-- A success without a list of tokens is asked for their number. -/
  | noCount
  /-- A closing tag closes nothing. -/
  | unopenedTag
  | unreadableAction
  | missingNumber
  /-- A path has a name that no file can have. -/
  | nameTooLong (path : String)
  /-- A number has more digits than numbers are written with. -/
  | numberTooLong (digits : Nat)
  deriving DecidableEq, Repr

namespace Failure

def message : Failure → String
  | unknownKindName name => Text.quote name ++ " is not a valid TokenKind"
  | unknownRuleName name => Text.quote name ++ " is not a valid ErrorKind"
  | valueNeeded k => k.name ++ " tokens need a value"
  | unknownKind (.text s) => Text.quote s
  | unknownKind label => label.describe
  | unknownStyle name => Text.quote name
  | notAToken found asked =>
    Text.quote found.typeName ++ " object has no attribute " ++ Text.quote asked
  | missingValue position =>
    "sequence item " ++ position.repr ++ ": expected str instance, NoneType found"
  | emptyCell => "expected string or bytes-like object, got 'NoneType'"
  | noTokens => "'NoneType' object is not iterable"
  | noCount => "object of type 'NoneType' has no len()"
  | unopenedTag => "closing tag does not match any open tag"
  | unreadableAction => "error parsing the arguments of an action"
  | missingNumber => "invalid literal for int() with base 10: " ++ Text.quote ""
  | nameTooLong path => "[Errno 36] File name too long: " ++ Text.quote path
  | numberTooLong digits =>
    "Exceeds the limit (" ++ digits.repr ++ " digits) for integer string conversion; " ++
      "use sys.set_int_max_str_digits() to increase the limit"

end Failure

end ReversePolish
