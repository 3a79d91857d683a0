import ReversePolish.Console.Printed
import ReversePolish.File.Tree
import ReversePolish.Text.Lines
import ReversePolish.Text.Utf8

/-!
# Expression files

A file of expressions holds one on each line; blank lines and those that begin with a number sign
are passed over. What a path has once given is remembered under the place that the path names, and
is given again without a look at the files.
-/

namespace ReversePolish

inductive LoadError where
  | nullInPath
  | notFound (p : Path)
  | notAFile (p : Path)
  | unreadable (p : Path) (fault : Text.Utf8.Fault)
  | noExpressions (p : Path)
  /-- They have been read, but the name of the file holds a color that lacks a number. -/
  | untold
  deriving DecidableEq, Repr

namespace LoadError

def message : LoadError → String
  | nullInPath => "embedded null byte"
  | notFound p => "Expression file not found: " ++ p.toText
  | notAFile p => "Path is not a file: " ++ p.toText
  | unreadable p fault => "Cannot read expression file " ++ p.toText ++ ": " ++ fault.describe
  | noExpressions p => "No expressions found in file: " ++ p.toText
  | untold => Failure.missingNumber.message

end LoadError

/-- The current directory, the path that relative paths start with, which may be relative itself, and
the expressions that places have given. -/
structure Loader where
  current : List String
  base : Path
  cache : List (List String × List String)
  deriving DecidableEq, Repr

namespace Loader

def new (current : List String) (base : Path) : Loader := ⟨current, base, []⟩

/-- A line that is an expression once it is trimmed. -/
def isExpression (line : List Char) : Bool := !line.isEmpty && line.head? != some '#'

def expressionsIn (cs : List Char) : List String :=
  (((Text.lines cs).map Text.trim).filter isExpression).map String.ofList

def read (p : Path) : Entry → Except LoadError (List String)
  | .directory => .error (.notAFile p)
  | .file bytes =>
    match Text.Utf8.decode bytes with
    | .error fault => .error (.unreadable p fault)
    | .ok cs =>
      match expressionsIn cs with
      | [] => .error (.noExpressions p)
      | es => .ok es

/-- Tells of the expressions that were read from a file, as markup. -/
def notice (p : Path) (es : List String) : String :=
  "[dim]Loaded " ++ es.length.repr ++ " expressions from " ++ p.name ++ "[/dim]"

/-- Tells of the expressions and gives them. -/
def announce (p : Path) (es : List String) : Printed (Except LoadError (List String)) :=
  let told := Printed.line (notice p es)
  match told.outcome with
  | .error .missingNumber => pure (.error .untold)
  | _ => do
    told
    return .ok es

/-- The path of a file that is asked for. -/
def locate (l : Loader) (s : String) : Path := l.base.under (.ofText s)

/-- The place that the path stands for, if no file is in its way. -/
def place (l : Loader) (s : String) : List String := (l.locate s).resolved l.current

/-- The expressions that a path stands for, where `look` tells what is at a path. They are remembered
before they are told of. -/
def loadWith (l : Loader) (look : Path → Except Obstacle Entry) (s : String) :
    Loader × Printed (Except LoadError (List String)) :=
  let p := l.locate s
  if p.hasNull then (l, pure (.error .nullInPath))
  else match l.cache.lookup (l.place s) with
    | some es => (l, pure (.ok es))
    | none =>
      match look p with
      | .error .missing => (l, pure (.error (.notFound p)))
      | .error .nameTooLong => (l, Printed.ofExcept (.error (.nameTooLong p.toText)))
      | .ok entry =>
        match read p entry with
        | .error e => (l, pure (.error e))
        | .ok es => ({ l with cache := (l.place s, es) :: l.cache }, announce p es)

def load (l : Loader) (t : FileTree) (s : String) :
    Loader × Printed (Except LoadError (List String)) :=
  l.loadWith (t.find l.current) s

end Loader

end ReversePolish
