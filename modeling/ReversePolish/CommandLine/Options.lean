import ReversePolish.File.Path
import ReversePolish.Text.Digits
import ReversePolish.Text.Quoted
import ReversePolish.View

/-!
# Options

What the command line asks for. The arguments are first sorted into options, positional arguments
and what is neither; then they are taken from left to right. The first unbroken run of positional
arguments holds the expressions, and what cannot be placed is refused at the end.
-/

namespace ReversePolish

inductive FileChoice where
  | none
  /-- A file is asked for, and its path has vanished. -/
  | pathless
  | path (p : Path)
  deriving DecidableEq, Repr

structure Options where
  expressions : List String
  file : FileChoice
  interactive : Bool
  view : View
  deriving DecidableEq, Repr

namespace Options

def plain : Options := ⟨[], .none, false, .plain⟩

end Options

namespace CommandLine

inductive Switch where
  | help
  | version
  | file
  | interactive
  | tokens
  | names
  | verbose
  deriving DecidableEq, Repr

namespace Switch

/-- How switches are written, in the order in which they are listed. -/
def spellings : List (String × Switch) := [
  ("-h", help), ("--help", help), ("--version", version), ("--file", file),
  ("--interactive", interactive), ("--tokens", tokens), ("--names", names), ("--verbose", verbose)]

/-- A switch as messages call it, by all its spellings. -/
def title (s : Switch) : String :=
  "/".intercalate ((spellings.filter (·.2 = s)).map (·.1))

end Switch

inductive Misuse where
  /-- An abbreviation stands for several switches. -/
  | ambiguous (argument : String) (candidates : List String)
  | argumentNeeded (s : Switch)
  /-- A switch that takes no argument is given one. -/
  | argumentIgnored (s : Switch) (argument : String)
  | unrecognized (arguments : List String)
  deriving DecidableEq, Repr

def Misuse.message : Misuse → String
  | ambiguous argument candidates =>
    "ambiguous option: " ++ argument ++ " could match " ++ ", ".intercalate candidates
  | argumentNeeded s => "argument " ++ s.title ++ ": expected one argument"
  | argumentIgnored s argument =>
    "argument " ++ s.title ++ ": ignored explicit argument " ++ Text.quote argument
  | unrecognized arguments => "unrecognized arguments: " ++ " ".intercalate arguments

inductive Halt where
  | help
  | version
  | misuse (m : Misuse)
  deriving DecidableEq, Repr

/-! ### Sorting the arguments -/

inductive Argument where
  | positional (s : String)
  /-- The first two dashes that stand alone. -/
  | separator
  /-- A switch, whether it is written with one dash, and the argument that is written with it. -/
  | switch (s : Switch) (short : Bool) (argument : Option String)
  | unknown (s : String)
  deriving DecidableEq, Repr

/-- What stands before the first equals sign, and what after it. -/
def splitArgument (cs : List Char) : List Char × Option (List Char) :=
  match cs.dropWhile (· != '=') with
  | _ :: rest => (cs.takeWhile (· != '='), some rest)
  | [] => (cs, none)

def isShort (spelling : String) : Bool := spelling.toList.drop 1 |>.head? |> (· != some '-')

/-- The switches that an argument may abbreviate, with the argument that is written with them. -/
def candidates (cs : List Char) : List (String × Switch × Option (List Char)) :=
  let (front, argument) := splitArgument cs
  match cs with
  | '-' :: '-' :: _ =>
    (Switch.spellings.filter fun (spelling, _) => front.isPrefixOf spelling.toList).map
      fun (spelling, s) => (spelling, s, argument)
  | _ =>
    (Switch.spellings.filter fun (spelling, _) => spelling.toList == cs.take 2).map
      fun (spelling, s) => (spelling, s, some (cs.drop 2))

/-- What an argument that comes before all separators is taken for. -/
def classify (a : String) : Except Halt Argument :=
  let cs := a.toList
  let (front, argument) := splitArgument cs
  let whole := Switch.spellings.lookup a
  let named := Switch.spellings.lookup (String.ofList front)
  if cs.head? ≠ some '-' ∨ cs.length = 1 then .ok (.positional a)
  else if let some s := whole then .ok (.switch s (isShort a) none)
  else if let some s := named then
    .ok (.switch s (isShort a) (argument.map String.ofList))
  else match candidates cs with
    | [(spelling, s, argument)] =>
      .ok (.switch s (isShort spelling) (argument.map String.ofList))
    | [] =>
      if Text.isNegativeNumber cs ∨ ' ' ∈ cs then .ok (.positional a) else .ok (.unknown a)
    | several => .error (.misuse (.ambiguous a (several.map (·.1))))

def sort : List String → Except Halt (List Argument)
  | [] => .ok []
  | a :: rest =>
    if a = "--" then .ok (.separator :: rest.map .positional)
    else do
      let first ← classify a
      return first :: (← sort rest)

/-! ### Taking the arguments -/

/-- Whether the run of expressions is yet to come, under way or over. -/
inductive Phase where
  | before
  | within
  | over
  deriving DecidableEq, Repr

/-- What has been taken so far, and what could not be placed. -/
structure Progress where
  options : Options
  phase : Phase
  extras : List String
  deriving DecidableEq, Repr

namespace Progress

def start : Progress := ⟨.plain, .before, []⟩

/-- Any option ends the run of expressions. -/
def interrupt (p : Progress) : Progress :=
  { p with phase := if p.phase = .within then .over else p.phase }

def leave (p : Progress) (s : String) : Progress := { p with extras := p.extras ++ [s] }

def positional (p : Progress) (s : String) : Progress :=
  if p.phase = .over then p.leave s
  else { p with
    phase := .within
    options := { p.options with expressions := p.options.expressions ++ [s] } }

def separator (p : Progress) : Progress :=
  if p.phase = .over then p.leave "--" else { p with phase := .within }

/-- An argument that is itself a separator vanishes. -/
def setFile (p : Progress) (s : String) : Progress :=
  { p with options.file := if s = "--" then .pathless else .path (.ofText s) }

def turnOn (p : Progress) : Switch → Except Halt Progress
  | .help => .error .help
  | .version => .error .version
  | .file => .error (.misuse (.argumentNeeded .file))
  | .interactive => .ok { p with options.interactive := true }
  | .tokens => .ok { p with options.view.tokens := true }
  | .names => .ok { p with options.view.names := true }
  | .verbose => .ok { p with options.view.verbose := true }

/-- A switch with the argument that is written with it. After one dash more switches may follow,
and help is the only one that does. -/
def withArgument (p : Progress) (s : Switch) (short : Bool) (argument : String) :
    Except Halt Progress :=
  if s = .file then .ok (p.setFile argument)
  else
    let rest := String.ofList (argument.toList.dropWhile (· == 'h'))
    if short ∧ argument ≠ "" then
      if rest = "" then .error .help else .error (.misuse (.argumentIgnored s rest))
    else .error (.misuse (.argumentIgnored s argument))

def take (p : Progress) : List Argument → Except Halt Progress
  | [] => .ok p
  | .switch .file _ none :: .positional s :: rest => (p.interrupt.setFile s).take rest
  | .switch s short argument :: rest => do
    let next ← match argument with
      | some value => p.interrupt.withArgument s short value
      | none => p.interrupt.turnOn s
    next.take rest
  | .positional s :: rest => (p.positional s).take rest
  | .separator :: rest => p.separator.take rest
  | .unknown s :: rest => (p.interrupt.leave s).take rest

end Progress

def parseOptions (arguments : List String) : Except Halt Options := do
  let p ← Progress.start.take (← sort arguments)
  if p.extras.isEmpty then .ok p.options else .error (.misuse (.unrecognized p.extras))

end CommandLine

end ReversePolish
