import ReversePolish.CommandLine.Help
import ReversePolish.CommandLine.Options
import ReversePolish.File.Loader
import ReversePolish.Session

/-!
# The program

From the arguments to the exit status: the expressions of the command line, those of a file, and
those of an interactive session are converted in this order, and two rows or more are shown again as
a table. The status tells whether any of them failed.
-/

namespace ReversePolish

inductive Ending where
  /-- With a status, at the end of the work. -/
  | returned (status : Nat)
  /-- With a status, before the work is done. -/
  | exited (status : Nat)
  | failed (f : Failure)
  deriving DecidableEq, Repr

structure Run where
  output : String
  errors : String
  ending : Ending
  deriving DecidableEq, Repr

namespace CommandLine

def Halt.run : Halt → Run
  | .help => ⟨CommandLine.help, "", .exited 0⟩
  | .version => ⟨programName ++ " " ++ programVersion ++ "\n", "", .exited 0⟩
  | .misuse m => ⟨"", usage ++ programName ++ ": error: " ++ m.message ++ "\n", .exited 2⟩

end CommandLine

namespace Program

/-- What the work leaves behind: its rows, or a status at which it ended early. -/
inductive Work where
  | done (rows : List Row)
  | refused
  | interrupted

def status (rows : List Row) : Nat := if rows.any Row.failed then 1 else 0

/-- Prints the table of two rows or more. -/
def summarize (v : View) (rows : List Row) : Printed Unit :=
  if rows.length > 1 then do
    Printed.line ""
    Display.summaryTable "Conversion Summary" v.naming (rows.map Row.shown)
  else return ()

/-- Prints why nothing is converted. The reason is not escaped. -/
def refuse (reason : String) : Printed Unit := Printed.line ("[red]Error: " ++ reason ++ "[/red]")

/-- The expressions of the command line and those of the file, or why there are none. -/
def gather (o : Options) (load : String → Printed (Except LoadError (List String))) :
    Printed (Except String (List String)) := do
  let more ← match o.file with
    | .none | .pathless => pure (.ok [])
    | .path file => load file.toText
  return match more with
    | .error e => .error e.message
    | .ok es =>
      if (o.expressions ++ es).isEmpty && !o.interactive then
        .error "No expressions given (pass EXPRESSION, --file or --interactive)"
      else .ok (o.expressions ++ es)

/-- All that comes before the first prompt. -/
def prepare (o : Options) (load : String → Printed (Except LoadError (List String))) :
    Printed (Option (List Row)) := do
  match ← gather o load with
  | .error reason => do
    refuse reason
    return none
  | .ok expressions => do
    let rows ← Session.convertAll o.view expressions
    if o.interactive then
      Printed.line Session.greeting
    return some rows

def prompt : String := "Expression: "

/-- The work that options ask for, with the replies that are typed. -/
def work (o : Options) (load : String → Printed (Except LoadError (List String)))
    (replies : List Session.Reply) : Printed Work := do
  match ← prepare o load with
  | none => return .refused
  | some rows =>
    if o.interactive then
      let t ← Session.ask prompt o.view replies
      if t.interrupted then return .interrupted
      summarize o.view (rows ++ t.rows)
      return .done (rows ++ t.rows)
    else
      summarize o.view rows
      return .done rows

def Work.ending : Work → Ending
  | .done rows => .returned (status rows)
  | .refused => .returned 1
  | .interrupted => .exited 130

def run (arguments : List String) (load : String → Printed (Except LoadError (List String)))
    (replies : List Session.Reply) : Run :=
  match CommandLine.parseOptions arguments with
  | .error halt => halt.run
  | .ok o =>
    let printed := work o load replies
    ⟨printed.text, "", match printed.outcome with
      | .ok w => w.ending
      | .error f => .failed f⟩

end Program

end ReversePolish
