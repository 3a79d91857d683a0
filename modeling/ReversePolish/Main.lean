import ReversePolish.Program

/-!
# The command

Reads the arguments, the file and what is typed, prints what the program prints, and exits with its
status. What is read and printed is all that happens here.
-/

namespace ReversePolish.Command

def deliver (text : String) : IO Unit := do
  let output ← IO.getStdout
  output.putStr text
  output.flush

/-- What is at a path: what cannot be opened is not there, and what cannot be read then is a
directory. -/
def entryAt (path : String) : IO (Except Obstacle Entry) := do
  try
    let handle ← IO.FS.Handle.mk path .read
    (do return .ok (.file (← handle.readBinToEnd).toList)) <|> pure (.ok .directory)
  catch
    | .invalidArgument .. => return .error .nameTooLong
    | _ => return .error .missing

def fail (f : Failure) : IO UInt32 := do
  (← IO.getStderr).putStrLn f.message
  return 1

def conclude : Ending → IO UInt32
  | .returned status | .exited status => return status.toUInt32
  | .failed f => fail f

/-- Asks until an answer ends the session, and gives the rows of those before it. -/
partial def converse (v : View) (input : IO.FS.Stream) : IO (Except Failure (List Row)) := do
  deliver Program.prompt
  let line ← input.getLine
  let turn := Session.turn v (if line.isEmpty then .answer none else .ofLine line)
  deliver turn.text
  match turn.outcome with
  | .error f => return .error f
  | .ok (.proceeds row) =>
    let later ← converse v input
    return later.map (row.toList ++ ·)
  | .ok _ => return .ok []

/-- Prints the summary of all rows and tells the status. -/
def summarize (v : View) (rows : List Row) : IO UInt32 := do
  let summary := Program.summarize v rows
  deliver summary.text
  match summary.outcome with
  | .error f => fail f
  | .ok () => conclude (.returned (Program.status rows))

def work (o : Options) : IO UInt32 := do
  let directory := Path.ofText (← IO.currentDir).toString
  let loader := Loader.new directory.names directory
  let entry ← match o.file with
    | .none | .pathless => pure (.error .missing)
    | .path file => entryAt (loader.locate file.toText).toText
  let prepared := Program.prepare o fun path => (loader.loadWith (fun _ => entry) path).2
  deliver prepared.text
  match prepared.outcome with
  | .error f => fail f
  | .ok none => conclude Program.Work.refused.ending
  | .ok (some rows) =>
    if o.interactive then
      match ← converse o.view (← IO.getStdin) with
      | .error f => fail f
      | .ok answered => summarize o.view (rows ++ answered)
    else summarize o.view rows

end ReversePolish.Command

open ReversePolish in
/-- Converts the expressions that the arguments, a file and an interactive session give. -/
def main (arguments : List String) : IO UInt32 := do
  match CommandLine.parseOptions arguments with
  | .ok o => Command.work o
  | .error halt =>
    let run := halt.run
    Command.deliver run.output
    (← IO.getStderr).putStr run.errors
    Command.conclude run.ending
