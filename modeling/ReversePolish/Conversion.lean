import ReversePolish.Expression
import ReversePolish.Failure

/-!
# Putting tokens into postfix order

Operands go to the output at once. An operator waits on a stack until what it applies to is out:
an AND or OR first sends out every waiting operator that binds at least as tightly, back to the
nearest open bracket, so that equal operators group to the left; a NOT sends out nothing, so that
it groups to the right. A close bracket sends out all that waits since its open bracket, and the
two brackets are dropped. Whether the tokens make an expression is not asked.
-/

namespace ReversePolish

namespace Conversion

/-- What has been sent out, and the operators and open brackets that wait, the last one first. -/
structure State where
  output : Array Token
  stack : List Token
  deriving DecidableEq, Repr

def State.start : State := ⟨#[], []⟩

/-- A waiting token leaves the stack before `incoming` enters it. -/
def leavesBefore (incoming : Kind) (waiting : Token) : Bool :=
  match waiting.kind.precedence?, incoming.precedence? with
  | some w, some i => i ≤ w
  | _, _ => false

def isOpen (t : Token) : Bool := t.kind == .openPar

namespace State

def emit (s : State) (t : Token) : State := { s with output := s.output.push t }

def hold (s : State) (t : Token) : State := { s with stack := t :: s.stack }

/-- Sends out the tokens on top of the stack that satisfy `p`. -/
def release (s : State) (p : Token → Bool) : State :=
  ⟨s.output ++ s.stack.takeWhile p, s.stack.dropWhile p⟩

/-- What is released goes from one list to the other and keeps its order. -/
theorem release_append (s : State) (p : Token → Bool) :
    (s.release p).output.toList ++ (s.release p).stack = s.output.toList ++ s.stack := by
  simp [release, List.takeWhile_append_dropWhile]

/-- Sends out all that waits since the last open bracket, and drops the bracket. -/
def close (s : State) : Except Refusal State :=
  let released := s.release (!isOpen ·)
  match released.stack with
  | [] => .error .unmatchedBracket
  | _ :: waiting => .ok { released with stack := waiting }

end State

def step (s : State) : Element → Except Refusal State
  | .token t =>
    match t.kind with
    | .var | .const => .ok (s.emit t)
    | .openPar | .not => .ok (s.hold t)
    | .closePar => s.close
    | .and | .or => .ok ((s.release (leavesBefore t.kind)).hold t)
  | e => .error (.unexpectedToken e.subject)

/-- Sends out all that still waits, which must not be a bracket. -/
def finish (s : State) : Except Refusal (List Token) :=
  if s.stack.any isOpen then .error .unmatchedBracket else .ok (s.output ++ s.stack).toList

end Conversion

/-- The tokens of a list in postfix order, without brackets. -/
def toPostfix (es : List Element) : Except Refusal (List Token) :=
  es.foldlM Conversion.step .start >>= Conversion.finish

/-- The tokens of a list in postfix order, where a limit may be set to the digits of a number. A refusal
is told as it is made, and fails if it points at a number that is too long to be written. -/
def toPostfixWithin (limit : Option Nat) (es : List Element) :
    Except Failure (Except Refusal (List Token)) :=
  match toPostfix es, limit with
  | .error e, some digits =>
    if e.fits digits then .ok (.error e) else .error (.numberTooLong digits)
  | result, _ => .ok result

/-- The postfix form of an expression; a blank text is none. -/
def parse (text : String) : Option (Except Refusal (List Token)) :=
  if Text.isBlank text.toList then none
  else some (Expression.tokens text >>= fun ts => toPostfix (ts.map .token))

end ReversePolish
