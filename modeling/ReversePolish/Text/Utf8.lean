import ReversePolish.Text.Quoted

/-!
# Reading UTF-8

Bytes are read as characters, and the first span of bytes that is no character is reported. A span
is a lead byte and the continuation bytes after it that could belong to it.
-/

namespace ReversePolish.Text.Utf8

inductive Reason where
  | invalidStart
  | invalidContinuation
  | endOfData
  deriving DecidableEq, Repr

/-- A span that is no character: its first byte, its length, where it is said to begin, and why. -/
structure Fault where
  lead : UInt8
  length : Nat
  position : Nat
  reason : Reason
  deriving DecidableEq, Repr

def Reason.describe : Reason → String
  | invalidStart => "invalid start byte"
  | invalidContinuation => "invalid continuation byte"
  | endOfData => "unexpected end of data"

/-- A fault with the byte, or the bounds of the bytes, that it is about. -/
def Fault.describe (f : Fault) : String :=
  let place := if f.length = 1 then
      "byte 0x" ++ String.ofList (hexDigits 2 f.lead.toNat) ++ " in position " ++ f.position.repr
    else "bytes in position " ++ f.position.repr ++ "-" ++ (f.position + f.length - 1).repr
  "'utf-8' codec can't decode " ++ place ++ ": " ++ f.reason.describe

def following? (lead : Nat) : Option Nat :=
  if lead < 0x80 then some 0
  else if 0xC2 ≤ lead ∧ lead ≤ 0xDF then some 1
  else if 0xE0 ≤ lead ∧ lead ≤ 0xEF then some 2
  else if 0xF0 ≤ lead ∧ lead ≤ 0xF4 then some 3
  else none

/-- Whether a byte may come right after a lead byte. What is left out are overlong forms, surrogates
and what lies beyond the last character. -/
def canFollow (lead b : Nat) : Bool :=
  let low := if lead = 0xE0 then 0xA0 else if lead = 0xF0 then 0x90 else 0x80
  let high := if lead = 0xED then 0x9F else if lead = 0xF4 then 0x8F else 0xBF
  low ≤ b && b ≤ high

def isContinuation (b : Nat) : Bool := 0x80 ≤ b && b ≤ 0xBF

/-- Of the bytes after a lead byte those that belong to it, if it takes `n`. -/
def continuation (lead n : Nat) (bytes : List UInt8) : List UInt8 :=
  match n, bytes with
  | n + 1, b :: rest =>
    if canFollow lead b.toNat then b :: (rest.take n).takeWhile (isContinuation ·.toNat) else []
  | _, _ => []

def code (lead : Nat) (tail : List UInt8) : Nat :=
  let start := match tail.length with
    | 0 => lead
    | 1 => lead - 0xC0
    | 2 => lead - 0xE0
    | _ => lead - 0xF0
  tail.foldl (fun n b => n * 64 + (b.toNat - 0x80)) start

/-- What is wrong after a lead byte of which `tail` could be read. Bytes that are cut off by the end
are counted from their own lead byte, and so are two bytes there that begin a surrogate. -/
def tailFault (position : Nat) (lead : UInt8) (tail rest : List UInt8) : Fault :=
  if tail.length = rest.length then ⟨lead, tail.length + 1, 0, .endOfData⟩
  else if lead = 0xED ∧ rest.length = 1 ∧ rest.all (isContinuation ·.toNat) then
    ⟨lead, 1, 0, .invalidContinuation⟩
  else ⟨lead, tail.length + 1, position, .invalidContinuation⟩

/-- The characters of bytes that begin at a position. -/
def decodeFrom (position : Nat) : List UInt8 → Except Fault (List Char)
  | [] => .ok []
  | lead :: rest =>
    match following? lead.toNat with
    | none => .error ⟨lead, 1, position, .invalidStart⟩
    | some n =>
      let tail := continuation lead.toNat n rest
      if tail.length = n then
        (Char.ofNat (code lead.toNat tail) :: ·) <$> decodeFrom (position + n + 1) (rest.drop n)
      else .error (tailFault position lead tail rest)
termination_by bytes => bytes.length
decreasing_by simp only [List.length_drop, List.length_cons]; omega

def decode (bytes : List UInt8) : Except Fault (List Char) := decodeFrom 0 bytes

end ReversePolish.Text.Utf8
