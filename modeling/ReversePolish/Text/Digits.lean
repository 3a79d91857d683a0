/-!
# Decimal digits

The digits of all scripts that write numbers by tens.
-/

namespace ReversePolish.Text

/-- The code of the digit zero in each script; the other nine digits follow it. -/
def zeros : List Nat := [
  0x30, 0x660, 0x6F0, 0x7C0, 0x966, 0x9E6, 0xA66, 0xAE6, 0xB66, 0xBE6, 0xC66, 0xCE6, 0xD66, 0xDE6,
  0xE50, 0xED0, 0xF20, 0x1040, 0x1090, 0x17E0, 0x1810, 0x1946, 0x19D0, 0x1A80, 0x1A90, 0x1B50,
  0x1BB0, 0x1C40, 0x1C50, 0xA620, 0xA8D0, 0xA900, 0xA9D0, 0xA9F0, 0xAA50, 0xABF0, 0xFF10, 0x104A0,
  0x10D30, 0x11066, 0x110F0, 0x11136, 0x111D0, 0x112F0, 0x11450, 0x114D0, 0x11650, 0x116C0,
  0x11730, 0x118E0, 0x11950, 0x11C50, 0x11D50, 0x11DA0, 0x16A60, 0x16AC0, 0x16B50, 0x1D7CE,
  0x1D7D8, 0x1D7E2, 0x1D7EC, 0x1D7F6, 0x1E140, 0x1E2F0, 0x1E950, 0x1FBF0]

def isDigit (c : Char) : Bool := zeros.any fun n => n ≤ c.toNat && c.toNat < n + 10

def digitValue (c : Char) : Nat :=
  match zeros.find? fun n => n ≤ c.toNat && c.toNat < n + 10 with
  | some n => c.toNat - n
  | none => 0

def number (cs : List Char) : Nat := cs.foldl (fun n c => 10 * n + digitValue c) 0

/-- A minus sign and a number, which may have a point before its last digits. A line feed may
follow. -/
def isNegativeNumber (cs : List Char) : Bool :=
  match cs with
  | '-' :: rest =>
    let rest := if rest.getLast? == some '\n' then rest.dropLast else rest
    match rest.dropWhile isDigit with
    | [] => !rest.isEmpty
    | '.' :: decimals => !decimals.isEmpty && decimals.all isDigit
    | _ => false
  | _ => false

end ReversePolish.Text
