import ReversePolish.Text.Wrap

/-!
# Tables

A table of plain text in a frame of lines, with a title above it and a heavy rule under the names of
its columns. Each column is as wide as its widest line; a cell of several lines makes a row of
several lines. What its place has no room for goes on in further lines.
-/

namespace ReversePolish

inductive Alignment where
  | left
  | right
  | centre
  deriving DecidableEq, Repr

structure Column where
  header : String
  alignment : Alignment
  /-- Lines that are too wide go on in further lines. -/
  wraps : Bool
  deriving DecidableEq, Repr

structure Cell where
  text : String
  /-- A style of its own lies on all of the text. -/
  styled : Bool
  deriving DecidableEq, Repr

namespace Table

/-- The lines of a text, which are one more than its line feeds. -/
def lines (cs : List Char) : List (List Char) := cs.splitOnP (· == '\n')

/-- The separators of lines that a cell is measured by. -/
def separatesLines (c : Char) : Bool :=
  let n := c.toNat
  (0x0A ≤ n && n ≤ 0x0D) || (0x1C ≤ n && n ≤ 0x1E) || n == 0x85 || n == 0x2028 || n == 0x2029

def widest (text : String) : Nat :=
  ((text.toList.splitOnP separatesLines).map Text.width).foldl max 0

def blanks (n : Nat) : List Char := List.replicate n ' '

/-- A line with spaces after it up to a width. -/
def pad (width : Nat) (l : List Char) : List Char := l ++ blanks (width - Text.width l)

/-- A line filled up with spaces to a width, and cut off where it is wider. A space that cannot be
shared between the two sides goes to the right. -/
def fit (o : Text.Overflow) (alignment : Alignment) (width : Nat) (l : List Char) : List Char :=
  let shown := Text.limitWidth o width (if alignment = .left then l else Text.trimEnd l)
  let free := width - Text.width shown
  match alignment with
  | .left => pad width shown
  | .right => blanks free ++ shown
  | .centre => blanks (free / 2) ++ shown ++ blanks (free - free / 2)

def place (o : Text.Overflow) (wraps : Bool) (alignment : Alignment) (width : Nat) (s : String) :
    List (List Char) :=
  (lines s.toList).flatMap fun l =>
    let l := Text.expandTabs l
    let parts := if wraps then Text.wrap o width l else [l]
    parts.map fun part => fit o alignment width (Text.trimBeyond width part)

/-- The lines of a cell in its column. A line that still does not fill the column, for its end joins
the first space after it, gets one more space; in a style of its own a line ends for itself. -/
def cellLines (column : Column) (width : Nat) (cell : Cell) : List (List Char) :=
  let placed := place .ellipsis column.wraps column.alignment width cell.text
  if cell.styled then placed else placed.map (pad width)

def rule (left cross right dash : Char) (widths : List Nat) : List Char :=
  left :: ([cross].intercalate (widths.map fun w => List.replicate (w + 2) dash)) ++ [right]

/-- The lines that a row of cells takes, between vertical lines. -/
def rowLines (bar : Char) (columns : List (Column × Nat)) (cells : List Cell) :
    List (List Char) :=
  let cells := (columns.zip cells).map fun ((column, width), cell) =>
    (width, cellLines column width cell)
  let height := (cells.map (·.2.length)).foldl max 0
  (List.range height).map fun i =>
    let parts := cells.map fun (width, ls) => ' ' :: ls[i]?.getD (blanks width) ++ [' ']
    bar :: [bar].intercalate parts ++ [bar]

def widths (columns : List Column) (rows : List (List Cell)) : List Nat :=
  rows.foldl (fun ws row => List.zipWith max ws (row.map (widest ·.text)))
    (columns.map (widest ·.header))

/-- A table as text, each line ended by a line feed. No line is spent on a missing title. -/
def layout (title : Option String) (columns : List Column) (rows : List (List Cell)) : String :=
  let ws := widths columns rows
  let shape := columns.zip ws
  let total := ws.foldl (fun total width => total + width + 3) 1
  let head := (title.map (place .fold true .centre total)).getD []
  let all := head ++ [rule '┏' '┳' '┓' '━' ws] ++ rowLines '┃' shape (columns.map (⟨·.header, false⟩)) ++
    [rule '┡' '╇' '┩' '━' ws] ++ rows.flatMap (rowLines '│' shape) ++ [rule '└' '┴' '┘' '─' ws]
  String.ofList (all.flatMap (· ++ ['\n']))

end Table

end ReversePolish
