/-!
# Paths

A path is where it starts and the names on its way. Empty names and single dots are dropped when a
path is read, double dots are kept: whether they can be followed depends on the files.
-/

namespace ReversePolish

/-- Where a path starts. Exactly two slashes in front are told from one. -/
inductive Origin where
  | here
  | root
  | doubleRoot
  deriving DecidableEq, Repr

structure Path where
  origin : Origin
  names : List String
  deriving DecidableEq, Repr

namespace Path

def up : String := ".."

def originOf (cs : List Char) : Origin :=
  match (cs.takeWhile (· == '/')).length with
  | 0 => .here
  | 2 => .doubleRoot
  | _ => .root

def ofText (s : String) : Path :=
  ⟨originOf s.toList,
    ((s.toList.splitOnP (· == '/')).map String.ofList).filter fun name => name ≠ "" ∧ name ≠ "."⟩

def toText (p : Path) : String :=
  match p.origin, p.names with
  | .here, [] => "."
  | .here, names => "/".intercalate names
  | .root, names => "/" ++ "/".intercalate names
  | .doubleRoot, names => "//" ++ "/".intercalate names

def isAbsolute (p : Path) : Bool := p.origin != .here

/-- A path as seen from another one. -/
def under (base p : Path) : Path :=
  if p.isAbsolute then p else ⟨base.origin, base.names ++ p.names⟩

def name (p : Path) : String := p.names.getLast?.getD ""

/-- The place that a name leads to from a place, both by their names from the root. -/
def next (place : List String) (name : String) : List String :=
  if name = up then place.dropLast else place ++ [name]

/-- The place that a path starts at: a relative one starts in the current directory. -/
def start (current : List String) (p : Path) : List String := if p.isAbsolute then [] else current

/-- The place that a path comes to if each double dot takes back the name before it, whatever the
files are. -/
def resolved (current : List String) (p : Path) : List String := p.names.foldl next (p.start current)

/-- No file has the null character in its name. -/
def hasNull (p : Path) : Bool := p.names.any (·.toList.contains '\x00')

def parent (p : Path) : Path := { p with names := p.names.dropLast }

end Path

end ReversePolish
