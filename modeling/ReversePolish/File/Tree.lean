import ReversePolish.File.Path

/-!
# File trees

The directories and files there are, by their names from the root. A path is followed name by name,
and each name but the last has to be that of a directory, even where the next one leads back.
-/

namespace ReversePolish

inductive Entry where
  | directory
  | file (bytes : List UInt8)
  deriving DecidableEq, Repr

inductive Obstacle where
  | missing
  /-- A name is longer than any name of a file, or the path than any path. -/
  | nameTooLong
  deriving DecidableEq, Repr

structure FileTree where
  entries : List (List String × Entry)
  deriving DecidableEq, Repr

namespace FileTree

def empty : FileTree := ⟨[]⟩

/-- What is at a place. The root is always a directory. -/
def get? (t : FileTree) (place : List String) : Option Entry :=
  if place = [] then some .directory else t.entries.lookup place

def isDirectory (t : FileTree) (place : List String) : Bool := t.get? place == some .directory

def put (t : FileTree) (place : List String) (e : Entry) : FileTree :=
  ⟨(place, e) :: t.entries.filter (·.1 ≠ place)⟩

/-- The tree without what is at a place and below it. -/
def erase (t : FileTree) (place : List String) : FileTree :=
  ⟨t.entries.filter fun entry => !place.isPrefixOf entry.1⟩

def nameLimit : Nat := 255

def pathLimit : Nat := 4095

/-- The place that names lead to from a place. A name is looked for only in a directory. -/
def walk (t : FileTree) (place : List String) : List String → Except Obstacle (List String)
  | [] => if (t.get? place).isSome then .ok place else .error .missing
  | name :: names =>
    if !t.isDirectory place then .error .missing
    else if nameLimit < name.utf8ByteSize then .error .nameTooLong
    else t.walk (Path.next place name) names

/-- What is at a path, for one who is in the directory `current`. -/
def find (t : FileTree) (current : List String) (p : Path) : Except Obstacle Entry :=
  if pathLimit < p.toText.utf8ByteSize then .error .nameTooLong
  else do
    match t.get? (← t.walk (p.start current) p.names) with
    | some e => return e
    | none => throw .missing

/-- The tree with all directories on the way of some names from a place, and the directory they lead to.
A file on the way ends it. -/
def openWay (t : FileTree) (place : List String) : List String → FileTree × Option (List String)
  | [] => (t, if t.isDirectory place then some place else none)
  | name :: names =>
    if !t.isDirectory place then (t, none)
    else
      let next := Path.next place name
      (if (t.get? next).isSome then t else t.put next .directory).openWay next names

/-- Makes a directory, and those that it is in. -/
def makeDirectory (t : FileTree) (current : List String) (p : Path) : FileTree :=
  (t.openWay (p.start current) p.names).1

/-- Writes a file, and makes the directories that it is in. A directory is not written over. -/
def write (t : FileTree) (current : List String) (p : Path) (bytes : List UInt8) : FileTree :=
  match t.openWay (p.start current) p.parent.names with
  | (t, none) => t
  | (t, some place) =>
    let place := p.names.getLast?.elim place (Path.next place)
    if t.isDirectory place then t else t.put place (.file bytes)

/-- Deletes a file, or a directory with all that is in it. -/
def delete (t : FileTree) (current : List String) (p : Path) : FileTree :=
  match t.walk (p.start current) p.names with
  | .ok place => t.erase place
  | .error _ => t

end FileTree

end ReversePolish
