/-!
Trees of files and directories. A tree is a value: reading looks something up in it, and writing
gives a new tree. Places in a tree are lists of names from its top.
-/

namespace Mathdown

inductive FileTree.Node where
  | file (bytes : ByteArray)
  | directory

abbrev FileTree.Place := List String

/-- Files and directories by their places. The top is always a directory. -/
structure FileTree where
  entries : List (FileTree.Place × FileTree.Node) := []

/-- Why a file cannot be read or written. -/
inductive FileError where
  | notFound
  | notDirectory
  | isDirectory
  | exists
  | notText
deriving DecidableEq, Repr

def FileError.message : FileError → String
  | .notFound => "No such file or directory (os error 2)"
  | .notDirectory => "Not a directory (os error 20)"
  | .isDirectory => "Is a directory (os error 21)"
  | .exists => "File exists (os error 17)"
  | .notText => "stream did not contain valid UTF-8"

namespace FileTree

def find? (t : FileTree) (place : Place) : Option Node :=
  if place = [] then some .directory else t.entries.lookup place

def isDirectory (t : FileTree) (place : Place) : Bool :=
  match t.find? place with
  | some .directory => true
  | _ => false

def isFile (t : FileTree) (place : Place) : Bool :=
  match t.find? place with
  | some (.file _) => true
  | _ => false

def put (t : FileTree) (place : Place) (node : Node) : FileTree :=
  ⟨(place, node) :: t.entries.filter (·.1 != place)⟩

def erase (t : FileTree) (place : Place) : FileTree :=
  ⟨t.entries.filter fun entry => !place.isPrefixOf entry.1⟩

/-- Why nothing can stand at the places below this one. -/
def barrier? (t : FileTree) (place : Place) : Option FileError :=
  match t.find? place with
  | some .directory => none
  | some (.file _) => some .notDirectory
  | none => some .notFound

/-- Why nothing can be done at a place: the first thing on the way to it that is no directory. -/
def obstacle? (t : FileTree) (place : Place) : Option FileError :=
  (List.range place.length).findSome? fun n => t.barrier? (place.take n)

def read (t : FileTree) (place : Place) : Except FileError ByteArray :=
  match t.obstacle? place with
  | some e => .error e
  | none =>
    match t.find? place with
    | some (.file bytes) => .ok bytes
    | some .directory => .error .isDirectory
    | none => .error .notFound

def readText (t : FileTree) (place : Place) : Except FileError String := do
  let bytes ← t.read place
  match String.fromUTF8? bytes with
  | some text => .ok text
  | none => .error .notText

/-- Writes a file, in place of one that is there. The directory it is in must be there. -/
def write (t : FileTree) (place : Place) (bytes : ByteArray) : Except FileError FileTree :=
  match t.obstacle? place with
  | some e => .error e
  | none => if t.isDirectory place then .error .isDirectory else .ok (t.put place (.file bytes))

/-- Makes the directories on the way to places that lie below one, and the one itself. -/
def createFrom (t : FileTree) (place : Place) : (below : Place) → Except FileError FileTree
  | [] => .ok t
  | name :: below =>
    let inner := place ++ [name]
    match t.find? inner with
    | some .directory => createFrom t inner below
    | some (.file _) => .error (if below.isEmpty then .exists else .notDirectory)
    | none => createFrom (t.put inner .directory) inner below

/-- Makes a directory and those on the way to it, unless they are there. -/
def createAll (t : FileTree) (place : Place) : Except FileError FileTree := t.createFrom [] place

def removeAll (t : FileTree) (place : Place) : Except FileError FileTree :=
  match t.obstacle? place, t.find? place with
  | some e, _ => .error e
  | none, some .directory => .ok (t.erase place)
  | none, some (.file _) => .error .notDirectory
  | none, none => .error .notFound

def files (t : FileTree) : List (Place × ByteArray) :=
  t.entries.filterMap fun (place, node) =>
    match node with
    | .file bytes => some (place, bytes)
    | .directory => none

@[simp] theorem find?_top (t : FileTree) : t.find? [] = some .directory := by simp [find?]

@[simp] theorem find?_put_self (t : FileTree) {place : Place} (node : Node) (h : place ≠ []) :
    (t.put place node).find? place = some node := by
  simp [find?, put, h]

theorem find?_put_of_ne (t : FileTree) {place other : Place} (node : Node) (h : other ≠ place) :
    (t.put place node).find? other = t.find? other := by
  have differ : (other == place) = false := beq_false_of_ne h
  by_cases top : other = []
  · simp [top]
  · have kept : (t.entries.filter (·.1 != place)).lookup other = t.entries.lookup other := by
      induction t.entries with
      | nil => rfl
      | cons entry rest ih =>
        obtain ⟨first, held⟩ := entry
        by_cases same : first = place
        · subst same
          simp [List.lookup_cons, differ, ih]
        · simp [List.lookup_cons, same, ih]
    simp [find?, put, top, List.lookup_cons, differ, kept]

end FileTree

end Mathdown
