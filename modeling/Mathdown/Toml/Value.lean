import Mathdown.Toml.Double

/-!
TOML values, and tables while they are written. A table remembers how it came to be, because that
decides who may add to it: a table of braces is closed, a header may fill in a table that it was
only on the way to, and a dotted key may add to tables of dotted keys. Tables are kept in the order
of their keys, and no key is given twice.
-/

namespace Mathdown.Toml

inductive Origin where
  /-- Written in braces. -/
  | braces
  /-- On the way to the table of a header. -/
  | implied
  /-- On the way to the value of a dotted key. -/
  | dotted
  /-- Named by a header; the whole document counts as one. -/
  | header
deriving Repr, DecidableEq

inductive Value where
  | string (text : String)
  | integer (n : Int)
  | float (number : Double)
  /-- A decimal number beyond double precision. -/
  | overflow
  | boolean (b : Bool)
  | date (text : String)
  /-- An array in brackets, or one whose tables are given by headers, which is open. -/
  | array (isOpen : Bool) (items : List Value)
  | table (origin : Origin) (entries : List (String × Value))
deriving Repr

inductive ReadError where
  | malformed
  | tooDeep
  | duplicate (key : String)
deriving Repr, DecidableEq

def ReadError.message : ReadError → String
  | .malformed => "the text is malformed"
  | .tooDeep => "arrays and tables are nested too deeply"
  | .duplicate key => "duplicate key " ++ key

abbrev Entries := List (String × Value)

namespace Entries

/-- Puts a value in its place, for the one that was there. -/
def put (key : String) (value : Value) : Entries → Entries
  | [] => [(key, value)]
  | (other, held) :: rest =>
    if key = other then (key, value) :: rest
    else if key < other then (key, value) :: (other, held) :: rest
    else (other, held) :: put key value rest

def add (key : String) (value : Value) (entries : Entries) : Except ReadError Entries :=
  if (entries.lookup key).isSome then .error (.duplicate key) else .ok (put key value entries)

/--
Changes the table that a header path leads to. Tables that are not there are implied, and a path
through an open array goes on in its last table.
-/
def within (change : Entries → Except ReadError Entries) :
    (path : List String) → Entries → Except ReadError Entries
  | [], entries => change entries
  | key :: path, entries =>
    match entries.lookup key with
    | none => do
      let inner ← within change path []
      return put key (.table .implied inner) entries
    | some (.table .braces _) => .error (.duplicate key)
    | some (.table origin inner) => do
      let inner ← within change path inner
      return put key (.table origin inner) entries
    | some (.array true items) =>
      match items.getLast? with
      | some (.table origin inner) => do
        let inner ← within change path inner
        return put key (.array true (items.dropLast ++ [.table origin inner])) entries
      | _ => .error (.duplicate key)
    | some _ => .error (.duplicate key)

/-- Names a table by a header; it may have been implied, but not be there otherwise. -/
def openTable (key : String) (entries : Entries) : Except ReadError Entries :=
  match entries.lookup key with
  | none => .ok (put key (.table .header []) entries)
  | some (.table .implied inner) => .ok (put key (.table .header inner) entries)
  | some _ => .error (.duplicate key)

def openItem (key : String) (entries : Entries) : Except ReadError Entries :=
  match entries.lookup key with
  | none => .ok (put key (.array true [.table .header []]) entries)
  | some (.array true items) => .ok (put key (.array true (items ++ [.table .header []])) entries)
  | some _ => .error (.duplicate key)

/--
Gives a value to a dotted key, below a table with the origin `parent`. The table of its last part
must come from dotted keys, unless the key has one part only.
-/
def assign (value : Value) (last : String) (parent : Option Origin) :
    (path : List String) → Entries → Except ReadError Entries
  | [], entries =>
    match parent with
    | none | some .dotted => add last value entries
    | some _ => .error (.duplicate last)
  | key :: path, entries =>
    match entries.lookup key with
    | none => do
      let inner ← assign value last (some .dotted) path []
      return put key (.table .dotted inner) entries
    | some (.table .dotted inner) => do
      let inner ← assign value last (some .dotted) path inner
      return put key (.table .dotted inner) entries
    | some (.table .implied inner) => do
      let inner ← assign value last (some .implied) path inner
      return put key (.table .implied inner) entries
    | some _ => .error (.duplicate key)

end Entries

end Mathdown.Toml
