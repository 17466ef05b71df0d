import Mathdown.FileTree

namespace Mathdown.FileTree

def splitRoute : List Char → List (List Char)
  | [] => [[]]
  | c :: cs =>
    if c = '/' then [] :: splitRoute cs
    else
      match splitRoute cs with
      | [] => [[c]]
      | part :: rest => (c :: part) :: rest

def parts (path : String) : List String := (splitRoute path.toList).map String.ofList

def isAbsolute (path : String) : Bool := path.toList.head? == some '/'

def route (place : Place) : String := "/" ++ "/".intercalate place

/-- Goes on from a path: an absolute path starts anew. -/
def join (base path : String) : String :=
  if isAbsolute path then path
  else if base.isEmpty || base.endsWith "/" then base ++ path
  else base ++ "/" ++ path

/-- Takes away the parts at the end that lead nowhere. The first part of a path may be a `.`. -/
def dropStays (isAbsolute : Bool) (parts : List String) : List String :=
  let kept := (parts.reverse.dropWhile fun part => part = "" || part = ".").reverse
  if kept.isEmpty && !isAbsolute && parts.head? = some "." then ["."] else kept

/-- The path of the directory that a path ends in, unless it has no parts. -/
def parent? (path : String) : Option String :=
  let top := isAbsolute path
  let found := dropStays top ((parts path).drop (if top then 1 else 0))
  if found.isEmpty then none
  else
    some ((if top then "/" else "") ++ "/".intercalate (dropStays top found.dropLast))

/--
Walks a route part by part. Whatever is left on the way must be a directory; an empty part and `.`
stay where they are, and `..` goes up.
-/
def walk (t : FileTree) (place : Place) : List String → Except FileError Place
  | [] => .ok place
  | part :: rest =>
    match t.barrier? place with
    | some e => .error e
    | none =>
      if part = "" || part = "." then walk t place rest
      else if part = ".." then walk t place.dropLast rest
      else walk t (place ++ [part]) rest

/-- The place that a path leads to from a current directory. -/
def resolve (t : FileTree) (current : Place) (path : String) : Except FileError Place :=
  if path.isEmpty then .error .notFound
  else t.walk (if isAbsolute path then [] else current) (parts path)

/--
The place of a directory that may still have to be made, and those on the way to it. Going up from
a file stays below it, where nothing can be made.
-/
def locate (t : FileTree) (current : Place) (path : String) : Place :=
  (parts path).foldl step (if isAbsolute path then [] else current)
where
  step (place : Place) (part : String) : Place :=
    if part = "" || part = "." then place
    else if part = ".." then if t.isFile place then place ++ [part] else place.dropLast
    else place ++ [part]

/-- The places on the way from a current directory along a path, the last of them its end. -/
def stops (t : FileTree) (current : Place) (path : String) : List Place :=
  (List.range ((parts path).length + 1)).map fun n =>
    t.locate current ("/".intercalate ((parts path).take n))

def readTextAt (t : FileTree) (current : Place) (path : String) : Except FileError String :=
  (t.resolve current path).bind t.readText

/-- Writes the file that a path leads to. A path that ends in a slash leads to no file. -/
def writeAt (t : FileTree) (current : Place) (path : String) (bytes : ByteArray) :
    Except FileError FileTree := do
  let kept := (path.toList.reverse.dropWhile (· == '/')).reverse
  let place ← t.resolve current (if kept.isEmpty then path else String.ofList kept)
  if path.endsWith "/" then .error .isDirectory else t.write place bytes

end Mathdown.FileTree
