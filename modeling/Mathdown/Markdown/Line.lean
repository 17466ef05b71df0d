/-!
Lines of a document, and the cursor that reads the indentation and markers at the start of one.
A tab reaches to the next of the stops that lie four columns apart; a marker may use a part of it,
and the cursor keeps the rest.
-/

namespace Mathdown.Markdown

/-- A line: its text, and what ends it (nothing for a last line without line feed). -/
structure Line where
  text : List Char
  ending : List Char
deriving DecidableEq, Repr

/-- The lines of a text. A carriage return before a line feed belongs to neither. -/
def Line.ofChars : List Char → List Line
  | [] => []
  | '\r' :: '\n' :: cs => ⟨[], ['\n']⟩ :: Line.ofChars cs
  | '\r' :: cs => ⟨[], ['\r']⟩ :: Line.ofChars cs
  | '\n' :: cs => ⟨[], ['\n']⟩ :: Line.ofChars cs
  | c :: cs =>
    match Line.ofChars cs with
    | [] => [⟨[c], []⟩]
    | line :: lines => { line with text := c :: line.text } :: lines

def isInnerBlank (c : Char) : Bool := c == ' ' || c == '\t' || c == '\x0b' || c == '\x0c'

def isAsciiBlank (c : Char) : Bool := isInnerBlank c || c == '\n' || c == '\r'

def isIndent (c : Char) : Bool := c == ' ' || c == '\t'

def isBlankLine (cs : List Char) : Bool := cs.all isInnerBlank

def dropTrailing (p : Char → Bool) (cs : List Char) : List Char := (cs.reverse.dropWhile p).reverse

/-- How many characters of the class a text starts with. -/
def countWhile (p : Char → Bool) (cs : List Char) : Nat := (cs.takeWhile p).length

/--
A place in the indentation of a line. `column` counts from the last tab stop that was reached, and
`spare` is what is left of a tab that was used in part.
-/
structure Cursor where
  rest : List Char
  column : Nat := 0
  spare : Nat := 0
deriving DecidableEq, Repr

namespace Cursor

private def skipFrom : (rest : List Char) → (column spare wanted : Nat) → Nat × Cursor
  | rest, column, spare, 0 => (0, ⟨rest, column, spare⟩)
  | [], column, spare, wanted => (wanted, ⟨[], column, spare⟩)
  | c :: rest, column, spare, wanted + 1 =>
    if c == ' ' then skipFrom rest (column + 1) spare wanted
    else if c == '\t' then
      let width := 4 - column % 4
      let used := min width (wanted + 1)
      skipFrom rest 0 (width - used) (wanted + 1 - used)
    else (wanted + 1, ⟨c :: rest, column, spare⟩)

/-- Passes up to `wanted` columns of indentation; gives how many of them were missing. -/
def skip (c : Cursor) (wanted : Nat) : Nat × Cursor :=
  let used := min c.spare wanted
  skipFrom c.rest c.column (c.spare - used) (wanted - used)

/-- How much of up to `limit` columns of indentation there is, and the cursor after it. -/
def indent (c : Cursor) (limit : Nat) : Nat × Cursor :=
  let (missing, after) := c.skip limit
  (limit - missing, after)

def skipAll (c : Cursor) : Cursor := { c with rest := c.rest.dropWhile isIndent, spare := 0 }

def atEnd (c : Cursor) : Bool := c.rest.isEmpty

def char? (c : Cursor) (wanted : Char) : Option Cursor :=
  match c.rest with
  | d :: rest => if d == wanted then some ⟨rest, c.column + 1, c.spare⟩ else none
  | [] => none

def quote? (c : Cursor) : Option Cursor := do
  let after ← c.char? '>'
  return (after.skip 1).2

end Cursor

end Mathdown.Markdown
