import Mathdown.Toml.Number

/-!
TOML documents. A document is read line by line: a header opens a table, and each key that follows
is given its value there. All readers here take fuel, which the length of the text bounds.
-/

namespace Mathdown.Toml

def maxDepth : Nat := 80

def skipLines : (inComment : Bool) → List Char → Except ReadError (List Char)
  | _, [] => .ok []
  | inComment, c :: cs =>
    if c = '\n' then skipLines false cs
    else if c = '\r' then
      if cs.head? == some '\n' then skipLines false cs else .error .malformed
    else if inComment then
      if isVisible c then skipLines true cs else .error .malformed
    else if isBlank c then skipLines false cs
    else if c = '#' then skipLines true cs
    else .ok (c :: cs)

def endLine (cs : List Char) : Except ReadError (List Char) :=
  match skipBlanks cs with
  | [] => .ok []
  | '\n' :: cs => .ok cs
  | '\r' :: '\n' :: cs => .ok cs
  | '#' :: cs =>
    let comment := cs.takeWhile isVisible
    match cs.drop comment.length with
    | [] => .ok []
    | '\n' :: rest => .ok rest
    | '\r' :: '\n' :: rest => .ok rest
    | _ => .error .malformed
  | _ => .error .malformed

mutual

def value : (fuel depth : Nat) → Reader Value
| 0, _, _ => .error .malformed
| fuel + 1, depth, cs =>
  match cs with
  | '"' :: _ | '\'' :: _ => (·.map Value.string id) <$> string cs
  | '[' :: cs =>
    match depth with
    | 0 => .error .tooDeep
    | depth + 1 => (·.map (Value.array false) id) <$> items fuel depth cs
  | '\x7b' :: cs =>
    match depth with
    | 0 => .error .tooDeep
    | depth + 1 => (·.map (Value.table .braces) id) <$> members fuel depth [] cs
  | cs => word cs

def items : (fuel depth : Nat) → Reader (List Value)
| 0, _, _ => .error .malformed
| fuel + 1, depth, cs => do
  match ← skipLines false cs with
  | ']' :: cs => return ([], cs)
  | cs =>
    let (item, cs) ← value fuel depth cs
    match ← skipLines false cs with
    | ',' :: cs =>
      let (rest, cs) ← items fuel depth cs
      return (item :: rest, cs)
    | ']' :: cs => return ([item], cs)
    | _ => .error .malformed

/-- The members of a table in braces up to its end, after those that are there. -/
def members : (fuel depth : Nat) → Entries → Reader Entries
| 0, _, _, _ => .error .malformed
| fuel + 1, depth, entries, cs => do
  match ← skipLines false cs with
  | '\x7d' :: cs => return (entries, cs)
  | cs =>
    let (path, cs) ← key cs
    match cs with
    | '=' :: cs =>
      let (held, cs) ← value fuel depth (skipBlanks cs)
      let entries ← entries.assign held (path.getLast?.getD "") none path.dropLast
      match ← skipLines false cs with
      | ',' :: cs => members fuel depth entries cs
      | '\x7d' :: cs => return (entries, cs)
      | _ => .error .malformed
    | _ => .error .malformed

end

/-- A document that is being read: what it holds, and the header that keys go below. -/
structure Draft where
  root : Entries := []
  header : List String := []

namespace Draft

def openTable (d : Draft) (path : List String) : Except ReadError Draft := do
  let root ← d.root.within (Entries.openTable (path.getLast?.getD "")) path.dropLast
  return ⟨root, path⟩

def openItem (d : Draft) (path : List String) : Except ReadError Draft := do
  let root ← d.root.within (Entries.openItem (path.getLast?.getD "")) path.dropLast
  return ⟨root, path⟩

def assign (d : Draft) (path : List String) (held : Value) : Except ReadError Draft := do
  let root ← d.root.within (Entries.assign held (path.getLast?.getD "") none path.dropLast) d.header
  return { d with root }

end Draft

def header (d : Draft) : Reader Draft
  | '[' :: cs => do
    let (path, cs) ← key cs
    match cs with
    | ']' :: ']' :: cs => return (← d.openItem path, cs)
    | _ => .error .malformed
  | cs => do
    let (path, cs) ← key cs
    match cs with
    | ']' :: cs => return (← d.openTable path, cs)
    | _ => .error .malformed

def pair (d : Draft) : Reader Draft := fun cs => do
  let (path, cs) ← key cs
  match cs with
  | '=' :: cs =>
    let cs := skipBlanks cs
    let (held, cs) ← value (2 * cs.length + 2) maxDepth cs
    return (← d.assign path held, cs)
  | _ => .error .malformed

def lines : (fuel : Nat) → Draft → List Char → Except ReadError Draft
  | 0, _, _ => .error .malformed
  | fuel + 1, d, cs => do
    match ← skipLines false cs with
    | [] => return d
    | '[' :: cs =>
      let (d, cs) ← header d cs
      lines fuel d (← endLine cs)
    | cs =>
      let (d, cs) ← pair d cs
      lines fuel d (← endLine cs)

abbrev Parser := String → Except ReadError Value

/-- Reads a document, which may begin with a byte order mark. -/
def parse (text : String) : Except ReadError Value := do
  let cs := text.toList
  let cs := if cs.head? == some '\uFEFF' then cs.drop 1 else cs
  let d ← lines (cs.length + 1) {} cs
  return .table .header d.root

end Mathdown.Toml
