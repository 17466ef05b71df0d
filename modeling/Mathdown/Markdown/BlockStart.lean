import Mathdown.Event
import Mathdown.Markdown.Line

namespace Mathdown.Markdown

/-- A thematic break: three or more of one of `*`, `-`, `_`, and blanks. -/
def isRule : List Char → Bool
  | [] => false
  | c :: cs =>
    (c == '*' || c == '-' || c == '_') && cs.all (fun d => d == c || isIndent d) &&
      2 ≤ (cs.filter (· == c)).length

def atxLevel? (cs : List Char) : Option Nat :=
  let level := countWhile (· == '#') cs
  let bounded := match cs.drop level with
    | [] => true
    | c :: _ => isAsciiBlank c
  if bounded && 1 ≤ level && level ≤ 6 then some level else none

def setextLevel? : List Char → Option Nat
  | [] => none
  | c :: cs =>
    if (c == '=' || c == '-') && isBlankLine (cs.dropWhile (· == c)) then
      some (if c == '=' then 1 else 2)
    else none

def fence? : List Char → Option (Char × Nat)
  | [] => none
  | c :: cs =>
    let size := 1 + countWhile (· == c) cs
    if (c == '`' || c == '~') && 3 ≤ size then
      if c == '`' && (cs.drop (size - 1)).contains '`' then none else some (c, size)
    else none

/-- Whether a line closes a fence: at least as long, and only spaces after it. -/
def closesFence (c : Char) (size : Nat) (cs : List Char) : Bool :=
  size ≤ countWhile (· == c) cs && (cs.dropWhile (· == c)).all (· == ' ')

def numeral? (cs : List Char) : Option (Nat × Nat) :=
  let digits := (cs.take 9).takeWhile Char.isDigit
  if digits.isEmpty then none
  else some (digits.foldl (fun n d => 10 * n + (d.toNat - '0'.toNat)) 0, digits.length)

/-- A list marker: its last character, its number (zero for a bullet), and its length. -/
structure ListMarker where
  char : Char
  number : Nat
  width : Nat
deriving DecidableEq, Repr

def ListMarker.isBullet (m : ListMarker) : Bool := m.char != '.' && m.char != ')'

def bareMarker? (cs : List Char) : Option (ListMarker × List Char) :=
  match cs with
  | [] => none
  | c :: rest =>
    if c == '-' || c == '+' || c == '*' then some (⟨c, 0, 1⟩, rest)
    else do
      let (number, digits) ← numeral? cs
      match cs.drop digits with
      | d :: rest => if d == '.' || d == ')' then some (⟨d, number, digits + 1⟩, rest) else none
      | [] => none

/--
Passes a list marker and the indentation of the item's content. The answer has the columns that a
line needs to belong to the item, counted from the marker's own indentation.
-/
def Cursor.listMarker? (c : Cursor) (outer : Nat) : Option (ListMarker × Nat × Cursor) := do
  let (marker, rest) ← bareMarker? c.rest
  if marker.isBullet && isRule c.rest then none
  else
    let after : Cursor := ⟨rest, c.column + marker.width, c.spare⟩
    let (missing, spaced) := after.skip 1
    if missing == 0 || spaced.atEnd then
      let width := outer + marker.width + 1
      if isBlankLine spaced.rest then some (marker, width, spaced)
      else
        let (more, inner) := spaced.indent 4
        if more < 4 then some (marker, width + more, inner) else some (marker, width, spaced)
    else none

/-- A list marker that may end a paragraph: what it is, and the rest of its line. -/
def interruptingMarker? (cs : List Char) : Option (ListMarker × List Char) := do
  let (marker, rest) ← bareMarker? cs
  match rest with
  | [] => some (marker, rest)
  | d :: _ => if isIndent d then some (marker, rest) else none

def Cursor.taskBox? (c : Cursor) : Option (Bool × Cursor) := do
  let after ← (c.indent 3).2.char? '['
  let (checked, after) ← match after.rest with
    | d :: rest =>
      if isInnerBlank d then some (false, rest)
      else if d == 'x' || d == 'X' then some (true, rest)
      else none
    | [] => none
  match after with
  | ']' :: rest => some (checked, ⟨rest, 0, 0⟩)
  | _ => none

/-- The kind that a block quote's first line names, when the line holds nothing else. -/
def alertTag? (cs : List Char) : Option AlertKind :=
  match cs with
  | '[' :: '!' :: rest =>
    let word := String.ofList ((rest.takeWhile Char.isAlpha).map Char.toLower)
    match rest.dropWhile Char.isAlpha with
    | ']' :: after =>
      if isBlankLine after then
        match word with
        | "note" => some .note
        | "tip" => some .tip
        | "important" => some .important
        | "warning" => some .warning
        | "caution" => some .caution
        | _ => none
      else none
    | _ => none
  | _ => none

/-- The elements that open a block of HTML which ends at a blank line. -/
def blockElements : List String :=
  ["address", "article", "aside", "base", "basefont", "blockquote", "body", "caption", "center",
   "col", "colgroup", "dd", "details", "dialog", "dir", "div", "dl", "dt", "fieldset",
   "figcaption", "figure", "footer", "form", "frame", "frameset", "h1", "h2", "h3", "h4", "h5",
   "h6", "head", "header", "hr", "html", "iframe", "legend", "li", "link", "main", "menu",
   "menuitem", "nav", "noframes", "ol", "optgroup", "option", "p", "param", "search", "section",
   "summary", "table", "tbody", "td", "tfoot", "th", "thead", "title", "tr", "track", "ul"]

def rawElements : List String := ["pre", "style", "script", "textarea"]

private def lower (cs : List Char) : List Char := cs.map Char.toLower

private def startsRaw (cs : List Char) (element : String) : Option String :=
  let name := element.toList
  let bounded := match cs.drop name.length with
    | [] => true
    | c :: _ => isAsciiBlank c || c == '>'
  if lower (cs.take name.length) == name && bounded then some ("</" ++ element ++ ">") else none

/-- For HTML that goes on to a certain text: that text. The argument is what follows `<`. -/
def htmlUntil? (cs : List Char) : Option String :=
  match rawElements.findSome? (startsRaw cs) with
  | some stop => some stop
  | none =>
    if "!--".toList.isPrefixOf cs then some "-->"
    else if "?".toList.isPrefixOf cs then some "?>"
    else if "![CDATA[".toList.isPrefixOf cs then some "]]>"
    else
      match cs with
      | '!' :: c :: _ => if c.isAlpha then some ">" else none
      | _ => none

def startsBlockElement (cs : List Char) : Bool :=
  let tag := match cs with
    | '/' :: rest => rest
    | _ => cs
  let name := tag.takeWhile Char.isAlphanum
  let bounded := match tag.drop name.length with
    | [] => true
    | '/' :: '>' :: _ => true
    | c :: _ => isAsciiBlank c || c == '>'
  bounded && blockElements.contains (String.ofList (lower name))

/-- The line under the head of a table, as the alignments of its columns. -/
def tableColumns? (cs : List Char) : Option (List Alignment) :=
  let (indent, after) := ({ rest := cs : Cursor }).indent 4
  if 3 < indent then none
  else
    match after.rest with
    | [] => none
    | '|' :: rest => go rest .unset true false false false []
    | rest => go rest .unset true false false false []
where
  /-- `fresh`: nothing of the column has been seen; `dashed`: it has a dash. -/
  go : List Char → Alignment → (fresh dashed anyDash anyBar : Bool) → List Alignment →
      Option (List Alignment)
    | [], column, fresh, _, anyDash, anyBar, columns =>
      if anyDash && anyBar then
        some (if fresh then columns.reverse else (column :: columns).reverse)
      else none
    | ' ' :: cs, column, fresh, dashed, anyDash, anyBar, columns =>
      go cs column fresh dashed anyDash anyBar columns
    | ':' :: cs, column, fresh, dashed, anyDash, anyBar, columns =>
      let column := match fresh, column with
        | true, .unset => .left
        | false, .left => .center
        | false, .unset => .right
        | _, other => other
      go cs column false dashed anyDash anyBar columns
    | '-' :: cs, column, _, _, _, anyBar, columns => go cs column false true true anyBar columns
    | '|' :: cs, column, _, dashed, anyDash, _, columns =>
      if dashed then go cs .unset true false anyDash true (column :: columns) else none
    | _ :: _, _, _, _, _, _, _ => none

/-- The number of columns in the head of a table, from the bars in it and where the last one is. -/
def headColumns (line : List Char) (bars : Nat) (afterLast : List Char) : Nat :=
  let inner := match line.dropWhile isInnerBlank with
    | '|' :: _ => bars - 1
    | _ => bars
  if isBlankLine afterLast then inner else inner + 1

end Mathdown.Markdown
