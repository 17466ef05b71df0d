import Mathdown.Markdown.LinkParts

namespace Mathdown.Markdown

structure LinkTarget where
  url : List Char
  title : List Char
deriving DecidableEq, Repr

/-- The definitions of a document, the latest first. -/
structure Definitions where
  entries : List (String × LinkTarget) := []
deriving Repr

namespace Definitions

def find? (defs : Definitions) (label : List Char) : Option LinkTarget :=
  defs.entries.lookup (LinkParts.key label)

def add (defs : Definitions) (label : List Char) (target : LinkTarget) : Definitions :=
  if (defs.find? label).isSome then defs else ⟨(LinkParts.key label, target) :: defs.entries⟩

end Definitions

namespace Definition

/--
Passes blanks that may go on behind one line end; says whether they did. There is no answer where
the text ends or a second line end follows.
-/
def gap? (cs : List Char) : Option (Bool × List Char) :=
  match cs.dropWhile isInnerBlank with
  | [] => none
  | c :: rest =>
    if c == '\n' || c == '\r' then
      match rest.dropWhile isInnerBlank with
      | [] => none
      | d :: more => if d == '\n' || d == '\r' then none else some (true, d :: more)
    else some (false, c :: rest)

def atLineEnd (cs : List Char) : Bool :=
  match cs.dropWhile isInnerBlank with
  | [] => true
  | c :: _ => c == '\n' || c == '\r'

/--
A definition at the start of a text: its label, its target, and the rest of the text from the end
of the definition's last line on. A title on a line of its own is left out if more follows it.
-/
def read? (cs : List Char) : Option (List Char × LinkTarget × List Char) := do
  let (label, rest) ← LinkParts.label? false cs
  let rest ← match rest with
    | ':' :: rest => some rest
    | _ => none
  let (_, rest) ← gap? rest
  let (url, after) ← LinkParts.destination? rest
  if after.length == rest.length then none
  else
    let bare := (label, ⟨LinkParts.plain false url, []⟩, after)
    match gap? after with
    | none => if atLineEnd after then some bare else none
    | some (wrapped, rest) =>
      if rest.length == after.length then none
      else
        match LinkParts.title? false rest with
        | some (title, rest) =>
          if atLineEnd rest then some (label, ⟨LinkParts.plain false url, title⟩, rest)
          else if wrapped then some bare
          else none
        | none => if wrapped then some bare else none

end Definition

end Mathdown.Markdown
