import Mathdown.Markdown.Definition
import Mathdown.Markdown.Options
import Mathdown.Event

/-!
Blocks, as the tree that the lines of a document make up. Inline content stays text here: what it
means depends on the definitions of the whole document.
-/

namespace Mathdown.Markdown

/-- The text of a block that has inline content. -/
structure Content where
  source : List Char
  /-- What stands in front of each line but the first: the markers of the blocks around it. -/
  margins : List (List Char) := []
deriving DecidableEq, Repr

inductive Block where
  /-- `task`: the box at its start, if it is the first one of a task list item. -/
  | paragraph (task : Option Bool) (content : Content)
  | heading (level : Nat) (task : Option Bool) (content : Content)
  | code (info : Option (List Char)) (source : List Char)
  | html (source : List Char)
  | rule
  | table (columns : List Alignment) (head : List Content) (rows : List (List Content))
  | quote (kind : Option AlertKind) (children : List Block)
  | list (first : Option Nat) (tight : Bool) (items : List Block)
  | item (children : List Block)
  /-- The box of a task list item with nothing else on its line. -/
  | task (checked : Bool)

/-- A block that blocks can be put in, while it is open. -/
inductive Container where
  | quote (kind : Option AlertKind)
  | list (marker : Char) (first : Nat) (tight : Bool)
  /-- A line belongs to the item if it is indented by so many columns. -/
  | item (indent : Nat)
deriving DecidableEq, Repr

/-- An open container, and the blocks in it, the latest first. -/
structure Frame where
  container : Container
  children : List Block

def Frame.toBlock (f : Frame) : Block :=
  match f.container with
  | .quote kind => .quote kind f.children.reverse
  | .list marker first tight =>
    .list (if marker == '.' || marker == ')' then some first else none) tight f.children.reverse
  | .item _ => .item f.children.reverse

structure Outline where
  /-- The open containers, innermost first. -/
  frames : List Frame := []
  /-- The blocks outside all of them, the latest first. -/
  blocks : List Block := []
  /-- Whether the last line was blank, in the sense that makes lists loose. -/
  lastBlank : Bool := false
  /-- Whether the last line began a list item and held nothing else. -/
  freshItem : Bool := false
  definitions : Definitions := {}

namespace Outline

def containers (o : Outline) : List Container := (o.frames.map Frame.container).reverse

def append (o : Outline) (block : Block) : Outline :=
  match o.frames with
  | frame :: outer => { o with frames := { frame with children := block :: frame.children } :: outer }
  | [] => { o with blocks := block :: o.blocks }

def enter (o : Outline) (container : Container) : Outline :=
  { o with frames := ⟨container, []⟩ :: o.frames }

def leave (o : Outline) : Outline :=
  match o.frames with
  | [] => o
  | frame :: outer =>
    let closed := { o with frames := outer }.append frame.toBlock
    match frame.container with
    | .list _ _ true => { closed with freshItem := false }
    | _ => closed

/-- Closes containers until only the outermost `depth` are open. -/
def leaveTo (o : Outline) (depth : Nat) : Outline :=
  (o.frames.length - depth).repeat leave o

private def loosen (frame : Frame) : Frame :=
  match frame.container with
  | .list marker first _ => { frame with container := .list marker first false }
  | _ => frame

/-- A list item may begin with one blank line, and ends at the second. -/
def finishFreshItem (o : Outline) : Outline :=
  let o := match o.freshItem && o.lastBlank, o.frames with
    | true, ⟨.item _, _⟩ :: _ => o.leave
    | _, _ => o
  { o with freshItem := false }

/--
Makes ready for a block that is no list item: a list that is innermost ends, and a list whose item
the block is put in after a blank line is loose.
-/
def finishList (o : Outline) : Outline :=
  let o := o.finishFreshItem
  let o := match o.frames with
    | ⟨.list .., _⟩ :: _ => o.leave
    | _ => o
  if o.lastBlank then
    match o.frames with
    | inner :: outer :: rest => { o with frames := inner :: loosen outer :: rest, lastBlank := false }
    | _ => { o with lastBlank := false }
  else o

/-- Makes ready for an item: goes on with the innermost list if the marker fits, or begins one. -/
def continueList (o : Outline) (marker : Char) (number : Nat) : Outline :=
  let o := o.finishFreshItem
  let fresh : Outline := { o.finishList.enter (.list marker number true) with lastBlank := false }
  match o.frames with
  | frame :: outer =>
    match frame.container with
    | .list existing _ _ =>
      if existing == marker then
        if o.lastBlank then { o with frames := loosen frame :: outer, lastBlank := false } else o
      else fresh
    | _ => fresh
  | [] => fresh

/-- Takes note of a blank line. Nothing can be nested in an item that began with one. -/
def noteBlank (o : Outline) : Outline :=
  match o.frames with
  | ⟨.quote _, _⟩ :: _ => o
  | ⟨.item _, children⟩ :: outer =>
    if o.freshItem then { o with lastBlank := true, frames := ⟨.item 0, children⟩ :: outer }
    else { o with lastBlank := true }
  | _ => { o with lastBlank := true }

def finish (o : Outline) : List Block := (o.leaveTo 0).blocks.reverse

end Outline

end Mathdown.Markdown
