import Mathdown.Markdown.BlockReader
import Mathdown.Markdown.Inline

namespace Mathdown.Markdown

namespace Document

/-- What the blocks of a document have in common. -/
structure Setting where
  options : Options
  definitions : Definitions

def inlineEvents (setting : Setting) (inCell : Bool) (content : Content) : List Event :=
  let tokens := Token.ofChars ⟨setting.options, inCell⟩ content.source
  Inline.allToEvents
    (Inline.resolve ⟨setting.definitions, inCell, content.source, content.margins⟩ tokens)

def boxEvents (task : Option Bool) : List Event :=
  match task with
  | some checked => [.taskMarker checked]
  | none => []

def within (tag : Tag) (events : List Event) : List Event := .start tag :: events ++ [.stop tag.toEnd]

def cellEvents (setting : Setting) (content : Content) : List Event :=
  within .tableCell (inlineEvents setting true content)

mutual
/-- The events of a block; a paragraph right in an item of a tight list is no element. -/
def blockEvents (setting : Setting) (tight : Bool) : Block → List Event
  | .paragraph task content =>
    let inner := boxEvents task ++ inlineEvents setting false content
    if tight then inner else within .paragraph inner
  | .heading level task content =>
    within (.heading level) (boxEvents task ++ inlineEvents setting false content)
  | .code info source =>
    within (.codeBlock (info.map String.ofList))
      (if source.isEmpty then [] else [.text (String.ofList source)])
  | .html source => within .htmlBlock [.html (String.ofList source)]
  | .rule => [.rule]
  | .table columns head rows =>
    within (.table columns)
      (within .tableHead (head.flatMap (cellEvents setting)) ++
        rows.flatMap fun row => within .tableRow (row.flatMap (cellEvents setting)))
  | .quote kind children => within (.blockQuote kind) (allEvents setting false children)
  | .list first tight items => within (.list first) (allEvents setting tight items)
  | .item children => within .item (allEvents setting tight children)
  | .task checked => [.taskMarker checked]

def allEvents (setting : Setting) (tight : Bool) : List Block → List Event
  | [] => []
  | block :: rest => blockEvents setting tight block ++ allEvents setting tight rest
end

end Document

def events (options : Options) (text : String) : List Event :=
  let (blocks, definitions) := blocksOf options text.toList
  Document.allEvents ⟨options, definitions⟩ false blocks

end Mathdown.Markdown
