import Mathdown.Event.Shape
import Mathdown.Markdown.Document

namespace Mathdown.Markdown

open Event (Place Shaped)

namespace Inline

mutual
theorem shaped_toEvents (item : Inline) : Shaped .line (toEvents item) := by
  cases item with
  | link image url title children =>
    cases image <;> exact .within rfl (shaped_allToEvents children)
  | emphasis children => exact .within rfl (shaped_allToEvents children)
  | strong children => exact .within rfl (shaped_allToEvents children)
  | strikethrough children => exact .within rfl (shaped_allToEvents children)
  | _ => exact .single rfl

theorem shaped_allToEvents (items : List Inline) : Shaped .line (allToEvents items) := by
  cases items with
  | nil => exact .nil .line
  | cons item rest =>
    rw [allToEvents]
    exact (shaped_toEvents item).append (shaped_allToEvents rest)
end

end Inline

namespace Document

private theorem shaped_inlineEvents (setting : Setting) (inCell : Bool) (content : Content) :
    Shaped .line (inlineEvents setting inCell content) :=
  Inline.shaped_allToEvents _

private theorem shaped_text (task : Option Bool) (setting : Setting) (content : Content) :
    Shaped .line (boxEvents task ++ inlineEvents setting false content) := by
  cases task with
  | none => exact shaped_inlineEvents setting false content
  | some checked => exact .leaf rfl (shaped_inlineEvents setting false content)

private theorem shaped_cells (setting : Setting) (cells : List Content) :
    Shaped .cells (cells.flatMap (cellEvents setting)) :=
  .flatMap fun cell _ => .within rfl (shaped_inlineEvents setting true cell)

mutual
theorem shaped_blockEvents (setting : Setting) (tight : Bool) (block : Block) :
    Shaped .blocks (blockEvents setting tight block) := by
  cases block with
  | paragraph task content =>
    have text := (shaped_text task setting content).blocks_of_line
    simp only [blockEvents]
    split
    · exact text
    · exact .within rfl text
  | heading level task content => exact .within rfl (shaped_text task setting content)
  | code info source =>
    have text : Shaped .code (if source.isEmpty then [] else [.text (String.ofList source)]) := by
      split
      · exact .nil .code
      · exact .single rfl
    exact .within rfl text
  | html source => exact .within rfl (.single rfl)
  | rule => exact .single rfl
  | table columns head rows =>
    have body : Shaped .rows (rows.flatMap fun row => within .tableRow (row.flatMap (cellEvents setting))) :=
      .flatMap fun row _ => .within rfl (shaped_cells setting row)
    have whole : Shaped .blocks (within (.table columns)
        (within .tableHead (head.flatMap (cellEvents setting)) ++
          rows.flatMap fun row => within .tableRow (row.flatMap (cellEvents setting)))) := by
      have table := Shaped.table columns (shaped_cells setting head) body (.nil .blocks)
      simpa [within, Tag.toEnd] using table
    exact whole
  | quote kind children => exact .within rfl (shaped_allEvents setting false children)
  | list first tight items => exact .within rfl (shaped_allEvents setting tight items)
  | item children => exact .within rfl (shaped_allEvents setting tight children)
  | task checked => exact .single rfl

theorem shaped_allEvents (setting : Setting) (tight : Bool) (blocks : List Block) :
    Shaped .blocks (allEvents setting tight blocks) := by
  cases blocks with
  | nil => exact .nil .blocks
  | cons block rest =>
    rw [allEvents]
    exact (shaped_blockEvents setting tight block).append (shaped_allEvents setting tight rest)
end

end Document

theorem shaped_events (options : Options) (text : String) : Shaped .blocks (events options text) :=
  Document.shaped_allEvents _ false _

end Mathdown.Markdown
