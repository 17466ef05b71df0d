import Mathdown.Event.Nesting
import Mathdown.Markdown.Document

namespace Mathdown.Markdown

open Event (inlineHeadings nests nests_append_of_eq nests_cons nests_flatMap nests_within stackAfter)

private theorem admits_inline {stack : List Tag} {tag : Tag} (within : tag.isInline = true) :
    stack.all (inlineHeadings · tag) = true := by
  simp [inlineHeadings, within]

private theorem nests_single {stack : List Tag} {event : Event}
    (leaf : stackAfter inlineHeadings stack event = some stack) :
    nests inlineHeadings stack [event] = some stack := by
  rw [nests_cons, leaf, Option.bind_some, Event.nests_nil]

namespace Inline

mutual
theorem nests_toEvents (stack : List Tag) (item : Inline) :
    nests inlineHeadings stack (toEvents item) = some stack := by
  cases item with
  | link image url title children =>
    have inner := fun tag => nests_allToEvents (tag :: stack) children
    cases image with
    | true => exact nests_within (admits_inline rfl) (inner _)
    | false => exact nests_within (admits_inline rfl) (inner _)
  | emphasis children => exact nests_within (admits_inline rfl) (nests_allToEvents _ children)
  | strong children => exact nests_within (admits_inline rfl) (nests_allToEvents _ children)
  | strikethrough children => exact nests_within (admits_inline rfl) (nests_allToEvents _ children)
  | _ => exact nests_single rfl

theorem nests_allToEvents (stack : List Tag) (items : List Inline) :
    nests inlineHeadings stack (allToEvents items) = some stack := by
  cases items with
  | nil => rfl
  | cons item rest =>
    rw [allToEvents, nests_append_of_eq (nests_toEvents stack item)]
    exact nests_allToEvents stack rest
end

end Inline

namespace Document

private theorem nests_inlineEvents (stack : List Tag) (setting : Setting) (inCell : Bool)
    (content : Content) :
    nests inlineHeadings stack (inlineEvents setting inCell content) = some stack :=
  Inline.nests_allToEvents stack _

private theorem nests_boxEvents (stack : List Tag) (task : Option Bool) :
    nests inlineHeadings stack (boxEvents task) = some stack := by
  cases task with
  | none => rfl
  | some checked => exact nests_single rfl

variable {stack : List Tag}

private theorem admits_outside (outside : stack.all (!·.isHeading) = true) (tag : Tag) :
    stack.all (inlineHeadings · tag) = true := by
  rw [List.all_eq_true] at outside ⊢
  intro outer member
  simp [inlineHeadings, outside outer member]

private theorem outside_cons (outside : stack.all (!·.isHeading) = true) {tag : Tag}
    (other : tag.isHeading = false) : (tag :: stack).all (!·.isHeading) = true := by
  rw [List.all_cons, other, outside]
  rfl

private theorem nests_text (task : Option Bool) (setting : Setting) (content : Content) :
    nests inlineHeadings stack (boxEvents task ++ inlineEvents setting false content) =
      some stack := by
  rw [nests_append_of_eq (nests_boxEvents stack task)]
  exact nests_inlineEvents stack setting false content

private theorem nests_cells (setting : Setting) (cells : List Content)
    (outside : stack.all (!·.isHeading) = true) :
    nests inlineHeadings stack (cells.flatMap (cellEvents setting)) = some stack :=
  nests_flatMap fun cell _ =>
    nests_within (admits_outside outside .tableCell) (nests_inlineEvents _ setting true cell)

mutual
theorem nests_blockEvents {stack : List Tag} (setting : Setting) (tight : Bool) (block : Block)
    (outside : stack.all (!·.isHeading) = true) :
    nests inlineHeadings stack (blockEvents setting tight block) = some stack := by
  have enter := admits_outside outside
  cases block with
  | paragraph task content =>
    simp only [blockEvents]
    split
    · exact nests_text task setting content
    · exact nests_within (enter _) (nests_text task setting content)
  | heading level task content => exact nests_within (enter _) (nests_text task setting content)
  | code info source =>
    refine nests_within (enter _) ?_
    split
    · rfl
    · exact nests_single rfl
  | html source => exact nests_within (enter _) (nests_single rfl)
  | rule => exact nests_single rfl
  | table columns head rows =>
    have inTable : (.table columns :: stack).all (!·.isHeading) = true := outside_cons outside rfl
    refine nests_within (enter _) ?_
    rw [nests_append_of_eq]
    · refine nests_flatMap fun row _ => nests_within (admits_outside inTable _) ?_
      exact nests_cells setting row (outside_cons inTable rfl)
    · exact nests_within (admits_outside inTable _)
        (nests_cells setting head (outside_cons inTable rfl))
  | quote kind children =>
    exact nests_within (enter _) (nests_allEvents setting false children (outside_cons outside rfl))
  | list first tight items =>
    exact nests_within (enter _) (nests_allEvents setting tight items (outside_cons outside rfl))
  | item children =>
    exact nests_within (enter _) (nests_allEvents setting tight children (outside_cons outside rfl))
  | task checked => exact nests_single rfl

theorem nests_allEvents {stack : List Tag} (setting : Setting) (tight : Bool) (blocks : List Block)
    (outside : stack.all (!·.isHeading) = true) :
    nests inlineHeadings stack (allEvents setting tight blocks) = some stack := by
  cases blocks with
  | nil => rfl
  | cons block rest =>
    rw [allEvents, nests_append_of_eq (nests_blockEvents setting tight block outside)]
    exact nests_allEvents setting tight rest outside
end

end Document

theorem wellNested_events (options : Options) (text : String) :
    Event.WellNested inlineHeadings (events options text) := by
  have outside : ([] : List Tag).all (!·.isHeading) = true := rfl
  exact Document.nests_allEvents _ false _ outside

end Mathdown.Markdown
