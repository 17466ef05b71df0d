import Mathdown.Event.Nesting

/-!
The shape of a document's events. Headings, table cells and elements within a line hold only what
stands within a line, code blocks hold only text, and a table is one head and rows of cells behind it.
-/

namespace Mathdown

namespace Event

/-- Whether the event is HTML that is written as it is. -/
def isRaw : Event → Bool
  | .html _ | .inlineHtml _ => true
  | _ => false

/-- The kinds of place that events stand at. -/
inductive Place where
  /-- Where anything may stand but the parts of a table. -/
  | blocks
  | line
  | code
  /-- In a table, behind its head. -/
  | rows
  /-- In the head or a row of a table. -/
  | cells
deriving DecidableEq, Repr

namespace Place

/-- Whether an event that enters and leaves nothing may stand at a place. -/
def holds : Place → Event → Bool
  | _, .start _ | _, .stop _ => false
  | .blocks, _ => true
  | .line, event => event != .rule
  | .code, .text _ => true
  | .code, _ | .rows, _ | .cells, _ => false

/-- What kind of place an element is that may stand at a place; tables apart. -/
def inside : Place → Tag → Option Place
  | .blocks, .table _ | .blocks, .tableHead | .blocks, .tableRow | .blocks, .tableCell => none
  | .blocks, .codeBlock _ => some .code
  | .blocks, tag => some (if tag.isHeading || tag.isInline then .line else .blocks)
  | .line, tag => if tag.isInline then some .line else none
  | .rows, .tableRow => some .cells
  | .cells, .tableCell => some .line
  | .code, _ | .rows, _ | .cells, _ => none

/-- What kinds of place stand in each other. -/
structure Within (place inner : Place) (tag : Tag) : Prop where
  notCode : place ≠ .code
  line : inner ≠ .line → place ≠ .line
  blocks : inner = .blocks → place = .blocks
  code : inner = .code → tag.isCodeBlock = true

theorem Within.inner_ne_code {place inner : Place} {tag : Tag} (within : Within place inner tag)
    (other : tag.isCodeBlock = false) : inner ≠ .code := by
  intro atCode
  rw [within.code atCode] at other
  cases other

theorem within_of_inside {place inner : Place} {tag : Tag} (opens : place.inside tag = some inner) :
    Within place inner tag := by
  unfold inside at opens
  split at opens
  case h_6 =>
    cases opens
    split <;> constructor <;> simp
  case h_7 =>
    split at opens <;> cases opens
    constructor <;> simp
  all_goals cases opens
  all_goals constructor <;> simp [Tag.isCodeBlock]

end Place

/-- Whether events have the shape that those at a place have. -/
inductive Shaped : Place → List Event → Prop
  | nil (place : Place) : Shaped place []
  | leaf {place : Place} {event : Event} {rest : List Event} (held : place.holds event = true)
      (others : Shaped place rest) : Shaped place (event :: rest)
  | element {place inner : Place} {tag : Tag} {content rest : List Event}
      (opens : place.inside tag = some inner) (within : Shaped inner content)
      (others : Shaped place rest) :
      Shaped place (.start tag :: content ++ .stop tag.toEnd :: rest)
  | table (columns : List Alignment) {head rows rest : List Event} (headCells : Shaped .cells head)
      (body : Shaped .rows rows) (others : Shaped .blocks rest) :
      Shaped .blocks (.start (.table columns) :: (.start .tableHead :: head ++ .stop .tableHead :: rows) ++
        .stop .table :: rest)

variable {place inner : Place} {front back content : List Event} {tag : Tag}

theorem Shaped.append (first : Shaped place front) (second : Shaped place back) :
    Shaped place (front ++ back) := by
  induction first with
  | nil place => exact second
  | leaf held _ ih => exact .leaf held (ih second)
  | element opens within _ _ ih =>
    rw [List.append_assoc, List.cons_append]
    exact .element opens within (ih second)
  | table columns headCells body _ _ _ ih =>
    rw [List.append_assoc, List.cons_append]
    exact .table columns headCells body (ih second)

theorem Shaped.within (opens : place.inside tag = some inner) (shaped : Shaped inner content) :
    Shaped place (.start tag :: content ++ [.stop tag.toEnd]) :=
  .element opens shaped (.nil place)

theorem Shaped.single {event : Event} (held : place.holds event = true) : Shaped place [event] :=
  .leaf held (.nil place)

theorem Shaped.flatMap {α : Type} {f : α → List Event} {items : List α}
    (each : ∀ item ∈ items, Shaped place (f item)) : Shaped place (items.flatMap f) := by
  induction items with
  | nil => exact .nil place
  | cons item rest ih =>
    obtain ⟨here, others⟩ := List.forall_mem_cons.mp each
    rw [List.flatMap_cons]
    exact here.append (ih others)

theorem Shaped.blocks_of_line (shaped : Shaped .line content) : Shaped .blocks content := by
  generalize atLine : Place.line = place at shaped
  induction shaped with
  | nil place => exact .nil .blocks
  | leaf held _ ih =>
    subst atLine
    refine .leaf ?_ (ih rfl)
    rename_i event _ _
    cases event with
    | start tag | stop tag => cases held
    | _ => rfl
  | element opens within _ _ ih =>
    subst atLine
    refine .element ?_ within (ih rfl)
    rename_i tag _ _ _ _
    cases tag <;> first | exact opens | cases opens
  | table => cases atLine

theorem stackAfter_of_holds {admits : Admission} {event : Event} (held : place.holds event = true)
    (stack : List Tag) : stackAfter admits stack event = some stack := by
  cases event with
  | start tag | stop tag => cases place <;> cases held
  | _ => rfl

private theorem nests_element (tag : Tag) {admits : Admission} {stack last : List Tag}
    (kept : ∀ {last}, nests admits (tag :: stack) content = some last → last = tag :: stack)
    (nested : nests admits stack (.start tag :: content ++ .stop tag.toEnd :: back) = some last) :
    stack.all (admits · tag) = true ∧
      nests admits (tag :: stack) content = some (tag :: stack) ∧
      nests admits stack back = some last := by
  rw [List.cons_append, nests_cons, stackAfter] at nested
  split at nested
  · rename_i admitted
    rw [Option.bind_some, nests_append, Option.bind_eq_some_iff] at nested
    obtain ⟨middle, within, nested⟩ := nested
    obtain rfl := kept within
    rw [nests_cons, stackAfter, if_pos rfl, Option.bind_some] at nested
    exact ⟨admitted, within, nested⟩
  · cases nested

/-- Shaped events leave the open elements as they were. -/
theorem Shaped.nests_eq (shaped : Shaped place content) {admits : Admission} {stack last : List Tag}
    (nested : nests admits stack content = some last) : last = stack := by
  induction shaped generalizing stack last with
  | nil place => cases nested; rfl
  | leaf held _ ih =>
    rw [nests_cons, stackAfter_of_holds held, Option.bind_some] at nested
    exact ih nested
  | element opens _ _ inner others =>
    exact others (nests_element _ inner nested).2.2
  | table columns _ _ _ headCells body others =>
    refine others (nests_element (.table columns) (fun within => ?_) nested).2.2
    exact body (nests_element .tableHead headCells within).2.2

theorem Shaped.nests_freely (shaped : Shaped place content) (stack : List Tag) :
    nests freely stack content = some stack := by
  have admitted (tag : Tag) (stack : List Tag) : stack.all (freely · tag) = true := by
    simp [freely]
  have around (tag : Tag) {inner rest : List Event} {stack : List Tag}
      (within : nests freely (tag :: stack) inner = some (tag :: stack))
      (others : nests freely stack rest = some stack) :
      nests freely stack (.start tag :: inner ++ .stop tag.toEnd :: rest) = some stack := by
    have whole := nests_append_of_eq (nests_within (admitted tag stack) within) rest
    rw [List.append_assoc, List.singleton_append] at whole
    exact whole.trans others
  induction shaped generalizing stack with
  | nil place => rfl
  | leaf held _ ih => rw [nests_cons, stackAfter_of_holds held, Option.bind_some, ih]
  | element opens _ _ ihWithin ih => exact around _ (ihWithin _) (ih _)
  | table columns _ _ _ ihHead ihBody ih =>
    exact around (.table columns) (around .tableHead (ihHead _) (ihBody _)) (ih _)

theorem Shaped.nests_element {admits : Admission} {stack last : List Tag}
    (within : Shaped inner content)
    (nested : nests admits stack (.start tag :: content ++ .stop tag.toEnd :: back) = some last) :
    stack.all (admits · tag) = true ∧
      nests admits (tag :: stack) content = some (tag :: stack) ∧
      nests admits stack back = some last :=
  Event.nests_element tag within.nests_eq nested

theorem Shaped.nests_table {admits : Admission} {columns : List Alignment} {head rows : List Event}
    {stack last : List Tag} (headCells : Shaped .cells head) (body : Shaped .rows rows)
    (nested : nests admits stack
      (.start (.table columns) :: (.start .tableHead :: head ++ .stop .tableHead :: rows) ++
        .stop .table :: back) = some last) :
    nests admits (.tableHead :: .table columns :: stack) head =
        some (.tableHead :: .table columns :: stack) ∧
      nests admits (.table columns :: stack) rows = some (.table columns :: stack) ∧
      nests admits stack back = some last := by
  obtain ⟨-, within, behind⟩ := Event.nests_element (.table columns)
    (fun within => body.nests_eq (Event.nests_element .tableHead headCells.nests_eq within).2.2) nested
  obtain ⟨-, inHead, inRows⟩ := Event.nests_element .tableHead headCells.nests_eq within
  exact ⟨inHead, inRows, behind⟩

end Event

/-- Whether two elements are the same but for the texts that they have. -/
inductive Tag.Like : Tag → Tag → Prop
  | refl (tag : Tag) : Like tag tag
  | fence (info info' : String) : Like (.codeBlock (some info)) (.codeBlock (some info'))
  | link (url title url' title' : String) : Like (.link url title) (.link url' title')
  | image (url title url' title' : String) : Like (.image url title) (.image url' title')

/-- Whether two events are the same but for the texts that they have. -/
inductive Event.Like : Event → Event → Prop
  | refl (event : Event) : Like event event
  | start {tag tag' : Tag} (like : tag.Like tag') : Like (.start tag) (.start tag')
  | text (text text' : String) : Like (.text text) (.text text')
  | code (text text' : String) : Like (.code text) (.code text')
  | math (expression expression' : String) (display : Bool) :
      Like (.math expression display) (.math expression' display)

end Mathdown
