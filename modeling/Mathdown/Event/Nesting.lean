import Mathdown.Event

/-!
How elements nest. `nests` follows events with the stack of open elements, and gives up where an end
fits no start, or where an element is entered that an open one may not hold.
-/

namespace Mathdown

def Tag.isHeading : Tag → Bool
  | .heading _ => true
  | _ => false

def Tag.isCodeBlock : Tag → Bool
  | .codeBlock _ => true
  | _ => false

def Tag.isImage : Tag → Bool
  | .image .. => true
  | _ => false

/-- Whether the element stands within a line of text. -/
def Tag.isInline : Tag → Bool
  | .emphasis | .strong | .strikethrough | .superscript | .subscript | .link .. | .image .. => true
  | _ => false

namespace Event

/-- Which elements an open element may hold, at any depth. -/
abbrev Admission := (outer inner : Tag) → Bool

def freely : Admission := fun _ _ => true

/-- A heading may hold anything but headings. -/
def noHeadingInHeading : Admission := fun outer inner => !(outer.isHeading && inner.isHeading)

/-- A heading may hold anything but headings and code blocks. -/
def plainHeadings : Admission := fun outer inner =>
  !(outer.isHeading && (inner.isHeading || inner.isCodeBlock))

def inlineHeadings : Admission := fun outer inner => !outer.isHeading || inner.isInline

/-- The open elements, innermost first, after one event. -/
def stackAfter (admits : Admission) (stack : List Tag) : Event → Option (List Tag)
  | .start tag => if stack.all (admits · tag) then some (tag :: stack) else none
  | .stop closing =>
    match stack with
    | tag :: outer => if tag.toEnd = closing then some outer else none
    | [] => none
  | _ => some stack

/-- The open elements after some events, if they nest. -/
def nests (admits : Admission) (stack : List Tag) (events : List Event) : Option (List Tag) :=
  events.foldlM (stackAfter admits) stack

/-- Elements nest, and each of them is left again. -/
def WellNested (admits : Admission) (events : List Event) : Prop := nests admits [] events = some []

/-- Whether each element on a stack may stand in those that are open around it. -/
def Stacked (admits : Admission) (stack : List Tag) : Prop :=
  stack.Pairwise fun inner outer => admits outer inner = true

variable {admits : Admission} {stack next : List Tag}

@[simp] theorem nests_nil (stack : List Tag) : nests admits stack [] = some stack := rfl

theorem nests_cons (stack : List Tag) (event : Event) (rest : List Event) :
    nests admits stack (event :: rest) =
      (stackAfter admits stack event).bind fun next => nests admits next rest := rfl

theorem stackAfter_start_iff {tag : Tag} :
    stackAfter admits stack (.start tag) = some next ↔
      stack.all (admits · tag) = true ∧ next = tag :: stack := by
  rw [stackAfter]
  split
  · rename_i admitted
    rw [Option.some.injEq]
    exact ⟨fun entered => ⟨admitted, entered.symm⟩, fun enters => enters.2.symm⟩
  · rename_i refused
    exact ⟨nofun, fun enters => absurd enters.1 refused⟩

theorem stackAfter_stop_iff {closing : TagEnd} :
    stackAfter admits stack (.stop closing) = some next ↔
      ∃ tag : Tag, tag.toEnd = closing ∧ stack = tag :: next := by
  cases stack with
  | nil => simp [stackAfter]
  | cons tag outer =>
    rw [stackAfter]
    split
    · rename_i closes
      constructor
      · rintro ⟨⟩
        exact ⟨tag, closes, rfl⟩
      · rintro ⟨_, -, ⟨⟩⟩
        rfl
    · rename_i refused
      refine ⟨nofun, ?_⟩
      rintro ⟨_, closes, ⟨⟩⟩
      exact absurd closes refused

theorem nests_append (stack : List Tag) (front back : List Event) :
    nests admits stack (front ++ back) =
      (nests admits stack front).bind fun next => nests admits next back :=
  List.foldlM_append

theorem nests_append_of_eq {front : List Event} (neutral : nests admits stack front = some stack)
    (back : List Event) : nests admits stack (front ++ back) = nests admits stack back := by
  rw [nests_append, neutral, Option.bind_some]

theorem nests_within {tag : Tag} {inner : List Event} (admitted : stack.all (admits · tag) = true)
    (neutral : nests admits (tag :: stack) inner = some (tag :: stack)) :
    nests admits stack (.start tag :: inner ++ [.stop tag.toEnd]) = some stack := by
  rw [List.cons_append, nests_cons, stackAfter, if_pos admitted, Option.bind_some,
    nests_append_of_eq neutral, nests_cons, stackAfter, if_pos rfl, Option.bind_some, nests_nil]

theorem nests_flatMap {α : Type} {f : α → List Event} {items : List α}
    (neutral : ∀ item ∈ items, nests admits stack (f item) = some stack) :
    nests admits stack (items.flatMap f) = some stack := by
  induction items with
  | nil => rfl
  | cons item rest ih =>
    rw [List.flatMap_cons, nests_append_of_eq (neutral item (List.mem_cons_self ..))]
    exact ih fun other member => neutral other (List.mem_cons_of_mem item member)

theorem Stacked.stackAfter (stacked : Stacked admits stack) {event : Event}
    (opened : stackAfter admits stack event = some next) : Stacked admits next := by
  cases event with
  | start tag =>
    obtain ⟨admitted, rfl⟩ := stackAfter_start_iff.mp opened
    exact List.Pairwise.cons (List.all_eq_true.mp admitted) stacked
  | stop closing =>
    obtain ⟨tag, -, rfl⟩ := stackAfter_stop_iff.mp opened
    exact stacked.of_cons
  | _ => cases opened; exact stacked

theorem WellNested.mono {more : Admission} {events : List Event}
    (weaker : ∀ outer inner, admits outer inner = true → more outer inner = true)
    (nested : WellNested admits events) : WellNested more events := by
  suffices follow : ∀ stack next, nests admits stack events = some next →
      nests more stack events = some next from follow [] [] nested
  clear nested
  induction events with
  | nil => exact fun stack next nested => nested
  | cons event rest ih =>
    intro stack next nested
    rw [nests_cons, Option.bind_eq_some_iff] at nested ⊢
    obtain ⟨middle, first, others⟩ := nested
    refine ⟨middle, ?_, ih _ _ others⟩
    cases event with
    | start tag =>
      obtain ⟨admitted, entered⟩ := stackAfter_start_iff.mp first
      refine stackAfter_start_iff.mpr ⟨List.all_eq_true.mpr fun outer member => ?_, entered⟩
      exact weaker outer tag (List.all_eq_true.mp admitted outer member)
    | _ => exact first

theorem noHeadingInHeading_of_inlineHeadings (outer inner : Tag)
    (admitted : inlineHeadings outer inner = true) : noHeadingInHeading outer inner = true := by
  cases outer <;> cases inner <;> simp_all [inlineHeadings, noHeadingInHeading, Tag.isHeading,
    Tag.isInline]

theorem plainHeadings_of_inlineHeadings (outer inner : Tag)
    (admitted : inlineHeadings outer inner = true) : plainHeadings outer inner = true := by
  cases outer <;> cases inner <;> simp_all [inlineHeadings, plainHeadings, Tag.isHeading,
    Tag.isCodeBlock, Tag.isInline]

theorem noHeadingInHeading_of_plainHeadings (outer inner : Tag)
    (admitted : plainHeadings outer inner = true) : noHeadingInHeading outer inner = true := by
  cases outer <;> cases inner <;> simp_all [plainHeadings, noHeadingInHeading, Tag.isHeading]

end Event

end Mathdown
