import Mathdown.Event.Nesting

/-!
How many elements stand in each other. `Height` follows the elements of a document, and `exists_height`
says that wherever elements nest there is a height to be had.
-/

namespace Mathdown.Event

/-- Whether an event neither enters nor leaves an element. -/
def isLeaf : Event → Bool
  | .start _ | .stop _ => false
  | _ => true

/-- Events whose elements nest, by the number of elements that stand in each other where most do. -/
inductive Height : Nat → List Event → Prop
  | nil : Height 0 []
  | leaf {event : Event} {rest : List Event} {n : Nat} (plain : event.isLeaf = true)
      (others : Height n rest) : Height n (event :: rest)
  | element (tag : Tag) {content rest : List Event} {m n : Nat} (within : Height m content)
      (others : Height n rest) :
      Height (max (m + 1) n) (.start tag :: content ++ .stop tag.toEnd :: rest)

/-- Events that leave the elements of a stack one after the other, with a height between any two ends. -/
private def Closes : List Tag → List Event → Prop
  | [], events => ∃ n, Height n events
  | tag :: outer, events => ∃ content rest n,
      events = content ++ .stop tag.toEnd :: rest ∧ Height n content ∧ Closes outer rest

private theorem Closes.behind (front : List Event)
    (stands : ∀ {n rest}, Height n rest → ∃ m, Height m (front ++ rest)) {stack : List Tag}
    {events : List Event} (closes : Closes stack events) : Closes stack (front ++ events) := by
  cases stack with
  | nil =>
    obtain ⟨n, height⟩ := closes
    exact stands height
  | cons tag outer =>
    obtain ⟨content, rest, n, rfl, height, others⟩ := closes
    obtain ⟨m, height⟩ := stands height
    exact ⟨front ++ content, rest, m, (List.append_assoc ..).symm, height, others⟩

private theorem closes_of_nests {admits : Admission} {stack : List Tag} {events : List Event}
    (nested : nests admits stack events = some []) : Closes stack events := by
  induction events generalizing stack with
  | nil =>
    cases nested
    exact ⟨0, .nil⟩
  | cons event events ih =>
    rw [nests_cons, Option.bind_eq_some_iff] at nested
    obtain ⟨next, opened, others⟩ := nested
    have closes := ih others
    cases event with
    | start tag =>
      obtain ⟨-, rfl⟩ := stackAfter_start_iff.mp opened
      obtain ⟨content, rest, m, rfl, within, others⟩ := closes
      have around := others.behind (.start tag :: content ++ [.stop tag.toEnd])
        fun {n rest} height => ⟨max (m + 1) n, by simpa using Height.element tag within height⟩
      simpa using around
    | stop closing =>
      obtain ⟨tag, rfl, rfl⟩ := stackAfter_stop_iff.mp opened
      exact ⟨[], events, 0, rfl, .nil, closes⟩
    | _ =>
      cases opened
      exact closes.behind [_] fun height => ⟨_, .leaf rfl height⟩

/-- Elements that nest have a height. -/
theorem exists_height {admits : Admission} {events : List Event} (nested : WellNested admits events) :
    ∃ n, Height n events :=
  closes_of_nests nested

end Mathdown.Event
