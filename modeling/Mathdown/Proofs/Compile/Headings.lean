import Mathdown.Compile.Act
import Mathdown.Event.Nesting

namespace Mathdown.Compile

theorem Act.isSome_heading_performAll {acts : List Act}
    (keeps : ∀ act ∈ acts, act.keepsHeading = true) (s : State) :
    (performAll acts s).heading.isSome = s.heading.isSome :=
  performAll_keeps (fun t => t.heading.isSome = s.heading.isSome)
    (fun act member t same => ((leaves_perform act t).heading (keeps act member)).trans same) rfl

/-- The ends of a heading do one thing each, and other events keep the heading that is open. -/
theorem Act.ofEvent_cases (options : CompilerOptions) (s : State) (answer : Answer)
    (event : Event) :
    (∃ level, event = .start (.heading level) ∧
        ofEvent options s answer event = [.beginHeading level]) ∨
      (∃ level, event = .stop (.heading level) ∧ ofEvent options s answer event = [.endHeading]) ∨
      (∀ level, event ≠ .start (.heading level) ∧ event ≠ .stop (.heading level)) ∧
        ∀ act ∈ ofEvent options s answer event, act.keepsHeading = true := by
  by_cases starts : ∃ level, event = .start (.heading level)
  · obtain ⟨level, rfl⟩ := starts
    exact .inl ⟨level, rfl, rfl⟩
  · by_cases stops : ∃ level, event = .stop (.heading level)
    · obtain ⟨level, rfl⟩ := stops
      exact .inr (.inl ⟨level, rfl, rfl⟩)
    · refine .inr (.inr ⟨fun level => ⟨fun same => starts ⟨level, same⟩, fun same => stops ⟨level, same⟩⟩,
        fun act member => ?_⟩)
      cases due_of_mem_ofEvent member with
      | plain event plain => exact (keeps_of_isPlain plain).1
      | beginHeading level => exact absurd ⟨level, rfl⟩ starts
      | endHeading level => exact absurd ⟨level, rfl⟩ stops
      | _ => rfl

theorem Act.exists_of_endHeading_mem {options : CompilerOptions} {s : State} {answer : Answer}
    {event : Event} (member : .endHeading ∈ ofEvent options s answer event) :
    ∃ level, event = .stop (.heading level) := by
  cases due_of_mem_ofEvent member with
  | plain event plain => cases plain
  | endHeading level => exact ⟨level, rfl⟩

/-- A state between two events, with the elements that are open there. -/
structure State.Follows (admits : Event.Admission) (stack : List Tag) (s : State) : Prop where
  stacked : Event.Stacked admits stack
  heading : s.heading.isSome = stack.any Tag.isHeading

namespace State.Follows

variable {admits : Event.Admission} {stack next : List Tag} {s : State}

theorem initial : State.Follows admits [] .initial := ⟨.nil, rfl⟩

theorem heading_eq_none (follows : s.Follows admits stack) {level : Nat}
    (strict : ∀ outer inner, admits outer inner = true → Event.noHeadingInHeading outer inner = true)
    (opened : Event.stackAfter admits stack (.start (.heading level)) = some next) :
    s.heading = none := by
  have outside : stack.any Tag.isHeading = false := by
    obtain ⟨admitted, -⟩ := Event.stackAfter_start_iff.mp opened
    rw [List.any_eq_false]
    intro outer member
    have apart := strict outer _ (List.all_eq_true.mp admitted outer member)
    simpa [Event.noHeadingInHeading, Tag.isHeading] using apart
  rw [← Option.not_isSome_iff_eq_none, follows.heading, outside]
  exact Bool.false_ne_true

private theorem isHeading_of_toEnd {tag : Tag} {level : Nat} (closing : tag.toEnd = .heading level) :
    tag.isHeading = true := by
  cases tag <;> first | rfl | cases closing

private theorem any_isHeading_eq {event : Event}
    (other : ∀ level, event ≠ .start (.heading level) ∧ event ≠ .stop (.heading level))
    (opened : Event.stackAfter admits stack event = some next) :
    next.any Tag.isHeading = stack.any Tag.isHeading := by
  cases event with
  | start tag =>
    obtain ⟨-, rfl⟩ := Event.stackAfter_start_iff.mp opened
    cases tag with
    | heading level => exact absurd rfl (other level).1
    | _ => rfl
  | stop closing =>
    obtain ⟨tag, rfl, rfl⟩ := Event.stackAfter_stop_iff.mp opened
    cases tag with
    | heading level => exact absurd rfl (other level).2
    | _ => rfl
  | _ => cases opened; rfl

theorem performAll (follows : s.Follows admits stack) (options : CompilerOptions) (answer : Answer)
    {event : Event}
    (strict : ∀ outer inner, admits outer inner = true → Event.noHeadingInHeading outer inner = true)
    (opened : Event.stackAfter admits stack event = some next) :
    (Act.performAll (Act.ofEvent options s answer event) s).Follows admits next := by
  refine ⟨follows.stacked.stackAfter opened, ?_⟩
  rcases Act.ofEvent_cases options s answer event with
    ⟨level, rfl, acts⟩ | ⟨level, rfl, acts⟩ | ⟨other, keeps⟩
  · obtain ⟨-, rfl⟩ := Event.stackAfter_start_iff.mp opened
    simp [acts, Act.perform, Tag.isHeading]
  · obtain ⟨tag, closes, rfl⟩ := Event.stackAfter_stop_iff.mp opened
    have closed := isHeading_of_toEnd closes
    have outside : next.any Tag.isHeading = false := by
      rw [List.any_eq_false]
      intro outer member
      have apart := strict outer tag (List.rel_of_pairwise_cons follows.stacked member)
      simpa [Event.noHeadingInHeading, closed] using apart
    rw [acts, outside]
    simp only [Act.performAll_cons, Act.performAll_nil, Act.perform, State.finishHeading]
    cases heading : s.heading with
    | none => simp [heading]
    | some heading => rfl
  · rw [Act.isSome_heading_performAll keeps, follows.heading, any_isHeading_eq other opened]

theorem setDepth (follows : s.Follows admits stack) (depth : Nat) :
    State.Follows admits stack { s with depth } :=
  ⟨follows.stacked, follows.heading⟩

end State.Follows

end Mathdown.Compile
