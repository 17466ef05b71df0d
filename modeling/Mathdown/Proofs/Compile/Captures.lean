import Mathdown.Compile.Moment
import Mathdown.Event.Nesting

namespace Mathdown

namespace Compile

/-- The kinds of element whose content is collected before it is written. -/
inductive Capture where
  | code | image | heading
deriving DecidableEq, Repr

namespace Capture

def opens : Capture → Tag → Bool
  | .code => Tag.isCodeBlock
  | .image => Tag.isImage
  | .heading => Tag.isHeading

/-- Whether an element of a kind is being collected. -/
def isHeld (s : State) : Capture → Bool
  | .code => s.code.isSome
  | .image => s.image.isSome
  | .heading => s.heading.isSome

theorem isHeld_perform_of_isPlain (capture : Capture) {act : Act} (plain : act.isPlain = true)
    (s : State) : capture.isHeld (act.perform s) = capture.isHeld s := by
  have leaves := act.leaves_perform s
  obtain ⟨keepsHeading, keepsImage⟩ := Act.keeps_of_isPlain plain
  cases capture with
  | code =>
    have other : ∀ code, act ≠ .setCode code := by
      rintro code rfl
      cases plain
    exact congrArg Option.isSome (leaves.code other)
  | image => exact leaves.image keepsImage
  | heading => exact leaves.heading keepsHeading

private theorem heading_finishHeading (s : State) : s.finishHeading.heading = none := by
  unfold State.finishHeading
  cases opened : s.heading with
  | none => exact opened
  | some heading => rfl

/-- What is not being collected is not collected behind an event that enters nothing of its kind. -/
theorem isHeld_ofEvent (capture : Capture) {options : CompilerOptions} {s : State} {answer : Answer}
    {event : Event} (other : ∀ tag, event = .start tag → capture.opens tag = false)
    (outside : capture.isHeld s = false) :
    capture.isHeld (Act.performAll (Act.ofEvent options s answer event) s) = false := by
  refine Act.performAll_keeps (fun t => capture.isHeld t = false) (fun act member t before => ?_) outside
  -- By what each act is due to: only the start of its element begins to collect something.
  have leaves := act.leaves_perform t
  cases Act.due_of_mem_ofEvent member with
  | plain event plain => rwa [isHeld_perform_of_isPlain capture plain]
  | beginHeading level =>
    cases capture with
    | heading => cases other _ rfl
    | _ => exact before
  | endHeading level =>
    cases capture with
    | code => exact (congrArg Option.isSome (leaves.code nofun)).trans before
    | image => exact (leaves.image rfl).trans before
    | heading => exact congrArg Option.isSome (heading_finishHeading t)
  | beginCode info =>
    cases capture with
    | code => cases other _ rfl
    | _ => exact before
  | noteCode text held =>
    cases capture with
    | code =>
      rw [isHeld, held] at outside
      cases outside
    | _ => exact before
  | endCode =>
    cases capture with
    | code => rfl
    | _ => exact before
  | beginImage url title =>
    cases capture with
    | image => cases other _ rfl
    | _ => exact before
  | endImage =>
    cases capture with
    | image => rfl
    | _ => exact before

theorem isHeld_ofEvent_toEnd (capture : Capture) {options : CompilerOptions} {s : State}
    {answer : Answer} {tag : Tag} (own : capture.opens tag = true) :
    capture.isHeld (Act.performAll (Act.ofEvent options s answer (.stop tag.toEnd)) s) = false := by
  cases capture with
  | code =>
    cases tag <;> cases own
    refine Act.performAll_keeps (fun t => isHeld t .code = false) (fun act member t before => ?_)
      (s := { s with code := none }) rfl
    have plain : act.isPlain = true := by
      cases answer <;> simp only [Act.answeringCode, List.mem_cons, List.not_mem_nil, or_false] at member
      · rcases member with rfl | rfl | rfl <;> rfl
      · rw [member]; rfl
      · rw [member]; rfl
    rwa [isHeld_perform_of_isPlain .code plain]
  | image =>
    cases tag <;> cases own
    simp only [Tag.toEnd, Act.ofEvent, Act.leaving]
    cases held : s.image with
    | none => exact congrArg Option.isSome held
    | some image =>
      have plain : (Act.inline (Html.image image.url image.alt image.title)).isPlain = true := rfl
      exact isHeld_perform_of_isPlain .image plain { s with image := none }
  | heading =>
    cases tag <;> cases own
    exact congrArg Option.isSome (heading_finishHeading s)

end Capture

end Compile

namespace Compiler

open Compile (Capture Moment State)

variable {σ : Type} {admits : Event.Admission} {stack next last : List Tag}

theorem isHeld_next (c : Compiler σ) (capture : Capture) {m : Moment σ}
    (opened : Event.stackAfter admits stack m.event = some next)
    (follows : capture.isHeld m.state = true → stack.any capture.opens = true) :
    capture.isHeld (c.next m).1 = true → next.any capture.opens = true := by
  obtain ⟨event, s, w⟩ := m
  intro held
  rw [Compiler.next, step_eq] at held
  -- Behind an event that neither enters nor leaves one, it has been collected before.
  have before (other : ∀ tag, event = .start tag → capture.opens tag = false) :
      stack.any capture.opens = true := by
    refine follows ((Bool.not_eq_false _).mp fun outside => ?_)
    rw [capture.isHeld_ofEvent other outside] at held
    cases held
  cases event with
  | start tag =>
    obtain ⟨-, rfl⟩ := Event.stackAfter_start_iff.mp opened
    rw [List.any_cons, Bool.or_eq_true]
    by_cases own : capture.opens tag = true
    · exact .inl own
    · refine .inr (before fun other same => ?_)
      cases same
      exact Bool.eq_false_iff.mpr own
  | stop closing =>
    have outer := before (by rintro _ ⟨⟩)
    obtain ⟨tag, rfl, rfl⟩ := Event.stackAfter_stop_iff.mp opened
    by_cases own : capture.opens tag = true
    · rw [capture.isHeld_ofEvent_toEnd own] at held
      cases held
    · simpa [own] using outer
  | _ =>
    cases opened
    exact before (by rintro _ ⟨⟩)

/-- Where a run of elements that nest gets to, only what is open is being collected. -/
theorem isHeld_run (c : Compiler σ) (capture : Capture) {events : List Event}
    (nested : Event.nests admits stack events = some last) {s : State} {w : σ}
    (follows : capture.isHeld s = true → stack.any capture.opens = true)
    (compiled : (c.run events s w).1 = none) :
    capture.isHeld (c.run events s w).2.1 = true → last.any capture.opens = true := by
  induction events generalizing stack s w with
  | nil =>
    cases nested
    exact follows
  | cons event events ih =>
    rw [Event.nests_cons, Option.bind_eq_some_iff] at nested
    obtain ⟨next, opened, others⟩ := nested
    have enters := run_cons_of_eq_none compiled
    rw [enters] at compiled ⊢
    have outside : capture.isHeld (moment event s w).state = true → stack.any capture.opens = true := by
      cases capture <;> exact follows
    exact ih others (c.isHeld_next capture (m := moment event s w) opened outside) compiled

end Compiler

end Mathdown
