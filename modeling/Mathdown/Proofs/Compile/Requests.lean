import Mathdown.Proofs.Compile.Holes
import Mathdown.Proofs.Compile.Images
import Mathdown.Proofs.Compile.Questions

/-!
What a document asks, read off its events. Each code block is asked about with its language and its whole
source, and each math span outside images with its expression. Inside an image that holds another, what
stands behind the end of the inner one is asked about too: that end ends the outer image as well.
-/

namespace Mathdown

open Compile (CodeCapture Question)

namespace Event

def isText : Event → Bool
  | .text _ => true
  | _ => false

/-- Whether code blocks hold only text. -/
def textInCode : List Event → Bool
  | [] => true
  | .start (.codeBlock _) :: rest =>
    (rest.dropWhile isText).head? == some (.stop .codeBlock) && textInCode rest
  | _ :: rest => textInCode rest

def openImages (images : Nat) : Event → Nat
  | .start (.image ..) => images + 1
  | .stop .image => images - 1
  | _ => images

/-- How many images have begun behind an event, since the last of them ended. -/
def heldImages (images : Nat) : Event → Nat
  | .start (.image ..) => images + 1
  | .stop .image => 0
  | _ => images

/-- What an event has to ask, in so many images and in front of other events. -/
def request (images : Nat) (behind : List Event) : Event → List Question
  | .start (.codeBlock info) =>
    [.code (info.bind Text.firstWord) (sourceText (behind.takeWhile isText))]
  | .math expression display => if images = 0 then [.math expression display] else []
  | _ => []

/-- What events have to ask, in document order, where images are counted in some way. -/
def requests (count : Nat → Event → Nat) : Nat → List Event → List Question
  | _, [] => []
  | images, event :: behind =>
    request images behind event ++ requests count (count images event) behind

private def awaited : Option CodeCapture → List Event → List Question
  | none, _ => []
  | some block, events =>
    [.code block.language (block.source ++ sourceText (events.takeWhile isText))]

/-- Whether the block that is being collected is the innermost element, and ends behind its text. -/
private def EndsBlock : Option CodeCapture → List Tag → List Event → Prop
  | none, stack, _ => stack.any Tag.isCodeBlock = false
  | some _, stack, events => ∃ tag outer, stack = tag :: outer ∧ outer.any Tag.isCodeBlock = false ∧
      (events.dropWhile isText).head? = some (.stop .codeBlock)

variable {admits : Admission}

private theorem EndsBlock.cases {block : CodeCapture} {stack : List Tag} {event : Event}
    {behind : List Event} (ends : EndsBlock (some block) stack (event :: behind)) :
    (∃ shown, event = .text shown ∧ EndsBlock (some block) stack behind) ∨
      event = .stop .codeBlock ∧ stack.tail.any Tag.isCodeBlock = false := by
  obtain ⟨tag, outer, rfl, outside, ends⟩ := ends
  cases text : event.isText with
  | true =>
    rw [List.dropWhile_cons_of_pos text] at ends
    cases event with
    | text shown => exact .inl ⟨shown, rfl, tag, outer, rfl, outside, ends⟩
    | _ => cases text
  | false =>
    rw [List.dropWhile_cons_of_neg (by rw [text]; exact Bool.false_ne_true)] at ends
    exact .inr ⟨Option.some.inj ends, outside⟩

private theorem askedIn_eq {events : List Event} {stack : List Tag}
    (nested : nests admits stack events = some []) (texts : textInCode events = true)
    (code : Option CodeCapture) (ends : EndsBlock code stack events) (images : Nat) :
    Compile.askedIn (code, decide (images ≠ 0)) events =
      awaited code events ++ requests heldImages images events := by
  induction events generalizing stack code images with
  | nil =>
    cases code with
    | none => rfl
    | some block =>
      obtain ⟨_, _, _, _, ends⟩ := ends
      cases ends
  | cons event events ih =>
    rw [nests_cons, Option.bind_eq_some_iff] at nested
    obtain ⟨next, opened, others⟩ := nested
    cases code with
    | none =>
      have outside : stack.any Tag.isCodeBlock = false := ends
      cases event with
      | start tag =>
        obtain ⟨-, rfl⟩ := stackAfter_start_iff.mp opened
        cases tag with
        | codeBlock info =>
          rw [textInCode, Bool.and_eq_true, beq_iff_eq] at texts
          have block := ih others texts.2 (some ⟨info.bind Text.firstWord, ""⟩)
            ⟨_, _, rfl, outside, texts.1⟩ images
          rw [awaited, String.empty_append] at block
          exact block
        | image url title => exact ih others texts none outside (images + 1)
        | _ => exact ih others texts none outside images
      | stop closing =>
        obtain ⟨tag, rfl, rfl⟩ := stackAfter_stop_iff.mp opened
        rw [List.any_cons, Bool.or_eq_false_iff] at outside
        cases tag with
        | codeBlock info => cases outside.1
        | image url title => exact ih others texts none outside.2 0
        | _ => exact ih others texts none outside.2 images
      | math expression display =>
        cases opened
        have later := ih others texts none outside images
        by_cases outer : images = 0
        · subst outer
          exact congrArg (_ :: ·) later
        · rw [requests, request, if_neg outer, Compile.askedIn, Question.ofCollected,
            if_pos (decide_eq_true outer)]
          exact later
      | _ =>
        cases opened
        exact ih others texts none outside images
    | some block =>
      -- A code block holds text only, so that the next event adds to it or ends it.
      rcases ends.cases with ⟨shown, rfl, ends⟩ | ⟨rfl, outside⟩
      · cases opened
        have later := ih others texts (some { block with source := block.source ++ shown }) ends images
        rw [awaited, String.append_assoc] at later
        exact later
      · obtain ⟨tag, -, rfl⟩ := stackAfter_stop_iff.mp opened
        have later := ih others texts none outside images
        rw [awaited, List.takeWhile_cons_of_neg Bool.false_ne_true, sourceText, String.append_empty]
        exact congrArg (_ :: ·) later

variable {held opened : Nat}

private theorem heldImages_le (fewer : held ≤ opened) (event : Event) :
    heldImages held event ≤ openImages opened event := by
  cases event with
  | start tag =>
    cases tag with
    | image url title => exact Nat.succ_le_succ fewer
    | _ => exact fewer
  | stop closing =>
    cases closing with
    | image => exact Nat.zero_le _
    | _ => exact fewer
  | _ => exact fewer

private theorem request_sublist (fewer : held ≤ opened) (event : Event) (behind : List Event) :
    (request opened behind event).Sublist (request held behind event) := by
  cases event with
  | math expression display =>
    by_cases outside : opened = 0
    · subst outside
      obtain rfl : held = 0 := Nat.le_zero.mp fewer
      exact List.Sublist.refl _
    · rw [request, if_neg outside]
      exact List.nil_sublist _
  | start tag => cases tag <;> exact List.Sublist.refl _
  | _ => exact List.Sublist.refl _

private theorem request_eq_iff (fewer : held ≤ opened) (event : Event) (behind : List Event) :
    request held behind event = request opened behind event ↔
      ∀ expression display, event = .math expression display → held = 0 → opened = 0 := by
  cases event with
  | math expression display =>
    by_cases outside : held = 0
    · by_cases free : opened = 0
      · simp [outside, free]
      · simp [request, outside, free]
    · have inner : opened ≠ 0 := fun free => outside (Nat.le_zero.mp (free ▸ fewer))
      simp [request, outside, inner]
  | start tag => cases tag <;> exact ⟨nofun, fun _ => rfl⟩
  | _ => exact ⟨nofun, fun _ => rfl⟩

private theorem requests_sublist (fewer : held ≤ opened) (events : List Event) :
    (requests openImages opened events).Sublist (requests heldImages held events) := by
  induction events generalizing held opened with
  | nil => exact List.Sublist.refl _
  | cons event events ih =>
    exact (request_sublist fewer event events).append (ih (heldImages_le fewer event))

private theorem requests_eq_iff (fewer : held ≤ opened) (events : List Event) :
    requests heldImages held events = requests openImages opened events ↔
      ∀ front expression display back, events = front ++ .math expression display :: back →
        front.foldl heldImages held = 0 → front.foldl openImages opened = 0 := by
  induction events generalizing held opened with
  | nil => simp [requests]
  | cons event events ih =>
    have fewer' := heldImages_le fewer event
    constructor
    · intro same front expression display back split
      have fits := congrArg List.length same
      have here := request_sublist fewer event events
      have later := requests_sublist fewer' events
      have shorter := here.length_le
      have shorter' := later.length_le
      rw [requests, requests, List.length_append, List.length_append] at fits
      cases front with
      | nil =>
        obtain ⟨rfl, rfl⟩ := List.cons.inj split
        have same := (here.eq_of_length (by omega)).symm
        exact (request_eq_iff fewer _ _).mp same expression display rfl
      | cons first front =>
        obtain ⟨rfl, behind⟩ := List.cons.inj split
        have same := (later.eq_of_length (by omega)).symm
        exact (ih fewer').mp same front expression display back behind
    · intro free
      have here := (request_eq_iff fewer event events).mpr fun expression display math =>
        free [] expression display events (congrArg (· :: events) math)
      have later := (ih fewer').mpr fun front expression display back split =>
        free (event :: front) expression display back (congrArg (event :: ·) split)
      rw [requests, requests, here, later]

end Event

namespace Compiler

open Compile (Question State)

variable {σ : Type}

/--
A compiled document has asked, in order, what its events have to ask where the end of an image ends all
images around it, and nothing else has happened to the processors. So each code block and each math span
outside images has been asked about once, and nothing else has, unless math stands behind the end of an
image in an image. The spans of the document are those that the answers have put off, in order.
-/
theorem asked_in_order (c : Compiler σ) {events : List Event}
    (nested : Event.WellNested Event.noHeadingInHeading events)
    (texts : Event.textInCode events = true) {w : σ} {document : CompiledDocument}
    (compiled : (c.compile events .initial w).1 = .ok document) :
    let asked := c.questions events .initial w
    let answered := c.answers events .initial w
    c.put asked w = (answered, (c.compile events .initial w).2.2) ∧
      asked = Event.requests Event.heldImages 0 events ∧
      (Event.requests Event.openImages 0 events).Sublist asked ∧
      (asked = Event.requests Event.openImages 0 events ↔
        ∀ front expression display back, events = front ++ .math expression display :: back →
          front.foldl Event.heldImages 0 = 0 → front.foldl Event.openImages 0 = 0) ∧
      document.spans.map PlaceholderSpan.id = answered.flatMap Answer.ids := by
  intro asked answered
  have read : asked = Event.requests Event.heldImages 0 events :=
    (c.questions_eq_askedIn (run_of_compile compiled).1).trans (Event.askedIn_eq nested texts none rfl 0)
  have sublist := Event.requests_sublist (Nat.le_refl 0) events
  have same := Event.requests_eq_iff (Nat.le_refl 0) events
  obtain ⟨t, rfl, holes⟩ := c.holes_compile_eq nested compiled
  refine ⟨?_, read, read ▸ sublist, read ▸ same, ?_⟩
  · rw [world_compile]
    exact c.put_questions events .initial w
  · exact (Template.map_id_spansFrom 0 t).trans holes

/-- Deferred math in a heading, a code block, and an image in an image. -/
theorem asked_in_order_heading :
    let c : Compiler Nat := ⟨{}, {
      code := some fun n _ _ => (.deferred ⟨.highlight, n⟩, n + 1)
      math := some fun n _ _ => (.deferred ⟨.math, n⟩, n + 1) }⟩
    let events : List Event := [
      .start (.heading 1), .math "x" false, .text " y", .stop (.heading 1),
      .start (.codeBlock (some "rust no_run")), .text "f\n", .text "g\n", .stop .codeBlock,
      .start (.image "u" ""), .math "a" false, .start (.image "v" ""), .stop .image, .stop .image,
      .math "z" true]
    ∃ document, (c.compile events .initial 0).1 = .ok document ∧
      c.questions events .initial 0 =
        [.math "x" false, .code (some "rust") "f\ng\n", .math "z" true] ∧
      document.spans.map PlaceholderSpan.id = [⟨.math, 0⟩, ⟨.highlight, 1⟩, ⟨.math, 2⟩] := by
  intro c events
  have nested : Event.WellNested Event.noHeadingInHeading events := by
    unfold Event.WellNested
    decide
  have compiled : ∃ document, (c.compile events .initial 0).1 = .ok document := ⟨_, by rfl⟩
  obtain ⟨document, compiled⟩ := compiled
  obtain ⟨-, asked, -, -, deferred⟩ := c.asked_in_order nested (by decide) compiled
  exact ⟨document, compiled, asked.trans (by decide +kernel), deferred⟩

/-- Math in an image, behind the end of an image in it, is asked about. -/
theorem asked_in_order_image :
    let c : Compiler Nat := ⟨{}, {
      code := some fun n _ _ => (.passThrough, n + 1)
      math := some fun n _ _ => (.passThrough, n + 1) }⟩
    let events := Markdown.events ⟨true, true⟩ "![a ![b](v) $c$](u)"
    Event.WellNested Event.noHeadingInHeading events ∧ Event.textInCode events = true ∧
      (c.compile events .initial 0).1 =
        .ok ⟨"<p><img src=\"v\" alt=\"b\"> <span class=\"math math-inline\">c</span></p>", []⟩ ∧
      Event.requests Event.openImages 0 events = [] ∧
      c.questions events .initial 0 = [.math "c" false] := by
  intro c events
  have parsed : events = [.start .paragraph, .start (.image "u" ""), .text "a ",
      .start (.image "v" ""), .text "b", .stop .image, .text " ", .math "c" false, .stop .image,
      .stop .paragraph] := by
    decide +kernel
  rw [parsed]
  exact ⟨by unfold Event.WellNested; decide, by decide, rfl, rfl, rfl⟩

end Compiler

end Mathdown
