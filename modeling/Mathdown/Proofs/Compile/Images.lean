import Mathdown.Markdown.Document
import Mathdown.Proofs.Compile.Captures
import Mathdown.Proofs.Compile.Depth

/-!
Images. What stands in an image goes into its alternative text, and nothing of it is written but the
image itself. That holds of an image without another in it: the end of an inner image ends the outer
one too, which is not written. And a hard break counts as nothing in an alternative text.
-/

namespace Mathdown

/-- Whether the element stands within a line of text. -/
def TagEnd.isInline : TagEnd → Bool
  | .emphasis | .strong | .strikethrough | .superscript | .subscript | .link | .image => true
  | _ => false

namespace Event

/-- Whether an event is one of a line of text. -/
def isInline : Event → Bool
  | .text _ | .code _ | .math .. | .html _ | .inlineHtml _ | .footnoteReference _ => true
  | .softBreak | .hardBreak => true
  | .start tag => tag.isInline
  | .stop tag => tag.isInline
  | .rule | .taskMarker _ => false

/-- Whether an event may stand in an image in which no other image stands. -/
def isCaption : Event → Bool
  | .start (.image ..) | .stop .image => false
  | event => event.isInline

/-- What an event adds to alternative text; the text of a code block is part of the block. -/
def alt (inCode : Bool) : Event → String
  | .text shown => if inCode then "" else shown
  | .code shown => shown
  | .math expression _ => expression
  | .softBreak => " "
  | _ => ""

def altText (inCode : Bool) : List Event → String
  | [] => ""
  | event :: events => event.alt inCode ++ altText inCode events

/-- What an event adds to the source of a code block. -/
def source : Event → String
  | .text shown => shown
  | _ => ""

def sourceText : List Event → String
  | [] => ""
  | event :: events => event.source ++ sourceText events

theorem sourceText_append (front back : List Event) :
    sourceText (front ++ back) = sourceText front ++ sourceText back := by
  induction front with
  | nil => simp [sourceText]
  | cons event front ih => simp [sourceText, ih, String.append_assoc]

theorem inline_of_isCaption {event : Event} (caption : event.isCaption = true) :
    event.isInline = true ∧ event ≠ .stop .image := by
  constructor
  · unfold isCaption at caption
    split at caption
    · cases caption
    · cases caption
    · exact caption
  · rintro rfl
    cases caption

variable {admits : Admission}

theorem nests_caption {content : List Event} (caption : ∀ event ∈ content, event.isCaption = true)
    {inner stack last : List Tag} {url title : String} (plain : inner.any Tag.isImage = false)
    (nested : nests admits (inner ++ .image url title :: stack) content = some last) :
    ∃ inner', inner'.any Tag.isImage = false ∧ last = inner' ++ .image url title :: stack := by
  induction content generalizing inner with
  | nil =>
    cases nested
    exact ⟨inner, plain, rfl⟩
  | cons event content ih =>
    obtain ⟨here, others⟩ := List.forall_mem_cons.mp caption
    rw [nests_cons, Option.bind_eq_some_iff] at nested
    obtain ⟨next, opened, nested⟩ := nested
    cases event with
    | start tag =>
      obtain ⟨-, rfl⟩ := stackAfter_start_iff.mp opened
      have plain' : (tag :: inner).any Tag.isImage = false := by
        cases tag with
        | image url title => cases here
        | _ => exact plain
      exact ih others plain' nested
    | stop closing =>
      obtain ⟨tag, rfl, innermost⟩ := stackAfter_stop_iff.mp opened
      cases inner with
      | nil =>
        obtain ⟨rfl, -⟩ := List.cons.inj innermost
        cases here
      | cons first inner =>
        obtain ⟨rfl, rfl⟩ := List.cons.inj innermost
        rw [List.any_cons, Bool.or_eq_false_iff] at plain
        exact ih others plain.2 nested
    | _ =>
      cases opened
      exact ih others plain nested

theorem nests_image {content : List Event} (caption : ∀ event ∈ content, event.isCaption = true)
    {stack last : List Tag} {url title : String}
    (nested : nests admits stack (.start (.image url title) :: content ++ [.stop .image]) =
      some last) : last = stack := by
  rw [List.cons_append, nests_cons, Option.bind_eq_some_iff] at nested
  obtain ⟨opened, starts, nested⟩ := nested
  rw [nests_append, Option.bind_eq_some_iff] at nested
  obtain ⟨filled, within, ends⟩ := nested
  obtain ⟨-, rfl⟩ := stackAfter_start_iff.mp starts
  have empty : ([] : List Tag).any Tag.isImage = false := rfl
  obtain ⟨inner, plain, rfl⟩ := nests_caption caption empty within
  rw [nests_cons] at ends
  cases inner with
  | nil => simpa [stackAfter, Tag.toEnd, eq_comm] using ends
  | cons tag inner =>
    cases tag with
    | image url title => cases plain
    | _ => simp [stackAfter, Tag.toEnd] at ends

end Event

namespace Compile

/-- An image that is being collected, after an event in it; another image takes its place. -/
def ImageCapture.after (inCode : Bool) (image : ImageCapture) : Event → ImageCapture
  | .start (.image url title) => ⟨url, title, ""⟩
  | event => { image with alt := image.alt ++ event.alt inCode }

@[simp] theorem ImageCapture.after_image (inCode : Bool) (image : ImageCapture) (url title : String) :
    image.after inCode (.start (.image url title)) = ⟨url, title, ""⟩ := rfl

def CodeCapture.add (block : CodeCapture) (source : String) : CodeCapture :=
  { block with source := block.source ++ source }

def State.collecting (s : State) (image : ImageCapture) (source : String) (depth : Nat) : State :=
  { s with image := some image, code := s.code.map (·.add source), depth }

theorem ImageCapture.foldl_caption (inCode : Bool) (image : ImageCapture) {events : List Event}
    (caption : ∀ event ∈ events, event.isCaption = true) :
    events.foldl (after inCode) image =
      { image with alt := image.alt ++ Event.altText inCode events } := by
  induction events generalizing image with
  | nil => simp [Event.altText]
  | cons event events ih =>
    obtain ⟨here, others⟩ := List.forall_mem_cons.mp caption
    have first : image.after inCode event = { image with alt := image.alt ++ event.alt inCode } := by
      cases event with
      | start tag =>
        cases tag with
        | image url title => cases here
        | _ => rfl
      | _ => rfl
    rw [List.foldl_cons, first, ih _ others, Event.altText, String.append_assoc]

end Compile

namespace Compiler

open Compile (Act CodeCapture ImageCapture Moment State)

variable {σ : Type} {c : Compiler σ} {s : State} {w : σ}

@[simp] private theorem map_add_empty (code : Option CodeCapture) :
    code.map (fun block => block.add "") = code := by
  cases code <;> simp [CodeCapture.add]

private theorem collecting_collecting (s : State) (image image' : ImageCapture)
    (source source' : String) (depth depth' : Nat) :
    (s.collecting image source depth).collecting image' source' depth' =
      s.collecting image' (source ++ source') depth' := by
  cases code : s.code <;> simp [State.collecting, code, CodeCapture.add, String.append_assoc]

private theorem isSome_code_collecting (s : State) (image : ImageCapture) (source : String)
    (depth : Nat) : (s.collecting image source depth).code.isSome = s.code.isSome :=
  Option.isSome_map

theorem next_in_image {m : Moment σ} {image : ImageCapture} (held : m.state.image = some image)
    (inline : m.event.isInline = true) (inner : m.event ≠ .stop .image) :
    m.question? = none ∧
      c.next m = (m.state.collecting (image.after m.state.code.isSome m.event) m.event.source
        m.state.depth, m.world) := by
  obtain ⟨event, ⟨output, spans, depth, code, _, heading, table, quotes, slugs⟩, w⟩ := m
  obtain rfl : _ = some image := held
  cases event with
  | start tag =>
    refine ⟨rfl, ?_⟩
    cases tag with
    | image url title | link url title =>
      simp [next, step, enter, State.writeInline, State.collecting, ImageCapture.after, Event.alt,
        Event.source]
    | emphasis | strong | strikethrough | superscript | subscript =>
      simp [next, step, enter, State.writeInline, State.collecting, ImageCapture.after, Event.alt,
        Event.source]
    | _ => cases inline
  | stop tag =>
    cases tag with
    | image => exact absurd rfl inner
    | emphasis | strong | strikethrough | superscript | subscript | link =>
      refine ⟨rfl, ?_⟩
      simp [next, step, leave, State.writeInline, State.collecting, ImageCapture.after, Event.alt,
        Event.source]
    | _ => cases inline
  | text text =>
    refine ⟨rfl, ?_⟩
    cases code <;>
      simp [next, step, Compiler.text, State.noteAlt, State.collecting, ImageCapture.after,
        Event.alt, Event.source, CodeCapture.add]
  | rule | taskMarker checked => cases inline
  | _ =>
    refine ⟨rfl, ?_⟩
    simp [next, step, codeSpan, math, State.noteAlt, State.writeInline, State.collecting,
      ImageCapture.after, Event.alt, Event.source]

/-- The state that an image is collected in, if the events in it nest as deep as they may. -/
theorem run_in_image (c : Compiler σ) {events : List Event} {s : State} {image : ImageCapture}
    (held : s.image = some image)
    (inline : ∀ event ∈ events, event.isInline = true ∧ event ≠ .stop .image) (w : σ) :
    (∀ m ∈ c.moments events s w, m.question? = none) ∧ (c.run events s w).2.2 = w ∧
      (∃ image source depth, (c.run events s w).2.1 = s.collecting image source depth) ∧
      ((c.run events s w).1 = none →
        (c.run events s w).2.1 = s.collecting (events.foldl (ImageCapture.after s.code.isSome) image)
          (Event.sourceText events) (events.foldl depthAfter s.depth)) := by
  induction events generalizing s image with
  | nil =>
    have same : s.collecting image "" s.depth = s := by
      obtain ⟨output, spans, depth, code, _, heading, table, quotes, slugs⟩ := s
      obtain rfl : _ = some image := held
      simp [State.collecting]
    exact ⟨by simp [moments], rfl, ⟨image, "", s.depth, same.symm⟩, fun _ => same.symm⟩
  | cons event events ih =>
    obtain ⟨here, others⟩ := List.forall_mem_cons.mp inline
    have deeper : (moment event s w).state = s.collecting image "" (depthAfter s.depth event) := by
      obtain ⟨output, spans, depth, code, _, heading, table, quotes, slugs⟩ := s
      obtain rfl : _ = some image := held
      simp [moment, State.collecting]
    obtain ⟨unasked, collected⟩ := next_in_image (c := c) (m := moment event s w) held here.1 here.2
    rw [deeper, isSome_code_collecting, collecting_collecting, String.empty_append] at collected
    rw [moments, run_cons]
    split
    · exact ⟨by simp, rfl, ⟨image, "", _, deeper⟩, by simp⟩
    · rw [collected]
      obtain ⟨silent, kept, inside, whole⟩ := ih (s := s.collecting _ _ _) rfl others
      simp only [collecting_collecting, isSome_code_collecting] at inside whole
      refine ⟨?_, kept, ?_, whole⟩
      · simp only [List.mem_cons]
        rintro m (rfl | member)
        · exact unasked
        · rw [collected] at member
          exact silent m member
      · obtain ⟨image, source, depth, left⟩ := inside
        exact ⟨image, _, depth, left⟩

/-- While elements nest, an image is collected only where one is open. -/
theorem image_run (c : Compiler σ) {admits : Event.Admission} {events : List Event}
    {stack last : List Tag} (nested : Event.nests admits stack events = some last) {s : State} {w : σ}
    (follows : s.image.isSome = true → stack.any Tag.isImage = true)
    (compiled : (c.run events s w).1 = none) :
    (c.run events s w).2.1.image.isSome = true → last.any Tag.isImage = true :=
  c.isHeld_run .image nested follows compiled

private theorem run_stop_image (c : Compiler σ) (s : State) (image : ImageCapture) (source : String)
    (depth : Nat) (w : σ) :
    c.run [.stop .image] (s.collecting image source depth) w =
      (none, State.writeInline { s with
        image := none
        code := s.code.map (·.add source)
        depth := depth - 1 } (Html.image image.url image.alt image.title), w) := by
  simp [run, tooDeep, step, leave, State.collecting, depthAfter]

/--
The end of an image writes the innermost image that has not been ended, with what stands in it.
Nothing else is written between its start and its end, and nothing is asked.
-/
theorem run_image (c : Compiler σ) {content : List Event}
    (inline : ∀ event ∈ content, event.isInline = true ∧ event ≠ .stop .image) (url title : String)
    (s : State) (w : σ) :
    let events := .start (.image url title) :: content ++ [.stop .image]
    let last := content.foldl (ImageCapture.after s.code.isSome) ⟨url, title, ""⟩
    (∀ m ∈ c.moments events s w, m.question? = none) ∧ (c.run events s w).2.2 = w ∧
      ((c.run events s w).1 = none → (c.run events s w).2.1 =
        State.writeInline { s with
          image := none
          code := s.code.map (·.add (Event.sourceText content))
          depth := events.foldl depthAfter s.depth } (Html.image last.url last.alt last.title)) ∧
      ((c.run events s w).1 ≠ none → (c.run events s w).2.1.output = s.output ∧
        (c.run events s w).2.1.heading = s.heading ∧ (c.run events s w).2.1.spans = s.spans) := by
  intro events last
  have opened : c.next (moment (.start (.image url title)) s w) =
      (s.collecting ⟨url, title, ""⟩ "" (s.depth + 1), w) := by
    simp [next, moment, step, enter, State.collecting, depthAfter]
  obtain ⟨silent, kept, inside, whole⟩ := c.run_in_image
    (s := s.collecting ⟨url, title, ""⟩ "" (s.depth + 1)) rfl inline w
  simp only [collecting_collecting, isSome_code_collecting, String.empty_append] at inside whole
  simp only [events, List.cons_append, moments, run_cons, opened]
  split
  · exact ⟨by simp, rfl, by simp, fun _ => ⟨rfl, rfl, rfl⟩⟩
  · rw [moments_append, run_append]
    -- The content alone may nest too deep; then the image is not reached by its end.
    by_cases collected : (c.run content (s.collecting ⟨url, title, ""⟩ "" (s.depth + 1)) w).1 = none
    · have depth : content.foldl depthAfter (s.depth + 1) - 1 = events.foldl depthAfter s.depth := by
        simp [events, depthAfter]
      have reached : (c.run content (s.collecting ⟨url, title, ""⟩ "" (s.depth + 1)) w).2.1 =
          s.collecting last (Event.sourceText content) (content.foldl depthAfter (s.depth + 1)) :=
        whole collected
      rw [if_pos collected, if_pos collected, kept, reached, run_stop_image, depth]
      refine ⟨?_, rfl, fun _ => rfl, by simp⟩
      simp only [List.mem_cons, List.mem_append]
      rintro m (rfl | member | member)
      · rfl
      · exact silent m member
      · obtain rfl : m = moment (.stop .image) _ w := by simpa [moments, tooDeep] using member
        rfl
    · obtain ⟨image, source, depth, left⟩ := inside
      rw [if_neg collected, if_neg collected, List.append_nil]
      refine ⟨?_, kept, fun compiled => absurd compiled collected, fun _ => ?_⟩
      · simp only [List.mem_cons]
        rintro m (rfl | member)
        · rfl
        · exact silent m member
      · rw [left]
        exact ⟨rfl, rfl, rfl⟩

/--
An image without another image in it is written once, with its own address and title and with all
text in it as its alternative text, where a soft break counts as a space and a hard break as nothing.
Nothing else in it is written and nothing is asked. An image with others in it is not written: the
first of those to end is written, what stands before its start is lost, and what stands behind its
end is compiled as if no image were open.
-/
theorem image_written (c : Compiler σ) {admits : Event.Admission} {front content back : List Event}
    {url title : String}
    (nested : Event.WellNested admits
      (front ++ .start (.image url title) :: content ++ .stop .image :: back))
    (outermost : ∀ stack, Event.nests admits [] front = some stack →
      stack.any Tag.isImage = false)
    (w : σ) {s : State} {w' : σ} (reached : c.run front .initial w = (none, s, w')) :
    let events := .start (.image url title) :: content ++ [.stop .image]
    ((∀ event ∈ content, event.isCaption = true) →
      (∀ m ∈ c.moments events s w', m.question? = none) ∧ (c.run events s w').2.2 = w' ∧
        ((c.run events s w').1 = none → (c.run events s w').2.1 =
          State.writeInline { s with code := s.code.map (·.add (Event.sourceText content)) }
            (Html.image url (Event.altText s.code.isSome content) title)) ∧
        ((c.run events s w').1 ≠ none → (c.run events s w').2.1.output = s.output ∧
          (c.run events s w').2.1.heading = s.heading ∧ (c.run events s w').2.1.spans = s.spans)) ∧
    ∀ lost url' title' inner rest,
      content = lost ++ .start (.image url' title') :: inner ++ .stop .image :: rest →
      (∀ event ∈ lost, event.isInline = true ∧ event ≠ .stop .image) →
      (∀ event ∈ inner, event.isCaption = true) → (c.run events s w').1 = none →
        ∃ depth, c.run events s w' = c.run (rest ++ [.stop .image])
          (State.writeInline { s with
              code := s.code.map (·.add (Event.sourceText (lost ++ inner)))
              depth }
            (Html.image url' (Event.altText s.code.isSome inner) title')) w' := by
  intro events
  rw [Event.WellNested, List.append_assoc, Event.nests_append, Option.bind_eq_some_iff] at nested
  obtain ⟨stack, before, nested⟩ := nested
  have outside : s.image = none := by
    have follows := c.image_run (s := .initial) (w := w) before (by simp [State.initial])
      (by rw [reached])
    rw [reached, outermost stack before] at follows
    simpa using follows
  refine ⟨fun caption => ?_, ?_⟩
  · have around : Event.nests admits stack events = some stack := by
      have split : Event.start (.image url title) :: content ++ .stop .image :: back =
          events ++ back := by simp [events]
      rw [split, Event.nests_append, Option.bind_eq_some_iff] at nested
      obtain ⟨after, within, _⟩ := nested
      rw [within, Event.nests_image caption within]
    have counted : s.depth = front.foldl depthAfter 0 := by
      have counted := c.depth_run (congrArg Prod.fst reached)
      rwa [reached] at counted
    -- The depth is never less than the height of the stack, so that leaving the image brings it back.
    have same : events.foldl depthAfter s.depth = s.depth := by
      have deep := foldl_depthAfter before (Nat.le_refl 0)
      have back : stack.length ≤ s.depth → _ := foldl_depthAfter around
      simp only [List.length_nil] at deep
      omega
    obtain ⟨silent, kept, written, failed⟩ := c.run_image
      (fun event member => Event.inline_of_isCaption (caption event member)) url title s w'
    refine ⟨silent, kept, fun compiled => ?_, failed⟩
    rw [written compiled, same, ImageCapture.foldl_caption _ _ caption, String.empty_append, outside]
  · rintro lost url' title' inner rest rfl unended innerCaption compiled
    -- The first end that is met ends what is being collected, so that the run is cut behind it.
    let first : List Event := .start (.image url title) ::
      (lost ++ .start (.image url' title') :: inner) ++ [.stop .image]
    have split : events = first ++ (rest ++ [.stop .image]) := by simp [events, first]
    have inline : ∀ event ∈ lost ++ .start (.image url' title') :: inner,
        event.isInline = true ∧ event ≠ .stop .image := by
      simp only [List.mem_append, List.mem_cons]
      rintro event (member | rfl | member)
      · exact unended event member
      · exact ⟨rfl, by simp⟩
      · exact Event.inline_of_isCaption (innerCaption event member)
    obtain ⟨-, kept, written, -⟩ := c.run_image inline url title s w'
    rw [split, run_append] at compiled ⊢
    by_cases reaches : (c.run first s w').1 = none
    · refine ⟨first.foldl depthAfter s.depth, ?_⟩
      have last : (lost ++ .start (.image url' title') :: inner).foldl
          (ImageCapture.after s.code.isSome) ⟨url, title, ""⟩ =
            ⟨url', title', Event.altText s.code.isSome inner⟩ := by
        rw [List.foldl_append, List.foldl_cons, ImageCapture.after_image,
          ImageCapture.foldl_caption _ _ innerCaption, String.empty_append]
      have read : Event.sourceText (lost ++ .start (.image url' title') :: inner) =
          Event.sourceText (lost ++ inner) := by
        simp [Event.sourceText_append, Event.sourceText, Event.source]
      rw [if_pos reaches, kept, written reaches, last, read, outside]
    · rw [if_neg reaches] at compiled
      exact absurd compiled reaches

/-- An image with captions in it, and one with another image in it. -/
theorem image_written_paragraph :
    let c : Compiler Unit := {}
    let s : State := { output := "<p>", depth := 1 }
    (c.run [.start (.image "u" "t"), .text "a", .softBreak, .start .emphasis, .code "<",
        .stop .emphasis, .stop .image] s ()).2.1.output =
          "<p><img src=\"u\" title=\"t\" alt=\"a &lt;\">" ∧
      ∃ depth, c.run [.start (.image "u" ""), .text "a", .start (.image "v" ""), .text "b",
          .stop .image, .text "c", .stop .image] s () =
        c.run [.text "c", .stop .image]
          { s with output := "<p><img src=\"v\" alt=\"b\">", depth } () := by
  intro c s
  have outermost (stack : List Tag)
      (opened : Event.nests Event.noHeadingInHeading [] [.start .paragraph] = some stack) :
      stack.any Tag.isImage = false := by
    cases opened
    rfl
  constructor
  · have nested : Event.WellNested Event.noHeadingInHeading ([.start .paragraph] ++
        .start (.image "u" "t") :: [.text "a", .softBreak, .start .emphasis, .code "<",
          .stop .emphasis] ++ .stop .image :: [.stop .paragraph]) := by
      unfold Event.WellNested
      decide
    have written := ((c.image_written nested outermost () rfl).1 (by decide)).2.2.1 rfl
    exact (congrArg State.output written).trans (by decide)
  · have nested : Event.WellNested Event.noHeadingInHeading ([.start .paragraph] ++
        .start (.image "u" "") :: [.text "a", .start (.image "v" ""), .text "b", .stop .image,
          .text "c"] ++ .stop .image :: [.stop .paragraph]) := by
      unfold Event.WellNested
      decide
    exact (c.image_written nested outermost () rfl).2 [.text "a"] "v" "" [.text "b"] [.text "c"] rfl
      (by decide) (by decide) rfl

/-- A hard break counts as nothing, and an image around another is not written. -/
theorem image_written_hardBreak :
    (({} : Compiler Unit).compile (Markdown.events ⟨true, true⟩ "![a\\\nb](u)") .initial ()).1 =
        .ok ⟨"<p><img src=\"u\" alt=\"ab\"></p>", []⟩ ∧
      (({} : Compiler Unit).compile (Markdown.events ⟨true, true⟩ "![a ![b](v) c](u)") .initial ()).1 =
        .ok ⟨"<p><img src=\"v\" alt=\"b\"> c</p>", []⟩ := by
  have broken : Markdown.events ⟨true, true⟩ "![a\\\nb](u)" =
      [.start .paragraph, .start (.image "u" ""), .text "a", .hardBreak, .text "b", .stop .image,
        .stop .paragraph] := by
    decide +kernel
  have around : Markdown.events ⟨true, true⟩ "![a ![b](v) c](u)" =
      [.start .paragraph, .start (.image "u" ""), .text "a ", .start (.image "v" ""), .text "b",
        .stop .image, .text " c", .stop .image, .stop .paragraph] := by
    decide +kernel
  rw [broken, around]
  exact ⟨rfl, rfl⟩

end Compiler

end Mathdown
