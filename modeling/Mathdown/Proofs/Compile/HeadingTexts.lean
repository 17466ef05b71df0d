import Mathdown.Proofs.Compile.Images
import Mathdown.Proofs.Compile.Succession

namespace Mathdown

namespace Event

def isBreak : Event → Bool
  | .softBreak | .hardBreak => true
  | _ => false

/-- What an event says, where a break says something given. -/
def said (pause : String) : Event → String
  | .text shown | .code shown | .math shown _ => shown
  | .softBreak | .hardBreak => pause
  | _ => ""

/-- What some events say. -/
def saidText (pause : String) : List Event → String
  | [] => ""
  | event :: events => event.said pause ++ saidText pause events

theorem saidText_of_unbroken {events : List Event} (unbroken : ∀ event ∈ events, event.isBreak = false)
    (pause pause' : String) : saidText pause events = saidText pause' events := by
  induction events with
  | nil => rfl
  | cons event events ih =>
    obtain ⟨here, others⟩ := List.forall_mem_cons.mp unbroken
    rw [saidText, saidText, ih others]
    cases event with
    | softBreak | hardBreak => cases here
    | _ => rfl

/-- Breaks that say only blanks add no letters and no digits to what is said. -/
theorem filter_saidText {pause : String} (blank : Text.allBlank pause = true) (events : List Event) :
    (saidText pause events).toList.filter Char.isAlphanum =
      (saidText "" events).toList.filter Char.isAlphanum := by
  have silent := Text.filter_isAlphanum_of_blank blank
  induction events with
  | nil => rfl
  | cons event events ih =>
    rw [saidText, saidText, String.toList_append, String.toList_append, List.filter_append,
      List.filter_append, ih]
    cases event with
    | softBreak | hardBreak => exact congrArg (· ++ _) silent
    | _ => rfl

end Event

namespace Compile

/-- Whether a heading is being collected, with some text for its id, and nothing else is. -/
structure State.Heads (s : State) (level : Nat) (text : String) : Prop where
  code : s.code = none
  image : s.image = none
  heading : ∃ html spans, s.heading = some ⟨level, text, html, spans⟩

namespace State.Heads

variable {s : State} {level : Nat} {text : String}

theorem writeInline (heads : s.Heads level text) (html : String) :
    (s.writeInline html).Heads level text := by
  obtain ⟨code, image, _, spans, heading⟩ := heads
  simp only [State.writeInline, image, heading, Option.isSome_none, Bool.false_eq_true, if_false]
  exact ⟨code, rfl, _, spans, rfl⟩

theorem writeToken (heads : s.Heads level text) (id : PlaceholderId) :
    (s.writeToken id).Heads level text := by
  obtain ⟨code, image, _, _, heading⟩ := heads
  simp only [State.writeToken, heading]
  exact ⟨code, image, _, _, rfl⟩

theorem noteText (heads : s.Heads level text) (more : String) :
    (s.noteText more).Heads level (text ++ more) := by
  obtain ⟨code, image, html, spans, heading⟩ := heads
  simp only [State.noteText, heading]
  exact ⟨code, image, html, spans, rfl⟩

end State.Heads

end Compile

namespace Compiler

open Compile (Capture Moment State)

variable {σ : Type} {s : State} {level : Nat} {text : String}

/-- An event of a line adds what it says to the text of its heading, where a break says nothing. -/
theorem heads_next (c : Compiler σ) {m : Moment σ} (heads : m.state.Heads level text)
    (caption : m.event.isCaption = true) :
    (c.next m).1.Heads level (text ++ m.event.said "") := by
  obtain ⟨event, s, w⟩ := m
  change s.Heads level text at heads
  have outside : ¬ s.image.isSome = true := by rw [heads.image]; exact Bool.false_ne_true
  have silent : s.Heads level (text ++ "") := by rwa [String.append_empty]
  cases event with
  | start tag =>
    cases tag with
    | emphasis | strong | strikethrough | superscript | subscript | link url title =>
      exact silent.writeInline _
    | _ => cases caption
  | stop closing =>
    cases closing with
    | emphasis | strong | strikethrough | superscript | subscript | link =>
      exact silent.writeInline _
    | _ => cases caption
  | text shown =>
    rw [next, step, Compiler.text, heads.code]
    simp only [if_neg outside]
    exact (heads.noteText shown).writeInline _
  | code shown =>
    rw [next, step, codeSpan, if_neg outside]
    exact (heads.noteText shown).writeInline _
  | math shown display =>
    have noted := heads.noteText shown
    rw [next, step, Compiler.math, if_neg outside]
    dsimp only
    split
    · exact noted.writeToken _
    · exact noted.writeInline _
    · exact noted.writeInline _
  | softBreak =>
    rw [next, step, if_neg outside]
    exact silent.writeInline _
  | html html | inlineHtml html => exact silent.writeInline _
  | footnoteReference label => exact silent
  | hardBreak => exact silent.writeInline _
  | rule | taskMarker checked => cases caption

theorem heads_run (c : Compiler σ) {events : List Event} {w : σ} (heads : s.Heads level text)
    (caption : ∀ event ∈ events, event.isCaption = true) (compiled : (c.run events s w).1 = none) :
    (c.run events s w).2.1.Heads level (text ++ Event.saidText "" events) := by
  induction events generalizing s text w with
  | nil => rwa [Event.saidText, String.append_empty]
  | cons event events ih =>
    obtain ⟨here, others⟩ := List.forall_mem_cons.mp caption
    have goesOn := run_cons_of_eq_none compiled
    rw [goesOn] at compiled ⊢
    have met : (moment event s w).state.Heads level text := ⟨heads.code, heads.image, heads.heading⟩
    rw [Event.saidText, ← String.append_assoc]
    exact ih (c.heads_next met here) others compiled

/-- The text of a heading in a document that is being compiled is what its content says. -/
theorem heads_begun (c : Compiler σ) (idle : s.Idle) {admits : Event.Admission}
    {front content : List Event} {stack : List Tag}
    (nested : Event.nests admits [] front = some stack) (uncoded : stack.any Tag.isCodeBlock = false)
    (free : stack.any Tag.isImage = false) (caption : ∀ event ∈ content, event.isCaption = true) {w : σ}
    (compiled : (c.run (front ++ .start (.heading level) :: content) s w).1 = none) :
    (c.run (front ++ .start (.heading level) :: content) s w).2.1.Heads level
      (Event.saidText "" content) := by
  rw [run_append] at compiled ⊢
  by_cases reaches : (c.run front s w).1 = none
  · rw [if_pos reaches] at compiled ⊢
    have closed (capture : Capture) (outside : stack.any capture.opens = false) :
        capture.isHeld (c.run front s w).2.1 = false := by
      have held := c.isHeld_run capture nested
        (fun held => absurd held (by rw [idle.isHeld_eq_false]; exact Bool.false_ne_true)) reaches
      exact Bool.eq_false_iff.mpr fun held' => absurd (held held') (by rw [outside]; exact Bool.false_ne_true)
    have code : (c.run front s w).2.1.code = none := by
      simpa [Capture.isHeld] using closed .code uncoded
    have image : (c.run front s w).2.1.image = none := by
      simpa [Capture.isHeld] using closed .image free
    have goesOn := run_cons_of_eq_none compiled
    rw [goesOn] at compiled ⊢
    rw [← String.empty_append (s := Event.saidText "" content)]
    exact c.heads_run ⟨code, image, "", [], rfl⟩ caption compiled
  · rw [if_neg reaches] at compiled
    exact absurd compiled reaches

/--
The id of a heading that stands in no code block and no image is the slug of what its content says, with
the number of headings of that slug before it, where a break says nothing. Without breaks in it, that is
the slug in which they say a blank, and otherwise only dashes of that slug can be missing.
-/
theorem headingId_line (c : Compiler σ) (idle : s.Idle) {slugs : List String} (counts : s.Counts slugs)
    {admits : Event.Admission} {front content : List Event} {stack : List Tag}
    (nested : Event.nests admits [] front = some stack) (uncoded : stack.any Tag.isCodeBlock = false)
    (free : stack.any Tag.isImage = false) (caption : ∀ event ∈ content, event.isCaption = true) {w : σ}
    (compiled : (c.run (front ++ .start (.heading level) :: content) s w).1 = none)
    (back : List Event) :
    let begun := front ++ .start (.heading level) :: content
    let reached := c.run begun s w
    let m := moment (.stop (.heading level)) reached.2.1 reached.2.2
    let slug := Text.slugify (Event.saidText "" content)
    let id := Text.numbered slug ((slugsAt (c.moments begun s w) ++ slugs).count slug)
    (c.moments (begun ++ .stop (.heading level) :: back) s w)[(c.moments begun s w).length]? = some m ∧
      m.headingId? = some id ∧
      (∃ html, (c.next m).1.output =
        m.state.output ++ Html.headingStart level id ++ (html ++ Html.headingStop level)) ∧
      ((∀ event ∈ content, event.isBreak = false) →
        slug = Text.slugify (Event.saidText " " content)) ∧
      slug.toList.filter Char.isAlphanum =
        (Text.slugify (Event.saidText " " content)).toList.filter Char.isAlphanum := by
  intro begun reached m slug id
  have heads := c.heads_begun idle nested uncoded free caption compiled
  obtain ⟨html, spans, heading⟩ := heads.heading
  have finished : m.heading? = some ⟨level, Event.saidText "" content, html, spans⟩ := heading
  obtain ⟨-, left⟩ := c.headingIds_moments begun counts w
  have counted : m.state.Counts (slugsAt (c.moments begun s w) ++ slugs) :=
    State.Counts.perm left ((List.reverse_perm _).append_right slugs)
  have named : m.headingId? = some id := by
    rw [headingId?_eq counted, finished]
    rfl
  refine ⟨?_, named, ⟨Text.trim html, ?_⟩, fun unbroken => ?_, ?_⟩
  · rw [moments_append, if_pos compiled, List.getElem?_append_right (Nat.le_refl _), Nat.sub_self]
    rfl
  · have own : (m.state.headingId (Event.saidText "" content)).1 = id := by
      simpa [Moment.headingId?, finished] using named
    rw [output_next finished]
    simp only [own]
  · exact congrArg Text.slugify (Event.saidText_of_unbroken unbroken "" " ")
  · rw [Text.filter_slugify, Text.filter_slugify, Event.filter_saidText (by decide : Text.allBlank " " = true)]

/-- The third heading of a slug that lacks a dash, where a line ends in a soft break. -/
theorem headingId_line_third :
    let c : Compiler Nat := ⟨{}, { math := some fun n _ _ => (.deferred ⟨.math, n⟩, n + 1) }⟩
    let front : List Event := [.start (.heading 1), .text "a bc d", .stop (.heading 1),
      .start (.blockQuote none)]
    let content : List Event := [.text "a ", .start .strong, .math "b" false, .stop .strong, .softBreak,
      .code "C", .hardBreak, .text " d"]
    let reached := c.run (front ++ .start (.heading 2) :: content) (.counting ["a-bc-d"]) 0
    (moment (.stop (.heading 2)) reached.2.1 reached.2.2).headingId? = some "a-bc-d-2" ∧
      Text.slugify (Event.saidText " " content) = "a-b-c-d" := by
  intro c front content reached
  have compiled : reached.1 = none := by rfl
  have nested : Event.nests Event.freely [] front = some [.blockQuote none] := rfl
  have idle : (State.counting ["a-bc-d"]).Idle := rfl
  obtain ⟨-, named, -⟩ :=
    c.headingId_line idle (State.counts_counting _) nested rfl rfl (by decide) compiled []
  exact ⟨named.trans (by decide +kernel), by decide +kernel⟩

/-- Words that only a break parts become one word of the slug. -/
theorem headingId_line_setext :
    ({} : Compiler Unit).headingIds [Markdown.events ⟨true, true⟩ "a\nb\n==="] () = ["ab"] ∧
      Text.slugify (Event.saidText " " [.text "a", .softBreak, .text "b"]) = "a-b" ∧
      ({} : Compiler Unit).headingIds [Markdown.events ⟨true, true⟩ "a\\\nb\n==="] () = ["ab"] ∧
      Text.slugify (Event.saidText " " [.text "a", .hardBreak, .text "b"]) = "a-b" := by
  have soft : Markdown.events ⟨true, true⟩ "a\nb\n===" =
      [.start (.heading 1), .text "a", .softBreak, .text "b", .stop (.heading 1)] := by
    decide +kernel
  have hard : Markdown.events ⟨true, true⟩ "a\\\nb\n===" =
      [.start (.heading 1), .text "a", .hardBreak, .text "b", .stop (.heading 1)] := by
    decide +kernel
  rw [soft, hard, headingIds_eq, headingIds_eq]
  exact ⟨by decide +kernel, by decide +kernel, by decide +kernel, by decide +kernel⟩

end Compiler

end Mathdown
