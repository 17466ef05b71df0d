import Mathlib
import Mathdown.Compile.Moment
import Mathdown.Proofs.Compile.Inlining

/-!
Spans that are put off, and spans that are there at once. Two compilers run side by side over the same
events: one of them puts off what it likes, the other has every result at once. Everywhere but in
headings they write the same, once the results are spliced in. A heading is trimmed before its results
are there, and so it keeps blanks that a result brings to either end of it.
-/

namespace Mathdown

namespace Compile

/-- Whether a heading's content, once results are spliced into it, has no blanks at either end. -/
def HeadingCapture.StaysTrimmed (r : Replacements) (heading : HeadingCapture) : Prop :=
  ∃ content, r.splice? (Text.trim heading.html) (heading.spansAt 0) = some content ∧
    Text.trim content = content

theorem HeadingCapture.staysTrimmed_iff {heading : HeadingCapture} {t : Template}
    (html : heading.html = t.text) (spans : heading.spans = t.spans) (r : Replacements) :
    heading.StaysTrimmed r ↔ Text.trim (t.trim.fill r.content) = t.trim.fill r.content := by
  rw [StaysTrimmed, spansAt_eq html spans, html, ← Template.text_trim]
  have spliced := r.splice?_template t.trim
  rw [Template.spans] at spliced
  simp [spliced]

namespace Draft

/--
A draft, and another one of the same run that has every result at once: its output is not longer once
the holes are filled, and it is the same just if something holds.
-/
structure Trails (content : PlaceholderId → String) (whole : Prop) (d d' : Draft) : Prop where
  heading : d'.heading = d.heading
  length : (d'.output.fill content).length ≤ (d.output.fill content).length
  same : d.output.fill content = d'.output.fill content ↔ whole

variable {content : PlaceholderId → String} {whole : Prop} {d d' : Draft}

theorem Trails.refl (content : PlaceholderId → String) (d : Draft) : Trails content True d d :=
  ⟨rfl, Nat.le_refl _, by simp⟩

theorem Trails.congr {whole' : Prop} (trails : Trails content whole d d')
    (alike : whole ↔ whole') : Trails content whole' d d' :=
  ⟨trails.heading, trails.length, trails.same.trans alike⟩

/-- Where nothing added is longer than its other form, the two are the same only if all parts are. -/
theorem Trails.append (trails : Trails content whole d d') {long short : Template} {fits : Prop}
    (length : (short.fill content).length ≤ (long.fill content).length)
    (same : long.fill content = short.fill content ↔ fits) (heading : Template) :
    Trails content (whole ∧ fits) ⟨d.output ++ long, heading⟩ ⟨d'.output ++ short, heading⟩ := by
  refine ⟨rfl, ?_, ?_⟩
  · simp only [Template.fill_append, String.length_append]
    exact Nat.add_le_add trails.length length
  · rw [← trails.same, ← same]
    simp only [Template.fill_append]
    constructor
    · intro alike
      have lengths := congrArg String.length alike
      simp only [String.length_append] at lengths
      have before := trails.length
      have parts := List.append_inj (by simpa using congrArg String.toList alike)
        (by simp only [String.length_toList]; omega)
      exact ⟨String.toList_inj.mp parts.1, String.toList_inj.mp parts.2⟩
    · rintro ⟨front, back⟩
      rw [front, back]

/-- What an act adds to a draft does not depend on what is in it, but at the end of a heading. -/
theorem exists_after (s : State) {act : Act} (other : act ≠ .endHeading) :
    ∃ (written : Template) (heading : Template → Template),
      ∀ d : Draft, d.after s act = ⟨d.output ++ written, heading d.heading⟩ := by
  have unchanged : ∃ (written : Template) (heading : Template → Template),
      ∀ d : Draft, d = ⟨d.output ++ written, heading d.heading⟩ := ⟨[], id, by simp⟩
  have written (piece : Piece) : ∃ (written : Template) (heading : Template → Template),
      ∀ d : Draft, { d with output := d.output ++ [piece] } =
        ⟨d.output ++ written, heading d.heading⟩ := ⟨[piece], id, by simp⟩
  have held (piece : Piece) : ∃ (written : Template) (heading : Template → Template),
      ∀ d : Draft, { d with heading := d.heading ++ [piece] } =
        ⟨d.output ++ written, heading d.heading⟩ := ⟨[], (· ++ [piece]), by simp⟩
  cases act with
  | write html => exact written (.html html)
  | inline html =>
    simp only [after]
    split
    · exact unchanged
    · split
      · exact held (.html html)
      · exact written (.html html)
  | token id =>
    simp only [after]
    split
    · exact held (.hole id)
    · exact written (.hole id)
  | beginHeading level => exact ⟨[], fun _ => [], by simp [after]⟩
  | endHeading => exact absurd rfl other
  | _ => exact unchanged

theorem Trails.afterAll (trails : Trails content whole d d') {acts : List Act}
    (other : .endHeading ∉ acts) (s : State) :
    Trails content whole (d.afterAll acts s) (d'.afterAll acts s) := by
  induction acts generalizing s d d' with
  | nil => exact trails
  | cons act rest ih =>
    simp only [List.mem_cons, not_or] at other
    obtain ⟨written, heading, after⟩ := exists_after s (Ne.symm other.1)
    have next := trails.append (Nat.le_refl (Template.fill content written).length)
      (iff_true_intro rfl) (heading d.heading)
    rw [Draft.afterAll, Draft.afterAll, after d, after d', trails.heading]
    exact ih (next.congr (iff_of_eq (and_true whole))) other.2 (act.perform s)

end Draft

def HeadingCapture.around (heading : HeadingCapture) (id : String) (inner : Template) : Template :=
  .html (Html.headingStart heading.level id) :: inner ++ [.html (Html.headingStop heading.level)]

theorem HeadingCapture.fill_around (heading : HeadingCapture) (id : String) (inner : Template)
    (content : PlaceholderId → String) :
    (heading.around id inner).fill content =
      Html.headingStart heading.level id ++ inner.fill content ++ Html.headingStop heading.level := by
  simp [around, Template.fill, String.append_assoc]

/-- A heading that has every result at once is trimmed with the results in it. -/
theorem State.finishHeading_inlined {content : PlaceholderId → String} {s : State} {d : Draft}
    {heading : HeadingCapture} (opened : s.heading = some heading) :
    (s.inlined content d).finishHeading = s.finishHeading.inlined content
      ⟨d.output ++ heading.around (s.headingId heading.text).1
        [.html (Text.trim (d.heading.fill content))], []⟩ := by
  simp [finishHeading, inlined, opened, headingId, write, Template.fill, String.append_assoc,
    HeadingCapture.spansAt, HeadingCapture.fill_around]

/-- The end of a heading keeps two drafts the same only if the heading stays trimmed. -/
theorem Draft.Trails.finishHeading {r : Replacements} {s : State} {d d' : Draft} {whole : Prop}
    (shown : s.Shows d) (trails : Draft.Trails r.content whole d d') {heading : HeadingCapture}
    (opened : s.heading = some heading) :
    ∃ e', Draft.Trails r.content (whole ∧ heading.StaysTrimmed r) (d.after s .endHeading) e' ∧
      (s.inlined r.content d').finishHeading = s.finishHeading.inlined r.content e' := by
  refine ⟨_, ?_, State.finishHeading_inlined opened⟩
  obtain ⟨html, spans⟩ := shown.inside heading opened
  have after : d.after s .endHeading =
      ⟨d.output ++ heading.around (s.headingId heading.text).1 d.heading.trim, []⟩ := by
    simp [Draft.after, opened, HeadingCapture.around]
  have trimmed := d.heading.trim_fill_trim r.content
  have shorter := Text.length_trim_le (d.heading.trim.fill r.content)
  rw [after, trails.heading, ← trimmed]
  refine trails.append ?_ ?_ []
  · simp only [HeadingCapture.fill_around, String.length_append, Template.fill, String.length_empty]
    omega
  · rw [HeadingCapture.staysTrimmed_iff html spans, HeadingCapture.fill_around,
      HeadingCapture.fill_around]
    simp [Template.fill, eq_comm]

end Compile

namespace Compiler

open Compile (Act Draft HeadingCapture Moment Question State)

variable {σ τ : Type} {c : Compiler σ} {c' : Compiler τ} {r : Replacements}

/-- An event keeps two compilers side by side; a heading that it finishes has to stay trimmed. -/
theorem next_trails (same : c'.options = c.options) {m : Moment σ} {d d' : Draft} {whole : Prop}
    {stack later : List Tag} {v : τ} (shown : m.state.Shows d)
    (follows : m.state.Follows Event.plainHeadings stack)
    (trails : Draft.Trails r.content whole d d')
    (opened : Event.stackAfter Event.plainHeadings stack m.event = some later)
    (alike : ∀ question, m.question? = some question → ∃ html,
      (c'.answer v question).1 = .inline html ∧
        (c.answer m.world question).1.ComesTo r.content html) :
    ∃ e e', (c.next m).1.Shows e ∧
      Draft.Trails r.content
        (whole ∧ ∀ heading, m.heading? = some heading → heading.StaysTrimmed r) e e' ∧
      (c'.next ⟨m.event, m.state.inlined r.content d', v⟩).1 =
        (c.next m).1.inlined r.content e' := by
  obtain ⟨event, s, w⟩ := m
  change s.Shows d at shown
  change s.Follows _ _ at follows
  change ∀ question, Question.ofEvent s event = some question → _ at alike
  simp only [Compiler.next, step_eq, Question.ofEvent_inlined, Act.ofEvent_inlined, same]
  -- Only the end of a heading trims, with tokens on one side and results on the other.
  by_cases ends : ∃ level, event = .stop (.heading level)
  · obtain ⟨level, rfl⟩ := ends
    cases opened : s.heading with
    | none =>
      refine ⟨_, d', shown.performAll _, ?_, ?_⟩
      · simpa [Act.ofEvent, Act.leaving, Draft.afterAll, Draft.after, opened, Moment.heading?]
          using trails
      · simp [Act.ofEvent, Act.leaving, Act.perform, State.finishHeading, State.inlined, opened]
    | some heading =>
      obtain ⟨e', trails, finished⟩ := trails.finishHeading shown opened
      refine ⟨_, e', shown.performAll _, trails.congr ?_, finished⟩
      simp [Moment.heading?, opened]
  · have other : .endHeading ∉ Act.ofEvent c.options s
        (c.answerTo w (Question.ofEvent s event)).1 event :=
      fun member => ends (Act.exists_of_endHeading_mem member)
    have unfinished : (Moment.mk event s w).heading? = none :=
      Moment.heading?_eq_none fun level closing => ends ⟨level, closing⟩
    refine ⟨_, _, shown.performAll _, (trails.afterAll other s).congr (by simp [unfinished]), ?_⟩
    have follow (html : String)
        (comes : (Question.ofEvent s event).isSome = true →
          (c.answerTo w (Question.ofEvent s event)).1.ComesTo r.content html) :=
      Act.performAll_ofEvent_inlined (d := d') c.options follows opened _
        (fun member => absurd member other) html comes
    cases asked : Question.ofEvent s event with
    | none =>
      rw [asked] at follow
      have alone := follow "" (by simp)
      rwa [Act.ofEvent_of_unasked c.options asked _ .passThrough] at alone
    | some question =>
      obtain ⟨html, immediate, comes⟩ := alike question asked
      rw [asked] at follow
      have alone := follow html fun _ => comes
      simpa only [answerTo, immediate] using alone

private theorem exists_results_behind {question : Option Question}
    {immediate deferred : Question → Answer} {behind behind' : List Answer} {results : List String}
    {content : PlaceholderId → String}
    (now : (question.map immediate).toList ++ behind' = results.map .inline)
    (later : List.Forall₂ (fun answer html => answer.ComesTo content html)
      ((question.map deferred).toList ++ behind) results) :
    ∃ rest : List String,
      (∀ asked, question = some asked → ∃ html,
        immediate asked = .inline html ∧ (deferred asked).ComesTo content html) ∧
      behind' = rest.map .inline ∧
      List.Forall₂ (fun answer html => answer.ComesTo content html) behind rest := by
  cases question with
  | none => exact ⟨results, nofun, now, later⟩
  | some asked =>
    cases later with
    | cons first others =>
      obtain ⟨own, rest⟩ := List.cons.inj now
      refine ⟨_, ?_, rest, others⟩
      rintro _ ⟨⟩
      exact ⟨_, own, first⟩

/-- Wherever a run stops, the two compilers are still side by side. -/
theorem run_trails (same : c'.options = c.options) (events : List Event) {stack last : List Tag}
    {s : State} {d d' : Draft} {whole : Prop} {w : σ} {v : τ} (shown : s.Shows d)
    (follows : s.Follows Event.plainHeadings stack) (trails : Draft.Trails r.content whole d d')
    (nested : Event.nests Event.plainHeadings stack events = some last) {results : List String}
    (immediate : c'.answers events (s.inlined r.content d') v = results.map .inline)
    (deferred : List.Forall₂ (fun answer html => answer.ComesTo r.content html)
      (c.answers events s w) results) :
    ∃ e e', (c.run events s w).2.1.Shows e ∧
      Draft.Trails r.content
        (whole ∧ ∀ heading ∈ c.headings events s w, heading.StaysTrimmed r) e e' ∧
      (c'.run events (s.inlined r.content d') v).1 = (c.run events s w).1 ∧
      (c'.run events (s.inlined r.content d') v).2.1 =
        (c.run events s w).2.1.inlined r.content e' := by
  induction events generalizing stack s d d' whole w v results with
  | nil => exact ⟨d, d', shown, trails.congr (by simp [headings, moments]), rfl, rfl⟩
  | cons event events ih =>
    rw [Event.nests_cons, Option.bind_eq_some_iff] at nested
    obtain ⟨inner, opened, nested⟩ := nested
    rw [answers_cons] at immediate deferred
    rw [run_cons, run_cons, headings_cons, same]
    have level : (s.inlined r.content d').depth = s.depth := rfl
    rw [level] at immediate ⊢
    rw [same] at immediate
    split
    · exact ⟨d, d', shown.setDepth _, trails.congr (by simp), rfl, rfl⟩
    · rename_i fits
      rw [if_neg fits] at immediate deferred
      -- The event is met by both compilers with states that differ in what is put off only.
      let m := moment event s w
      let m' : Moment τ := ⟨event, m.state.inlined r.content d', v⟩
      have asks : m'.question? = m.question? := Question.ofEvent_inlined event
      change (m'.question?.map fun question => (c'.answer v question).1).toList ++
        c'.answers events (c'.next m').1 (c'.next m').2 = _ at immediate
      rw [asks] at immediate
      obtain ⟨later, alike, immediate, deferred⟩ := exists_results_behind immediate deferred
      have deeper : m.state.Shows d := shown.setDepth _
      have further : m.state.Follows Event.plainHeadings stack := follows.setDepth _
      obtain ⟨e, e', shown, trails, stepped⟩ :=
        next_trails same deeper further trails opened alike
      change (c'.next m').1 = _ at stepped
      have followed : (c.next m).1.Follows Event.plainHeadings inner := by
        rw [Compiler.next, step_eq]
        exact further.performAll _ _ Event.noHeadingInHeading_of_plainHeadings opened
      rw [stepped] at immediate
      obtain ⟨e, e', shown, trails, failed, left⟩ :=
        ih shown followed trails nested immediate deferred
      rw [← stepped] at failed left
      refine ⟨e, e', shown, trails.congr ?_, failed, left⟩
      simp only [List.mem_append, Option.mem_toList, or_imp, forall_and, and_assoc]
      rfl

/--
Two compilers with the same options, of which one has the results of all spans at once and the other
puts off what it likes, fail alike, or both compile. Splicing the results of the spans that were put
off then gives what the first one has written if and only if no heading gets blanks at either end
from that. Headings may hold neither headings nor code blocks here.
-/
theorem splice_eq_immediate_iff (c : Compiler σ) (c' : Compiler τ) (same : c'.options = c.options)
    {events : List Event} (nested : Event.WellNested Event.plainHeadings events) (w : σ) (v : τ)
    (r : Replacements) {results : List String}
    (immediate : c'.answers events .initial v = results.map .inline)
    (deferred : List.Forall₂ (fun answer html => answer.ComesTo r.content html)
      (c.answers events .initial w) results) :
    (∃ error, (c.compile events .initial w).1 = .error error ∧
        (c'.compile events .initial v).1 = .error error) ∨
      ∃ document html spliced, (c.compile events .initial w).1 = .ok document ∧
        (c'.compile events .initial v).1 = .ok ⟨html, []⟩ ∧
        r.splice? document.html document.spans = some spliced ∧
        (spliced = html ↔ ∀ heading ∈ c.headings events .initial w, heading.StaysTrimmed r) := by
  have start : State.inlined r.content .initial {} = .initial := rfl
  have begun : Draft.Trails r.content True {} {} := .refl r.content {}
  obtain ⟨d, d', shown, trails, failed, left⟩ :=
    run_trails same events .initial .initial begun nested immediate deferred
  rw [start] at failed left
  rcases ran : c.run events .initial w with ⟨error, s, w'⟩
  rcases ran' : c'.run events .initial v with ⟨error', s', v'⟩
  rw [ran] at shown failed left
  rw [ran'] at failed left
  obtain rfl : error' = error := failed
  obtain rfl : s' = s.inlined r.content d' := left
  cases error' with
  | some error => exact .inl ⟨error, by rw [compile, ran], by rw [compile, ran']⟩
  | none =>
    refine .inr ⟨⟨s.output, s.spans⟩, d'.output.fill r.content, d.output.fill r.content,
      by rw [compile, ran], by rw [compile, ran']; rfl, ?_, ?_⟩
    · rw [shown.output, shown.spans]
      exact r.splice?_template d.output
    · rw [trails.same, true_and]

/-- Math in a heading and code below it, of which the math is put off. -/
theorem splice_eq_immediate_heading :
    let c : Compiler Unit := ⟨{}, {
      code := some fun _ _ _ => (.inline "<b>f</b>", ())
      math := some fun _ _ _ => (.deferred ⟨.math, 0⟩, ()) }⟩
    let c' : Compiler Unit := ⟨{}, {
      code := some fun _ _ _ => (.inline "<b>f</b>", ())
      math := some fun _ _ _ => (.inline "<i>x</i>", ()) }⟩
    let events : List Event := [.start (.heading 1), .text "a ", .math "x" false,
      .stop (.heading 1), .start (.codeBlock none), .text "f", .stop .codeBlock]
    ∃ document html, (c.compile events .initial ()).1 = .ok document ∧
      (c'.compile events .initial ()).1 = .ok ⟨html, []⟩ ∧
      (Replacements.ofList [(⟨.math, 0⟩, "<i>x</i>")]).splice? document.html document.spans =
        some html := by
  intro c c' events
  let r := Replacements.ofList [(⟨.math, 0⟩, "<i>x</i>")]
  have nested : Event.WellNested Event.plainHeadings events := by
    unfold Event.WellNested
    decide
  have immediate : c'.answers events .initial () = ["<i>x</i>", "<b>f</b>"].map .inline := rfl
  have answers : c.answers events .initial () = [.deferred ⟨.math, 0⟩, .inline "<b>f</b>"] := rfl
  have found : r.content ⟨.math, 0⟩ = "<i>x</i>" := by decide
  have deferred : List.Forall₂ (fun answer html => answer.ComesTo r.content html)
      (c.answers events .initial ()) ["<i>x</i>", "<b>f</b>"] := by
    rw [answers]
    exact .cons found (.cons rfl .nil)
  have finished : c.headings events .initial () =
      [⟨1, "a x", "a <span id=\"math-0\"></span>", [⟨⟨.math, 0⟩, 2, 27⟩]⟩] := by
    rfl
  rcases splice_eq_immediate_iff c c' rfl nested () () r immediate deferred with
    ⟨error, failed, -⟩ | ⟨document, html, spliced, compiled, written, filled, same⟩
  · have compiles : (c.compile events .initial ()).1.isOk = true := by rfl
    rw [failed] at compiles
    cases compiles
  · refine ⟨document, html, compiled, written, filled.trans (congrArg some (same.mpr ?_))⟩
    rw [finished]
    intro heading member
    obtain rfl := List.mem_singleton.mp member
    exact ⟨"a <i>x</i>", by decide +kernel, by decide⟩

/-- Processors that defer math as `math-0`, and math that is there at once. -/
theorem splice_eq_immediate_blank :
    let c : Compiler Unit := ⟨{}, { math := some fun _ _ _ => (.deferred ⟨.math, 0⟩, ()) }⟩
    let c' : Compiler Unit := ⟨{}, { math := some fun _ _ _ => (.inline " y ", ()) }⟩
    let events : List Event := [.start (.heading 1), .math "x" false, .stop (.heading 1)]
    Event.WellNested Event.plainHeadings events ∧
      (c.compile events .initial ()).1 =
        .ok ⟨"<h1 id=\"x\"><span id=\"math-0\"></span></h1>", [⟨⟨.math, 0⟩, 11, 36⟩]⟩ ∧
      (Replacements.ofList [(⟨.math, 0⟩, " y ")]).splice?
        "<h1 id=\"x\"><span id=\"math-0\"></span></h1>" [⟨⟨.math, 0⟩, 11, 36⟩] =
          some "<h1 id=\"x\"> y </h1>" ∧
      (c'.compile events .initial ()).1 = .ok ⟨"<h1 id=\"x\">y</h1>", []⟩ := by
  refine ⟨by unfold Event.WellNested; decide, by cbv, by decide +kernel, by cbv⟩

end Compiler

end Mathdown
