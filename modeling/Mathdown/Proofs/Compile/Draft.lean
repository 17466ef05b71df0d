import Mathdown.Compile.Act
import Mathdown.Placeholder.Splice

/-!
Drafts: what a state of the compiler has written, as templates in place of texts with recorded
spans. The output and the content of an open heading each have one. Every act keeps a state in step
with its draft, heading content that is trimmed and moved into the output included.
-/

namespace Mathdown.Compile

/-- The output and the open heading's content as templates. -/
structure Draft where
  output : Template := []
  heading : Template := []

namespace Draft

/-- The deferred spans that a draft holds, those of an open heading last. -/
def holes (d : Draft) : List PlaceholderId := d.output.holes ++ Template.holes d.heading

def after (s : State) (d : Draft) : Act → Draft
  | .write html => { d with output := d.output ++ [.html html] }
  | .inline html =>
    if s.image.isSome then d
    else if s.heading.isSome then { d with heading := d.heading ++ [.html html] }
    else { d with output := d.output ++ [.html html] }
  | .token id =>
    if s.heading.isSome then { d with heading := d.heading ++ [.hole id] }
    else { d with output := d.output ++ [.hole id] }
  | .beginHeading _ => { d with heading := [] }
  | .endHeading =>
    match s.heading with
    | none => d
    | some heading =>
      ⟨d.output ++ [.html (Html.headingStart heading.level (s.headingId heading.text).1)] ++
        d.heading.trim ++ [.html (Html.headingStop heading.level)], []⟩
  | _ => d

def afterAll (d : Draft) : List Act → State → Draft
  | [], _ => d
  | act :: acts, s => (d.after s act).afterAll acts (act.perform s)

end Draft

/-- Whether a draft is what a state has written. -/
structure State.Shows (s : State) (d : Draft) : Prop where
  output : s.output = d.output.text
  spans : s.spans = d.output.spans
  outside : s.heading = none → d.heading = []
  inside : ∀ heading, s.heading = some heading →
    heading.html = d.heading.text ∧ heading.spans = d.heading.spans

/-- A heading's spans, once it is written, are those of its trimmed content. -/
theorem HeadingCapture.spansAt_eq {heading : HeadingCapture} {t : Template}
    (html : heading.html = t.text) (spans : heading.spans = t.spans) (base : Nat) :
    heading.spansAt base = t.trim.spansFrom base := by
  obtain ⟨lead, -, filled, moved⟩ := t.exists_lead
  have shown : t.text = lead ++ (Template.trimLeft t).text := filled _
  have size : heading.lead = lead.utf8ByteSize := by
    rw [HeadingCapture.lead, html, ← Template.toList_text_trimLeft, String.ofList_toList, shown,
      String.utf8ByteSize_append]
    omega
  rw [spansAt, size, spans, Template.spans, moved, Template.spansFrom_add,
    Template.trim, Template.spansFrom_trimRight, ← Nat.zero_add base, Template.spansFrom_add,
    List.map_map]
  apply List.map_congr_left
  intro span _
  simp only [Function.comp_apply, PlaceholderSpan.shift, PlaceholderSpan.mk.injEq, true_and]
  omega

namespace State.Shows

variable {s : State} {d : Draft}

theorem initial : State.Shows .initial {} where
  output := rfl
  spans := rfl
  outside _ := rfl
  inside _ opened := nomatch opened

private theorem write (shown : s.Shows d) (html : String) :
    (s.write html).Shows { d with output := d.output ++ [.html html] } where
  output := by simp [State.write, shown.output, Template.text, Template.fill]
  spans := by
    simp [State.write, shown.spans, Template.spans, Template.spansFrom_append, Template.spansFrom]
  outside := shown.outside
  inside := shown.inside

private theorem spans_push (t : Template) (id : PlaceholderId) :
    t.spans ++ [tokenAt t.text id] = Template.spans (t ++ [.hole id]) := by
  simp [Template.spans, Template.spansFrom_append, Template.spansFrom, tokenAt]

private theorem finishHeading (shown : s.Shows d) :
    s.finishHeading.Shows (d.after s .endHeading) := by
  simp only [State.finishHeading, Draft.after]
  cases opened : s.heading with
  | none => exact shown
  | some heading =>
    obtain ⟨html, spans⟩ := shown.inside heading opened
    have trimmed : Text.trim heading.html = d.heading.trim.text := by rw [html, Template.text_trim]
    refine ⟨?_, ?_, fun _ => rfl, fun other reopened => ?_⟩
    · simp [State.write, State.headingId, shown.output, trimmed, Template.text, Template.fill,
        String.append_assoc]
    · have placed := HeadingCapture.spansAt_eq html spans
        (s.write (Html.headingStart heading.level (s.headingId heading.text).1)).output.utf8ByteSize
      simp only [State.write, State.headingId, shown.output, shown.spans, Template.spans,
        Template.spansFrom_append, Template.spansFrom, Template.text_append, Nat.zero_add,
        String.utf8ByteSize_append, List.append_nil] at placed ⊢
      simpa [Template.text, Template.fill, Nat.add_assoc] using placed
    · simp [State.write, State.headingId] at reopened

theorem perform (shown : s.Shows d) (act : Act) : (act.perform s).Shows (d.after s act) := by
  cases act with
  | write html => exact shown.write html
  | inline html =>
    simp only [Act.perform, State.writeInline, Draft.after]
    split
    · exact shown
    · cases opened : s.heading with
      | none => exact shown.write html
      | some heading =>
        obtain ⟨text, spans⟩ := shown.inside heading opened
        refine ⟨shown.output, shown.spans, by simp, ?_⟩
        rintro _ ⟨⟩
        simp [text, spans, Template.text, Template.fill, Template.spans, Template.spansFrom_append,
          Template.spansFrom]
  | token id =>
    simp only [Act.perform, State.writeToken, Draft.after]
    cases opened : s.heading with
    | none =>
      refine ⟨?_, ?_, fun _ => shown.outside opened, by simp⟩
      · simp [shown.output, Template.text, Template.fill]
      · simp [← spans_push, ← shown.output, ← shown.spans]
    | some heading =>
      obtain ⟨text, spans⟩ := shown.inside heading opened
      refine ⟨shown.output, shown.spans, by simp, ?_⟩
      rintro _ ⟨⟩
      refine ⟨?_, ?_⟩
      · simp [text, Template.text, Template.fill]
      · simp [← spans_push, ← text, ← spans]
  | noteText text =>
    simp only [Act.perform, State.noteText, Draft.after]
    cases opened : s.heading with
    | none => exact shown
    | some heading =>
      refine ⟨shown.output, shown.spans, by simp, ?_⟩
      rintro _ ⟨⟩
      exact shown.inside heading opened
  | noteAlt text =>
    simp only [Act.perform, State.noteAlt, Draft.after]
    cases s.image <;> exact ⟨shown.output, shown.spans, shown.outside, shown.inside⟩
  | beginHeading level =>
    refine ⟨shown.output, shown.spans, fun _ => rfl, ?_⟩
    rintro _ ⟨⟩
    exact ⟨rfl, rfl⟩
  | endHeading => exact shown.finishHeading
  | setCode code => exact ⟨shown.output, shown.spans, shown.outside, shown.inside⟩
  | setImage image => exact ⟨shown.output, shown.spans, shown.outside, shown.inside⟩
  | setTable table => exact ⟨shown.output, shown.spans, shown.outside, shown.inside⟩
  | setQuotes quotes => exact ⟨shown.output, shown.spans, shown.outside, shown.inside⟩

theorem performAll (shown : s.Shows d) (acts : List Act) :
    (Act.performAll acts s).Shows (d.afterAll acts s) := by
  induction acts generalizing s d with
  | nil => exact shown
  | cons act acts ih => exact ih (shown.perform act)

theorem taken (shown : s.Shows d) :
    State.Shows { s with output := "", spans := [] } { d with output := [] } :=
  ⟨rfl, rfl, shown.outside, shown.inside⟩

theorem setDepth (shown : s.Shows d) (depth : Nat) : State.Shows { s with depth } d :=
  ⟨shown.output, shown.spans, shown.outside, shown.inside⟩

end State.Shows

end Mathdown.Compile
