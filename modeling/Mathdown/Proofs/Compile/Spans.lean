import Mathdown.Proofs.Compile.Draft

namespace Mathdown

/-- Each span of the document marks its own token, in order and apart from the others. -/
structure CompiledDocument.Exact (d : CompiledDocument) : Prop where
  ascending : d.spans.Pairwise fun a b => a.start < b.start
  apart : d.spans.Pairwise fun a b => a.stop ≤ b.start
  marked : ∀ span ∈ d.spans, ∃ before after, d.html = before ++ span.id.token ++ after ∧
    span.start = before.utf8ByteSize ∧ span.stop = (before ++ span.id.token).utf8ByteSize

theorem CompiledDocument.exact_template (t : Template) :
    (CompiledDocument.mk t.text t.spans).Exact where
  ascending := by
    refine (Template.pairwise_spansFrom 0 t).imp_of_mem fun {a b} first _ behind => ?_
    have long := Template.start_lt_stop_of_mem first
    omega
  apart := Template.pairwise_spansFrom 0 t
  marked span member := by
    obtain ⟨before, after, shown, start, stop⟩ := Template.mem_spansFrom member
    refine ⟨before, after, shown, by omega, ?_⟩
    rw [stop, start, String.utf8ByteSize_append]
    omega

namespace Compile

/-- No span of an open heading begins or ends in the blanks that its content starts with. -/
theorem State.Shows.lead_le {s : State} {d : Draft} (shown : s.Shows d)
    {heading : HeadingCapture} (opened : s.heading = some heading) {span : PlaceholderSpan}
    (member : span ∈ heading.spans) : heading.lead ≤ span.start ∧ heading.lead ≤ span.stop := by
  obtain ⟨html, spans⟩ := shown.inside heading opened
  obtain ⟨lead, -, filled, moved⟩ := d.heading.exists_lead
  have shown : Template.text d.heading = lead ++ (Template.trimLeft d.heading).text := filled _
  rw [spans, Template.spans, moved] at member
  have behind := Template.le_start_of_mem member
  obtain ⟨_, _, _, _, stop⟩ := Template.mem_spansFrom member
  rw [HeadingCapture.lead, html, ← Template.toList_text_trimLeft, String.ofList_toList, shown,
    String.utf8ByteSize_append]
  omega

end Compile

namespace Compiler

open Compile (Act Draft Question State)

variable {σ : Type}

theorem shows_step (c : Compiler σ) (event : Event) {s : State} (w : σ)
    (shown : ∃ d, s.Shows d) : ∃ d, (c.step event s w).1.Shows d := by
  obtain ⟨d, shown⟩ := shown
  rw [step_eq]
  exact ⟨_, shown.performAll _⟩

theorem shows_run (c : Compiler σ) (events : List Event) {s : State} (w : σ)
    (shown : ∃ d, s.Shows d) : ∃ d, (c.run events s w).2.1.Shows d := by
  induction events generalizing s w with
  | nil => exact shown
  | cons event events ih =>
    have deeper : ∃ d, State.Shows { s with depth := depthAfter s.depth event } d := by
      obtain ⟨d, shown⟩ := shown
      exact ⟨d, shown.setDepth _⟩
    simp only [run]
    split
    · exact deeper
    · exact ih _ (c.shows_step event w deeper)

theorem shows_compile (c : Compiler σ) (events : List Event) {s : State} (w : σ)
    (shown : ∃ d, s.Shows d) :
    (∃ d, (c.compile events s w).2.1.Shows d) ∧
      ∀ document, (c.compile events s w).1 = .ok document → document.Exact := by
  obtain ⟨d, written⟩ := c.shows_run events w shown
  simp only [compile]
  split
  · rename_i error left w' ran
    rw [ran] at written
    refine ⟨⟨d, written⟩, fun document compiled => ?_⟩
    cases compiled
  · rename_i left w' ran
    rw [ran] at written
    refine ⟨⟨_, written.taken⟩, ?_⟩
    rintro document ⟨⟩
    rw [written.output, written.spans]
    exact CompiledDocument.exact_template d.output

theorem shows_compileAll (c : Compiler σ) (documents : List (List Event)) {s : State} (w : σ)
    (shown : ∃ d, s.Shows d) :
    (∃ d, (c.compileAll documents s w).2.1.Shows d) ∧
      ∀ document, .ok document ∈ (c.compileAll documents s w).1 → document.Exact := by
  induction documents generalizing s w with
  | nil => exact ⟨shown, by simp [compileAll]⟩
  | cons events rest ih =>
    obtain ⟨next, exact⟩ := c.shows_compile events w shown
    obtain ⟨left, later⟩ := ih (c.compile events s w).2.2 next
    refine ⟨left, fun document member => ?_⟩
    rcases List.mem_cons.mp member with first | member
    · exact exact document first.symm
    · exact later document member

/--
The spans of all documents that are compiled in turn mark exactly their tokens. And in the middle
of any further document no open heading has a span that would be moved to before the heading.
-/
theorem spans_exact (c : Compiler σ) (documents : List (List Event)) (w : σ) :
    (∀ document, .ok document ∈ (c.compileAll documents .initial w).1 → document.Exact) ∧
      ∀ events heading span,
        (c.run events (c.compileAll documents .initial w).2.1
          (c.compileAll documents .initial w).2.2).2.1.heading = some heading →
        span ∈ heading.spans →
        ∀ base, heading.lead ≤ base + span.start ∧ heading.lead ≤ base + span.stop := by
  have start : ∃ d, State.Shows .initial d := ⟨{}, .initial⟩
  obtain ⟨left, exact⟩ := c.shows_compileAll documents w start
  refine ⟨exact, fun events heading span opened member base => ?_⟩
  obtain ⟨d, shown⟩ := c.shows_run events (c.compileAll documents .initial w).2.2 left
  obtain ⟨start, stop⟩ := shown.lead_le opened member
  omega

/-- Tokens in a heading that stays open behind a document which nests too deep. -/
example :
    ((⟨{ maxNesting := 1 }, { math := some fun n _ _ => (.deferred ⟨.math, n⟩, n + 1) }⟩ :
      Compiler Nat).compileAll
        [[.start (.heading 1), .math "a" false, .start .emphasis],
          [.softBreak, .math "b" false, .stop (.heading 1), .math "c" true]] .initial 0).1 =
      [.error (.nestingTooDeep 1),
        .ok ⟨"<h1 id=\"ab\"><span id=\"math-0\"></span>\n<span id=\"math-1\"></span></h1>" ++
            "<span id=\"math-2\"></span>",
          [⟨⟨.math, 0⟩, 12, 37⟩, ⟨⟨.math, 1⟩, 38, 63⟩, ⟨⟨.math, 2⟩, 68, 93⟩]⟩] := by
  cbv

end Compiler

end Mathdown
