import Mathdown.Proofs.Compile.Depth
import Mathdown.Proofs.Compile.Holes
import Mathdown.Proofs.Compile.Languages

namespace Mathdown

/-- Whether an answer comes to some HTML, if holes have some content. -/
def Answer.ComesTo (content : PlaceholderId → String) (html : String) : Answer → Prop
  | .deferred id => content id = html
  | .inline shown => shown = html
  | .passThrough => False

/-- Whether an answer comes to a value that may stand in a heading, if holes have some content. -/
def Answer.Means (content : PlaceholderId → String) (question : Compile.Question)
    (value : String) : Answer → Prop
  | .deferred id => content id = value ∧
    ∀ expression display, question = .math expression display → Text.Solid value.toList
  | .inline html => html = value
  | .passThrough => False

theorem Answer.Means.comesTo {content : PlaceholderId → String} {question : Compile.Question}
    {value : String} {answer : Answer} (means : answer.Means content question value) :
    answer.ComesTo content value := by
  cases answer with
  | deferred id => exact means.1
  | inline html => exact means
  | passThrough => exact means

namespace Compile

/-- What a state would have been if all spans put off had been there at once. -/
def State.inlined (content : PlaceholderId → String) (s : State) (d : Draft) : State :=
  { s with
    output := d.output.fill content
    spans := []
    heading := s.heading.map fun heading =>
      { heading with html := d.heading.fill content, spans := [] } }

variable {content : PlaceholderId → String} {s : State} {d : Draft}

namespace State

private theorem inlined_write (html : String) :
    (s.inlined content d).write html =
      (s.write html).inlined content { d with output := d.output ++ [.html html] } := by
  simp [write, inlined, Template.fill]

private theorem inlined_finishHeading (solid : Template.SolidIn content d.heading) :
    (s.inlined content d).finishHeading = s.finishHeading.inlined content (d.after s .endHeading) := by
  cases opened : s.heading with
  | none => simp [finishHeading, inlined, Draft.after, opened]
  | some heading =>
    simp [finishHeading, inlined, Draft.after, opened, headingId, write, Template.fill,
      Template.fill_trim solid, String.append_assoc, HeadingCapture.spansAt]

end State

namespace Act

/-- An act that writes no token does the same where all spans are there at once. -/
theorem perform_inlined {act : Act} (plain : act.token? = none)
    (solid : act = .endHeading → Template.SolidIn content d.heading) :
    act.perform (s.inlined content d) = (act.perform s).inlined content (d.after s act) := by
  cases act with
  | write html => exact State.inlined_write html
  | inline html =>
    cases inside : s.image with
    | some image => simp [perform, State.writeInline, Draft.after, State.inlined, inside]
    | none =>
      cases opened : s.heading <;>
        simp [perform, State.writeInline, State.write, Draft.after, State.inlined, inside, opened,
          Template.fill]
  | token id => cases plain
  | noteText text =>
    simp only [perform, State.noteText, Draft.after, State.inlined]
    cases opened : s.heading <;> simp [opened]
  | noteAlt text =>
    simp only [perform, State.noteAlt, Draft.after, State.inlined]
    cases opened : s.image <;> simp [opened]
  | beginHeading level => simp [perform, State.inlined, Draft.after, Template.fill]
  | endHeading => exact State.inlined_finishHeading (solid rfl)
  | _ => rfl

/-- Outside images a token does what its content does where all spans are there at once. -/
theorem inline_inlined (outside : s.image = none) (id : PlaceholderId) :
    (inline (content id)).perform (s.inlined content d) =
      ((token id).perform s).inlined content (d.after s (token id)) := by
  cases opened : s.heading <;>
    simp [perform, State.writeInline, State.write, State.writeToken, Draft.after, State.inlined,
      outside, opened, Template.fill]

theorem solidIn_after {act : Act} (solid : Template.SolidIn content d.heading)
    (firm : ∀ id, act = .token id → s.heading.isSome → Text.Solid (content id).toList) :
    Template.SolidIn content (d.after s act).heading := by
  have same {t : Template} (holes : t.holes ⊆ Template.holes d.heading) : t.SolidIn content :=
    fun id member => solid id (holes member)
  cases act with
  | inline html =>
    simp only [Draft.after]
    split
    · exact solid
    · split
      · exact same (by simp [Template.holes])
      · exact solid
  | token id =>
    simp only [Draft.after]
    split
    · rename_i opened
      intro other member
      rcases List.mem_append.mp (Template.holes_append .. ▸ member) with before | new
      · exact solid other before
      · obtain rfl : other = id := by simpa [Template.holes] using new
        exact firm other rfl opened
    · exact solid
  | beginHeading level => exact same (by simp [Draft.after, Template.holes])
  | endHeading =>
    simp only [Draft.after]
    split
    · exact solid
    · exact same (by simp [Template.holes])
  | _ => exact solid

theorem performAll_inlined {acts : List Act} (plain : acts.filterMap token? = [])
    (solid : .endHeading ∈ acts → Template.SolidIn content d.heading) :
    performAll acts (s.inlined content d) =
      (performAll acts s).inlined content (d.afterAll acts s) := by
  induction acts generalizing s d with
  | nil => rfl
  | cons act rest ih =>
    cases written : act.token? with
    | some id => simp [written] at plain
    | none =>
      have others : rest.filterMap token? = [] := by simpa [written] using plain
      have here (ends : act = .endHeading) : Template.SolidIn content d.heading :=
        solid (by simp [ends])
      have later (member : .endHeading ∈ rest) : Template.SolidIn content (d.after s act).heading := by
        refine solidIn_after (solid (List.mem_cons_of_mem act member)) ?_
        rintro id rfl
        cases written
      rw [performAll_cons, performAll_cons, perform_inlined written here]
      exact ih others later

theorem solidIn_afterAll {acts : List Act} (plain : acts.filterMap token? = [])
    (solid : Template.SolidIn content d.heading) :
    Template.SolidIn content (d.afterAll acts s).heading := by
  induction acts generalizing s d with
  | nil => exact solid
  | cons act rest ih =>
    cases written : act.token? with
    | some id => simp [written] at plain
    | none =>
      refine ih (by simpa [written] using plain) (solidIn_after solid ?_)
      rintro id rfl
      cases written

theorem ofEvent_inlined (options : CompilerOptions) (answer : Answer) (event : Event) :
    ofEvent options (s.inlined content d) answer event = ofEvent options s answer event := by
  cases event with
  | start tag => cases tag <;> rfl
  | stop tag => cases tag <;> rfl
  | _ => rfl

end Act

@[simp] theorem Question.ofEvent_inlined (event : Event) :
    ofEvent (s.inlined content d) event = ofEvent s event := by
  cases event <;> rfl

/-- Questions are asked by the end of a code block, and by math outside images. -/
theorem Question.ofEvent_cases {s : State} {event : Event} {question : Question}
    (asked : Question.ofEvent s event = some question) :
    event = .stop .codeBlock ∨
      ∃ expression display, event = .math expression display ∧ s.image = none ∧
        question = .math expression display := by
  cases event with
  | stop tag =>
    cases tag with
    | codeBlock => exact .inl rfl
    | _ => cases asked
  | math expression display =>
    simp only [Question.ofEvent] at asked
    split at asked
    · cases asked
    · rename_i outside
      cases asked
      exact .inr ⟨expression, display, rfl, by simpa using outside, rfl⟩
  | _ => cases asked

theorem Act.ofEvent_of_unasked {s : State} {event : Event} (options : CompilerOptions)
    (unasked : Question.ofEvent s event = none) (answer other : Answer) :
    ofEvent options s answer event = ofEvent options s other event := by
  cases event with
  | stop tag =>
    cases tag with
    | codeBlock => cases unasked
    | _ => rfl
  | math expression display =>
    simp only [Question.ofEvent] at unasked
    split at unasked
    · rename_i inside
      simp only [ofEvent, inside, if_true]
    · cases unasked
  | _ => rfl

private theorem heading_eq_none_of_codeBlock {stack next : List Tag}
    (follows : s.Follows Event.plainHeadings stack)
    (opened : Event.stackAfter Event.plainHeadings stack (.stop .codeBlock) = some next) :
    s.heading = none := by
  obtain ⟨tag, closes, rfl⟩ := Event.stackAfter_stop_iff.mp opened
  have outside : (tag :: next).any Tag.isHeading = false := by
    rw [List.any_eq_false]
    intro other member
    rcases List.mem_cons.mp member with rfl | member
    · cases other <;> simp_all [Tag.toEnd, Tag.isHeading]
    · have apart := List.rel_of_pairwise_cons follows.stacked member
      cases tag <;> simp_all [Tag.toEnd, Event.plainHeadings, Tag.isCodeBlock]
  rw [← Option.not_isSome_iff_eq_none, follows.heading, outside]
  exact Bool.false_ne_true

/-- An event does the same where its answer and all that was put off before are there at once. -/
theorem Act.performAll_ofEvent_inlined (options : CompilerOptions) {stack next : List Tag}
    (follows : s.Follows Event.plainHeadings stack) {event : Event}
    (opened : Event.stackAfter Event.plainHeadings stack event = some next) (answer : Answer)
    (solid : .endHeading ∈ ofEvent options s answer event → Template.SolidIn content d.heading)
    (value : String)
    (comes : (Question.ofEvent s event).isSome = true → answer.ComesTo content value) :
    performAll (ofEvent options s (.inline value) event) (s.inlined content d) =
      (performAll (ofEvent options s answer event) s).inlined content
        (d.afterAll (ofEvent options s answer event) s) := by
  have tokens := Act.tokens_ofEvent options s answer event
  cases asked : Question.ofEvent s event with
  | none =>
    rw [ofEvent_of_unasked options asked (.inline value) answer]
    exact performAll_inlined (by simpa [asked] using tokens) solid
  | some question =>
    have meant := comes (by rw [asked]; rfl)
    cases answer with
    | passThrough => exact meant.elim
    | inline html =>
      obtain rfl : html = value := meant
      exact performAll_inlined (by simpa [asked, Answer.ids] using tokens) solid
    | deferred id =>
      obtain rfl : content id = value := meant
      rcases Question.ofEvent_cases asked with rfl | ⟨expression, display, rfl, outside, rfl⟩
      · have closed := heading_eq_none_of_codeBlock follows opened
        simp [ofEvent, answeringCode, Draft.afterAll, Draft.after, perform, closed, State.inlined,
          State.write, State.writeToken, Template.fill, Html.codeAround, String.append_assoc]
      · have noted : (noteText expression).perform (s.inlined content d) =
            ((noteText expression).perform s).inlined content (d.after s (noteText expression)) :=
          perform_inlined rfl (by simp)
        have still : ((noteText expression).perform s).image = none := by
          simp only [perform, State.noteText]
          split <;> exact outside
        simp only [ofEvent, outside, answeringMath, Option.isSome_none, Bool.false_eq_true, if_false,
          performAll_cons, performAll_nil, Draft.afterAll, noted, inline_inlined still]

theorem Act.solidIn_ofEvent (options : CompilerOptions) {stack next : List Tag}
    (follows : s.Follows Event.plainHeadings stack)
    (solid : Template.SolidIn content d.heading) {event : Event}
    (opened : Event.stackAfter Event.plainHeadings stack event = some next) (answer : Answer)
    (value : String)
    (means : ∀ question, Question.ofEvent s event = some question →
      answer.Means content question value) :
    Template.SolidIn content (d.afterAll (ofEvent options s answer event) s).heading := by
  have tokens := Act.tokens_ofEvent options s answer event
  cases asked : Question.ofEvent s event with
  | none => exact solidIn_afterAll (by simpa [asked] using tokens) solid
  | some question =>
    have meant := means question asked
    cases answer with
    | passThrough => exact meant.elim
    | inline html => exact solidIn_afterAll (by simpa [asked, Answer.ids] using tokens) solid
    | deferred id =>
      rcases Question.ofEvent_cases asked with rfl | ⟨expression, display, rfl, outside, rfl⟩
      · have closed := heading_eq_none_of_codeBlock follows opened
        simpa [ofEvent, answeringCode, Draft.afterAll, Draft.after, perform, closed]
      · have noted : Template.SolidIn content (d.after s (.noteText expression)).heading :=
          solidIn_after solid (by simp)
        simp only [ofEvent, outside, answeringMath, Option.isSome_none, Bool.false_eq_true, if_false,
          Draft.afterAll]
        exact solidIn_after noted fun other same _ => by
          cases same
          obtain ⟨rfl, firm⟩ := meant
          exact firm expression display rfl

end Compile

namespace Compiler

open Compile (Act Draft Question State clean_of_mem_ofEvent)

variable {σ : Type}

/-- A compiler that has the HTML of every span at once. -/
def inlining (options : CompilerOptions) (value : Question → String) : Compiler Unit where
  options
  processors := {
    code := some fun _ language source => (.inline (value (.code language source)), ())
    math := some fun _ expression display => (.inline (value (.math expression display)), ()) }

theorem answer_inlining (options : CompilerOptions) (value : Question → String)
    (question : Question) :
    (inlining options value).answer () question = (.inline (value question), ()) := by
  cases question <;> rfl

/--
Whether the answers of a compiler come to values. What holds of the processors' state is kept, and
fewer and fewer contents of holes are right.
-/
def Inlines (c : Compiler σ) (value : Question → String) (holds : σ → Prop)
    (right : σ → (PlaceholderId → String) → Prop) : Prop :=
  ∀ w question, holds w → question.Clean →
    holds (c.answer w question).2 ∧
      ∀ content, right (c.answer w question).2 content →
        right w content ∧ (c.answer w question).1.Means content question (value question)

variable {c : Compiler σ} {value : Question → String} {holds : σ → Prop}
  {right : σ → (PlaceholderId → String) → Prop}

private theorem step_inlines (inlines : c.Inlines value holds right) {event : Event}
    {stack next : List Tag} {s : State} {d : Draft} {w : σ}
    (follows : s.Follows Event.plainHeadings stack) (clean : s.CleanCode) (before : holds w)
    (solid : ∀ content, right w content → Template.SolidIn content d.heading)
    (opened : Event.stackAfter Event.plainHeadings stack event = some next) :
    let acts := Act.ofEvent c.options s (c.answerTo w (Question.ofEvent s event)).1 event
    holds (c.step event s w).2 ∧ ∀ content, right (c.step event s w).2 content →
      right w content ∧
        (inlining c.options value).step event (s.inlined content d) () =
          ((c.step event s w).1.inlined content (d.afterAll acts s), ()) ∧
        Template.SolidIn content (d.afterAll acts s).heading := by
  intro acts
  have ideal (content : PlaceholderId → String) :
      (inlining c.options value).step event (s.inlined content d) () =
        (Act.performAll (Act.ofEvent c.options s
          ((inlining c.options value).answerTo () (Question.ofEvent s event)).1 event)
          (s.inlined content d), ()) := by
    rw [step_eq, Question.ofEvent_inlined, Act.ofEvent_inlined]
    rfl
  rw [step_eq]
  cases asked : Question.ofEvent s event with
  | none =>
    refine ⟨before, fun content now => ⟨now, ?_, ?_⟩⟩
    · have same := Act.performAll_ofEvent_inlined c.options follows opened .passThrough
        (fun _ => solid content now) "" (by simp [asked])
      rw [Act.ofEvent_of_unasked c.options asked (.inline "") .passThrough] at same
      simp only [acts, ideal, asked]
      exact congrArg (·, ()) same
    · simp only [acts, asked]
      exact Act.solidIn_ofEvent c.options follows (solid content now) opened .passThrough ""
        fun question other => by rw [asked] at other; cases other
  | some question =>
    obtain ⟨kept, each⟩ := inlines w question before (clean.question asked)
    refine ⟨kept, fun content now => ?_⟩
    obtain ⟨earlier, means⟩ := each content now
    simp only [acts, ideal, asked, answerTo, answer_inlining]
    refine ⟨earlier, congrArg (·, ()) ?_, ?_⟩
    · exact Act.performAll_ofEvent_inlined c.options follows opened (c.answer w question).1
        (fun _ => solid content earlier) (value question) fun _ => means.comesTo
    · exact Act.solidIn_ofEvent c.options follows (solid content earlier) opened
        (c.answer w question).1 (value question) fun other asked' => by
          rw [asked] at asked'
          cases asked'
          exact means

private theorem step_follows (c : Compiler σ) {event : Event} {stack next : List Tag} {s : State}
    {d : Draft} (w : σ) (shown : s.Shows d) (follows : s.Follows Event.plainHeadings stack)
    (clean : s.CleanCode)
    (opened : Event.stackAfter Event.plainHeadings stack event = some next) :
    (c.step event s w).1.Shows (d.afterAll
        (Act.ofEvent c.options s (c.answerTo w (Question.ofEvent s event)).1 event) s) ∧
      (c.step event s w).1.Follows Event.plainHeadings next ∧ (c.step event s w).1.CleanCode := by
  rw [step_eq]
  exact ⟨shown.performAll _,
    follows.performAll _ _ Event.noHeadingInHeading_of_plainHeadings opened,
    clean.performAll fun block member => clean_of_mem_ofEvent clean _ _ _ member⟩

/-- Wherever a run stops, the other compiler has written the draft with its holes filled. -/
theorem run_inlines (inlines : c.Inlines value holds right) (events : List Event)
    {stack last : List Tag} {s : State} {d : Draft} {w : σ} (shown : s.Shows d)
    (follows : s.Follows Event.plainHeadings stack) (clean : s.CleanCode) (before : holds w)
    (solid : ∀ content, right w content → Template.SolidIn content d.heading)
    (nested : Event.nests Event.plainHeadings stack events = some last) :
    holds (c.run events s w).2.2 ∧ ∃ d', (c.run events s w).2.1.Shows d' ∧
      ∀ content, right (c.run events s w).2.2 content →
        right w content ∧
          (inlining c.options value).run events (s.inlined content d) () =
            ((c.run events s w).1, (c.run events s w).2.1.inlined content d', ()) := by
  induction events generalizing stack s d w with
  | nil => exact ⟨before, d, shown, fun content now => ⟨now, rfl⟩⟩
  | cons event events ih =>
    rw [Event.nests_cons, Option.bind_eq_some_iff] at nested
    obtain ⟨next, opened, others⟩ := nested
    by_cases deep : tooDeep c.options.maxNesting s.depth event = true
    · rw [run_cons, if_pos deep]
      refine ⟨before, d, shown.setDepth _, fun content now => ⟨now, ?_⟩⟩
      rw [run_cons]
      exact if_pos deep
    · rw [run_cons, if_neg deep]
      have deeper := follows.setDepth (depthAfter s.depth event)
      have clean' : State.CleanCode { s with depth := depthAfter s.depth event } := clean
      obtain ⟨kept, same⟩ := step_inlines (d := d) inlines deeper clean' before solid opened
      obtain ⟨shown', follows', clean''⟩ :=
        c.step_follows w (shown.setDepth (depthAfter s.depth event)) deeper clean' opened
      obtain ⟨kept', d', shown', same'⟩ :=
        ih shown' follows' clean'' kept (fun content now => (same content now).2.2) others
      refine ⟨kept', d', shown', fun content now => ?_⟩
      obtain ⟨middle, later⟩ := same' content now
      obtain ⟨earlier, first, -⟩ := same content middle
      refine ⟨earlier, ?_⟩
      rw [run_cons]
      refine (if_neg deep).trans ?_
      change (inlining c.options value).run events
        ((inlining c.options value).step event
          (State.inlined content { s with depth := depthAfter s.depth event } d) ()).1 () = _
      rw [first]
      exact later

/--
A document that is compiled with spans put off is, with any right contents in its holes, the
document that is compiled with all spans at once; and an error is the same error.
-/
theorem compile_inlines (inlines : c.Inlines value holds right) {events : List Event}
    (nested : Event.WellNested Event.plainHeadings events) {w : σ} (before : holds w) :
    holds (c.compile events .initial w).2.2 ∧
      match (c.compile events .initial w).1 with
      | .error e => ((inlining c.options value).compile events .initial ()).1 = .error e
      | .ok document => ∃ t : Template, document = ⟨t.text, t.spans⟩ ∧
        ∀ content, right (c.compile events .initial w).2.2 content →
          ((inlining c.options value).compile events .initial ()).1.map CompiledDocument.html =
            .ok (t.fill content) := by
  have solid : ∀ content, right w content → Template.SolidIn content ({} : Draft).heading :=
    fun content _ id member => absurd member List.not_mem_nil
  have clean : State.CleanCode .initial := fun block held => nomatch held
  obtain ⟨kept, d, shown, same⟩ :=
    run_inlines inlines events .initial .initial clean before solid nested
  have start (content : PlaceholderId → String) : State.inlined content .initial {} = .initial := rfl
  simp only [start] at same
  rcases ran : c.run events .initial w with ⟨error, left, w'⟩
  rw [ran] at kept shown same
  cases error with
  | some e =>
    have failed : (c.compile events .initial w).1 = .error e := by rw [compile, ran]
    rw [compile_error_iff] at failed
    simp only [compile, ran]
    exact ⟨kept, ((inlining c.options value).compile_error_iff events .initial () e).mpr failed⟩
  | none =>
    simp only [compile, ran]
    refine ⟨kept, d.output, by rw [shown.output, shown.spans], fun content now => ?_⟩
    rw [(same content now).2]
    rfl

end Compiler

end Mathdown
