import Mathdown.Compile.Moment
import Mathdown.Proofs.Compile.Draft
import Mathdown.Proofs.Compile.Headings

/-!
Where deferred spans end up. If elements nest and no heading stands in another, then a draft keeps
every hole it has ever got: what a heading collects is moved into the output before another heading
begins. So the holes of a compiled document are the spans that its processors have put off, in the order
in which they have answered.
-/

namespace Mathdown

def Answer.ids : Answer → List PlaceholderId
  | .deferred id => [id]
  | _ => []

namespace Compile

theorem Act.tokens_ofEvent (options : CompilerOptions) (s : State) (answer : Answer)
    (event : Event) :
    (ofEvent options s answer event).filterMap token? =
      if (Question.ofEvent s event).isSome then answer.ids else [] := by
  cases event with
  | start tag => cases tag <;> rfl
  | stop tag =>
    cases tag with
    | codeBlock => cases answer <;> rfl
    | blockQuote =>
      simp only [ofEvent, leaving, Question.ofEvent]
      split <;> rfl
    | image =>
      simp only [ofEvent, leaving, Question.ofEvent]
      split <;> rfl
    | _ => rfl
  | text text =>
    simp only [ofEvent, showing, Question.ofEvent]
    split <;> try split
    all_goals rfl
  | code source =>
    simp only [ofEvent, showing, Question.ofEvent]
    split <;> rfl
  | math expression display =>
    simp only [ofEvent, Question.ofEvent]
    split
    · rfl
    · cases answer <;> rfl
  | softBreak =>
    simp only [ofEvent, Question.ofEvent]
    split <;> rfl
  | _ => rfl

variable {s : State} {d : Draft}

/-- An act adds the hole that it writes, unless it throws away what an open heading holds. -/
theorem Draft.holes_after (shown : s.Shows d) (act : Act)
    (fresh : ∀ level, act = .beginHeading level → s.heading = none) :
    (d.after s act).holes = d.holes ++ act.token?.toList := by
  cases act with
  | inline html =>
    simp only [after, Act.token?, Option.toList_none, List.append_nil]
    split
    · rfl
    · split <;> simp [holes, Template.holes]
  | token id =>
    simp only [after, Act.token?, Option.toList_some]
    split
    · simp [holes, Template.holes]
    · rename_i closed
      simp [holes, Template.holes, shown.outside (by simpa using closed)]
  | beginHeading level =>
    simp [after, holes, Template.holes, Act.token?, shown.outside (fresh level rfl)]
  | endHeading =>
    simp only [after, Act.token?, Option.toList_none, List.append_nil]
    split
    · rfl
    · simp [holes, Template.holes]
  | write html => simp [after, holes, Template.holes, Act.token?]
  | _ => simp [after, Act.token?]

theorem Draft.holes_afterAll (shown : s.Shows d) {acts : List Act}
    (keeps : ∀ act ∈ acts, act.keepsHeading = true) :
    (d.afterAll acts s).holes = d.holes ++ acts.filterMap Act.token? := by
  induction acts generalizing s d with
  | nil => simp [afterAll]
  | cons act rest ih =>
    have here := keeps act (List.mem_cons_self ..)
    have holes := d.holes_after shown act (by rintro level rfl; cases here)
    have others : ∀ other ∈ rest, other.keepsHeading = true :=
      fun other member => keeps other (List.mem_cons_of_mem act member)
    rw [afterAll, ih (shown.perform act) others, holes, List.append_assoc]
    cases written : act.token? <;> simp [written]

/-- An event adds the holes that its answer puts off, however deep in a heading they are. -/
theorem Draft.holes_ofEvent (shown : s.Shows d) {stack next : List Tag}
    (follows : s.Follows Event.noHeadingInHeading stack) (options : CompilerOptions)
    (answer : Answer) {event : Event}
    (opened : Event.stackAfter Event.noHeadingInHeading stack event = some next) :
    (d.afterAll (Act.ofEvent options s answer event) s).holes =
      d.holes ++ if (Question.ofEvent s event).isSome then answer.ids else [] := by
  rw [← Act.tokens_ofEvent options s answer event]
  rcases Act.ofEvent_cases options s answer event with
    ⟨level, rfl, acts⟩ | ⟨level, rfl, acts⟩ | ⟨-, keeps⟩
  · have closed := follows.heading_eq_none (fun _ _ admitted => admitted) opened
    rw [acts]
    exact d.holes_after shown (.beginHeading level) fun _ _ => closed
  · rw [acts]
    exact d.holes_after shown .endHeading fun _ other => nomatch other
  · exact d.holes_afterAll shown keeps

end Compile

namespace Compiler

open Compile (Act Draft Question State)

variable {σ : Type} {c : Compiler σ} {booked : σ → List PlaceholderId}

private theorem ids_answers_cons (c : Compiler σ) {event : Event} {events : List Event} {s : State}
    {w : σ} (shallow : ¬ tooDeep c.options.maxNesting s.depth event = true) :
    (c.answers (event :: events) s w).flatMap Answer.ids =
      (if (moment event s w).question?.isSome then
          (c.answerTo w (moment event s w).question?).1.ids else []) ++
        (c.answers events (c.next (moment event s w)).1 (c.next (moment event s w)).2).flatMap
          Answer.ids := by
  rw [answers_cons, if_neg shallow, List.flatMap_append]
  cases (moment event s w).question? <;> simp [answerTo]

/-- Where a run gets to, the spans that have been put off in it have become holes, in order. -/
theorem holes_run (c : Compiler σ) (events : List Event) {stack last : List Tag} {s : State} {d : Draft}
    {w : σ} (shown : s.Shows d) (follows : s.Follows Event.noHeadingInHeading stack)
    (nested : Event.nests Event.noHeadingInHeading stack events = some last)
    (compiled : (c.run events s w).1 = none) :
    ∃ d', (c.run events s w).2.1.Shows d' ∧
      (c.run events s w).2.1.Follows Event.noHeadingInHeading last ∧
      d'.holes = d.holes ++ (c.answers events s w).flatMap Answer.ids := by
  induction events generalizing stack s d w with
  | nil =>
    cases nested
    exact ⟨d, shown, follows, (List.append_nil _).symm⟩
  | cons event events ih =>
    rw [Event.nests_cons, Option.bind_eq_some_iff] at nested
    obtain ⟨_, opened, others⟩ := nested
    rw [run_cons] at compiled ⊢
    split at compiled
    · cases compiled
    · rename_i fits
      have deeper := shown.setDepth (depthAfter s.depth event)
      have further := follows.setDepth (depthAfter s.depth event)
      have here := d.holes_ofEvent deeper further c.options
        (c.answerTo w (moment event s w).question?).1 opened
      obtain ⟨d', left, behind, holes⟩ := ih (s := (c.next (moment event s w)).1)
        (by rw [state_next]; exact deeper.performAll _)
        (by rw [state_next]; exact further.performAll _ _ (fun _ _ admitted => admitted) opened)
        others compiled
      rw [if_neg fits, ids_answers_cons c fits, ← List.append_assoc]
      exact ⟨d', left, behind, holes.trans (congrArg (· ++ _) here)⟩

/--
The holes of a document whose elements nest, without headings in headings, are the spans that have
been put off while it was compiled, in order: none is lost, and none is there twice.
-/
theorem holes_compile_eq (c : Compiler σ) {events : List Event}
    (nested : Event.WellNested Event.noHeadingInHeading events) {w : σ} {document : CompiledDocument}
    (compiled : (c.compile events .initial w).1 = .ok document) :
    ∃ t : Template, document = ⟨t.text, t.spans⟩ ∧
      t.holes = (c.answers events .initial w).flatMap Answer.ids := by
  obtain ⟨succeeds, rfl⟩ := run_of_compile compiled
  obtain ⟨d, shown, follows, holes⟩ := c.holes_run events .initial .initial nested succeeds
  have closed : (c.run events .initial w).2.1.heading = none := by
    simpa using follows.heading
  refine ⟨d.output, by rw [shown.output, shown.spans], ?_⟩
  simpa [Draft.holes, shown.outside closed, Template.holes] using holes

/-- Whether the processors' state tells which spans they have put off. -/
def Books (c : Compiler σ) (booked : σ → List PlaceholderId) : Prop :=
  ∀ w question, (booked (c.answer w question).2).Perm (booked w ++ (c.answer w question).1.ids)

theorem Books.answerTo (books : c.Books booked) (w : σ) (question : Option Question) :
    (booked (c.answerTo w question).2).Perm
      (booked w ++ if question.isSome then (c.answerTo w question).1.ids else []) := by
  cases question with
  | none => simp [Compiler.answerTo]
  | some question => exact books w question

theorem Books.run (books : c.Books booked) (events : List Event) (s : State) (w : σ) :
    (booked (c.run events s w).2.2).Perm
      (booked w ++ (c.answers events s w).flatMap Answer.ids) := by
  induction events generalizing s w with
  | nil => exact .of_eq (List.append_nil _).symm
  | cons event events ih =>
    rw [run_cons]
    split
    · rename_i deep
      rw [answers_cons, if_pos deep]
      exact .of_eq (List.append_nil _).symm
    · rename_i shallow
      have here := books.answerTo w (moment event s w).question?
      rw [ids_answers_cons c shallow, ← List.append_assoc]
      refine (ih _ _).trans (List.Perm.append_right _ ?_)
      rwa [world_next]

/-- The holes of a compiled document are the spans that are booked behind it. -/
theorem holes_compile (books : c.Books booked) {events : List Event}
    (nested : Event.WellNested Event.noHeadingInHeading events) {w : σ} (unused : booked w = [])
    {document : CompiledDocument} (compiled : (c.compile events .initial w).1 = .ok document) :
    ∃ t : Template, document = ⟨t.text, t.spans⟩ ∧
      t.holes.Perm (booked (c.compile events .initial w).2.2) := by
  obtain ⟨t, shown, holes⟩ := c.holes_compile_eq nested compiled
  have put := books.run events .initial w
  rw [unused, List.nil_append] at put
  refine ⟨t, shown, ?_⟩
  rw [world_compile, holes]
  exact put.symm

end Compiler

end Mathdown
