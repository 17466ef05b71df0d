import Mathdown.Markdown.Document
import Mathdown.Proofs.Compile.Limits

namespace Mathdown

namespace Compile

/-- Whether states have written the same and are collecting the same. -/
inductive State.WritesLike (s : State) : State → Prop
  | intro (depth : Nat) (table : TableCursor) (quotes : List (Option AlertKind))
      (slugs : Std.HashMap String Nat) : WritesLike s { s with depth, table, quotes, slugs }

namespace State.WritesLike

variable {s t : State}

theorem setDepth (like : s.WritesLike t) (depth depth' : Nat) :
    State.WritesLike { s with depth } { t with depth := depth' } := by
  obtain ⟨_, table, quotes, slugs⟩ := like
  exact .intro depth' table quotes slugs

/-- Only the end of a heading looks at more than what has been written and collected. -/
theorem perform (like : s.WritesLike t) {act : Act} (other : act ≠ .endHeading) :
    (act.perform s).WritesLike (act.perform t) := by
  obtain ⟨depth, table, quotes, slugs⟩ := like
  cases act with
  | endHeading => exact absurd rfl other
  | inline html =>
    simp only [Act.perform, State.writeInline]
    split
    · exact .intro depth table quotes slugs
    · split <;> exact .intro depth table quotes slugs
  | token id =>
    simp only [Act.perform, State.writeToken]
    split <;> exact .intro depth table quotes slugs
  | noteText text =>
    simp only [Act.perform, State.noteText]
    split <;> exact .intro depth table quotes slugs
  | noteAlt text =>
    simp only [Act.perform, State.noteAlt]
    split <;> exact .intro depth table quotes slugs
  | _ => exact .intro depth _ _ slugs

theorem performAll {acts : List Act} (others : ∀ act ∈ acts, act ≠ .endHeading)
    (like : s.WritesLike t) : (Act.performAll acts s).WritesLike (Act.performAll acts t) := by
  induction acts generalizing s t with
  | nil => exact like
  | cons act acts ih =>
    obtain ⟨here, later⟩ := List.forall_mem_cons.mp others
    exact ih later (like.perform here)

theorem acts_eq (like : s.WritesLike t) {event : Event} (plain : event.isLeaf = true)
    (options : CompilerOptions) (answer : Answer) :
    Question.ofEvent t event = Question.ofEvent s event ∧
      Act.ofEvent options t answer event = Act.ofEvent options s answer event := by
  obtain ⟨depth, table, quotes, slugs⟩ := like
  cases event with
  | start tag | stop tag => cases plain
  | _ => exact ⟨rfl, rfl⟩

end State.WritesLike

end Compile

namespace Compiler

open Compile (Act State)

variable {σ : Type}

theorem step_leaf (c : Compiler σ) {event : Event} (plain : event.isLeaf = true) {s t : State}
    (like : s.WritesLike t) (w : σ) :
    (c.step event s w).1.WritesLike (c.step event t w).1 ∧
      (c.step event t w).2 = (c.step event s w).2 := by
  rw [step_eq, step_eq, (like.acts_eq plain c.options .passThrough).1, (like.acts_eq plain _ _).2]
  refine ⟨State.WritesLike.performAll (fun act member => ?_) like, rfl⟩
  rintro rfl
  cases Act.due_of_mem_ofEvent member with
  | plain event plain => cases plain
  | endHeading level => cases plain

/--
Events that enter and leave nothing are never rejected, and do the same wherever the same has been written
and collected.
-/
theorem run_leaves (c : Compiler σ) {events : List Event} (plain : ∀ event ∈ events, event.isLeaf = true)
    {s t : State} (like : s.WritesLike t) (w : σ) :
    (c.run events s w).1 = none ∧ (c.run events t w).1 = none ∧
      (c.run events s w).2.1.WritesLike (c.run events t w).2.1 ∧
      (c.run events t w).2.2 = (c.run events s w).2.2 := by
  induction events generalizing s t w with
  | nil => exact ⟨rfl, rfl, like, rfl⟩
  | cons event events ih =>
    obtain ⟨here, later⟩ := List.forall_mem_cons.mp plain
    have shallow (depth : Nat) : ¬ tooDeep c.options.maxNesting depth event = true := by
      cases event with
      | start tag => cases here
      | _ => exact Bool.false_ne_true
    obtain ⟨further, same⟩ := c.step_leaf here
      (like.setDepth (depthAfter s.depth event) (depthAfter t.depth event)) w
    rw [run_cons, run_cons, if_neg (shallow _), if_neg (shallow _)]
    have left : (c.next (moment event t w)).2 = (c.next (moment event s w)).2 := same
    rw [left]
    exact ih later further _

theorem compile_leaves (c : Compiler σ) {events : List Event}
    (plain : ∀ event ∈ events, event.isLeaf = true) {s t : State} (like : s.WritesLike t) (w : σ) :
    (∃ document, (c.compile events s w).1 = .ok document) ∧
      (c.compile events t w).1 = (c.compile events s w).1 := by
  obtain ⟨succeeds, succeeds', written, -⟩ := c.run_leaves plain like w
  unfold compile
  revert succeeds succeeds' written
  rcases c.run events s w with ⟨error, s', v⟩
  rcases c.run events t w with ⟨error', t', v'⟩
  rintro rfl rfl ⟨depth, table, quotes, slugs⟩
  exact ⟨⟨_, rfl⟩, rfl⟩

/-- What rejects a document is the start of an element, behind events that are not rejected. -/
theorem exists_of_nestingError {limit depth : Nat} {events : List Event} {e : CompileError}
    (rejected : nestingError limit depth events = some e) :
    ∃ before tag behind, events = before ++ .start tag :: behind ∧
      nestingError limit depth before = none ∧ limit < before.foldl depthAfter depth + 1 := by
  induction events generalizing depth with
  | nil => cases rejected
  | cons event events ih =>
    rw [nestingError] at rejected
    split at rejected
    · rename_i deep
      cases event with
      | start tag => exact ⟨[], tag, events, rfl, rfl, of_decide_eq_true deep⟩
      | _ => cases deep
    · rename_i shallow
      obtain ⟨before, tag, behind, rfl, free, deep⟩ := ih rejected
      refine ⟨event :: before, tag, behind, rfl, ?_, deep⟩
      rw [nestingError, if_neg shallow]
      exact free

/-- The state behind a rejected document is that before the element that rejects it, but deeper. -/
theorem compile_rejected (c : Compiler σ) {before : List Event} {tag : Tag} {s : State} {w : σ}
    (free : (c.run before s w).1 = none)
    (deep : c.options.maxNesting < (c.run before s w).2.1.depth + 1) (behind : List Event) :
    c.compile (before ++ .start tag :: behind) s w =
      (.error (.nestingTooDeep c.options.maxNesting),
        { (c.run before s w).2.1 with depth := (c.run before s w).2.1.depth + 1 },
        (c.run before s w).2.2) := by
  have beyond : tooDeep c.options.maxNesting (c.run before s w).2.1.depth (.start tag) = true :=
    decide_eq_true deep
  rw [compile, run_append, if_pos free, run_cons, if_pos beyond]
  rfl

theorem exists_of_rejected (c : Compiler σ) {events : List Event} {s : State} {w : σ}
    {e : CompileError} (fails : (c.compile events s w).1 = .error e) :
    e = .nestingTooDeep c.options.maxNesting ∧
      ∃ before tag behind, events = before ++ .start tag :: behind ∧ (c.run before s w).1 = none ∧
        c.options.maxNesting < (c.run before s w).2.1.depth + 1 := by
  have error := (c.compile_error_iff events s w e).mp fails
  obtain ⟨before, tag, behind, cut, free, deep⟩ := exists_of_nestingError error
  have succeeds : (c.run before s w).1 = none := (c.run_error before s w).trans free
  refine ⟨eq_of_nestingError error, before, tag, behind, cut, succeeds, ?_⟩
  rw [c.depth_run succeeds]
  exact deep

theorem depth_rejected (c : Compiler σ) {events : List Event} {s : State} {w : σ} {e : CompileError}
    (fails : (c.compile events s w).1 = .error e) :
    c.options.maxNesting < (c.compile events s w).2.1.depth := by
  obtain ⟨-, before, tag, behind, rfl, free, deep⟩ := c.exists_of_rejected fails
  rw [c.compile_rejected free deep behind]
  exact deep

theorem nestingError_beyond {admits : Event.Admission} {limit depth : Nat} (beyond : limit < depth + 1)
    {events : List Event} {last : List Tag} (nested : Event.nests admits [] events = some last) :
    nestingError limit depth events =
      if events.all Event.isLeaf then none else some (.nestingTooDeep limit) := by
  induction events with
  | nil => rfl
  | cons event events ih =>
    rw [Event.nests_cons, Option.bind_eq_some_iff] at nested
    obtain ⟨next, opened, others⟩ := nested
    cases event with
    | start tag =>
      have deep : tooDeep limit depth (.start tag) = true := decide_eq_true beyond
      rw [nestingError, if_pos deep]
      rfl
    | stop closing =>
      -- Nothing is open that could be left.
      cases opened
    | _ =>
      cases opened
      exact ih others

/-- There, a document whose elements nest is compiled just if it has none, and what follows is there. -/
theorem compile_beyond (c : Compiler σ) {events : List Event}
    (nested : Event.WellNested Event.freely events) {s : State} (beyond : c.options.maxNesting < s.depth)
    (w : σ) :
    (c.compile events s w).1.isOk = events.all Event.isLeaf ∧
      c.options.maxNesting < (c.compile events s w).2.1.depth := by
  have error := nestingError_beyond (Nat.lt_succ_of_lt beyond) nested
  rw [← c.run_error events s w] at error
  by_cases plain : events.all Event.isLeaf = true
  · rw [if_pos plain] at error
    have level := foldl_depthAfter nested (Nat.zero_le s.depth)
    rw [← c.depth_run error] at level
    rw [plain, compile]
    revert error level
    rcases c.run events s w with ⟨error, t, v⟩
    rintro rfl level
    exact ⟨rfl, Nat.lt_of_lt_of_eq beyond level.symm⟩
  · rw [if_neg plain, c.run_error, ← compile_error_iff c events s w] at error
    refine ⟨?_, c.depth_rejected error⟩
    rw [error, Bool.eq_false_iff.mpr plain]
    rfl

theorem compileAll_beyond (c : Compiler σ) {documents : List (List Event)}
    (nested : ∀ events ∈ documents, Event.WellNested Event.freely events) {s : State}
    (beyond : c.options.maxNesting < s.depth) (w : σ) :
    (c.compileAll documents s w).1.map Except.isOk =
      documents.map fun events => events.all Event.isLeaf := by
  induction documents generalizing s w with
  | nil => rfl
  | cons events rest ih =>
    obtain ⟨here, others⟩ := List.forall_mem_cons.mp nested
    obtain ⟨compiled, further⟩ := c.compile_beyond here beyond w
    rw [compileAll, List.map_cons, List.map_cons, ← compiled, ← ih others further]

private theorem writesLike_of_alone {c : Compiler σ} {s : State} {w : σ}
    (alone : ∀ next : List Event, (∀ event ∈ next, event.isLeaf = true) →
      (c.compile next s w).1 = (c.compile next .initial w).1) : State.initial.WritesLike s := by
  have ruled : (.ok ⟨s.output ++ Html.rule, s.spans⟩ : Except CompileError CompiledDocument) =
      .ok ⟨"" ++ Html.rule, []⟩ := alone [.rule] (by simp [Event.isLeaf])
  have noted : (c.compile [.text "a"] s w).1 = .ok ⟨"" ++ Text.escapeHtml "a", []⟩ :=
    alone [.text "a"] (by simp [Event.isLeaf])
  have lost : (.ok ⟨"", []⟩ : Except CompileError CompiledDocument) ≠
      .ok ⟨"" ++ Text.escapeHtml "a", []⟩ :=
    fun same => absurd (congrArg CompiledDocument.html (Except.ok.inj same)) (by decide)
  simp only [Except.ok.injEq, CompiledDocument.mk.injEq, String.append_left_inj] at ruled
  obtain ⟨output, spans, depth, code, image, heading, table, quotes, slugs⟩ := s
  obtain ⟨rfl, rfl⟩ := ruled
  -- What is being collected would keep the letter.
  cases code with
  | some block => exact absurd noted lost
  | none =>
    cases image with
    | some image => exact absurd noted lost
    | none =>
      cases heading with
      | some heading => exact absurd noted lost
      | none => exact .intro depth table quotes slugs

/--
A rejected document has been compiled up to the element that rejects it. Of the documents that come next,
however little their elements nest, all that have one are rejected, now and later on. Those that have
none are compiled, but the first of them as the rest of the rejected document; it comes out alone just if
that has not written anything and is not collecting anything.
-/
theorem compile_after_rejection (c : Compiler σ) {rejected : List Event} {w : σ} {e : CompileError}
    (fails : (c.compile rejected .initial w).1 = .error e) :
    let left := (c.compile rejected .initial w).2
    ∃ before tag behind, rejected = before ++ .start tag :: behind ∧
      (∃ read, (c.compile before .initial w).1 = .ok read) ∧
      (c.compile (before ++ [.start tag]) .initial w).1 = .error e ∧
      (∀ next, Event.WellNested Event.freely next →
        if next.all Event.isLeaf then
          (∃ document, (c.compile next left.1 left.2).1 = .ok document) ∧
            (c.compile next left.1 left.2).1 = (c.compile (before ++ next) .initial w).1
        else (c.compile next left.1 left.2).1 = .error e) ∧
      (∀ documents, (∀ next ∈ documents, Event.WellNested Event.freely next) →
        (c.compileAll documents left.1 left.2).1.map Except.isOk =
          documents.map fun next => next.all Event.isLeaf) ∧
      ((∀ next : List Event, next.all Event.isLeaf = true →
          (c.compile next left.1 left.2).1 = (c.compile next .initial left.2).1) ↔
        State.initial.WritesLike (c.run before .initial w).2.1) := by
  intro left
  obtain ⟨rfl, before, tag, behind, rfl, succeeds, beyond⟩ := c.exists_of_rejected fails
  have reached : left = ({ (c.run before .initial w).2.1 with
      depth := (c.run before .initial w).2.1.depth + 1 }, (c.run before .initial w).2.2) :=
    congrArg Prod.snd (c.compile_rejected succeeds beyond behind)
  -- What is left differs from what `before` leaves in its depth only.
  have like : (c.run before .initial w).2.1.WritesLike left.1 := by
    rw [reached]
    exact .intro _ _ _ _
  have cut : (c.compile (before ++ [.start tag]) .initial w).1 =
      .error (.nestingTooDeep c.options.maxNesting) :=
    congrArg Prod.fst (c.compile_rejected succeeds beyond [])
  have goesOn (next : List Event) : (c.compile (before ++ next) .initial w).1 =
      (c.compile next (c.run before .initial w).2.1 (c.run before .initial w).2.2).1 := by
    rw [compile, compile, c.run_append, if_pos succeeds]
  have worlds : left.2 = (c.run before .initial w).2.2 := by rw [reached]
  have deeper := c.depth_rejected fails
  refine ⟨before, tag, behind, rfl, ?_, cut, fun next nested => ?_,
    fun documents nested => c.compileAll_beyond nested deeper left.2, ?_⟩
  · obtain ⟨⟨read, ends⟩, -⟩ := c.compile_leaves (List.forall_mem_nil _) like left.2
    refine ⟨read, ?_⟩
    rw [← List.append_nil before, goesOn, ← worlds]
    exact ends
  · by_cases plain : next.all Event.isLeaf = true
    · obtain ⟨⟨document, compiled⟩, same⟩ :=
        c.compile_leaves (List.all_eq_true.mp plain) like left.2
      rw [if_pos plain, same, goesOn, ← worlds]
      exact ⟨⟨document, compiled⟩, rfl⟩
    · have error := nestingError_beyond (Nat.lt_succ_of_lt deeper) nested
      rw [if_neg plain, compile_error_iff, error, if_neg plain]
  · constructor
    · intro alone
      have own := writesLike_of_alone fun next plain => alone next (List.all_eq_true.mpr plain)
      rw [reached] at own
      exact own.setDepth _ _
    · intro silent next plain
      have own : State.initial.WritesLike left.1 := by
        rw [reached]
        exact silent.setDepth 0 _
      exact (c.compile_leaves (List.all_eq_true.mp plain) own left.2).2

/-- A compiler that allows of no element in another. -/
def flat : Compiler Unit := ⟨{ maxNesting := 1 }, {}⟩

def quoteInQuote : List Event := Markdown.events ⟨true, true⟩ "> > a"

private theorem quoteInQuote_eq : quoteInQuote = [.start (.blockQuote none),
    .start (.blockQuote none), .start .paragraph, .text "a", .stop .paragraph, .stop .blockQuote,
    .stop .blockQuote] := by
  decide +kernel

/-- Behind a quote in a quote that is too deep, a rule can still be compiled, but no paragraph. -/
theorem compile_after_rejection_quote :
    let left := (flat.compile quoteInQuote .initial ()).2
    (flat.compile quoteInQuote .initial ()).1 = .error (.nestingTooDeep 1) ∧
      (∃ document, (flat.compile [.rule] left.1 left.2).1 = .ok document) ∧
      (flat.compile [.start .paragraph, .text "b", .stop .paragraph] left.1 left.2).1 =
        .error (.nestingTooDeep 1) := by
  intro left
  have fails : (flat.compile quoteInQuote .initial ()).1 = .error (.nestingTooDeep 1) := by
    rw [quoteInQuote_eq]
    rfl
  obtain ⟨before, tag, behind, -, -, -, nexts, -, -⟩ := flat.compile_after_rejection fails
  exact ⟨fails, (nexts [.rule] rfl).1, nexts [.start .paragraph, .text "b", .stop .paragraph] rfl⟩

/-- A paragraph within the limit is rejected there, and a rule comes out behind the outer quote. -/
theorem compile_after_rejection_paragraph :
    let paragraph := Markdown.events ⟨true, true⟩ "b"
    let rule := Markdown.events ⟨true, true⟩ "---"
    let left := (flat.compile quoteInQuote .initial ()).2
    (flat.compile quoteInQuote .initial ()).1 = .error (.nestingTooDeep 1) ∧
      (Event.WellNested Event.freely paragraph ∧ Event.Height flat.options.maxNesting paragraph ∧
        (flat.compile paragraph left.1 left.2).1 = .error (.nestingTooDeep 1) ∧
        (flat.compile paragraph .initial left.2).1 = .ok ⟨"<p>b</p>", []⟩) ∧
      Event.WellNested Event.freely rule ∧
        (flat.compile rule left.1 left.2).1 = .ok ⟨"<blockquote><hr>", []⟩ ∧
        (flat.compile rule .initial left.2).1 = .ok ⟨"<hr>", []⟩ := by
  intro paragraph rule left
  have readParagraph : paragraph = [.start .paragraph, .text "b", .stop .paragraph] := by
    decide +kernel
  have readRule : rule = [.rule] := by decide +kernel
  have reached : left = ({ output := "<blockquote>", depth := 2, quotes := [none] }, ()) := by
    change (flat.compile quoteInQuote .initial ()).2 = _
    rw [quoteInQuote_eq]
    rfl
  have letter : Event.Height 0 [.text "b"] := .leaf rfl .nil
  have height : Event.Height 1 [.start .paragraph, .text "b", .stop .paragraph] :=
    .element .paragraph letter .nil
  rw [readParagraph, readRule, reached, quoteInQuote_eq]
  dsimp only
  exact ⟨rfl, ⟨rfl, height, rfl, by cbv⟩, rfl, by cbv, by cbv⟩

end Compiler

end Mathdown
