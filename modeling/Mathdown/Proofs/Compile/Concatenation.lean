import Mathlib
import Mathdown.Compile.Moment
import Mathdown.Proofs.Compile.Spans

/-!
Events may be compiled in several goes. What a compiler has written is never looked at again, and what it
collects in an open heading, image or code block counts from its own beginning. So a cut between any two
events, whatever is open there, only moves the placeholders that are written behind it.
-/

namespace Mathdown

instance : Append CompiledDocument where
  append front back :=
    { html := front.html ++ back.html
      spans := front.spans ++ back.spans.map (·.shift front.html.utf8ByteSize) }

theorem CompiledDocument.append_eq (front back : CompiledDocument) :
    front ++ back = ⟨front.html ++ back.html,
      front.spans ++ back.spans.map (·.shift front.html.utf8ByteSize)⟩ := rfl

namespace Compile

theorem HeadingCapture.spansAt_add {heading : HeadingCapture} (base offset : Nat)
    (behind : ∀ span ∈ heading.spans, heading.lead ≤ span.start ∧ heading.lead ≤ span.stop) :
    heading.spansAt (offset + base) = (heading.spansAt base).map (·.shift offset) := by
  unfold spansAt
  rw [List.map_map]
  apply List.map_congr_left
  intro span member
  obtain ⟨start, stop⟩ := behind span member
  simp only [Function.comp_apply, PlaceholderSpan.shift, PlaceholderSpan.mk.injEq, true_and]
  omega

namespace State

def written (s : State) : CompiledDocument := ⟨s.output, s.spans⟩

/-- The state with a document in front of what it has written. -/
def behind (front : CompiledDocument) (s : State) : State :=
  { s with output := (front ++ s.written).html, spans := (front ++ s.written).spans }

variable {front : CompiledDocument} {s : State} {d : Draft}

theorem behind_written (s : State) :
    State.behind s.written { s with output := "", spans := [] } = s := by
  simp only [behind, written, CompiledDocument.append_eq, String.append_empty, List.map_nil,
    List.append_nil]

theorem write_behind (front : CompiledDocument) (s : State) (html : String) :
    (s.behind front).write html = (s.write html).behind front := by
  simp only [write, behind, written, CompiledDocument.append_eq, String.append_assoc]

theorem tokenAt_append (front html : String) (id : PlaceholderId) :
    tokenAt (front ++ html) id = (tokenAt html id).shift front.utf8ByteSize := by
  simp only [tokenAt, PlaceholderSpan.shift, PlaceholderSpan.mk.injEq, String.utf8ByteSize_append,
    true_and]
  omega

private theorem finishHeading_behind (shown : s.Shows d) :
    (s.behind front).finishHeading = s.finishHeading.behind front := by
  cases opened : s.heading with
  | none => simp only [finishHeading, behind, written, opened]
  | some heading =>
    have moved := HeadingCapture.spansAt_add
      (s.write (Html.headingStart heading.level (s.headingId heading.text).1)).output.utf8ByteSize
      front.html.utf8ByteSize fun span member => shown.lead_le opened member
    simp only [finishHeading, behind, written, opened, write, headingId, CompiledDocument.append_eq,
      String.append_assoc, String.utf8ByteSize_append, List.map_append, List.append_assoc] at moved ⊢
    rw [moved]

end State

namespace Act

variable {front : CompiledDocument} {s : State} {d : Draft}

theorem perform_behind (front : CompiledDocument) (shown : s.Shows d) (act : Act) :
    act.perform (s.behind front) = (act.perform s).behind front := by
  cases act with
  | write html => exact State.write_behind front s html
  | inline html =>
    change (s.behind front).writeInline html = (s.writeInline html).behind front
    have image : (s.behind front).image = s.image := rfl
    have heading : (s.behind front).heading = s.heading := rfl
    unfold State.writeInline
    rw [image, heading]
    cases s.image.isSome with
    | true => rfl
    | false =>
      cases s.heading with
      | none => exact State.write_behind front s html
      | some heading => rfl
  | token id =>
    change (s.behind front).writeToken id = (s.writeToken id).behind front
    have heading : (s.behind front).heading = s.heading := rfl
    unfold State.writeToken
    rw [heading]
    cases s.heading with
    | none =>
      simp only [State.behind, State.written, CompiledDocument.append_eq, State.tokenAt_append,
        String.append_assoc, List.map_append, List.map_singleton, List.append_assoc]
    | some heading => rfl
  | noteText text =>
    change (s.behind front).noteText text = (s.noteText text).behind front
    have heading : (s.behind front).heading = s.heading := rfl
    unfold State.noteText
    rw [heading]
    cases s.heading <;> rfl
  | noteAlt text =>
    change (s.behind front).noteAlt text = (s.noteAlt text).behind front
    have image : (s.behind front).image = s.image := rfl
    unfold State.noteAlt
    rw [image]
    cases s.image <;> rfl
  | endHeading => exact State.finishHeading_behind shown
  | _ => rfl

theorem performAll_behind (front : CompiledDocument) (shown : s.Shows d) (acts : List Act) :
    performAll acts (s.behind front) = (performAll acts s).behind front := by
  induction acts generalizing s d with
  | nil => rfl
  | cons act acts ih =>
    rw [performAll_cons, perform_behind front shown, ih (shown.perform act)]
    rfl

end Act

end Compile

namespace Compiler

open Compile (Act Draft Moment Question State)

variable {σ : Type}

/-- A step does the same behind a document, and asks the same. -/
theorem step_behind (c : Compiler σ) (front : CompiledDocument) {s : State}
    (shown : ∃ d, s.Shows d) (event : Event) (w : σ) :
    c.step event (s.behind front) w =
      ((c.step event s w).1.behind front, (c.step event s w).2) := by
  obtain ⟨d, shown⟩ := shown
  rw [step_eq, step_eq, ← Act.performAll_behind front shown]
  rfl

/-- And so does a run, however it ends. -/
theorem run_behind (c : Compiler σ) (front : CompiledDocument) {s : State}
    (shown : ∃ d, s.Shows d) (events : List Event) (w : σ) :
    c.run events (s.behind front) w =
        ((c.run events s w).1, (c.run events s w).2.1.behind front, (c.run events s w).2.2) ∧
      c.moments events (s.behind front) w =
        (c.moments events s w).map fun m => { m with state := m.state.behind front } := by
  induction events generalizing s w with
  | nil => exact ⟨rfl, rfl⟩
  | cons event events ih =>
    have deeper : ∃ d, (moment event s w).state.Shows d := by
      obtain ⟨d, shown⟩ := shown
      exact ⟨d, shown.setDepth _⟩
    have met : moment event (s.behind front) w =
        { moment event s w with state := (moment event s w).state.behind front } := rfl
    have next : c.next (moment event (s.behind front) w) =
        ((c.next (moment event s w)).1.behind front, (c.next (moment event s w)).2) := by
      rw [met]
      exact c.step_behind front deeper event w
    have depth : (s.behind front).depth = s.depth := rfl
    obtain ⟨ran, moments⟩ := ih (c.shows_step event w deeper) (c.next (moment event s w)).2
    rw [run_cons, run_cons, Compiler.moments, Compiler.moments, depth]
    split
    · exact ⟨rfl, rfl⟩
    · simp only [next]
      exact ⟨ran, congrArg (_ :: ·) moments⟩

/-- What is asked of the processors, and what they answer, is the same behind a document. -/
theorem questions_behind (c : Compiler σ) (front : CompiledDocument) {s : State}
    (shown : ∃ d, s.Shows d) (events : List Event) (w : σ) :
    c.questions events (s.behind front) w = c.questions events s w ∧
      c.answers events (s.behind front) w = c.answers events s w := by
  obtain ⟨-, moments⟩ := c.run_behind front shown events w
  unfold questions answers
  rw [moments, List.filterMap_map, List.filterMap_map]
  exact ⟨rfl, rfl⟩

/--
Compiling in two goes, whichever of them fails: the documents come one behind the other, and what a second
go that fails has written stays behind the first document.
-/
theorem compile_append (c : Compiler σ) {s : State} (shown : ∃ d, s.Shows d) (front back : List Event)
    (w : σ) :
    c.compile (front ++ back) s w =
      match c.compile front s w with
      | (.error error, s, w) => (.error error, s, w)
      | (.ok first, s, w) =>
        match c.compile back s w with
        | (.error error, s, w) => (.error error, s.behind first, w)
        | (.ok second, s, w) => (.ok (first ++ second), s, w) := by
  have left := c.shows_run front w shown
  have whole := c.run_append front back s w
  unfold compile
  rw [whole]
  generalize c.run front s w = ran at left
  obtain ⟨error, t, v⟩ := ran
  cases error with
  | some error => rfl
  | none =>
    simp only [if_true]
    obtain ⟨d, left⟩ := left
    obtain ⟨further, -⟩ := c.run_behind t.written ⟨_, left.taken⟩ back v
    rw [State.behind_written] at further
    rw [further]
    generalize c.run back { t with output := "", spans := [] } v = ran
    obtain ⟨error, t', v'⟩ := ran
    cases error <;> rfl

theorem questions_append (c : Compiler σ) {s : State} (shown : ∃ d, s.Shows d) {front : List Event}
    {w : σ} {first : CompiledDocument} (compiled : (c.compile front s w).1 = .ok first)
    (back : List Event) :
    let left := (c.compile front s w).2
    c.questions (front ++ back) s w = c.questions front s w ++ c.questions back left.1 left.2 ∧
      c.answers (front ++ back) s w = c.answers front s w ++ c.answers back left.1 left.2 := by
  have left := c.shows_run front w shown
  have moments := c.moments_append front back s w
  unfold compile at compiled ⊢
  generalize c.run front s w = ran at left moments compiled
  obtain ⟨error, t, v⟩ := ran
  cases error with
  | some error => cases compiled
  | none =>
    obtain ⟨d, left⟩ := left
    have asked := c.questions_behind t.written ⟨_, left.taken⟩ back v
    rw [State.behind_written] at asked
    rw [if_pos rfl] at moments
    intro left
    rw [← asked.1, ← asked.2]
    unfold questions answers
    rw [moments, List.filterMap_append, List.filterMap_append]
    exact ⟨rfl, rfl⟩

/-- The states that a compiler can be in after some documents, compiled or failed, where each of them may
have had processors of its own. -/
inductive Reachable : State → Prop
  | initial : Reachable .initial
  | compile {σ : Type} (c : Compiler σ) (events : List Event) (w : σ) {s : State}
    (reached : Reachable s) : Reachable (c.compile events s w).2.1

theorem Reachable.shows {s : State} (reached : Reachable s) : ∃ d, s.Shows d := by
  induction reached with
  | initial => exact ⟨{}, .initial⟩
  | compile c events w _ ih => exact (c.shows_compile events w ih).1

/--
Wherever the events of a document are cut in two, and whatever the compiler has compiled before: if the
whole can be compiled, then so can the parts in turn. Their HTML makes up that of the whole, and so do
their placeholders, those of the second part moved by the length of the first; the compiler and its
processors are left in the same states, and the processors are asked and answer the same.
-/
theorem compile_cut (c : Compiler σ) {s : State} (reached : Reachable s) {front back : List Event}
    {w : σ} {whole : CompiledDocument} (compiled : (c.compile (front ++ back) s w).1 = .ok whole) :
    let left := (c.compile front s w).2
    ∃ first second, (c.compile front s w).1 = .ok first ∧
      (c.compile back left.1 left.2).1 = .ok second ∧
      whole.html = first.html ++ second.html ∧
      whole.spans = first.spans ++ second.spans.map (·.shift first.html.utf8ByteSize) ∧
      (c.compile (front ++ back) s w).2 = (c.compile back left.1 left.2).2 ∧
      c.questions (front ++ back) s w = c.questions front s w ++ c.questions back left.1 left.2 ∧
      c.answers (front ++ back) s w = c.answers front s w ++ c.answers back left.1 left.2 := by
  intro left
  have parts := c.compile_append reached.shows front back w
  rcases begun : c.compile front s w with ⟨error | first, t, v⟩
  · rw [parts, begun] at compiled
    cases compiled
  · have ⟨asked, answered⟩ := c.questions_append reached.shows (congrArg Prod.fst begun) back
    have reaches : left = (t, v) := congrArg Prod.snd begun
    rw [begun] at parts asked answered
    rw [reaches]
    rcases ended : c.compile back t v with ⟨error | second, t', v'⟩
    · rw [parts] at compiled
      simp only [ended] at compiled
      cases compiled
    · simp only [ended] at parts
      rw [parts] at compiled ⊢
      cases compiled
      exact ⟨first, second, rfl, rfl, rfl, rfl, rfl, asked, answered⟩

/-- A cut in a heading that a document has left open which nests too deep. -/
theorem compile_cut_heading :
    let c : Compiler Nat :=
      ⟨{ maxNesting := 1 },
        { math := some fun n _ display =>
            if display then (.inline "é", n) else (.deferred ⟨.math, n⟩, n + 1) }⟩
    let failed : List Event := [.math "x" true, .start (.heading 1), .start .emphasis]
    let front : List Event := [.softBreak, .math "a" false]
    let back : List Event := [.math "b" true, .math "c" false, .stop (.heading 1), .math "d" false]
    let whole : CompiledDocument :=
      ⟨"é<h1 id=\"abc\"><span id=\"math-0\"></span>é<span id=\"math-1\"></span></h1>" ++
          "<span id=\"math-2\"></span>",
        [⟨⟨.math, 0⟩, 15, 40⟩, ⟨⟨.math, 1⟩, 42, 67⟩, ⟨⟨.math, 2⟩, 72, 97⟩]⟩
    let s := (c.compile failed .initial 0).2.1
    let left := (c.compile front s 0).2
    (c.compile (front ++ back) s 0).1 = .ok whole ∧
      ∃ first second, (c.compile front s 0).1 = .ok first ∧
        (c.compile back left.1 left.2).1 = .ok second ∧ whole.html = first.html ++ second.html ∧
        whole.spans = first.spans ++ second.spans.map (·.shift first.html.utf8ByteSize) := by
  intro c failed front back whole s left
  have compiled : (c.compile (front ++ back) s 0).1 = .ok whole := by cbv
  obtain ⟨first, second, begun, ended, html, spans, -⟩ := c.compile_cut (.compile c failed 0 .initial) compiled
  exact ⟨compiled, first, second, begun, ended, html, spans⟩

end Compiler

end Mathdown
