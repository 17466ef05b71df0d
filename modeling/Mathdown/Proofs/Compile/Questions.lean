import Mathdown.Proofs.Compile.Depth

namespace Mathdown

namespace Compile

/-- What tells which questions are asked: the code block that is collected, and whether an image is. -/
def State.collected (s : State) : Option CodeCapture × Bool := (s.code, s.image.isSome)

def Act.collected (collected : Option CodeCapture × Bool) : Act → Option CodeCapture × Bool
  | .setCode code => (code, collected.2)
  | .setImage image => (collected.1, image.isSome)
  | _ => collected

theorem Act.collected_perform (act : Act) (s : State) :
    (act.perform s).collected = act.collected s.collected := by
  have leaves := act.leaves_perform s
  cases act with
  | setCode code | setImage image => rfl
  | _ => exact Prod.ext (leaves.code nofun) (leaves.image rfl)

theorem Act.collected_performAll (acts : List Act) (s : State) :
    (performAll acts s).collected = acts.foldl Act.collected s.collected := by
  induction acts generalizing s with
  | nil => rfl
  | cons act acts ih => rw [performAll_cons, ih, collected_perform, List.foldl_cons]

def collectedAfter (collected : Option CodeCapture × Bool) : Event → Option CodeCapture × Bool
  | .start (.codeBlock info) => (some ⟨info.bind Text.firstWord, ""⟩, collected.2)
  | .stop .codeBlock => (none, collected.2)
  | .start (.image _ _) => (collected.1, true)
  | .stop .image => (collected.1, false)
  | .text text =>
    (collected.1.map fun block => { block with source := block.source ++ text }, collected.2)
  | _ => collected

/-- An event leads from what is collected to what is collected, whatever it is answered. -/
theorem collected_ofEvent (options : CompilerOptions) (s : State) (answer : Answer) (event : Event) :
    (Act.performAll (Act.ofEvent options s answer event) s).collected =
      collectedAfter s.collected event := by
  rw [Act.collected_performAll]
  cases event with
  | start tag => cases tag <;> rfl
  | stop tag =>
    cases tag with
    | codeBlock => cases answer <;> rfl
    | blockQuote =>
      simp only [Act.ofEvent, Act.leaving]
      split <;> rfl
    | image =>
      simp only [Act.ofEvent, Act.leaving]
      split
      · rfl
      · rename_i outside
        simp [collectedAfter, State.collected, outside]
    | _ => rfl
  | text text =>
    simp only [Act.ofEvent, Act.showing]
    split
    · rename_i block held
      simp [collectedAfter, State.collected, held, Act.collected]
    · rename_i outside
      split <;> simp [collectedAfter, State.collected, outside, Act.collected]
  | code source =>
    simp only [Act.ofEvent, Act.showing]
    split <;> rfl
  | math expression display =>
    simp only [Act.ofEvent]
    split
    · rfl
    · cases answer <;> rfl
  | softBreak =>
    simp only [Act.ofEvent]
    split <;> rfl
  | _ => rfl

def Question.ofCollected (collected : Option CodeCapture × Bool) : Event → Option Question
  | .stop .codeBlock =>
    let block := collected.1.getD ⟨none, ""⟩
    some (.code block.language block.source)
  | .math expression display => if collected.2 then none else some (.math expression display)
  | _ => none

theorem Question.ofEvent_eq (s : State) (event : Event) :
    ofEvent s event = ofCollected s.collected event := by
  cases event with
  | stop tag => cases tag <;> rfl
  | _ => rfl

theorem question_eq_of_collected {s t : State} (same : s.collected = t.collected) (event : Event) :
    Question.ofEvent s event = Question.ofEvent t event := by
  rw [Question.ofEvent_eq, Question.ofEvent_eq, same]

/-- What events ask, by what is collected where they begin. -/
def askedIn : Option CodeCapture × Bool → List Event → List Question
  | _, [] => []
  | collected, event :: events =>
    (Question.ofCollected collected event).toList ++ askedIn (collectedAfter collected event) events

end Compile

namespace Compiler

open Compile (Act Moment Question State collected_ofEvent question_eq_of_collected)

variable {σ τ : Type}

theorem collected_step (c : Compiler σ) (event : Event) (s : State) (w : σ) :
    (c.step event s w).1.collected = Compile.collectedAfter s.collected event := by
  rw [step_eq]
  exact collected_ofEvent _ s _ event

theorem questions_eq (c : Compiler σ) (d : Compiler τ)
    (limit : c.options.maxNesting = d.options.maxNesting) (events : List Event) {s t : State}
    (depth : s.depth = t.depth) (collected : s.collected = t.collected) (w : σ) (v : τ) :
    c.questions events s w = d.questions events t v := by
  induction events generalizing s t w v with
  | nil => rfl
  | cons event events ih =>
    rw [questions_cons, questions_cons, limit, depth]
    split
    · rfl
    · have met : (moment event s w).state.collected = (moment event t v).state.collected := collected
      have asked : (moment event s w).question? = (moment event t v).question? :=
        question_eq_of_collected met event
      rw [asked]
      refine congrArg _ (ih ?_ ?_ _ _)
      · rw [next, next, depth_step, depth_step]
        exact congrArg (depthAfter · event) depth
      · rw [next, next, collected_step, collected_step]
        exact congrArg (Compile.collectedAfter · event) met

theorem questions_eq_askedIn (c : Compiler σ) {events : List Event} {s : State} {w : σ}
    (compiled : (c.run events s w).1 = none) :
    c.questions events s w = Compile.askedIn s.collected events := by
  induction events generalizing s w with
  | nil => rfl
  | cons event events ih =>
    rw [run_cons] at compiled
    split at compiled
    · cases compiled
    · rename_i shallow
      have asked : (moment event s w).question? = Question.ofCollected s.collected event :=
        Question.ofEvent_eq _ event
      have collected : (c.next (moment event s w)).1.collected =
          Compile.collectedAfter s.collected event :=
        c.collected_step event _ w
      rw [questions_cons, if_neg shallow, ih compiled, asked, collected]
      rfl

/-- Puts questions to the processors, one after the other. -/
def put (c : Compiler σ) : List Question → σ → List Answer × σ
  | [], w => ([], w)
  | question :: questions, w =>
    let (answer, w) := c.answer w question
    let (answers, w) := c.put questions w
    (answer :: answers, w)

/-- A run puts its questions to the processors, and nothing else happens to them. -/
theorem put_questions (c : Compiler σ) (events : List Event) (s : State) (w : σ) :
    c.put (c.questions events s w) w = (c.answers events s w, (c.run events s w).2.2) := by
  induction events generalizing s w with
  | nil => rfl
  | cons event events ih =>
    rw [questions_cons, answers_cons, run_cons]
    split
    · rfl
    · have later := ih (c.next (moment event s w)).1 (c.next (moment event s w)).2
      have left : (c.next (moment event s w)).2 = (c.answerTo w (moment event s w).question?).2 :=
        c.world_next _
      rw [left] at later ⊢
      revert later
      cases (moment event s w).question? with
      | none => exact id
      | some question =>
        exact congrArg fun left : List Answer × σ => ((c.answer w question).1 :: left.1, left.2)

theorem run_keeps_of_moments (c : Compiler σ) {holds : σ → Prop} (events : List Event) {s : State}
    {w : σ}
    (keeps : ∀ m ∈ c.moments events s w, ∀ question, m.question? = some question → holds m.world →
      holds (c.answer m.world question).2)
    (before : holds w) : holds (c.run events s w).2.2 := by
  induction events generalizing s w with
  | nil => exact before
  | cons event events ih =>
    rw [moments] at keeps
    rw [run_cons]
    split
    · exact before
    · rename_i shallow
      rw [if_neg shallow] at keeps
      obtain ⟨first, others⟩ := List.forall_mem_cons.mp keeps
      refine ih others ?_
      rw [world_next]
      cases asked : (moment event s w).question? with
      | none => exact before
      | some question => exact first question asked before

/-- What answers settle for good about their questions, a run settles about all that it asks. -/
theorem run_settles (c : Compiler σ) {settled : Question → σ → Prop}
    (settles : ∀ w question, settled question (c.answer w question).2)
    (keeps : ∀ w question other, settled other w → settled other (c.answer w question).2)
    (events : List Event) (s : State) (w : σ) :
    ∀ question ∈ c.questions events s w, settled question (c.run events s w).2.2 := by
  induction events generalizing s w with
  | nil => simp [questions, moments]
  | cons event events ih =>
    rw [questions_cons, run_cons]
    split
    · simp
    · intro question member
      rcases List.mem_append.mp member with here | later
      · have asked : (moment event s w).question? = some question := by simpa using here
        refine run_keeps (fun v other => keeps v other question) events _ ?_
        rw [world_next, asked]
        exact settles w question
      · exact ih _ _ question later

end Compiler

end Mathdown
