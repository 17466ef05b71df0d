import Mathdown.Compile.Act

/-!
The moments of a run. Each event that is processed is one, with the states of the compiler and of its
processors that the event meets. What a run asks and is answered, and which headings it finishes under
which ids, is read off its moments.
-/

namespace Mathdown.Compile

/-- An event that is processed, and what it meets. -/
structure Moment (σ : Type) where
  event : Event
  state : State
  world : σ

namespace Moment

variable {σ : Type}

def question? (m : Moment σ) : Option Question := Question.ofEvent m.state m.event

/-- The heading that the event finishes, if it finishes one. -/
def heading? (m : Moment σ) : Option HeadingCapture :=
  match m.event with
  | .stop (.heading _) => m.state.heading
  | _ => none

/-- The id that the event writes for the heading that it finishes. -/
def headingId? (m : Moment σ) : Option String :=
  m.heading?.map fun heading => (m.state.headingId heading.text).1

theorem heading?_eq_none {m : Moment σ} (other : ∀ level, m.event ≠ .stop (.heading level)) :
    m.heading? = none := by
  unfold heading?
  split
  · rename_i level closing
    exact absurd closing (other level)
  · rfl

end Moment

end Mathdown.Compile

namespace Mathdown.Compiler

open Compile (HeadingCapture Moment Question State)

variable {σ : Type}

def moment (event : Event) (s : State) (w : σ) : Moment σ :=
  ⟨event, { s with depth := depthAfter s.depth event }, w⟩

/-- The states that a moment leaves. -/
def next (c : Compiler σ) (m : Moment σ) : State × σ := c.step m.event m.state m.world

/-- The moments of a run, up to where it fails. -/
def moments (c : Compiler σ) : List Event → State → σ → List (Moment σ)
  | [], _, _ => []
  | event :: events, s, w =>
    if tooDeep c.options.maxNesting s.depth event then []
    else
      let m := moment event s w
      m :: moments c events (c.next m).1 (c.next m).2

/-- The moments of documents that are compiled in turn. -/
def momentsAll (c : Compiler σ) : List (List Event) → State → σ → List (Moment σ)
  | [], _, _ => []
  | events :: rest, s, w =>
    c.moments events s w ++
      momentsAll c rest (c.compile events s w).2.1 (c.compile events s w).2.2

/-- What the processors are asked in a run, in order. -/
def questions (c : Compiler σ) (events : List Event) (s : State) (w : σ) : List Question :=
  (c.moments events s w).filterMap Moment.question?

/-- What the processors answer in a run, in order. -/
def answers (c : Compiler σ) (events : List Event) (s : State) (w : σ) : List Answer :=
  (c.moments events s w).filterMap fun m => m.question?.map fun question =>
    (c.answer m.world question).1

/-- The headings that a run finishes, in order. -/
def headings (c : Compiler σ) (events : List Event) (s : State) (w : σ) : List HeadingCapture :=
  (c.moments events s w).filterMap Moment.heading?

/-- What a moment leaves is what the acts of its event make, by the answer to its question. -/
theorem state_next (c : Compiler σ) (m : Moment σ) :
    (c.next m).1 = Compile.Act.performAll
      (Compile.Act.ofEvent c.options m.state (c.answerTo m.world m.question?).1 m.event) m.state := by
  rw [next, step_eq]
  rfl

/-- What a moment leaves of the processors' state is what the answer leaves. -/
theorem world_next (c : Compiler σ) (m : Moment σ) :
    (c.next m).2 = (c.answerTo m.world m.question?).2 := by
  rw [next, step_eq]
  rfl

theorem run_cons (c : Compiler σ) (event : Event) (events : List Event) (s : State) (w : σ) :
    c.run (event :: events) s w =
      if tooDeep c.options.maxNesting s.depth event then
        (some (.nestingTooDeep c.options.maxNesting),
          { s with depth := depthAfter s.depth event }, w)
      else c.run events (c.next (moment event s w)).1 (c.next (moment event s w)).2 := rfl

theorem questions_cons (c : Compiler σ) (event : Event) (events : List Event) (s : State) (w : σ) :
    c.questions (event :: events) s w =
      if tooDeep c.options.maxNesting s.depth event then []
      else (moment event s w).question?.toList ++
        c.questions events (c.next (moment event s w)).1 (c.next (moment event s w)).2 := by
  unfold questions
  rw [moments]
  split
  · rfl
  · cases asked : (moment event s w).question? <;> simp [asked]

theorem answers_cons (c : Compiler σ) (event : Event) (events : List Event) (s : State) (w : σ) :
    c.answers (event :: events) s w =
      if tooDeep c.options.maxNesting s.depth event then []
      else ((moment event s w).question?.map fun question => (c.answer w question).1).toList ++
        c.answers events (c.next (moment event s w)).1 (c.next (moment event s w)).2 := by
  unfold answers
  rw [moments]
  split
  · rfl
  · cases asked : (moment event s w).question? <;> simp only [List.filterMap_cons, asked] <;> rfl

theorem headings_cons (c : Compiler σ) (event : Event) (events : List Event) (s : State) (w : σ) :
    c.headings (event :: events) s w =
      if tooDeep c.options.maxNesting s.depth event then []
      else (moment event s w).heading?.toList ++
        c.headings events (c.next (moment event s w)).1 (c.next (moment event s w)).2 := by
  unfold headings
  rw [moments]
  split
  · rfl
  · cases finished : (moment event s w).heading? <;> simp [finished]

/-- What there is to see of a run: how it ends, and what is asked and answered in it. -/
def seen (c : Compiler σ) (events : List Event) (s : State) (w : σ) :
    (Option CompileError × State × σ) × List Question × List Answer :=
  (c.run events s w, c.questions events s w, c.answers events s w)

theorem seen_cons (c : Compiler σ) (event : Event) (events : List Event) (s : State) (w : σ) :
    c.seen (event :: events) s w =
      if tooDeep c.options.maxNesting s.depth event then
        ((some (.nestingTooDeep c.options.maxNesting),
          { s with depth := depthAfter s.depth event }, w), [], [])
      else
        let asked := (moment event s w).question?.toList
        let later := c.seen events (c.next (moment event s w)).1 (c.next (moment event s w)).2
        (later.1, asked ++ later.2.1,
          asked.map (fun question => (c.answer w question).1) ++ later.2.2) := by
  unfold seen
  rw [run_cons, questions_cons, answers_cons]
  split
  · rfl
  · cases (moment event s w).question? <;> rfl

/-- Runs that are the same to see compile the same, and ask and are answered the same. -/
theorem compile_of_seen {c d : Compiler σ} {events events' : List Event} {s s' : State} {w w' : σ}
    (same : c.seen events s w = d.seen events' s' w') :
    c.compile events s w = d.compile events' s' w' ∧
      c.questions events s w = d.questions events' s' w' ∧
      c.answers events s w = d.answers events' s' w' := by
  simp only [seen, Prod.mk.injEq] at same
  obtain ⟨run, questions, answers⟩ := same
  exact ⟨by rw [compile, compile, run], questions, answers⟩

/-- Events behind others run where those have got to, if they have not failed. -/
theorem run_append (c : Compiler σ) (front back : List Event) (s : State) (w : σ) :
    c.run (front ++ back) s w =
      if (c.run front s w).1 = none then c.run back (c.run front s w).2.1 (c.run front s w).2.2
      else c.run front s w := by
  induction front generalizing s w with
  | nil => rfl
  | cons event front ih =>
    rw [List.cons_append, run_cons, run_cons]
    split
    · rfl
    · exact ih _ _

theorem run_cons_of_eq_none {c : Compiler σ} {event : Event} {events : List Event} {s : State} {w : σ}
    (compiled : (c.run (event :: events) s w).1 = none) :
    c.run (event :: events) s w =
      c.run events (c.next (moment event s w)).1 (c.next (moment event s w)).2 := by
  rw [run_cons] at compiled ⊢
  split at compiled
  · cases compiled
  · rename_i shallow
    rw [if_neg shallow]

theorem moments_append (c : Compiler σ) (front back : List Event) (s : State) (w : σ) :
    c.moments (front ++ back) s w = c.moments front s w ++
      if (c.run front s w).1 = none then
        c.moments back (c.run front s w).2.1 (c.run front s w).2.2
      else [] := by
  induction front generalizing s w with
  | nil => rfl
  | cons event front ih =>
    rw [List.cons_append, run_cons, moments, moments]
    split
    · rfl
    · exact congrArg _ (ih _ _)

end Mathdown.Compiler
