import Mathdown.Render.Move
import Mathdown.Render.Run

/-!
Jobs that are awaited together, in rounds. Whoever waits for jobs may poll any of them in a round, in any
order and more than once, and it is up to a job's engine for how many polls the job is pending. A schedule
says both. The rounds of `Renderer.poll`, in which each job is polled once and in turn, are one schedule.
-/

namespace Mathdown

/-- How jobs are awaited together. -/
structure Schedule where
  /-- For how many polls a job is pending that its engine would have pending for some number of them. -/
  delay : PlaceholderId → (own : Nat) → Nat
  /-- The jobs that are polled in each round, in turn. -/
  round : Nat → List PlaceholderId

/-- For how many polls each job is pending. -/
abbrev Plan := PlaceholderId → Nat

namespace Schedule

/-- The jobs are pending for as long as planned. -/
def planned (plan : Plan) (round : Nat → List PlaceholderId) : Schedule := ⟨fun id _ => plan id, round⟩

/-- Each round polls all jobs, which are pending for as long as their engines have them. -/
def inTurn (ids : List PlaceholderId) : Schedule := ⟨fun _ own => own, fun _ => ids⟩

def polls (s : Schedule) : Nat → List PlaceholderId
  | 0 => []
  | n + 1 => s.polls n ++ s.round n

/-- How often a job has been polled after some rounds. -/
def count (s : Schedule) (id : PlaceholderId) (n : Nat) : Nat := (s.polls n).count id

theorem count_mono (s : Schedule) (id : PlaceholderId) {m n : Nat} (earlier : m ≤ n) :
    s.count id m ≤ s.count id n := by
  induction earlier with
  | refl => exact Nat.le_refl _
  | step _ ih =>
    refine Nat.le_trans ih ?_
    simp only [count, polls, List.count_append]
    exact Nat.le_add_right _ _

/-- What is relied on of whoever waits for jobs that are pending for as long as planned. -/
structure Drives (s : Schedule) (plan : Plan) (ids : List PlaceholderId) : Prop where
  /-- A job is polled again as long as it is pending. -/
  served : ∀ id ∈ ids, ∃ n, plan id < s.count id n
  /-- If no job is ever pending, the first round polls them all. -/
  prompt : (∀ id ∈ ids, plan id = 0) → ∀ id ∈ ids, id ∈ s.round 0

end Schedule

namespace Render

/-- What a job has found, and the key under which it is stored. -/
structure Finding where
  id : PlaceholderId
  key : Option Cache.Key
  outcome : Outcome

/-- What there is to tell of the jobs of a call. -/
structure Journal where
  started : List PlaceholderId := []
  found : List Finding := []

variable {γ ω ρ : Type}

namespace Slot

/-- Polls the job under an id, unless it is done. -/
def pollAt (step : ρ → ω → (ρ ⊕ String) × ω) (id : PlaceholderId) :
    List (Slot ρ) → ω → List (Slot ρ) × ω
  | [], w => ([], w)
  | s :: rest, w =>
    if s.id = id then
      let (s, w) := s.poll step w
      (s :: rest, w)
    else
      let (rest, w) := pollAt step id rest w
      (s :: rest, w)

/-- A round that polls the jobs under some ids in turn. -/
def pollEach (step : PlaceholderId → ρ → ω → (ρ ⊕ String) × ω) :
    List PlaceholderId → List (Slot ρ) → ω → List (Slot ρ) × ω
  | [], slots, w => (slots, w)
  | id :: ids, slots, w =>
    let (slots, w) := pollAt (step id) id slots w
    pollEach step ids slots w

end Slot

variable [Cache γ]

def Running.pollNoting (id : PlaceholderId) (job : Running ω) (w : World γ ω × Journal) :
    (Pending ω ⊕ String) × World γ ω × Journal :=
  match job.poll w.1 with
  | (.inl job, next) => (.inl (.started job), next, w.2)
  | (.inr html, next) =>
    let finding : Finding := ⟨id, job.key, (job.work.finish w.1.engines).1⟩
    (.inr html, next, { w.2 with found := w.2.found ++ [finding] })

/-- Polls a job on a schedule. Its first poll starts it. -/
def Pending.poll (fallback : FallbackEngine ω) (s : Schedule) (id : PlaceholderId) (task : Pending ω)
    (w : World γ ω × Journal) : (Pending ω ⊕ String) × World γ ω × Journal :=
  match task with
  | .waiting job =>
    let (running, next) := job.start fallback w.1
    let work := { running.work with delay := s.delay id running.work.delay }
    Running.pollNoting id { running with work } (next, { w.2 with started := w.2.started ++ [id] })
  | .started running => running.pollNoting id w

end Render

namespace Renderer

open Render

variable {γ ω : Type} [Cache γ]

/-- Goes on after a round: if every job is done, their results are spliced in. -/
def settle (document : CompiledDocument) (slots : List (Slot (Pending ω))) (key : Option Cache.Key)
    (w : World γ ω × Journal) : Stage ω × World γ ω × Journal :=
  match assemble? document slots with
  | none => (.working document slots key, w)
  | some html => (.done (.ok html), w.1.store key html, w.2)

def goOn (r : Renderer ω) (s : Schedule) (round : List PlaceholderId) (document : CompiledDocument)
    (slots : List (Slot (Pending ω))) (key : Option Cache.Key) (w : World γ ω × Journal) :
    Stage ω × World γ ω × Journal :=
  let (slots, w) := Slot.pollEach (Pending.poll r.engines.fallback s) round slots w
  settle document slots key w

/-- A round of a call. The first one compiles the document. -/
def pollOn (r : Renderer ω) (s : Schedule) (round : List PlaceholderId) (stage : Stage ω)
    (w : World γ ω × Journal) : Stage ω × World γ ω × Journal :=
  match stage with
  | .unstarted input overrides =>
    match r.begin input overrides w.1 with
    | (.inl result, next) => (.done result, next, w.2)
    | (.inr compiled, next) =>
      r.goOn s round compiled.document (compiled.jobs.map Slot.waiting) compiled.key (next, w.2)
  | .working document slots key => r.goOn s round document slots key w
  | .done result => (.done result, w)

/-- How far a call has come after some rounds. -/
def scheduled (r : Renderer ω) (input : String) (o : Overrides ω) (w : World γ ω) (s : Schedule) :
    Nat → Stage ω × World γ ω × Journal
  | 0 => (.unstarted input o, w, {})
  | n + 1 =>
    let (stage, w) := scheduled r input o w s n
    r.pollOn s (s.round n) stage w

/-- How far a call has come after some polls, each of which polls all of its jobs in turn. -/
def polled (r : Renderer ω) (call : Call ω) (w : World γ ω) : Nat → Call ω × World γ ω
  | 0 => (call, w)
  | n + 1 =>
    let (call, w) := polled r call w n
    r.poll call w

theorem polled_succ (r : Renderer ω) (call : Call ω) (w : World γ ω) (n : Nat) :
    r.polled call w (n + 1) = r.polled (r.poll call w).1 (r.poll call w).2 n := by
  induction n with
  | zero => rfl
  | succ n ih => exact congrArg (fun (config : Call ω × World γ ω) => r.poll config.1 config.2) ih

theorem exists_polled (r : Renderer ω) (call : Call ω) (w : World γ ω) :
    ∃ n, r.polled call w n = (.done (r.run call w).1, (r.run call w).2) := by
  fun_induction Renderer.run r call w with
  | case1 w result => exact ⟨0, rfl⟩
  | case2 w input overrides next ih =>
    obtain ⟨n, ended⟩ := ih
    exact ⟨n + 1, (r.polled_succ _ _ n).trans ended⟩
  | case3 w document slots key next ih =>
    obtain ⟨n, ended⟩ := ih
    exact ⟨n + 1, (r.polled_succ _ _ n).trans ended⟩

end Renderer

end Mathdown
