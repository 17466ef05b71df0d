import Mathlib
import Mathdown.Render.Move
import Mathdown.Render.Run

namespace Mathdown.Render

open Relation (ReflTransGen)

variable {γ ω : Type} [Cache γ]

def Slot.asPending (s : Slot (Running ω)) : Slot (Pending ω) :=
  ⟨s.id, s.state.map .started fun html => html⟩

/-- A call as it is polled, as a call as it moves. -/
def Call.stage : Call ω → Stage ω
  | .unstarted input overrides => .unstarted input overrides
  | .awaiting document slots key => .working document (slots.map Slot.asPending) key
  | .done result => .done result

theorem Slot.result?_asPending (s : Slot (Running ω)) : s.asPending.result? = s.result? := by
  obtain ⟨id, state⟩ := s
  cases state <;> rfl

theorem Slot.results?_asPending (slots : List (Slot (Running ω))) :
    Slot.results? (slots.map Slot.asPending) = Slot.results? slots := by
  have each : (fun (s : Slot (Pending ω)) => s.result?.map fun html => (s.id, html)) ∘ Slot.asPending =
      fun (s : Slot (Running ω)) => s.result?.map fun html => (s.id, html) := by
    funext s
    simp only [Function.comp_apply, result?_asPending]
    rfl
  rw [results?, List.mapM_map, each, results?]

variable {r : Renderer ω} {document : CompiledDocument} {key : Option Cache.Key}

private theorem moves_pollAll (front : List (Slot (Pending ω))) (slots : List (Slot (Running ω)))
    (w : World γ ω) :
    ReflTransGen (Move r) (.working document (front ++ slots.map Slot.asPending) key, w)
      (.working document (front ++ (Slot.pollAll Running.poll slots w).1.map Slot.asPending) key,
        (Slot.pollAll Running.poll slots w).2) := by
  induction slots generalizing front w with
  | nil => exact .refl
  | cons s rest ih =>
    have others := ih (front ++ [(s.poll Running.poll w).1.asPending]) (s.poll Running.poll w).2
    simp only [List.append_assoc, List.singleton_append] at others
    refine .trans ?_ others
    obtain ⟨id, state⟩ := s
    cases state with
    | inl job => exact .single (.job front (rest.map Slot.asPending) rfl)
    | inr html => exact .refl

private theorem moves_startAll (front : List (Slot (Pending ω))) (jobs : List (PlaceholderId × Job ω))
    (w : World γ ω) :
    ReflTransGen (Move r) (.working document (front ++ jobs.map Slot.waiting) key, w)
      (.working document
          (front ++ (Slot.startAll (Job.startAndPoll r.engines.fallback) jobs w).1.map Slot.asPending)
          key,
        (Slot.startAll (Job.startAndPoll r.engines.fallback) jobs w).2) := by
  induction jobs generalizing front w with
  | nil => exact .refl
  | cons first rest ih =>
    obtain ⟨id, job⟩ := first
    have others := ih (front ++ [Slot.asPending ⟨id, (job.startAndPoll r.engines.fallback w).1⟩])
      (job.startAndPoll r.engines.fallback w).2
    simp only [List.append_assoc, List.singleton_append] at others
    refine .head (.job front (rest.map Slot.waiting) rfl) (.head ?_ others)
    exact .job front (rest.map Slot.waiting) rfl

private theorem moves_conclude (slots : List (Slot (Running ω))) (w : World γ ω) :
    ReflTransGen (Move r) (.working document (slots.map Slot.asPending) key, w)
      ((Renderer.conclude document slots key w).1.stage,
        (Renderer.conclude document slots key w).2) := by
  simp only [Renderer.conclude]
  split
  · exact .refl
  · rename_i html complete
    refine .single (.splice ?_)
    simpa [assemble?, Slot.results?_asPending] using complete

theorem moves_poll (r : Renderer ω) (call : Call ω) (w : World γ ω) :
    ReflTransGen (Move r) (call.stage, w) ((r.poll call w).1.stage, (r.poll call w).2) := by
  cases call with
  | unstarted input overrides =>
    simp only [Renderer.poll]
    split
    · rename_i result next passed
      exact .single (.answer passed)
    · rename_i compiled next passed
      refine .head (.compile passed) (.trans ?_ (moves_conclude _ _))
      exact moves_startAll [] compiled.jobs next
  | awaiting document slots key =>
    exact .trans (moves_pollAll [] slots w) (moves_conclude _ _)
  | done result => exact .refl

theorem moves_run (r : Renderer ω) (call : Call ω) (w : World γ ω) :
    ReflTransGen (Move r) (call.stage, w) (.done (r.run call w).1, (r.run call w).2) := by
  fun_induction Renderer.run r call w with
  | case1 w result => exact .refl
  | case2 w input overrides next ih => exact (moves_poll r _ w).trans ih
  | case3 w document slots key next ih => exact (moves_poll r _ w).trans ih

namespace Stage

def isDone : Stage ω → Bool
  | .done _ => true
  | _ => false

def isUnstarted : Stage ω → Bool
  | .unstarted .. => true
  | _ => false

/-- Whether the job in a slot has not been started. -/
def isWaiting (s : Slot (Pending ω)) : Bool :=
  match s.state with
  | .inl (.waiting _) => true
  | _ => false

/-- How often the job in a slot may still be polled, once it has been started. -/
def polls (s : Slot (Pending ω)) : Nat :=
  match s.state with
  | .inl (.started job) => job.work.delay + 1
  | _ => 0

/-- How many jobs of the call have not been started. -/
def waiting : Stage ω → Nat
  | .working _ slots _ => slots.countP isWaiting
  | _ => 0

/-- How many moves of the call are left that start nothing. -/
def patience : Stage ω → Nat
  | .working _ slots _ => (slots.map polls).sum + 1
  | _ => 0

end Stage

private theorem exists_pending {slots : List (Slot (Pending ω))}
    (incomplete : Slot.results? slots = none) :
    ∃ front id task back, slots = front ++ ⟨id, .inl task⟩ :: back := by
  induction slots with
  | nil => simp [Slot.results?] at incomplete
  | cons s rest ih =>
    obtain ⟨id, state⟩ := s
    cases state with
    | inl task => exact ⟨[], id, task, rest, rfl⟩
    | inr html =>
      have others : Slot.results? rest = none := by
        cases found : Slot.results? rest with
        | none => rfl
        | some replacements => simp_all [Slot.results?, Slot.result?, List.mapM_cons]
      obtain ⟨front, id', task, back, rfl⟩ := ih others
      exact ⟨⟨id, .inr html⟩ :: front, id', task, back, rfl⟩

theorem exists_move (r : Renderer ω) {stage : Stage ω} (undone : stage.isDone = false)
    (w : World γ ω) : ∃ next, Move r (stage, w) next := by
  cases stage with
  | unstarted input overrides =>
    cases passed : r.begin input overrides w with
    | mk outcome next =>
      cases outcome with
      | inl result => exact ⟨_, .answer passed⟩
      | inr compiled => exact ⟨_, .compile passed⟩
  | working document slots key =>
    cases found : Slot.results? slots with
    | some replacements => exact ⟨_, .splice (by rw [assemble?, found]; rfl)⟩
    | none =>
      obtain ⟨front, id, task, back, rfl⟩ := exists_pending found
      exact ⟨_, .job front back rfl⟩
  | done result => cases undone

private theorem advance_descends (fallback : FallbackEngine ω) (id : PlaceholderId) (task : Pending ω)
    (w : World γ ω) :
    let later : Slot (Pending ω) := ⟨id, (task.advance fallback w).1⟩
    let slot : Slot (Pending ω) := ⟨id, .inl task⟩
    (Stage.isWaiting slot = true ∧ Stage.isWaiting later = false) ∨
      Stage.isWaiting later = Stage.isWaiting slot ∧ Stage.polls later < Stage.polls slot := by
  cases task with
  | waiting job => exact .inl ⟨rfl, rfl⟩
  | started job =>
    refine .inr ?_
    cases delay : job.work.delay with
    | zero =>
      simp [Pending.advance_of_delay_zero delay, Stage.isWaiting, Stage.polls]
    | succ n =>
      simp [Pending.advance_of_delay_succ delay, Stage.isWaiting, Stage.polls, delay]

private theorem move_descends {stage later : Stage ω} {w next : World γ ω}
    (moved : Move r (stage, w) (later, next)) :
    later.isUnstarted = false ∧
      (stage.isUnstarted = true ∨ later.waiting < stage.waiting ∨
        later.waiting = stage.waiting ∧ later.patience < stage.patience) := by
  cases moved with
  | answer passed => exact ⟨rfl, .inl rfl⟩
  | compile passed => exact ⟨rfl, .inl rfl⟩
  | job front back advanced =>
    rename_i document key id task state
    have nearer := advance_descends r.engines.fallback id task w
    simp only [advanced] at nearer
    refine ⟨rfl, .inr ?_⟩
    simp only [Stage.waiting, Stage.patience, List.countP_append, List.countP_cons, List.map_append,
      List.map_cons, List.sum_append, List.sum_cons]
    rcases nearer with ⟨before, after⟩ | ⟨same, fewer⟩
    · rw [before, after]
      simp
    · rw [same]
      omega
  | splice complete =>
    rename_i document slots key html
    refine ⟨rfl, .inr ?_⟩
    simp only [Stage.waiting, Stage.patience]
    omega

/-- How far calls are from their end: starts of calls and of jobs count before all else. -/
private def distance (stages : List (Stage ω)) : Nat × Nat × Nat :=
  (stages.countP Stage.isUnstarted, (stages.map Stage.waiting).sum, (stages.map Stage.patience).sum)

/-- No calls move for ever. -/
theorem wellFounded_step (γ : Type) [Cache γ] (r : Renderer ω) :
    WellFounded fun (later earlier : List (Stage ω) × World γ ω) => Step r earlier later := by
  have below : WellFounded fun (m n : Nat) => m < n := Nat.lt_wfRel.wf
  refine Subrelation.wf ?_ (InvImage.wf (fun config => distance config.1)
    (below.prod_lex (below.prod_lex below)))
  rintro _ _ ⟨front, back, moved⟩
  rename_i stage later w next
  obtain ⟨started, nearer⟩ := move_descends moved
  simp only [InvImage, distance, List.countP_append, List.countP_cons, List.map_append,
    List.map_cons, List.sum_append, List.sum_cons, started]
  rcases nearer with unstarted | waiting | ⟨same, patience⟩
  · exact .left _ _ (by simp [unstarted])
  · cases unstarted : stage.isUnstarted with
    | true => exact .left _ _ (by simp)
    | false => exact .right _ (.left _ _ (by omega))
  · cases unstarted : stage.isUnstarted with
    | true => exact .left _ _ (by simp)
    | false =>
      rw [same]
      exact .right _ (.right _ (by omega))

end Mathdown.Render
