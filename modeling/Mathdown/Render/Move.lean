import Mathdown.Compile.Moment
import Mathdown.Render

/-!
Calls move by move. A call moves when it is compiled, when one of its jobs is started or polled, and
when the results of its jobs are spliced in. Several calls that share a world may move in any order,
of which polling in rounds is one.
-/

namespace Mathdown.Render

/-- A job that is not done. -/
inductive Pending (ω : Type) where
  | waiting (job : Job ω)
  | started (job : Running ω)

variable {γ ω : Type} [Cache γ]

/-- Starts the job, or polls it. -/
def Pending.advance (fallback : FallbackEngine ω) (task : Pending ω) (w : World γ ω) :
    (Pending ω ⊕ String) × World γ ω :=
  match task with
  | .waiting job =>
    let (job, w) := job.start fallback w
    (.inl (.started job), w)
  | .started job =>
    let (state, w) := job.poll w
    (state.map .started id, w)

theorem Pending.advance_of_delay_zero {job : Running ω} (done : job.work.delay = 0)
    (fallback : FallbackEngine ω) (w : World γ ω) :
    (started job).advance fallback w = (.inr (job.work.finish w.engines).1.html,
      let next : World γ ω := { w with engines := (job.work.finish w.engines).2 }
      if (job.work.finish w.engines).1.lasting then
        next.store job.key (job.work.finish w.engines).1.html
      else next) := by
  rw [advance, Running.poll_of_delay_zero done]
  rfl

theorem Pending.advance_of_delay_succ {job : Running ω} {n : Nat} (more : job.work.delay = n + 1)
    (fallback : FallbackEngine ω) (w : World γ ω) :
    (started job).advance fallback w =
      (.inl (.started { job with work := { job.work with delay := n } }), w) := by
  rw [advance, Running.poll_of_delay_succ more]
  rfl

/-- How far a call has come. -/
inductive Stage (ω : Type) where
  | unstarted (input : String) (overrides : Overrides ω)
  /-- Compiled, with jobs to do. -/
  | working (document : CompiledDocument) (slots : List (Slot (Pending ω))) (key : Option Cache.Key)
  | done (result : Except CompileError String)

def Slot.waiting (job : PlaceholderId × Job ω) : Slot (Pending ω) := ⟨job.1, .inl (.waiting job.2)⟩

/-- What follows the compile pass. -/
def Compiled.stage (c : Compiled ω) : Stage ω :=
  .working c.document (c.jobs.map Slot.waiting) c.key

/-- One move of a call. -/
inductive Move (r : Renderer ω) : Stage ω × World γ ω → Stage ω × World γ ω → Prop where
  /-- The call is answered without any job. -/
  | answer {input : String} {overrides : Overrides ω} {result : Except CompileError String}
      {w next : World γ ω} (passed : r.begin input overrides w = (.inl result, next)) :
      Move r (.unstarted input overrides, w) (.done result, next)
  | compile {input : String} {overrides : Overrides ω} {compiled : Compiled ω}
      {w next : World γ ω} (passed : r.begin input overrides w = (.inr compiled, next)) :
      Move r (.unstarted input overrides, w) (compiled.stage, next)
  /-- Any job that is not done goes on. -/
  | job {document : CompiledDocument} {key : Option Cache.Key} {id : PlaceholderId}
      {task : Pending ω} {state : Pending ω ⊕ String} {w next : World γ ω}
      (front back : List (Slot (Pending ω)))
      (advanced : task.advance r.engines.fallback w = (state, next)) :
      Move r (.working document (front ++ ⟨id, .inl task⟩ :: back) key, w)
        (.working document (front ++ ⟨id, state⟩ :: back) key, next)
  | splice {document : CompiledDocument} {slots : List (Slot (Pending ω))} {key : Option Cache.Key}
      {html : String} {w : World γ ω} (complete : assemble? document slots = some html) :
      Move r (.working document slots key, w) (.done (.ok html), w.store key html)

/-- One move of any one of several calls. -/
inductive Step (r : Renderer ω) :
    List (Stage ω) × World γ ω → List (Stage ω) × World γ ω → Prop where
  | move {stage later : Stage ω} {w next : World γ ω} (front back : List (Stage ω))
      (moved : Move r (stage, w) (later, next)) :
      Step r (front ++ stage :: back, w) (front ++ later :: back, next)

/-- What may be seen of the world that calls have got to, also while one of them is compiled. -/
inductive Met (r : Renderer ω) (stages : List (Stage ω)) (w : World γ ω) : World γ ω → Prop where
  | between : Met r stages w w
  /-- An event of a compile pass meets what the events before it have left. -/
  | within {input : String} {overrides : Overrides ω}
      (unstarted : .unstarted input overrides ∈ stages) {m : Compile.Moment (Pass γ ω)}
      (moment : m ∈ (r.compiler γ overrides).moments (r.events input overrides) .initial
        { world := (w.find? (r.resultKey input overrides)).2 }) :
      Met r stages w m.world.world

/-- One move of a call between whose moves anything may have been done to the world. -/
def MovesSomewhere (γ : Type) [Cache γ] (r : Renderer ω) (stage later : Stage ω) : Prop :=
  ∃ w next : World γ ω, Move r (stage, w) (later, next)

end Mathdown.Render
