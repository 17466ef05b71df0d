import Mathdown.Proofs.Render.Simulation
import Mathdown.Render.Run

namespace Mathdown

namespace Render

section Rounds

variable {τ τ' ρ ρ' W W' : Type} {queued : τ → τ' → Prop} {jobs : ρ → ρ' → Prop}
  {kin : W → W' → Prop} {w : W} {w' : W'}

theorem Slot.pollAll_kin {step : ρ → W → (ρ ⊕ String) × W} {step' : ρ' → W' → (ρ' ⊕ String) × W'}
    (polled : ∀ {job job' w w'}, jobs job job' → kin w w' →
      Sum.LiftRel jobs (· = ·) (step job w).1 (step' job' w').1 ∧
        kin (step job w).2 (step' job' w').2)
    {slots : List (Slot ρ)} {slots' : List (Slot ρ')}
    (same : List.Forall₂ (Slot.Kin jobs) slots slots') (worlds : kin w w') :
    List.Forall₂ (Slot.Kin jobs) (pollAll step slots w).1 (pollAll step' slots' w').1 ∧
      kin (pollAll step slots w).2 (pollAll step' slots' w').2 := by
  induction same generalizing w w' with
  | nil => exact ⟨.nil, worlds⟩
  | @cons slot slot' _ _ first _ ih =>
    have head : (slot.poll step w).1.Kin jobs (slot'.poll step' w').1 ∧
        kin (slot.poll step w).2 (slot'.poll step' w').2 := by
      obtain ⟨id, state⟩ := slot
      obtain ⟨id', state'⟩ := slot'
      obtain ⟨ids, states⟩ := first
      cases states with
      | inl job =>
        obtain ⟨states, worlds⟩ := polled job worlds
        exact ⟨⟨ids, states⟩, worlds⟩
      | inr result => exact ⟨⟨ids, .inr result⟩, worlds⟩
    obtain ⟨tail, worlds⟩ := ih head.2
    exact ⟨.cons head.1 tail, worlds⟩

theorem Slot.startAll_kin {start : τ → W → (ρ ⊕ String) × W}
    {start' : τ' → W' → (ρ' ⊕ String) × W'}
    (started : ∀ {job job' w w'}, queued job job' → kin w w' →
      Sum.LiftRel jobs (· = ·) (start job w).1 (start' job' w').1 ∧
        kin (start job w).2 (start' job' w').2)
    {tasks : List (PlaceholderId × τ)} {tasks' : List (PlaceholderId × τ')}
    (same : List.Forall₂ (fun task task' => task.1 = task'.1 ∧ queued task.2 task'.2) tasks tasks')
    (worlds : kin w w') :
    List.Forall₂ (Slot.Kin jobs) (startAll start tasks w).1 (startAll start' tasks' w').1 ∧
      kin (startAll start tasks w).2 (startAll start' tasks' w').2 := by
  induction same generalizing w w' with
  | nil => exact ⟨.nil, worlds⟩
  | cons first _ ih =>
    obtain ⟨ids, job⟩ := first
    obtain ⟨states, worlds⟩ := started job worlds
    obtain ⟨tail, worlds⟩ := ih worlds
    exact ⟨.cons ⟨ids, states⟩ tail, worlds⟩

end Rounds

variable {ω ω' : Type} {related : ω → ω' → Prop} {uses : Cache.Key → Prop}

theorem Job.Kin.startAndPoll {γ γ' : Type} [Cache γ] [Cache γ'] {kin : γ → γ' → Prop}
    (sim : Cache.Simulation uses kin) {fallback : FallbackEngine ω} {fallback' : FallbackEngine ω'}
    (draws : fallback.Alike related fallback') {job : Job ω} {job' : Job ω'}
    (jobs : job.Kin uses related job') {w : World γ ω} {w' : World γ' ω'}
    (worlds : w.Kin kin related w') :
    Sum.LiftRel (Running.Kin uses related) (· = ·) (job.startAndPoll fallback w).1
        (job'.startAndPoll fallback' w').1 ∧
      (job.startAndPoll fallback w).2.Kin kin related (job'.startAndPoll fallback' w').2 := by
  obtain ⟨started, worlds⟩ := jobs.start draws worlds
  exact started.poll sim worlds

/-- Whether calls of two renderers are as far as each other, with no keys but those in use. -/
inductive Call.Kin (r : Renderer ω) (uses : Cache.Key → Prop) (related : ω → ω' → Prop) :
    Call ω → Call ω' → Prop where
  | unstarted (input : String) {o : Overrides ω} {o' : Overrides ω'} (alike : o.Alike related o')
      (covered : ∀ key, (r.layers o).covers key = true → uses key) :
      Kin r uses related (.unstarted input o) (.unstarted input o')
  | awaiting (document : CompiledDocument) {slots : List (Slot (Running ω))}
      {slots' : List (Slot (Running ω'))} {key : Option Cache.Key} (used : ∀ k ∈ key, uses k)
      (same : List.Forall₂ (Slot.Kin (Running.Kin uses related)) slots slots') :
      Kin r uses related (.awaiting document slots key) (.awaiting document slots' key)
  | done (result : Except CompileError String) : Kin r uses related (.done result) (.done result)

end Render

namespace Renderer

open Render

variable {γ γ' ω ω' : Type} [Cache γ] [Cache γ'] {related : ω → ω' → Prop}
  {uses : Cache.Key → Prop} {kin : γ → γ' → Prop} {r : Renderer ω} {r' : Renderer ω'}
  (sim : Cache.Simulation uses kin) {w : World γ ω} {w' : World γ' ω'}

include sim

private theorem conclude_kin (document : CompiledDocument) {slots : List (Slot (Running ω))}
    {slots' : List (Slot (Running ω'))} {key : Option Cache.Key} (used : ∀ k ∈ key, uses k)
    (same : List.Forall₂ (Slot.Kin (Running.Kin uses related)) slots slots')
    (worlds : w.Kin kin related w') :
    Call.Kin r uses related (conclude document slots key w).1 (conclude document slots' key w').1 ∧
      (conclude document slots key w).2.Kin kin related (conclude document slots' key w').2 := by
  rw [conclude, conclude, ← assemble?_congr document same]
  cases assemble? document slots with
  | none => exact ⟨.awaiting document used same, worlds⟩
  | some html => exact ⟨.done _, worlds.store sim used html⟩

theorem Alike.poll (alike : r.Alike related r') {call : Call ω} {call' : Call ω'}
    (calls : Call.Kin r uses related call call') (worlds : w.Kin kin related w') :
    Call.Kin r uses related (r.poll call w).1 (r'.poll call' w').1 ∧
      (r.poll call w).2.Kin kin related (r'.poll call' w').2 := by
  cases calls with
  | @unstarted input o o' overrides covered =>
    obtain ⟨outcomes, worlds⟩ := alike.begin sim covered overrides worlds input
    simp only [Renderer.poll]
    revert outcomes worlds
    rcases r.begin input o w with ⟨outcome, v⟩
    rcases r'.begin input o' w' with ⟨outcome', v'⟩
    rintro (⟨⟨⟩⟩ | ⟨compiled⟩) worlds
    · exact ⟨.done _, worlds⟩
    · obtain ⟨document, key, used, jobs⟩ := compiled
      obtain ⟨slots, worlds⟩ := Slot.startAll_kin
        (fun job worlds => job.startAndPoll sim alike.engines.fallback worlds) jobs worlds
      simp only [← document, ← key]
      exact conclude_kin sim _ used slots worlds
  | awaiting document used same =>
    obtain ⟨slots, worlds⟩ := Slot.pollAll_kin (fun job worlds => job.poll sim worlds) same worlds
    exact conclude_kin sim document used slots worlds
  | done result => exact ⟨.done result, worlds⟩

/-- Calls that are as far as each other come to the same result, in worlds that are kin. -/
theorem Alike.run (alike : r.Alike related r') {call : Call ω} {call' : Call ω'}
    (calls : Call.Kin r uses related call call') (worlds : w.Kin kin related w') :
    (r.run call w).1 = (r'.run call' w').1 ∧ (r.run call w).2.Kin kin related (r'.run call' w').2 := by
  fun_induction Renderer.run r call w generalizing call' w' with
  | case1 w result =>
    cases calls
    rw [Renderer.run]
    exact ⟨rfl, worlds⟩
  | case2 w input o next =>
    rename_i ih
    obtain ⟨calls', worlds'⟩ := alike.poll sim calls worlds
    cases calls
    rw [Renderer.run]
    exact ih calls' worlds'
  | case3 w document slots key next =>
    rename_i ih
    obtain ⟨calls', worlds'⟩ := alike.poll sim calls worlds
    cases calls
    rw [Renderer.run]
    exact ih calls' worlds'

/-- Renders of the same document give the same, in worlds that are kin. -/
theorem Alike.render (alike : r.Alike related r') {o : Overrides ω} {o' : Overrides ω'}
    (overrides : o.Alike related o') (covered : ∀ key, (r.layers o).covers key = true → uses key)
    (worlds : w.Kin kin related w') (input : String) :
    (r.render input o w).1 = (r'.render input o' w').1 ∧
      (r.render input o w).2.Kin kin related (r'.render input o' w').2 :=
  alike.run sim (.unstarted input overrides covered) worlds

end Renderer

end Mathdown
