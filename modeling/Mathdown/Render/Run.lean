import Mathdown.Render

namespace Mathdown

namespace Render

variable {γ ω : Type} [Cache γ]

def Slot.patience (s : Slot (Running ω)) : Nat :=
  match s.state with
  | .inl job => job.work.delay + 1
  | .inr _ => 0

def Slot.totalPatience : List (Slot (Running ω)) → Nat
  | [] => 0
  | s :: rest => s.patience + totalPatience rest

namespace Call

def isDone : Call ω → Bool
  | .done _ => true
  | _ => false

/-- Whether the call has not been polled yet. -/
def isUnstarted : Call ω → Bool
  | .unstarted .. => true
  | _ => false

/-- A bound on the polls of a call that has been started. -/
def patience : Call ω → Nat
  | .awaiting _ slots _ => Slot.totalPatience slots + 1
  | _ => 0

/-- The polls that calls need, each for itself. -/
def totalPatience : List (Call ω) → Nat
  | [] => 0
  | call :: rest => call.patience + totalPatience rest

end Call

private theorem patience_poll_lt (s : Slot (Running ω)) (w : World γ ω)
    (h : s.result? = none) : (s.poll Running.poll w).1.patience < s.patience := by
  obtain ⟨id, state⟩ := s
  cases state with
  | inr html => simp [Slot.result?] at h
  | inl job =>
    cases hd : job.work.delay with
    | zero => simp [Slot.poll, Running.poll_of_delay_zero hd, Slot.patience, hd]
    | succ n => simp [Slot.poll, Running.poll_of_delay_succ hd, Slot.patience, hd]

private theorem patience_poll_le (s : Slot (Running ω)) (w : World γ ω) :
    (s.poll Running.poll w).1.patience ≤ s.patience := by
  cases h : s.result? with
  | none => exact Nat.le_of_lt (patience_poll_lt s w h)
  | some html =>
    obtain ⟨id, state⟩ := s
    cases state with
    | inl job => simp [Slot.result?] at h
    | inr html => simp [Slot.poll]

private theorem totalPatience_pollAll_le (slots : List (Slot (Running ω))) (w : World γ ω) :
    Slot.totalPatience (Slot.pollAll Running.poll slots w).1 ≤ Slot.totalPatience slots := by
  induction slots generalizing w with
  | nil => simp [Slot.pollAll]
  | cons s rest ih =>
    have head := patience_poll_le s w
    have tail := ih (s.poll Running.poll w).2
    simp only [Slot.totalPatience, Slot.pollAll]
    omega

/-- A round brings the slots nearer to their end, if one of them is not done. -/
theorem totalPatience_pollAll_lt (slots : List (Slot (Running ω))) (w : World γ ω)
    (h : Slot.results? slots = none) :
    Slot.totalPatience (Slot.pollAll Running.poll slots w).1 < Slot.totalPatience slots := by
  induction slots generalizing w with
  | nil => simp [Slot.results?] at h
  | cons s rest ih =>
    simp only [Slot.totalPatience, Slot.pollAll]
    cases hs : s.result? with
    | none =>
      have head := patience_poll_lt s w hs
      have tail := totalPatience_pollAll_le rest (s.poll Running.poll w).2
      omega
    | some html =>
      have more : Slot.results? rest = none := by
        cases hr : Slot.results? rest with
        | none => rfl
        | some replacements => simp_all [Slot.results?, List.mapM_cons]
      have head := patience_poll_le s w
      have tail := ih (s.poll Running.poll w).2 more
      omega

private theorem conclude_cases (document : CompiledDocument) (slots : List (Slot (Running ω)))
    (key : Option Cache.Key) (w : World γ ω) :
    (Renderer.conclude document slots key w).1 = .awaiting document slots key ∧
        Slot.results? slots = none ∨
      ∃ result, (Renderer.conclude document slots key w).1 = .done result := by
  simp only [Renderer.conclude, assemble?]
  cases h : Slot.results? slots with
  | none => exact .inl ⟨rfl, rfl⟩
  | some replacements => exact .inr ⟨_, rfl⟩

theorem isUnstarted_poll (r : Renderer ω) (call : Call ω) (w : World γ ω) :
    (r.poll call w).1.isUnstarted = false := by
  have settled (document : CompiledDocument) (slots : List (Slot (Running ω)))
      (key : Option Cache.Key) (w : World γ ω) :
      (Renderer.conclude document slots key w).1.isUnstarted = false := by
    rcases conclude_cases document slots key w with ⟨h, -⟩ | ⟨result, h⟩ <;> simp [h, Call.isUnstarted]
  cases call with
  | unstarted input overrides =>
    simp only [Renderer.poll]
    split
    · rfl
    · exact settled _ _ _ _
  | awaiting document slots key => exact settled _ _ _ _
  | done result => rfl

theorem patience_poll_lt_of_started (r : Renderer ω) (call : Call ω) (w : World γ ω)
    (started : call.isUnstarted = false) (undone : call.isDone = false) :
    (r.poll call w).1.patience < call.patience := by
  cases call with
  | unstarted input overrides => simp [Call.isUnstarted] at started
  | done result => simp [Call.isDone] at undone
  | awaiting document slots key =>
    simp only [Renderer.poll]
    rcases conclude_cases document (Slot.pollAll Running.poll slots w).1 key
      (Slot.pollAll Running.poll slots w).2 with ⟨h, left⟩ | ⟨result, h⟩
    · have unfinished : Slot.results? slots = none := by
        cases hs : Slot.results? slots with
        | none => rfl
        | some replacements =>
          rw [Slot.pollAll_of_results hs w] at left
          simp [hs] at left
      have := totalPatience_pollAll_lt slots w unfinished
      simp only [h, Call.patience]
      omega
    · simp [h, Call.patience]

end Render

namespace Renderer

open Render

variable {γ ω : Type} [Cache γ]

/-- Polls a call until it is done. -/
def run (r : Renderer ω) (call : Call ω) (w : World γ ω) :
    Except CompileError String × World γ ω :=
  match call with
  | .done result => (result, w)
  | .unstarted input overrides =>
    let next := r.poll (.unstarted input overrides) w
    run r next.1 next.2
  | .awaiting document slots key =>
    let next := r.poll (.awaiting document slots key) w
    run r next.1 next.2
termination_by (call.isUnstarted.toNat, call.patience)
decreasing_by
  · have started := isUnstarted_poll r (.unstarted input overrides) w
    exact Prod.Lex.left _ _ (by rw [started]; exact Nat.zero_lt_one)
  · have started := isUnstarted_poll r (.awaiting document slots key) w
    exact Prod.Lex.right' _ (by rw [started]; exact Nat.le_refl 0)
      (patience_poll_lt_of_started r _ w rfl rfl)

/-- The HTML of a document, with what the call does differently. -/
def render (r : Renderer ω) (input : String) (overrides : Overrides ω) (w : World γ ω) :
    Except CompileError String × World γ ω :=
  r.run (.unstarted input overrides) w

theorem begin_of_found {r : Renderer ω} {text html : String} {w : World γ ω} {key : Cache.Key}
    (dark : Text.allBlank text = false) (keyed : r.resultKey text {} = some key)
    (found : Cache.get? w.cache key.text = some html) :
    r.begin text {} w = (.inl (.ok html), (w.find? (some key)).2) := by
  unfold begin
  rw [if_neg (by rw [dark]; exact Bool.false_ne_true), keyed]
  simp only [World.find?, found]

theorem render_of_found {r : Renderer ω} {text html : String} {w : World γ ω} {key : Cache.Key}
    (dark : Text.allBlank text = false) (keyed : r.resultKey text {} = some key)
    (found : Cache.get? w.cache key.text = some html) : (r.render text {} w).1 = .ok html := by
  unfold render
  rw [Renderer.run]
  simp only [poll, begin_of_found dark keyed found]
  rw [Renderer.run]

/-- One round over several calls, each of which is polled once unless it is done. -/
def pollAll (r : Renderer ω) : List (Call ω) → World γ ω → List (Call ω) × World γ ω
  | [], w => ([], w)
  | call :: rest, w =>
    let (call, w) := r.poll call w
    let (rest, w) := pollAll r rest w
    (call :: rest, w)

private theorem isUnstarted_pollAll (r : Renderer ω) (calls : List (Call ω)) (w : World γ ω) :
    (r.pollAll calls w).1.countP Call.isUnstarted = 0 := by
  induction calls generalizing w with
  | nil => rfl
  | cons call rest ih =>
    simp [pollAll, isUnstarted_poll, ih]

private theorem patience_poll_le_of_started (r : Renderer ω) (call : Call ω) (w : World γ ω)
    (started : call.isUnstarted = false) : (r.poll call w).1.patience ≤ call.patience := by
  cases undone : call.isDone with
  | false => exact Nat.le_of_lt (patience_poll_lt_of_started r call w started undone)
  | true => cases call <;> simp_all [Call.isDone, poll]

private theorem patience_pollAll_le (r : Renderer ω) (calls : List (Call ω)) (w : World γ ω)
    (started : calls.countP Call.isUnstarted = 0) :
    Call.totalPatience (r.pollAll calls w).1 ≤ Call.totalPatience calls := by
  induction calls generalizing w with
  | nil => exact Nat.le_refl _
  | cons call rest ih =>
    have first : call.isUnstarted = false := by
      cases h : call.isUnstarted <;> simp_all
    have head := patience_poll_le_of_started r call w first
    have tail := ih (r.poll call w).2 (by simpa [List.countP_cons, first] using started)
    simp only [pollAll, Call.totalPatience]
    omega

private theorem patience_pollAll_lt (r : Renderer ω) (calls : List (Call ω)) (w : World γ ω)
    (started : calls.countP Call.isUnstarted = 0) (undone : calls.all Call.isDone = false) :
    Call.totalPatience (r.pollAll calls w).1 < Call.totalPatience calls := by
  induction calls generalizing w with
  | nil => simp at undone
  | cons call rest ih =>
    have first : call.isUnstarted = false := by
      cases h : call.isUnstarted <;> simp_all
    have others : rest.countP Call.isUnstarted = 0 := by
      simpa [List.countP_cons, first] using started
    simp only [pollAll, Call.totalPatience]
    cases h : call.isDone with
    | false =>
      have head := patience_poll_lt_of_started r call w first h
      have tail := patience_pollAll_le r rest (r.poll call w).2 others
      omega
    | true =>
      have head := patience_poll_le_of_started r call w first
      have tail := ih (r.poll call w).2 others (by simpa [h] using undone)
      omega

def runAll (r : Renderer ω) (calls : List (Call ω)) (w : World γ ω) :
    List (Call ω) × World γ ω :=
  if calls.all Call.isDone then (calls, w)
  else
    let next := r.pollAll calls w
    runAll r next.1 next.2
termination_by (calls.countP Call.isUnstarted, Call.totalPatience calls)
decreasing_by
  rename_i undone
  have started := isUnstarted_pollAll r calls w
  cases h : calls.countP Call.isUnstarted with
  | zero =>
    exact Prod.Lex.right' _ (by simp [started])
      (patience_pollAll_lt r calls w h (by simpa using undone))
  | succ n => exact Prod.Lex.left _ _ (by simp [started])

end Renderer

end Mathdown
