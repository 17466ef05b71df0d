import Mathdown.Placeholder

namespace Mathdown.Render

/-- The jobs of one kind so far, the latest first. -/
structure Registry (τ : Type) where
  kind : JobKind
  jobs : List τ := []

namespace Registry

variable {τ : Type}

/-- Adds a job; the answer is the id that its token must carry. -/
def register (r : Registry τ) (job : τ) : PlaceholderId × Registry τ :=
  (⟨r.kind, r.jobs.length⟩, { r with jobs := job :: r.jobs })

/-- The jobs with their ids, in the order in which they were registered. -/
def toList (r : Registry τ) : List (PlaceholderId × τ) :=
  r.jobs.reverse.zipIdx.map fun (job, index) => (⟨r.kind, index⟩, job)

theorem map_id_toList (r : Registry τ) :
    r.toList.map Prod.fst = (List.range r.jobs.length).map (PlaceholderId.mk r.kind) := by
  have counted : r.jobs.reverse.zipIdx.map Prod.snd = List.range r.jobs.length := by
    rw [List.zipIdx_map_snd, List.length_reverse, List.range_eq_range']
  rw [← counted, toList, List.map_map, List.map_map]
  rfl

theorem toList_register (r : Registry τ) (job : τ) :
    (r.register job).2.toList = r.toList ++ [((r.register job).1, job)] := by
  simp [register, toList, List.zipIdx_append]

end Registry

/-- A started job, or its result. -/
structure Slot (ρ : Type) where
  id : PlaceholderId
  state : ρ ⊕ String

namespace Slot

variable {τ ρ ω : Type}

def result? (s : Slot ρ) : Option String :=
  match s.state with
  | .inl _ => none
  | .inr html => some html

def poll (step : ρ → ω → (ρ ⊕ String) × ω) (s : Slot ρ) (w : ω) : Slot ρ × ω :=
  match s.state with
  | .inl job =>
    let (state, w) := step job w
    (⟨s.id, state⟩, w)
  | .inr _ => (s, w)

/-- One round: polls each slot that is not done, in order. -/
def pollAll (step : ρ → ω → (ρ ⊕ String) × ω) : List (Slot ρ) → ω → List (Slot ρ) × ω
  | [], w => ([], w)
  | s :: rest, w =>
    let (s, w) := s.poll step w
    let (rest, w) := pollAll step rest w
    (s :: rest, w)

/-- The first round: starts each job and polls it at once, in order. -/
def startAll (start : τ → ω → (ρ ⊕ String) × ω) :
    List (PlaceholderId × τ) → ω → List (Slot ρ) × ω
  | [], w => ([], w)
  | (id, job) :: rest, w =>
    let (state, w) := start job w
    let (rest, w) := startAll start rest w
    (⟨id, state⟩ :: rest, w)

def results? (slots : List (Slot ρ)) : Option Replacements :=
  (slots.mapM fun (s : Slot ρ) => s.result?.map fun html => (s.id, html)).map Replacements.ofList

theorem poll_of_result {step : ρ → ω → (ρ ⊕ String) × ω} {s : Slot ρ} {html : String}
    (h : s.result? = some html) (w : ω) : s.poll step w = (s, w) := by
  obtain ⟨id, state⟩ := s
  cases state with
  | inl job => simp [result?] at h
  | inr html => rfl

theorem pollAll_of_results {step : ρ → ω → (ρ ⊕ String) × ω} {slots : List (Slot ρ)}
    {replacements : Replacements} (h : results? slots = some replacements) (w : ω) :
    pollAll step slots w = (slots, w) := by
  induction slots generalizing replacements with
  | nil => rfl
  | cons s rest ih =>
    cases hs : s.result? with
    | none => simp [results?, List.mapM_cons, hs] at h
    | some html =>
      cases hr : results? rest with
      | none => simp_all [results?, List.mapM_cons]
      | some more => simp [pollAll, poll_of_result hs, ih hr]

end Slot

end Mathdown.Render
