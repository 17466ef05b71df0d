import Mathlib.Data.List.Perm.Basic
import Mathdown.Proofs.Cache.Honest
import Mathdown.Render.Schedule

namespace Mathdown.Render

open Cache (Key Memory)

namespace Finding

/-- What is left of a cache in which a result is stored, if it lasts and has a key. -/
def store {γ : Type} [Cache γ] (c : γ) (f : Finding) : γ :=
  if f.outcome.lasting then
    match f.key with
    | some key => Cache.set c key.text f.outcome.html
    | none => c
  else c

def stores (key : String) (f : Finding) : Bool :=
  f.outcome.lasting && f.key.map Key.text == some key

theorem get?_store (f : Finding) (m : Memory) (key : String) :
    Cache.get? (f.store m) key =
      if f.stores key then some f.outcome.html else Cache.get? m key := by
  unfold store stores
  cases lasting : f.outcome.lasting with
  | false => rfl
  | true =>
    cases keyed : f.key with
    | none => rfl
    | some own =>
      by_cases same : own.text = key
      · simp [same]
      · simp [same, Memory.get?_set_of_ne m f.outcome.html same]

/-- Whether jobs that share a written key find the same. -/
def Agree (fs : List Finding) : Prop :=
  ∀ f ∈ fs, ∀ g ∈ fs, f.key.isSome = true → f.key.map Key.text = g.key.map Key.text →
    f.outcome = g.outcome

instance (fs : List Finding) : Decidable (Agree fs) :=
  inferInstanceAs (Decidable (∀ f ∈ fs, ∀ g ∈ fs, _ → _ → _))

private theorem get?_foldl {fs : List Finding} {key html : String}
    (same : ∀ f ∈ fs, f.stores key = true → f.outcome.html = html) (m : Memory) :
    Cache.get? (fs.foldl (fun m f => f.store m) m) key =
      if fs.any (stores key) then some html else Cache.get? m key := by
  induction fs generalizing m with
  | nil => rfl
  | cons f fs ih =>
    obtain ⟨here, others⟩ := List.forall_mem_cons.mp same
    rw [List.foldl_cons, ih others, get?_store, List.any_cons]
    cases stored : f.stores key with
    | false => rfl
    | true => simp [here stored]

theorem get?_foldl_perm {fs gs hs : List Finding} (agree : Agree hs) (first : fs.Perm hs)
    (second : gs.Perm hs) (m : Memory) (key : String) :
    Cache.get? (fs.foldl (fun m f => f.store m) m) key =
      Cache.get? (gs.foldl (fun m f => f.store m) m) key := by
  obtain ⟨html, same⟩ : ∃ html, ∀ f ∈ hs, f.stores key = true → f.outcome.html = html := by
    by_cases stored : ∃ f ∈ hs, f.stores key = true
    · obtain ⟨f, member, stored⟩ := stored
      refine ⟨f.outcome.html, fun g member' stored' => ?_⟩
      simp only [stores, Bool.and_eq_true, beq_iff_eq] at stored stored'
      have keyed : g.key.isSome = true := by
        cases none : g.key with
        | none => simp [none] at stored'
        | some own => rfl
      exact congrArg Outcome.html (agree g member' f member keyed (stored'.2.trans stored.2.symm))
    · exact ⟨"", fun f member stores => absurd ⟨f, member, stores⟩ stored⟩
  rw [get?_foldl (fun f member => same f (first.mem_iff.mp member)),
    get?_foldl (fun f member => same f (second.mem_iff.mp member)), first.any_eq, second.any_eq]

end Finding

end Mathdown.Render
