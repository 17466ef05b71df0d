/-!
Work whose result comes later. Deferred work is polled: some number of polls find it pending, and
the one after them yields the result and may change a state.
-/

namespace Mathdown

/-- Work over a state `ω` that is pending for `delay` polls and then gives an `α`. -/
structure Deferred (ω α : Type) where
  delay : Nat
  finish : ω → α × ω

namespace Deferred

variable {ω α β : Type}

def poll (d : Deferred ω α) (w : ω) : (Deferred ω α ⊕ α) × ω :=
  match d.delay with
  | 0 =>
    let (result, w) := d.finish w
    (.inr result, w)
  | delay + 1 => (.inl { d with delay }, w)

/-- The work with a function applied to its result. -/
def map (f : α → β) (d : Deferred ω α) : Deferred ω β :=
  ⟨d.delay, fun w =>
    let (result, w) := d.finish w
    (f result, w)⟩

/-- Work that gives its result at the first poll and leaves the state alone. -/
def ready (result : α) : Deferred ω α := ⟨0, fun w => (result, w)⟩

theorem poll_of_delay_zero {d : Deferred ω α} (h : d.delay = 0) (w : ω) :
    d.poll w = (.inr (d.finish w).1, (d.finish w).2) := by
  simp [poll, h]

theorem poll_of_delay_succ {d : Deferred ω α} {n : Nat} (h : d.delay = n + 1) (w : ω) :
    d.poll w = (.inl { d with delay := n }, w) := by
  simp [poll, h]

end Deferred

end Mathdown
