import Mathdown.Compile.Moment
import Mathdown.Event.Nesting

namespace Mathdown

namespace Compile

theorem Act.depth_performAll (acts : List Act) (s : State) :
    (performAll acts s).depth = s.depth :=
  performAll_keeps (fun t => t.depth = s.depth)
    (fun act _ t same => (leaves_perform act t).depth.trans same) rfl

end Compile

namespace Compiler

open Compile (Act State)

variable {σ : Type}

/-- Why events are rejected that begin at some depth, if they are. -/
def nestingError (limit : Nat) : (depth : Nat) → List Event → Option CompileError
  | _, [] => none
  | depth, event :: events =>
    if tooDeep limit depth event then some (.nestingTooDeep limit)
    else nestingError limit (depthAfter depth event) events

theorem depth_step (c : Compiler σ) (event : Event) (s : State) (w : σ) :
    (c.step event s w).1.depth = s.depth := by
  rw [step_eq]
  exact Act.depth_performAll _ s

/-- Whether a run fails is a matter of its events. -/
theorem run_error (c : Compiler σ) (events : List Event) (s : State) (w : σ) :
    (c.run events s w).1 = nestingError c.options.maxNesting s.depth events := by
  induction events generalizing s w with
  | nil => rfl
  | cons event events ih =>
    simp only [run, nestingError]
    split
    · rfl
    · rw [ih, depth_step]

theorem compile_error_iff (c : Compiler σ) (events : List Event) (s : State) (w : σ)
    (e : CompileError) :
    (c.compile events s w).1 = .error e ↔
      nestingError c.options.maxNesting s.depth events = some e := by
  rw [← c.run_error events s w]
  simp only [compile]
  split <;> rename_i ran <;> simp [ran]

theorem nestingError_mono {limit larger : Nat} (le : limit ≤ larger) {depth : Nat}
    {events : List Event} (free : nestingError limit depth events = none) :
    nestingError larger depth events = none := by
  induction events generalizing depth with
  | nil => rfl
  | cons event events ih =>
    unfold nestingError at free ⊢
    split at free
    · cases free
    · rename_i shallow
      rw [if_neg, ih free]
      cases event with
      | start tag =>
        simp only [tooDeep, decide_eq_true_eq] at shallow ⊢
        omega
      | _ => exact Bool.false_ne_true

def withLimit (c : Compiler σ) (limit : Nat) : Compiler σ :=
  { c with options := { c.options with maxNesting := limit } }

theorem seen_withLimit (c : Compiler σ) {limit : Nat} {events : List Event} {s : State} (w : σ)
    (free : nestingError c.options.maxNesting s.depth events = none)
    (free' : nestingError limit s.depth events = none) :
    (c.withLimit limit).seen events s w = c.seen events s w := by
  induction events generalizing s w with
  | nil => rfl
  | cons event events ih =>
    unfold nestingError at free free'
    split at free
    · cases free
    · split at free'
      · cases free'
      · rename_i shallow shallow'
        have depth : (c.next (moment event s w)).1.depth = depthAfter s.depth event :=
          c.depth_step event _ w
        have later := ih (s := (c.next (moment event s w)).1) (c.next (moment event s w)).2
          (by rwa [depth]) (by rwa [depth])
        change ¬ tooDeep (c.withLimit limit).options.maxNesting _ _ = true at shallow'
        rw [seen_cons, seen_cons, if_neg shallow, if_neg shallow', ← later]
        rfl

theorem compile_withLimit (c : Compiler σ) {limit : Nat} {events : List Event} {s : State} (w : σ)
    (free : nestingError c.options.maxNesting s.depth events = none)
    (free' : nestingError limit s.depth events = none) :
    (c.withLimit limit).compile events s w = c.compile events s w :=
  (compile_of_seen (c.seen_withLimit w free free')).1

theorem depth_run (c : Compiler σ) {events : List Event} {s : State} {w : σ}
    (compiled : (c.run events s w).1 = none) :
    (c.run events s w).2.1.depth = events.foldl depthAfter s.depth := by
  induction events generalizing s w with
  | nil => rfl
  | cons event events ih =>
    rw [run_cons] at compiled ⊢
    split at compiled
    · cases compiled
    · rename_i shallow
      rw [if_neg shallow, ih compiled, List.foldl_cons, next, depth_step]
      rfl

/-- While elements nest, the depth changes with the number of those that are open. -/
theorem foldl_depthAfter {admits : Event.Admission} {events : List Event} {stack last : List Tag}
    (nested : Event.nests admits stack events = some last) {depth : Nat}
    (deep : stack.length ≤ depth) :
    events.foldl depthAfter depth + stack.length = depth + last.length := by
  induction events generalizing stack depth with
  | nil =>
    cases nested
    rfl
  | cons event events ih =>
    rw [Event.nests_cons, Option.bind_eq_some_iff] at nested
    obtain ⟨next, opened, others⟩ := nested
    have counted : depthAfter depth event + stack.length = depth + next.length ∧
        next.length ≤ depthAfter depth event := by
      cases event with
      | start tag =>
        obtain ⟨-, rfl⟩ := Event.stackAfter_start_iff.mp opened
        simp only [depthAfter, List.length_cons]
        omega
      | stop closing =>
        obtain ⟨tag, -, rfl⟩ := Event.stackAfter_stop_iff.mp opened
        simp only [depthAfter, List.length_cons] at deep ⊢
        omega
      | _ =>
        cases opened
        exact ⟨rfl, deep⟩
    have later := ih others counted.2
    rw [List.foldl_cons]
    omega

end Compiler

end Mathdown
