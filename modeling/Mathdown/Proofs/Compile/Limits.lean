import Mathdown.Event.Height
import Mathdown.Proofs.Compile.Depth

namespace Mathdown.Compiler

open Compile (State)
open Event (Height)

variable {σ : Type}

theorem eq_of_nestingError {limit depth : Nat} {events : List Event} {e : CompileError}
    (rejected : nestingError limit depth events = some e) : e = .nestingTooDeep limit := by
  induction events generalizing depth with
  | nil => cases rejected
  | cons event events ih =>
    rw [nestingError] at rejected
    split at rejected
    · exact (Option.some.inj rejected).symm
    · exact ih rejected

theorem tooDeep_iff {limit depth : Nat} (shallow : depth ≤ limit) (event : Event) :
    tooDeep limit depth event = true ↔ limit < depthAfter depth event := by
  cases event with
  | start tag => exact decide_eq_true_iff
  | stop closing =>
    simp only [tooDeep, depthAfter, Bool.false_eq_true, false_iff]
    omega
  | _ =>
    simp only [tooDeep, depthAfter, Bool.false_eq_true, false_iff]
    omega

/-- Events are rejected if some of them, from the first on, lead deeper than the limit. -/
theorem nestingError_isSome_iff {limit depth : Nat} (shallow : depth ≤ limit) (events : List Event) :
    (nestingError limit depth events).isSome = true ↔
      ∃ front, front <+: events ∧ limit < front.foldl depthAfter depth := by
  induction events generalizing depth with
  | nil =>
    simp only [nestingError, Option.isSome_none, Bool.false_eq_true, List.prefix_nil,
      exists_eq_left, List.foldl_nil, false_iff]
    omega
  | cons event events ih =>
    have deep := tooDeep_iff shallow event
    rw [nestingError]
    split
    · rename_i beyond
      simp only [Option.isSome_some, true_iff]
      exact ⟨[event], ⟨events, rfl⟩, deep.mp beyond⟩
    · rename_i within
      have next : depthAfter depth event ≤ limit := Nat.le_of_not_lt fun beyond => within (deep.mpr beyond)
      rw [ih next]
      constructor
      · rintro ⟨front, ⟨back, rfl⟩, beyond⟩
        exact ⟨event :: front, ⟨back, rfl⟩, beyond⟩
      · rintro ⟨front, starts, beyond⟩
        cases front with
        | nil => exact absurd beyond (Nat.not_lt.mpr shallow)
        | cons first front =>
          obtain ⟨rfl, begins⟩ := List.cons_prefix_cons.mp starts
          exact ⟨front, begins, beyond⟩

theorem nestingError_append (limit depth : Nat) (front back : List Event) :
    nestingError limit depth (front ++ back) =
      (nestingError limit depth front).or
        (nestingError limit (front.foldl depthAfter depth) back) := by
  induction front generalizing depth with
  | nil => rfl
  | cons event front ih =>
    rw [List.cons_append, nestingError, nestingError]
    split
    · rfl
    · exact ih _

theorem depthAfter_of_isLeaf {event : Event} (plain : event.isLeaf = true) (depth : Nat) :
    depthAfter depth event = depth := by
  cases event with
  | start tag | stop closing => cases plain
  | _ => rfl

theorem foldl_of_height {n : Nat} {events : List Event} (height : Height n events) (depth : Nat) :
    events.foldl depthAfter depth = depth := by
  induction height generalizing depth with
  | nil => rfl
  | @leaf event rest n plain _ ih =>
    rw [List.foldl_cons, depthAfter_of_isLeaf plain, ih]
  | element tag _ _ ihWithin ih =>
    rw [List.foldl_append, List.foldl_cons, List.foldl_cons, ihWithin]
    exact ih depth

theorem nestingError_of_height {n : Nat} {events : List Event} (height : Height n events)
    {limit depth : Nat} (shallow : depth ≤ limit) :
    nestingError limit depth events = none ↔ depth + n ≤ limit := by
  induction height generalizing depth with
  | nil => simp [nestingError, shallow]
  | @leaf event rest n plain _ ih =>
    have same := depthAfter_of_isLeaf plain depth
    have flat : ¬ tooDeep limit depth event = true := by
      rw [tooDeep_iff shallow, same]
      exact Nat.not_lt.mpr shallow
    rw [nestingError, if_neg flat, same, ih shallow]
  | @element tag content rest m n within _ ihWithin ih =>
    rw [List.cons_append, nestingError]
    split
    · rename_i beyond
      have past : limit < depth + 1 := (tooDeep_iff shallow (.start tag)).mp beyond
      simp only [reduceCtorEq, false_iff]
      omega
    · rename_i fits
      have room : depth + 1 ≤ limit := by
        rw [tooDeep_iff shallow, Nat.not_lt] at fits
        exact fits
      have left : content.foldl depthAfter (depth + 1) = depth + 1 := foldl_of_height within _
      have behind : nestingError limit (depth + 1) (.stop tag.toEnd :: rest) =
          nestingError limit depth rest := rfl
      simp only [depthAfter] at left ⊢
      rw [nestingError_append, left, behind, Option.or_eq_none_iff, ihWithin room, ih shallow]
      omega

/--
A document is rejected if and only if some of its events, from the first on, enter more elements than the
limit allows and do not leave them; where elements nest, if and only if more of them stand in each other.
The error tells the limit. A document that is not rejected is compiled to the same with every larger
limit, and the processors are asked and answer the same.
-/
theorem rejected_iff_deeper (c : Compiler σ) (events : List Event) (w : σ) :
    let limit := c.options.maxNesting
    ((∃ e, (c.compile events .initial w).1 = .error e) ↔
        ∃ front, front <+: events ∧ limit < front.foldl depthAfter 0) ∧
      (∀ e, (c.compile events .initial w).1 = .error e → e = .nestingTooDeep limit) ∧
      (∀ admits, Event.WellNested admits events → ∃ n, Height n events) ∧
      (∀ n, Height n events → ((∃ e, (c.compile events .initial w).1 = .error e) ↔ limit < n)) ∧
      ∀ document, (c.compile events .initial w).1 = .ok document → ∀ larger, limit ≤ larger →
        (c.withLimit larger).compile events .initial w = c.compile events .initial w ∧
          (c.withLimit larger).questions events .initial w = c.questions events .initial w ∧
          (c.withLimit larger).answers events .initial w = c.answers events .initial w := by
  intro limit
  have fails : (∃ e, (c.compile events .initial w).1 = .error e) ↔
      (nestingError limit 0 events).isSome = true := by
    simp only [compile_error_iff, Option.isSome_iff_exists]
    rfl
  refine ⟨fails.trans (nestingError_isSome_iff (Nat.zero_le _) events), ?_, ?_, ?_, ?_⟩
  · intro e failed
    exact eq_of_nestingError ((c.compile_error_iff events .initial w e).mp failed)
  · exact fun admits nested => Event.exists_height nested
  · intro n height
    have room := nestingError_of_height height (Nat.zero_le limit)
    rw [fails, ← Option.ne_none_iff_isSome, ne_eq, room]
    omega
  · intro document compiled larger le
    have free : nestingError limit 0 events = none := by
      rw [← Option.not_isSome_iff_eq_none, ← fails]
      rintro ⟨e, failed⟩
      rw [compiled] at failed
      cases failed
    exact compile_of_seen (c.seen_withLimit w free (nestingError_mono le free))

end Mathdown.Compiler
