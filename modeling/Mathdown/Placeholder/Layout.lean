import Mathdown.Placeholder

/-!
Layouts: HTML with some of its text covered by spans. A layout says without offsets what a text is
together with the byte ranges recorded for it, whatever stands in those ranges, and what splicing
makes of the two.
-/

namespace Mathdown

/-- A stretch of HTML that no span covers, or one that the span of an id covers. -/
inductive Stretch where
  | kept (text : String)
  | covered (id : PlaceholderId) (text : String)
deriving DecidableEq, Repr

/-- HTML in stretches. -/
abbrev Layout := List Stretch

namespace Layout

/-- The text of all stretches. -/
def text : Layout → String
  | [] => ""
  | .kept text :: rest => text ++ Layout.text rest
  | .covered _ text :: rest => text ++ Layout.text rest

/-- Where the covered stretches are if the text starts at a byte. -/
def spansFrom : (start : Nat) → Layout → List PlaceholderSpan
  | _, [] => []
  | start, .kept text :: rest => spansFrom (start + text.utf8ByteSize) rest
  | start, .covered id text :: rest =>
    ⟨id, start, start + text.utf8ByteSize⟩ :: spansFrom (start + text.utf8ByteSize) rest

def spans (layout : Layout) : List PlaceholderSpan := layout.spansFrom 0

/-- The text with the result of its id for each covered stretch that has one. -/
def fill (r : Replacements) : Layout → String
  | [] => ""
  | .kept text :: rest => text ++ fill r rest
  | .covered id text :: rest => (r.find? id).getD text ++ fill r rest

theorem le_start_of_mem {start : Nat} {layout : Layout} {span : PlaceholderSpan}
    (member : span ∈ layout.spansFrom start) : start ≤ span.start := by
  induction layout generalizing start with
  | nil => simp [spansFrom] at member
  | cons stretch rest ih =>
    cases stretch with
    | kept text =>
      have later := ih member
      omega
    | covered id text =>
      rcases List.mem_cons.mp member with rfl | member
      · exact Nat.le_refl _
      · have later := ih member
        omega

theorem pairwise_spansFrom (start : Nat) (layout : Layout) :
    (layout.spansFrom start).Pairwise fun a b => a.stop ≤ b.start := by
  induction layout generalizing start with
  | nil => exact .nil
  | cons stretch rest ih =>
    cases stretch with
    | kept text => exact ih _
    | covered id text => exact .cons (fun span member => le_start_of_mem member) (ih _)

end Layout

/-- Whether the span starts and stops in the text, each time where a character does. -/
def PlaceholderSpan.LiesIn (html : String) (span : PlaceholderSpan) : Prop :=
  String.Pos.Raw.IsValid html ⟨span.start⟩ ∧ String.Pos.Raw.IsValid html ⟨span.stop⟩

instance (html : String) (span : PlaceholderSpan) : Decidable (span.LiesIn html) :=
  inferInstanceAs (Decidable (_ ∧ _))

/-- Whether one of the spans ends before the other starts; they may touch. -/
def PlaceholderSpan.Apart (a b : PlaceholderSpan) : Prop := a.stop ≤ b.start ∨ b.stop ≤ a.start

instance (a b : PlaceholderSpan) : Decidable (a.Apart b) := inferInstanceAs (Decidable (_ ∨ _))

theorem PlaceholderSpan.Apart.symm {a b : PlaceholderSpan} (apart : a.Apart b) : b.Apart a :=
  Or.symm apart

end Mathdown
