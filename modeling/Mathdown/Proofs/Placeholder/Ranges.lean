import Mathdown.Placeholder.Splice

/-!
When splicing answers. The spans come in any order, and the text is cut at their ends one after
the other; this goes through exactly if the text is laid out by the spans, which is to say that
they lie in it on character boundaries and that no two of them share a byte.
-/

namespace Mathdown

namespace Layout

theorem liesIn_of_mem {layout : Layout} {done : String} {span : PlaceholderSpan}
    (member : span ∈ layout.spansFrom done.utf8ByteSize) : span.LiesIn (done ++ layout.text) := by
  induction layout generalizing done with
  | nil => simp [spansFrom] at member
  | cons stretch rest ih =>
    cases stretch with
    | kept text =>
      have inner := @ih (done ++ text)
      simp only [String.utf8ByteSize_append, String.append_assoc] at inner
      exact inner member
    | covered id text =>
      rcases List.mem_cons.mp member with rfl | member
      · refine ⟨Text.isValid_iff.mpr ⟨done, _, rfl, rfl⟩, Text.isValid_iff.mpr
          ⟨done ++ text, Layout.text rest, ?_, String.utf8ByteSize_append ..⟩⟩
        rw [Layout.text, String.append_assoc]
      · have inner := @ih (done ++ text)
        simp only [String.utf8ByteSize_append, String.append_assoc] at inner
        exact inner member

/-- Spans that come one behind the other lay out the rest of a text behind what is done. -/
theorem exists_spansFrom_eq {done rest : String} {spans : List PlaceholderSpan}
    (ahead : ∀ span ∈ spans, done.utf8ByteSize ≤ span.start ∧ span.start ≤ span.stop)
    (inside : ∀ span ∈ spans, span.LiesIn (done ++ rest))
    (ordered : spans.Pairwise fun a b => a.stop ≤ b.start) :
    ∃ layout : Layout, layout.text = rest ∧ layout.spansFrom done.utf8ByteSize = spans := by
  induction spans generalizing done rest with
  | nil => exact ⟨[.kept rest], by simp [Layout.text], rfl⟩
  | cons span spans ih =>
    obtain ⟨id, start, stop⟩ := span
    obtain ⟨behind, later⟩ := List.pairwise_cons.mp ordered
    obtain ⟨far, forward⟩ := ahead _ List.mem_cons_self
    obtain ⟨first, last⟩ := inside _ List.mem_cons_self
    -- the text is cut where the span starts, and what is behind that cut where it stops
    obtain ⟨front, back, cut, rfl⟩ := Text.isValid_iff.mp first
    obtain ⟨kept, rfl, rfl⟩ := Text.exists_between cut far
    obtain ⟨front, back, cut', rfl⟩ := Text.isValid_iff.mp last
    obtain ⟨covered, rfl, rfl⟩ := Text.exists_between (cut.symm.trans cut') forward
    obtain ⟨layout, rfl, same⟩ := @ih (done ++ kept ++ covered) back
      (fun span member => ⟨behind span member, (ahead span (List.mem_cons_of_mem _ member)).2⟩)
      (fun span member => by
        simpa only [String.append_assoc] using inside span (List.mem_cons_of_mem _ member))
      later
    refine ⟨.kept kept :: .covered id covered :: layout, rfl, ?_⟩
    simp only [String.utf8ByteSize_append] at same
    simp only [spansFrom, String.utf8ByteSize_append, same]

/-- Of two spans that are apart, the one that starts first ends before the other starts. -/
theorem ordered_mergeSort {spans : List PlaceholderSpan}
    (filled : ∀ span ∈ spans, span.start < span.stop) (apart : spans.Pairwise PlaceholderSpan.Apart) :
    (spans.mergeSort fun a b => a.start ≤ b.start).Pairwise fun a b => a.stop ≤ b.start := by
  have moved := List.mergeSort_perm spans fun a b => a.start ≤ b.start
  have apart := (moved.pairwise_iff PlaceholderSpan.Apart.symm).mpr apart
  refine ((Replacements.pairwise_mergeSort spans).and apart).imp_of_mem
    fun {a b} first second pair => ?_
  have := filled b (moved.mem_iff.mp second)
  obtain ⟨before, left | right⟩ := pair
  · exact left
  · omega

/-- A text can be laid out by spans, which may come in any order, exactly if they lie in it and
no two of them overlap. -/
theorem exists_spans_perm_iff {html : String} {spans : List PlaceholderSpan}
    (filled : ∀ span ∈ spans, span.start < span.stop) :
    (∃ layout : Layout, layout.text = html ∧ layout.spans.Perm spans) ↔
      (∀ span ∈ spans, span.LiesIn html) ∧ spans.Pairwise PlaceholderSpan.Apart := by
  constructor
  · rintro ⟨layout, rfl, same⟩
    constructor
    · intro span member
      have covered := @liesIn_of_mem layout "" span (same.mem_iff.mpr member)
      rwa [String.empty_append] at covered
    · exact (same.pairwise_iff PlaceholderSpan.Apart.symm).mp
        ((layout.pairwise_spansFrom 0).imp Or.inl)
  · rintro ⟨inside, apart⟩
    have moved := List.mergeSort_perm spans fun a b => a.start ≤ b.start
    obtain ⟨layout, shown, same⟩ := @exists_spansFrom_eq "" html _
      (fun span member => ⟨Nat.zero_le _, Nat.le_of_lt (filled span (moved.mem_iff.mp member))⟩)
      (fun span member => by
        simpa only [String.empty_append] using inside span (moved.mem_iff.mp member))
      (ordered_mergeSort filled apart)
    exact ⟨layout, shown, (List.Perm.of_eq same).trans moved⟩

end Layout

namespace Replacements

variable {r : Replacements} {html : String} {spans : List PlaceholderSpan}

/-- What splicing from a byte on has found out about the text and the spans once it is through. -/
theorem ordered_of_spliceFrom {cursor : Nat} {spliced : List Char}
    (filled : ∀ span ∈ spans, span.start < span.stop)
    (answered : r.spliceFrom html.toList cursor spans = some spliced) :
    String.Pos.Raw.IsValid html ⟨cursor⟩ ∧
      (∀ span ∈ spans, cursor ≤ span.start ∧ span.LiesIn html) ∧
      spans.Pairwise fun a b => a.stop ≤ b.start := by
  induction spans generalizing cursor spliced with
  | nil => exact ⟨(Text.isValid_of_slice answered).2.1, by simp, .nil⟩
  | cons span spans ih =>
    simp only [spliceFrom, Option.bind_eq_bind, Option.bind_eq_some_iff] at answered
    obtain ⟨kept, cut, answered⟩ := answered
    obtain ⟨tail, later⟩ : ∃ tail, r.spliceFrom html.toList span.stop spans = some tail := by
      -- with a result or without one, the rest is spliced
      split at answered
      all_goals
        obtain ⟨inserted, -, answered⟩ := Option.bind_eq_some_iff.mp answered
        obtain ⟨tail, later, -⟩ := Option.bind_eq_some_iff.mp answered
        exact ⟨tail, later⟩
    obtain ⟨forward, here, start⟩ := Text.isValid_of_slice cut
    obtain ⟨stop, inside, ordered⟩ :=
      ih (fun span member => filled span (List.mem_cons_of_mem _ member)) later
    have long := filled span List.mem_cons_self
    refine ⟨here, ?_, .cons (fun span member => (inside span member).1) ordered⟩
    rintro other (_ | ⟨_, member⟩)
    · exact ⟨forward, start, stop⟩
    · obtain ⟨behind, lies⟩ := inside other member
      exact ⟨by omega, lies⟩

theorem splice?_eq_some_iff (filled : ∀ span ∈ spans, span.start < span.stop) {result : String} :
    r.splice? html spans = some result ↔
      ∃ layout : Layout, layout.text = html ∧ layout.spans.Perm spans ∧
        layout.fill r = result := by
  constructor
  · intro answered
    obtain ⟨spliced, through, -⟩ := Option.map_eq_some_iff.mp answered
    have moved := List.mergeSort_perm spans fun a b => a.start ≤ b.start
    obtain ⟨-, inside, ordered⟩ := ordered_of_spliceFrom
      (fun span member => filled span (moved.mem_iff.mp member)) through
    obtain ⟨layout, rfl, same⟩ := (Layout.exists_spans_perm_iff filled).mpr
      ⟨fun span member => (inside span (moved.mem_iff.mpr member)).2,
        (moved.pairwise_iff PlaceholderSpan.Apart.symm).mp (ordered.imp Or.inl)⟩
    refine ⟨layout, rfl, same, ?_⟩
    rwa [r.splice?_layout filled same, Option.some.injEq] at answered
  · rintro ⟨layout, rfl, same, rfl⟩
    exact r.splice?_layout filled same

/-- For spans that each cover something: splicing answers exactly if the spans lie in the text on
character boundaries and no two of them overlap. The answer is the text laid out by the spans,
with the result of its id for each covered stretch that has one and every other stretch as it is.
The order in which the spans are given plays no part, in whether there is an answer or in what it
is. -/
theorem splice?_exact (r : Replacements) (html : String) (spans : List PlaceholderSpan)
    (filled : ∀ span ∈ spans, span.start < span.stop) :
    ((r.splice? html spans).isSome ↔
      (∀ span ∈ spans, span.LiesIn html) ∧ spans.Pairwise PlaceholderSpan.Apart) ∧
    (∀ result, r.splice? html spans = some result ↔
      ∃ layout : Layout, layout.text = html ∧ layout.spans.Perm spans ∧
        layout.fill r = result) ∧
    ∀ other, other.Perm spans → r.splice? html other = r.splice? html spans := by
  refine ⟨?_, fun result => splice?_eq_some_iff filled, fun other moved => ?_⟩
  · rw [← Layout.exists_spans_perm_iff filled, Option.isSome_iff_exists]
    simp only [splice?_eq_some_iff filled]
    exact ⟨fun ⟨_, layout, shown, same, _⟩ => ⟨layout, shown, same⟩,
      fun ⟨layout, shown, same⟩ => ⟨_, layout, shown, same, rfl⟩⟩
  · have filled' : ∀ span ∈ other, span.start < span.stop :=
      fun span member => filled span (moved.mem_iff.mp member)
    have along (layout : Layout) : layout.spans.Perm other ↔ layout.spans.Perm spans :=
      ⟨fun same => same.trans moved, fun same => same.trans moved.symm⟩
    ext result
    simp only [splice?_eq_some_iff filled, splice?_eq_some_iff filled', along]

/-- Two spans that touch behind a character of two bytes, the later one given first and without a
result. -/
theorem splice?_exact_touching :
    let known : Replacements := .ofList [(⟨.math, 0⟩, "$")]
    let spans : List PlaceholderSpan := [⟨⟨.highlight, 0⟩, 3, 4⟩, ⟨⟨.math, 0⟩, 1, 3⟩]
    (∀ span ∈ spans, span.start < span.stop) ∧
      (∀ span ∈ spans, span.LiesIn "aéb") ∧ spans.Pairwise PlaceholderSpan.Apart ∧
      known.splice? "aéb" spans = some "a$b" ∧ known.splice? "aéb" spans.reverse = some "a$b" := by
  intro known spans
  have filled : ∀ span ∈ spans, span.start < span.stop := by decide
  obtain ⟨answers, fills, orders⟩ := known.splice?_exact "aéb" spans filled
  have result : known.splice? "aéb" spans = some "a$b" :=
    (fills "a$b").mpr ⟨[.kept "a", .covered ⟨.math, 0⟩ "é", .covered ⟨.highlight, 0⟩ "b"],
      rfl, by decide, rfl⟩
  obtain ⟨inside, apart⟩ := answers.mp (result ▸ rfl)
  exact ⟨filled, inside, apart, result, (orders _ spans.reverse_perm).trans result⟩

/-- Crossing spans, and a span that ends inside a character, leave no answer. -/
example : Replacements.empty.splice? "aéb" [⟨⟨.math, 0⟩, 0, 3⟩, ⟨⟨.math, 1⟩, 1, 4⟩] = none ∧
    Replacements.empty.splice? "aéb" [⟨⟨.math, 0⟩, 0, 2⟩] = none := by
  constructor <;> cbv

end Replacements

end Mathdown
