import Mathdown.Placeholder.Template

/-!
Splicing results into a text with recorded spans fills the layout that the text and its spans
come from, in whatever order the spans are given, and so it fills a template. Only the spans say
what is replaced: what the text around them or a result looks like plays no part.
-/

namespace Mathdown

theorem PlaceholderId.solid_token (id : PlaceholderId) : Text.Solid id.token.toList := by
  have opening : Text.Solid "<span id=\"".toList := .ofEnds (by decide) (by decide)
  have closing : Text.Solid "\"></span>".toList := .ofEnds (by decide) (by decide)
  simpa only [token, String.toList_append] using opening.append closing id.text.toList

theorem PlaceholderId.token_size_pos (id : PlaceholderId) : 0 < id.token.utf8ByteSize := by
  simp only [token, String.utf8ByteSize_append]
  have opening : 0 < "<span id=\"".utf8ByteSize := by decide
  omega

theorem Template.start_lt_stop_of_mem {start : Nat} {t : Template} {span : PlaceholderSpan}
    (member : span ∈ t.spansFrom start) : span.start < span.stop := by
  obtain ⟨_, _, _, _, stop⟩ := mem_spansFrom member
  have := span.id.token_size_pos
  omega

theorem Template.solidIn_token (t : Template) : t.SolidIn PlaceholderId.token :=
  fun id _ => id.solid_token

theorem Template.text_trim (t : Template) : t.trim.text = Text.trim t.text :=
  Template.fill_trim t.solidIn_token

theorem Template.toList_text_trimLeft (t : Template) :
    (Template.trimLeft t).text.toList = Text.trimLeft t.text.toList :=
  Template.toList_fill_trimLeft t.solidIn_token

namespace Replacements

/-- What stands in a hole after splicing: its result, or the token where there is none. -/
def content (r : Replacements) (id : PlaceholderId) : String := (r.find? id).getD id.token

/-- `done` has been passed, and `pending` is the text between the last span and the layout. -/
theorem spliceFrom_layout (r : Replacements) (layout : Layout) (done pending : String) :
    r.spliceFrom (done ++ pending ++ layout.text).toList done.utf8ByteSize
        (layout.spansFrom (done ++ pending).utf8ByteSize) =
      some (pending ++ layout.fill r).toList := by
  induction layout generalizing done pending with
  | nil =>
    have cut := Text.slice_append done.toList pending.toList []
    simp only [Text.byteLength_toList, List.append_nil] at cut
    simp [Layout.spansFrom, spliceFrom, Layout.text, Layout.fill, cut]
  | cons stretch rest ih =>
    cases stretch with
    | kept text =>
      have inner := ih done (pending ++ text)
      simp only [Layout.text, Layout.fill, Layout.spansFrom, String.append_assoc,
        String.utf8ByteSize_append, Nat.add_assoc] at inner ⊢
      exact inner
    | covered id text =>
      have inner := ih (done ++ pending ++ text) ""
      have kept := Text.slice_append done.toList pending.toList (text ++ Layout.text rest).toList
      have taken := Text.slice_append (done ++ pending).toList text.toList (Layout.text rest).toList
      simp only [Text.byteLength_toList, ← String.toList_append, ← String.utf8ByteSize_append,
        ← String.append_assoc, String.append_empty] at kept taken inner
      simp only [Layout.spansFrom, spliceFrom, Layout.text, ← String.append_assoc,
        ← String.utf8ByteSize_append, kept, inner, Layout.fill, taken]
      cases r.find? id <;> simp

theorem pairwise_mergeSort (spans : List PlaceholderSpan) :
    (spans.mergeSort fun a b => a.start ≤ b.start).Pairwise fun a b => a.start ≤ b.start := by
  have sorted := @List.pairwise_mergeSort _ (fun a b : PlaceholderSpan => a.start ≤ b.start)
    (by simpa using fun a b c => Nat.le_trans) (by simpa using fun a b => Nat.le_total _ _) spans
  simpa using sorted

/-- Spans that each cover something are in the order of their layout once they are sorted. -/
theorem mergeSort_layout {layout : Layout} {spans : List PlaceholderSpan}
    (filled : ∀ span ∈ spans, span.start < span.stop) (same : layout.spans.Perm spans) :
    spans.mergeSort (fun a b => a.start ≤ b.start) = layout.spans := by
  have before : layout.spans.Pairwise fun a b => a.start < b.start := by
    refine (layout.pairwise_spansFrom 0).imp_of_mem fun {a b} first _ behind => ?_
    have := filled a (same.mem_iff.mp first)
    omega
  have moved := (List.mergeSort_perm spans fun a b => a.start ≤ b.start).trans same.symm
  -- no two of them start at one place, so there is one order only
  have differ := (moved.pairwise_iff fun {a b} (apart : a.start ≠ b.start) => apart.symm).mpr
    (before.imp Nat.ne_of_lt)
  exact moved.eq_of_pairwise (fun a b _ _ less more => absurd more (Nat.lt_asymm less))
    (((pairwise_mergeSort spans).and differ).imp fun pair => Nat.lt_of_le_of_ne pair.1 pair.2) before

/-- Splicing replaces what is covered and copies everything else. -/
theorem splice?_layout (r : Replacements) {layout : Layout} {spans : List PlaceholderSpan}
    (filled : ∀ span ∈ spans, span.start < span.stop) (same : layout.spans.Perm spans) :
    r.splice? layout.text spans = some (layout.fill r) := by
  have spliced := r.spliceFrom_layout layout "" ""
  simp only [String.empty_append, String.utf8ByteSize_empty] at spliced
  rw [splice?, mergeSort_layout filled same, Layout.spans, spliced, Option.map_some,
    String.ofList_toList]

theorem fill_layout (r : Replacements) (t : Template) : t.layout.fill r = t.fill r.content := by
  induction t with
  | nil => rfl
  | cons piece rest ih => cases piece <;> exact congrArg (_ ++ ·) ih

/-- Splicing fills the holes and copies everything else. -/
theorem splice?_template (r : Replacements) (t : Template) :
    r.splice? t.text t.spans = some (t.fill r.content) := by
  have filled : ∀ span ∈ t.spans, span.start < span.stop :=
    fun span member => Template.start_lt_stop_of_mem member
  have same : t.layout.spans = t.spans := t.spansFrom_layout 0
  rw [← r.fill_layout, ← t.text_layout, r.splice?_layout filled (same ▸ .refl _)]

end Replacements

end Mathdown
