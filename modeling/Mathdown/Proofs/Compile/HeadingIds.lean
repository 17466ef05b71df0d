import Mathlib.Data.List.Nodup
import Mathdown.Compile.Moment
import Mathdown.Markdown.Document
import Mathdown.Proofs.Compile.Headings

namespace Mathdown.Text

/-- A slug with the number of headings that have had it before, if there are any. -/
def numbered (slug : String) (earlier : Nat) : String :=
  if earlier = 0 then slug else slug ++ "-" ++ toString earlier

theorem numbered_zero (slug : String) : numbered slug 0 = slug := rfl

theorem numbered_of_pos (slug : String) {n : Nat} (pos : 0 < n) :
    numbered slug n = slug ++ "-" ++ toString n :=
  if_neg (Nat.pos_iff_ne_zero.mp pos)

private theorem notMem_digits (n : Nat) : '-' ∉ Nat.toDigits 10 n := by
  intro member
  have digit := Nat.isDigit_of_mem_toDigits (by decide) (by decide) member
  exact absurd digit (by decide)

private theorem digits_injective {m n : Nat} (same : Nat.toDigits 10 m = Nat.toDigits 10 n) :
    m = n := by
  have read := congrArg (fun digits => Nat.ofDigitChars 10 digits 0) same
  simpa only [Nat.ofDigitChars_toDigits (by decide : 1 < 10) (by decide : 10 ≤ 10)] using read

private theorem eq_of_append_cons_eq {c : Char} {front front' back back' : List Char}
    (absent : c ∉ back) (absent' : c ∉ back') (same : front ++ c :: back = front' ++ c :: back') :
    front = front' ∧ back = back' := by
  rcases List.append_eq_append_iff.mp same with ⟨between, rfl, rest⟩ | ⟨between, rfl, rest⟩
  · cases between with
    | nil => simpa using rest
    | cons d more =>
      obtain ⟨-, rfl⟩ := List.cons.inj rest
      simp at absent
  · cases between with
    | nil => simpa [eq_comm] using rest
    | cons d more =>
      obtain ⟨-, rfl⟩ := List.cons.inj rest
      simp at absent'

theorem numbered_injective {slug slug' : String} {m n : Nat} (pos : 0 < m) (pos' : 0 < n)
    (same : numbered slug m = numbered slug' n) : slug = slug' ∧ m = n := by
  rw [numbered_of_pos slug pos, numbered_of_pos slug' pos'] at same
  have chars := congrArg String.toList same
  simp only [String.toList_append, Nat.toString_eq_ofList_toDigits, String.toList_ofList,
    List.append_assoc] at chars
  obtain ⟨slugs, digits⟩ := eq_of_append_cons_eq (notMem_digits m) (notMem_digits n) chars
  exact ⟨String.toList_inj.mp slugs, digits_injective digits⟩

/-- Each slug with the number of times that it has been there before. -/
def ordinals (earlier : List String) : List String → List (String × Nat)
  | [] => []
  | slug :: rest => (slug, earlier.count slug) :: ordinals (slug :: earlier) rest

theorem ordinals_append (earlier front back : List String) :
    ordinals earlier (front ++ back) =
      ordinals earlier front ++ ordinals (front.reverse ++ earlier) back := by
  induction front generalizing earlier with
  | nil => rfl
  | cons slug rest ih => simp [ordinals, ih]

theorem mem_ordinals_iff {earlier slugs : List String} {slug : String} {n : Nat} :
    (slug, n) ∈ ordinals earlier slugs ↔
      earlier.count slug ≤ n ∧ n < earlier.count slug + slugs.count slug := by
  induction slugs generalizing earlier with
  | nil => simp [ordinals]
  | cons first rest ih =>
    rw [ordinals, List.mem_cons, ih, Prod.mk.injEq]
    by_cases same : first = slug
    · subst same
      simp only [List.count_cons_self, true_and]
      omega
    · have apart : slug ≠ first := fun other => same other.symm
      simp [List.count_cons_of_ne same, apart]

theorem nodup_ordinals (earlier slugs : List String) : (ordinals earlier slugs).Nodup := by
  induction slugs generalizing earlier with
  | nil => exact List.nodup_nil
  | cons slug rest ih =>
    rw [ordinals, List.nodup_cons]
    refine ⟨fun again => ?_, ih _⟩
    have later := (mem_ordinals_iff.mp again).1
    rw [List.count_cons_self] at later
    omega

/-- Numbered slugs are all different unless a numbered one is among the slugs itself. -/
theorem nodup_numbered_iff (slugs : List String) :
    ((ordinals [] slugs).map fun (slug, n) => numbered slug n).Nodup ↔
      ∀ slug n, 0 < n → n < slugs.count slug → slug ++ "-" ++ toString n ∉ slugs := by
  have member {slug : String} {n : Nat} :
      (slug, n) ∈ ordinals [] slugs ↔ n < slugs.count slug := by
    simp [mem_ordinals_iff]
  rw [List.nodup_map_iff_inj_on (nodup_ordinals [] slugs)]
  constructor
  · intro apart slug n pos repeated again
    have first : (slug ++ "-" ++ toString n, 0) ∈ ordinals [] slugs :=
      member.mpr (List.count_pos_iff.mpr again)
    have same := apart _ (member.mpr repeated) _ first (numbered_of_pos slug pos)
    rw [Prod.mk.injEq] at same
    omega
  · rintro alone ⟨slug, m⟩ present ⟨slug', n⟩ present' same
    rw [member] at present present'
    change numbered slug m = numbered slug' n at same
    rcases Nat.eq_zero_or_pos m with rfl | pos <;> rcases Nat.eq_zero_or_pos n with rfl | pos'
    · rw [numbered_zero, numbered_zero] at same
      rw [same]
    · rw [numbered_zero, numbered_of_pos slug' pos'] at same
      exact absurd (same ▸ List.count_pos_iff.mp present) (alone slug' n pos' present')
    · rw [numbered_zero, numbered_of_pos slug pos] at same
      exact absurd (same ▸ List.count_pos_iff.mp present') (alone slug m pos present)
    · obtain ⟨rfl, rfl⟩ := numbered_injective pos pos' same
      rfl

end Mathdown.Text

namespace Mathdown

namespace Compile

/-- Whether a state has counted the slugs of the headings that have been finished before. -/
def State.Counts (s : State) (slugs : List String) : Prop :=
  ∀ slug, s.slugs.getD slug 0 = slugs.count slug

theorem State.Counts.perm {s : State} {slugs slugs' : List String} (counts : s.Counts slugs)
    (same : slugs.Perm slugs') : s.Counts slugs' :=
  fun slug => (counts slug).trans (same.count_eq slug)

theorem Act.slugs_performAll {acts : List Act} (keeps : ∀ act ∈ acts, act.keepsHeading = true)
    (s : State) : (performAll acts s).slugs = s.slugs := by
  refine performAll_keeps (fun t => t.slugs = s.slugs) (fun act member t same => ?_) rfl
  have other : act ≠ .endHeading := by
    rintro rfl
    exact absurd (keeps _ member) (by decide)
  exact ((leaves_perform act t).slugs other).trans same

end Compile

namespace Compiler

open Compile (Act HeadingCapture Moment State)

variable {σ : Type} (c : Compiler σ)

/-- The ids that are written for the headings of documents compiled in turn. -/
def headingIds (documents : List (List Event)) (w : σ) : List String :=
  (c.momentsAll documents .initial w).filterMap Moment.headingId?

/-- The slugs of the headings that are finished at some moments. -/
def slugsAt (moments : List (Moment σ)) : List String :=
  (moments.filterMap Moment.heading?).map fun heading => Text.slugify heading.text

/-- The slugs of the headings of documents compiled in turn. -/
def headingSlugs (documents : List (List Event)) (w : σ) : List String :=
  slugsAt (c.momentsAll documents .initial w)

variable {c}

/-- A moment counts the slug of the heading that it finishes, and nothing else. -/
theorem counts_next {m : Moment σ} {slugs : List String} (counts : m.state.Counts slugs) :
    (c.next m).1.Counts
      ((m.heading?.map fun heading => Text.slugify heading.text).toList ++ slugs) := by
  obtain ⟨event, s, w⟩ := m
  rw [next, step_eq]
  rcases Act.ofEvent_cases c.options s (c.answerTo w (Compile.Question.ofEvent s event)).1 event with
    ⟨level, rfl, acts⟩ | ⟨level, rfl, acts⟩ | ⟨other, keeps⟩
  · rw [acts]
    exact counts
  · rw [acts]
    intro slug
    simp only [Moment.heading?, Act.performAll_cons, Act.performAll_nil, Act.perform,
      State.finishHeading]
    cases opened : s.heading with
    | none => exact counts slug
    | some heading =>
      have before := counts slug
      simp only [State.write, State.headingId, Std.HashMap.getD_insert, Option.map_some,
        Option.toList_some, List.singleton_append, List.count_cons]
      by_cases same : Text.slugify heading.text = slug
      · subst same
        simp [before]
      · simpa [same] using before
  · rw [Moment.heading?_eq_none fun level => (other level).2]
    intro slug
    rw [Act.slugs_performAll keeps]
    exact counts slug

/-- The id of a heading is its slug with the number of headings of that slug before it. -/
theorem headingId?_eq {m : Moment σ} {slugs : List String} (counts : m.state.Counts slugs) :
    m.headingId? = m.heading?.map fun heading =>
      Text.numbered (Text.slugify heading.text) (slugs.count (Text.slugify heading.text)) := by
  rw [Moment.headingId?]
  congr 1
  funext heading
  rw [← counts]
  rfl

/-- The ids of a run are the numbered slugs of its headings, counted on from what was there before. -/
theorem headingIds_moments (c : Compiler σ) (events : List Event) {s : State} {slugs : List String}
    (counts : s.Counts slugs) (w : σ) :
    (c.moments events s w).filterMap Moment.headingId? =
        ((Text.ordinals slugs (slugsAt (c.moments events s w))).map fun (slug, n) =>
          Text.numbered slug n) ∧
      (c.run events s w).2.1.Counts ((slugsAt (c.moments events s w)).reverse ++ slugs) := by
  induction events generalizing s slugs w with
  | nil => exact ⟨rfl, counts⟩
  | cons event events ih =>
    rw [moments, run_cons]
    split
    · exact ⟨rfl, counts⟩
    · have met : (moment event s w).state.Counts slugs := counts
      obtain ⟨ids, left⟩ := ih (counts_next (c := c) met) (c.next (moment event s w)).2
      have own := headingId?_eq met
      cases finished : (moment event s w).heading? with
      | none =>
        rw [finished] at own ids left
        simp only [List.filterMap_cons, own, slugsAt, finished]
        exact ⟨ids, left⟩
      | some heading =>
        rw [finished] at own ids left
        simp only [List.filterMap_cons, own, slugsAt, finished, Option.map_some, List.map_cons,
          Text.ordinals, List.reverse_cons, List.append_assoc, List.singleton_append]
        exact ⟨congrArg _ ids, left⟩

theorem counts_compile (c : Compiler σ) (events : List Event) {s : State} {slugs : List String}
    (counts : s.Counts slugs) (w : σ) :
    (c.compile events s w).2.1.Counts ((slugsAt (c.moments events s w)).reverse ++ slugs) := by
  obtain ⟨-, left⟩ := c.headingIds_moments events counts w
  simp only [compile]
  split <;> rename_i ran <;> rw [ran] at left <;> exact left

theorem headingIds_momentsAll (c : Compiler σ) (documents : List (List Event)) {s : State}
    {slugs : List String} (counts : s.Counts slugs) (w : σ) :
    (c.momentsAll documents s w).filterMap Moment.headingId? =
      (Text.ordinals slugs (slugsAt (c.momentsAll documents s w))).map fun (slug, n) =>
        Text.numbered slug n := by
  induction documents generalizing s slugs w with
  | nil => rfl
  | cons events rest ih =>
    obtain ⟨ids, -⟩ := c.headingIds_moments events counts w
    have later := ih (c.counts_compile events counts w) (c.compile events s w).2.2
    simp only [momentsAll, List.filterMap_append, slugsAt, List.map_append] at ids later ⊢
    rw [ids, later, Text.ordinals_append, List.map_append]

/-- The ids of headings are their slugs, each with the number of those like it before it. -/
theorem headingIds_eq (c : Compiler σ) (documents : List (List Event)) (w : σ) :
    c.headingIds documents w =
      (Text.ordinals [] (c.headingSlugs documents w)).map fun (slug, n) => Text.numbered slug n :=
  c.headingIds_momentsAll documents (fun slug => by simp [State.initial]) w

theorem output_next {m : Moment σ} {heading : HeadingCapture} (finished : m.heading? = some heading) :
    (c.next m).1.output = m.state.output ++
      Html.headingStart heading.level (m.state.headingId heading.text).1 ++
        (Text.trim heading.html ++ Html.headingStop heading.level) := by
  obtain ⟨event, s, w⟩ := m
  unfold Moment.heading? at finished
  split at finished
  · rename_i level closing
    obtain rfl : event = .stop (.heading level) := closing
    change s.heading = some heading at finished
    change s.finishHeading.output = _
    simp [State.finishHeading, finished, State.write, State.headingId]
  · cases finished

/--
The ids of all headings of documents that are compiled in turn are different if and only if no slug
that more than `n` headings have makes, with the number `n`, the slug of another heading. The event
that finishes a heading writes it under its id.
-/
theorem nodup_headingIds_iff (c : Compiler σ) (documents : List (List Event)) (w : σ) :
    (∀ m ∈ c.momentsAll documents .initial w, ∀ heading, m.heading? = some heading →
      ∃ id, m.headingId? = some id ∧ (c.next m).1.output =
        m.state.output ++ Html.headingStart heading.level id ++
          (Text.trim heading.html ++ Html.headingStop heading.level)) ∧
      ((c.headingIds documents w).Nodup ↔
        ∀ slug n, 0 < n → n < (c.headingSlugs documents w).count slug →
          slug ++ "-" ++ toString n ∉ c.headingSlugs documents w) := by
  refine ⟨fun m _ heading finished => ?_, ?_⟩
  · exact ⟨_, congrArg (Option.map _) finished, output_next finished⟩
  · rw [headingIds_eq]
    exact Text.nodup_numbered_iff _

/-- The number of a second heading `a` makes the slug of a heading that is written so. -/
theorem nodup_headingIds_numbered :
    ({} : Compiler Unit).headingIds
      [Markdown.events ⟨true, true⟩ "# a\n\n# a\n\n# a-1"] () = ["a", "a-1", "a-1"] := by
  have read : Markdown.events ⟨true, true⟩ "# a\n\n# a\n\n# a-1" =
      [.start (.heading 1), .text "a", .stop (.heading 1), .start (.heading 1), .text "a",
        .stop (.heading 1), .start (.heading 1), .text "a-1", .stop (.heading 1)] := by
    decide +kernel
  rw [read, headingIds_eq]
  decide +kernel

end Compiler

end Mathdown
