import Mathlib.Data.List.Forall2
import Mathlib.Data.List.Nodup
import Mathdown.Placeholder.Splice
import Mathdown.Render.Move

namespace Mathdown

namespace Replacements

private theorem lookup_of_mem {results : List (PlaceholderId × String)} {id : PlaceholderId}
    {html : String} (distinct : (results.map Prod.fst).Nodup) (member : (id, html) ∈ results) :
    results.lookup id = some html := by
  induction results with
  | nil => cases member
  | cons first rest ih =>
    rw [List.map_cons, List.nodup_cons] at distinct
    rcases List.mem_cons.mp member with rfl | member
    · simp
    · have apart : id ≠ first.1 := by
        rintro rfl
        exact distinct.1 (List.mem_map.mpr ⟨_, member, rfl⟩)
      rw [List.lookup_cons, beq_false_of_ne apart]
      exact ih distinct.2 member

theorem find?_ofList {results : List (PlaceholderId × String)} {id : PlaceholderId} {html : String}
    (distinct : (results.map Prod.fst).Nodup) (member : (id, html) ∈ results) :
    (ofList results).find? id = some html :=
  lookup_of_mem (by simpa [ofList, List.nodup_reverse] using distinct) (by simpa [ofList] using member)

end Replacements

namespace Render

variable {γ ω ρ : Type} [Cache γ]

private theorem results_of_mapM {slots : List (Slot ρ)} {results : List (PlaceholderId × String)}
    (all : slots.mapM (fun (s : Slot ρ) => s.result?.map fun html => (s.id, html)) = some results) :
    results.map Prod.fst = slots.map Slot.id ∧
      ∀ slot ∈ slots, ∃ html, slot.state = .inr html ∧ (slot.id, html) ∈ results := by
  induction slots generalizing results with
  | nil =>
    cases all
    simp
  | cons first rest ih =>
    rw [List.mapM_cons, Option.bind_eq_bind, Option.bind_eq_some_iff] at all
    obtain ⟨result, here, all⟩ := all
    rw [Option.bind_eq_bind, Option.bind_eq_some_iff] at all
    obtain ⟨more, others, all⟩ := all
    cases all
    obtain ⟨ids, each⟩ := ih others
    obtain ⟨id, state⟩ := first
    cases state with
    | inl job => cases here
    | inr html =>
      cases here
      refine ⟨by simp [ids], fun slot member => ?_⟩
      rcases List.mem_cons.mp member with rfl | member
      · exact ⟨html, rfl, List.mem_cons_self ..⟩
      · obtain ⟨html, state, present⟩ := each slot member
        exact ⟨html, state, List.mem_cons_of_mem _ present⟩

theorem Slot.done_of_results? {slots : List (Slot ρ)} {replacements : Replacements}
    (complete : Slot.results? slots = some replacements) {slot : Slot ρ} (member : slot ∈ slots) :
    ∃ html, slot.state = .inr html := by
  rw [Slot.results?, Option.map_eq_some_iff] at complete
  obtain ⟨results, all, -⟩ := complete
  obtain ⟨html, state, -⟩ := (results_of_mapM all).2 slot member
  exact ⟨html, state⟩

theorem done_of_assemble? {document : CompiledDocument} {slots : List (Slot ρ)} {html : String}
    (complete : assemble? document slots = some html) :
    ∀ slot ∈ slots, ∃ html, slot.state = .inr html := by
  rw [assemble?, Option.map_eq_some_iff] at complete
  obtain ⟨replacements, all, -⟩ := complete
  exact fun slot member => Slot.done_of_results? all member

theorem Slot.find?_of_results? {slots : List (Slot ρ)} {replacements : Replacements}
    (complete : Slot.results? slots = some replacements) (distinct : (slots.map Slot.id).Nodup)
    {slot : Slot ρ} (member : slot ∈ slots) :
    ∃ html, slot.state = .inr html ∧ replacements.find? slot.id = some html := by
  rw [Slot.results?, Option.map_eq_some_iff] at complete
  obtain ⟨results, all, rfl⟩ := complete
  obtain ⟨ids, each⟩ := results_of_mapM all
  obtain ⟨html, state, present⟩ := each slot member
  exact ⟨html, state, Replacements.find?_ofList (ids ▸ distinct) present⟩

/-- Whether HTML is what a job finds, whatever the engines have gone through meanwhile. -/
def Job.Yields (fallback : FallbackEngine ω) (job : Job ω) (html : String) : Prop :=
  ∃ atStart atEnd : ω, ((job.work fallback atStart).1.finish atEnd).1.html = html

/-- Whether a slot is what has become of a job, under the job's id. -/
structure Slot.Serves (fallback : FallbackEngine ω) (slot : Slot (Pending ω))
    (job : PlaceholderId × Job ω) : Prop where
  id : slot.id = job.1
  waiting : ∀ other, slot.state = .inl (.waiting other) → other = job.2
  started : ∀ running, slot.state = .inl (.started running) → running.key = job.2.key ∧
    ∃ atStart, running.work.finish = (job.2.work fallback atStart).1.finish
  done : ∀ html, slot.state = .inr html → job.2.Yields fallback html

variable {fallback : FallbackEngine ω} {job : PlaceholderId × Job ω}

theorem Slot.Serves.ofWaiting : (Slot.waiting job).Serves fallback job where
  id := rfl
  waiting other state := by cases state; rfl
  started running state := nomatch state
  done html state := nomatch state

theorem Slot.Serves.advance {id : PlaceholderId} {task : Pending ω}
    (serves : Slot.Serves fallback ⟨id, .inl task⟩ job) (w : World γ ω) :
    Slot.Serves fallback ⟨id, (task.advance fallback w).1⟩ job := by
  cases task with
  | waiting other =>
    obtain rfl := serves.waiting other rfl
    refine ⟨serves.id, fun other state => (nomatch state), ?_, fun html state => (nomatch state)⟩
    rintro _ ⟨⟩
    exact ⟨rfl, w.engines, rfl⟩
  | started running =>
    obtain ⟨key, atStart, work⟩ := serves.started running rfl
    cases delay : running.work.delay with
    | zero =>
      simp only [Pending.advance_of_delay_zero delay]
      refine ⟨serves.id, fun other state => (nomatch state), fun other state => (nomatch state), ?_⟩
      rintro _ ⟨⟩
      exact ⟨atStart, w.engines, by rw [work]⟩
    | succ n =>
      simp only [Pending.advance_of_delay_succ delay]
      refine ⟨serves.id, fun other state => (nomatch state), ?_, fun html state => (nomatch state)⟩
      rintro _ ⟨⟩
      exact ⟨key, atStart, work⟩

/-- Whether a call is at work on a compiled document. -/
def Stage.WorksOn (fallback : FallbackEngine ω) (compiled : Compiled ω) (stage : Stage ω) : Prop :=
  ∃ slots, stage = .working compiled.document slots compiled.key ∧
    List.Forall₂ (Slot.Serves fallback) slots compiled.jobs

theorem Compiled.worksOn_stage (fallback : FallbackEngine ω) (compiled : Compiled ω) :
    compiled.stage.WorksOn fallback compiled := by
  refine ⟨_, rfl, ?_⟩
  rw [List.forall₂_map_left_iff, List.forall₂_same]
  exact fun job _ => .ofWaiting

theorem Slot.forall_waiting {jobs : List (PlaceholderId × Job ω)} {kind : Pending ω → Prop}
    (all : ∀ job ∈ jobs, kind (.waiting job.2)) :
    ∀ slot ∈ jobs.map Slot.waiting, ∀ task, slot.state = .inl task → kind task := by
  intro slot member task state
  obtain ⟨job, present, rfl⟩ := List.mem_map.mp member
  cases state
  exact all job present

theorem forall_mem_replace {α : Type} {kind : α → Prop} {front back : List α} {old new : α}
    (all : ∀ a ∈ front ++ old :: back, kind a) (next : kind new) :
    ∀ a ∈ front ++ new :: back, kind a := by
  rw [List.forall_mem_append, List.forall_mem_cons] at all ⊢
  exact ⟨all.1, next, all.2.2⟩

theorem exists_append_of_forall₂ {α β : Type} {related : α → β → Prop} {front back : List α} {a : α}
    {others : List β} (all : List.Forall₂ related (front ++ a :: back) others) :
    ∃ front' b back', others = front' ++ b :: back' ∧ List.Forall₂ related front front' ∧ related a b ∧
      List.Forall₂ related back back' := by
  induction front generalizing others with
  | nil =>
    cases all with
    | cons here rest => exact ⟨[], _, _, rfl, .nil, here, rest⟩
  | cons first front ih =>
    cases all with
    | cons here rest =>
      obtain ⟨front', b, back', rfl, before, there, behind⟩ := ih rest
      exact ⟨_ :: front', b, back', rfl, .cons here before, there, behind⟩

theorem forall₂_replace {α β : Type} {related : α → β → Prop} {old new : α}
    (weaker : ∀ other, related old other → related new other) {front back : List α} {others : List β}
    (all : List.Forall₂ related (front ++ old :: back) others) :
    List.Forall₂ related (front ++ new :: back) others := by
  obtain ⟨front', b, back', rfl, before, here, behind⟩ := exists_append_of_forall₂ all
  exact List.rel_append before (.cons (weaker b here) behind)

theorem exists_of_forall₂ {α β : Type} {related : α → β → Prop} {left : List α}
    {right : List β} (all : List.Forall₂ related left right) {a : α} (member : a ∈ left) :
    ∃ b ∈ right, related a b := by
  induction all with
  | nil => cases member
  | cons here _ ih =>
    rcases List.mem_cons.mp member with rfl | member
    · exact ⟨_, List.mem_cons_self .., here⟩
    · obtain ⟨b, present, there⟩ := ih member
      exact ⟨b, List.mem_cons_of_mem _ present, there⟩

/-- A call that is at work stays so until all of its slots are done. -/
theorem Stage.WorksOn.move {r : Renderer ω} {compiled : Compiled ω} {stage later : Stage ω}
    {w next : World γ ω} (works : stage.WorksOn r.engines.fallback compiled)
    (moved : Move r (stage, w) (later, next)) :
    later.WorksOn r.engines.fallback compiled ∨
      ∃ slots html, List.Forall₂ (Slot.Serves r.engines.fallback) slots compiled.jobs ∧
        assemble? compiled.document slots = some html ∧ later = .done (.ok html) ∧
        next = w.store compiled.key html := by
  obtain ⟨slots, rfl, serves⟩ := works
  cases moved with
  | job front back advanced =>
    refine .inl ⟨_, rfl, forall₂_replace (fun job own => ?_) serves⟩
    have forward := own.advance w
    rwa [advanced] at forward
  | splice complete => exact .inr ⟨slots, _, serves, complete, rfl, rfl⟩

/-- The HTML of a template whose holes all have a slot is the template with what the slots hold. -/
theorem assemble?_template {slots : List (Slot ρ)} {t : Template} (distinct : (slots.map Slot.id).Nodup)
    (filled : ∀ id ∈ t.holes, id ∈ slots.map Slot.id) {html : String}
    (complete : assemble? ⟨t.text, t.spans⟩ slots = some html) :
    ∃ results : PlaceholderId → String,
      (∀ slot ∈ slots, slot.state = .inr (results slot.id)) ∧ html = t.fill results := by
  rw [assemble?, Option.map_eq_some_iff] at complete
  obtain ⟨replacements, complete, rfl⟩ := complete
  refine ⟨replacements.content, fun slot member => ?_, ?_⟩
  · obtain ⟨html, state, found⟩ := Slot.find?_of_results? complete distinct member
    rw [state, Replacements.content, found]
    rfl
  · cases slots with
    | nil =>
      have empty : t.holes = [] := List.eq_nil_iff_forall_not_mem.mpr fun id member =>
        List.not_mem_nil (filled id member)
      rw [List.isEmpty_nil, if_pos rfl]
      exact Template.fill_congr fun id member => absurd member (empty ▸ List.not_mem_nil)
    | cons slot rest => simp [replacements.splice?_template t]

theorem Slot.Serves.map_id {slots : List (Slot (Pending ω))} {jobs : List (PlaceholderId × Job ω)}
    (serves : List.Forall₂ (Slot.Serves fallback) slots jobs) :
    slots.map Slot.id = jobs.map Prod.fst := by
  rw [← List.forall₂_eq_eq_eq, List.forall₂_map_left_iff, List.forall₂_map_right_iff]
  exact serves.imp fun slot job own => own.id

theorem Slot.Serves.yields {slots : List (Slot (Pending ω))} {jobs : List (PlaceholderId × Job ω)}
    (serves : List.Forall₂ (Slot.Serves fallback) slots jobs) {results : PlaceholderId → String}
    (held : ∀ slot ∈ slots, slot.state = .inr (results slot.id)) :
    ∀ job ∈ jobs, job.2.Yields fallback (results job.1) := by
  intro job member
  obtain ⟨slot, present, own⟩ := exists_of_forall₂ serves.flip member
  exact own.id ▸ own.done _ (held slot present)

end Render

end Mathdown
