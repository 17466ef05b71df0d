import Mathdown.Proofs.Compile.Holes
import Mathdown.Proofs.Markdown.Nesting
import Mathdown.Proofs.Render.Awaiting

namespace Mathdown

open Relation (ReflTransGen)

namespace Render

variable {γ ω : Type}

namespace Pass

theorem jobs_deferCode (p : Pass γ ω) (job : Job ω) :
    (p.deferCode job).2.jobs.Perm (p.jobs ++ [((p.code.register job).1, job)]) := by
  simp only [deferCode, jobs, Registry.toList_register, List.append_assoc]
  exact List.perm_append_comm.append_left _

theorem jobs_deferMath (p : Pass γ ω) (job : Job ω) :
    (p.deferMath job).2.jobs.Perm (p.jobs ++ [((p.math.register job).1, job)]) := by
  simp only [deferMath, jobs, Registry.toList_register, List.append_assoc]
  exact .refl _

/-- What holds of the jobs that a pass has and of one more, holds of them when that is put off. -/
theorem forall_jobs_deferCode (p : Pass γ ω) (job : Job ω) {holds : PlaceholderId × Job ω → Prop} :
    (∀ other ∈ (p.deferCode job).2.jobs, holds other) ↔
      (∀ other ∈ p.jobs, holds other) ∧ holds ((p.code.register job).1, job) := by
  simp only [(p.jobs_deferCode job).mem_iff, List.forall_mem_append, List.forall_mem_singleton]

theorem forall_jobs_deferMath (p : Pass γ ω) (job : Job ω) {holds : PlaceholderId × Job ω → Prop} :
    (∀ other ∈ (p.deferMath job).2.jobs, holds other) ↔
      (∀ other ∈ p.jobs, holds other) ∧ holds ((p.math.register job).1, job) := by
  simp only [(p.jobs_deferMath job).mem_iff, List.forall_mem_append, List.forall_mem_singleton]

/-- Whether the registries number jobs of their own kind. -/
structure Sorted (p : Pass γ ω) : Prop where
  code : p.code.kind = .highlight
  math : p.math.kind = .math

theorem Sorted.ids_eq {p : Pass γ ω} (sorted : p.Sorted) :
    p.jobs.map Prod.fst =
      (List.range p.code.jobs.length).map (PlaceholderId.mk .highlight) ++
        (List.range p.math.jobs.length).map (PlaceholderId.mk .math) := by
  rw [jobs, List.map_append, Registry.map_id_toList, Registry.map_id_toList, sorted.code, sorted.math]

end Pass

variable [Cache γ]

theorem Setting.books (s : Setting ω) (options : CompilerOptions) :
    (⟨options, s.processors⟩ : Compiler (Pass γ ω)).Books fun p => p.jobs.map Prod.fst := by
  intro p question
  cases question with
  | code language source =>
    simp only [Compiler.answer, processors, code]
    split
    · simp [Pass.jobs, Answer.ids]
    · split
      · simp [Pass.answer, Pass.jobs, Answer.ids]
      · refine ((Pass.jobs_deferCode _ _).map Prod.fst).trans ?_
        rw [List.map_append]
        exact .refl _
      · simp [Pass.jobs, Answer.ids]
  | math expression display =>
    simp only [Compiler.answer, processors, math]
    split
    · simp [Pass.jobs, Answer.ids]
    · split
      · simp [Pass.answer, Pass.jobs, Answer.ids]
      · refine ((Pass.jobs_deferMath _ _).map Prod.fst).trans ?_
        rw [List.map_append]
        exact .refl _

theorem Setting.sorted (s : Setting ω) (options : CompilerOptions) (p : Pass γ ω)
    (question : Compile.Question) (before : p.Sorted) :
    ((⟨options, s.processors⟩ : Compiler (Pass γ ω)).answer p question).2.Sorted := by
  cases question with
  | code language source =>
    simp only [Compiler.answer, processors, code]
    split
    · exact ⟨before.code, before.math⟩
    · split <;> exact ⟨before.code, before.math⟩
  | math expression display =>
    simp only [Compiler.answer, processors, math]
    split
    · exact ⟨before.code, before.math⟩
    · split <;> exact ⟨before.code, before.math⟩

end Render

namespace Renderer

open Render

variable {γ ω : Type} [Cache γ]

private theorem compile_of_begin {r : Renderer ω} {input : String} {overrides : Overrides ω}
    {w next : World γ ω} {compiled : Compiled ω}
    (passed : r.begin input overrides w = (.inr compiled, next)) :
    ∃ s pass, (r.compiler γ overrides).compile (r.events input overrides) .initial
        { world := (w.find? (r.resultKey input overrides)).2 } = (.ok compiled.document, s, pass) ∧
      compiled.jobs = pass.jobs := by
  rcases r.begin_cases input overrides w with ⟨-, blank⟩ | ⟨html, -, -, hit⟩ |
    ⟨result, s, pass, -, ran, begun⟩
  · rw [blank] at passed
    cases passed
  · rw [hit] at passed
    cases passed
  · rw [begun, Prod.mk.injEq] at passed
    obtain ⟨passed, -⟩ := passed
    cases result with
    | error e => cases passed
    | ok document =>
      cases passed
      exact ⟨s, pass, ran, rfl⟩

theorem ids_of_begin {r : Renderer ω} {input : String} {overrides : Overrides ω}
    {w next : World γ ω} {compiled : Compiled ω}
    (passed : r.begin input overrides w = (.inr compiled, next)) :
    ∃ m n, compiled.jobs.map Prod.fst = (List.range m).map (PlaceholderId.mk .highlight) ++
      (List.range n).map (PlaceholderId.mk .math) := by
  obtain ⟨s, pass, ran, jobs⟩ := compile_of_begin passed
  have fresh : Pass.Sorted { world := (w.find? (r.resultKey input overrides)).2 } := ⟨rfl, rfl⟩
  have sorted := Compiler.compile_keeps (c := r.compiler γ overrides)
    ((r.setting overrides).sorted _) (r.events input overrides) .initial fresh
  rw [ran] at sorted
  exact jobs ▸ ⟨_, _, sorted.ids_eq⟩

theorem template_of_begin {r : Renderer ω} {input : String} {overrides : Overrides ω}
    (nested : Event.WellNested Event.noHeadingInHeading (r.events input overrides))
    {w next : World γ ω} {compiled : Compiled ω}
    (passed : r.begin input overrides w = (.inr compiled, next)) :
    ∃ t : Template, compiled.document = ⟨t.text, t.spans⟩ ∧
      t.holes.Perm (compiled.jobs.map Prod.fst) := by
  obtain ⟨s, pass, ran, jobs⟩ := compile_of_begin passed
  have books : (r.compiler γ overrides).Books fun p => p.jobs.map Prod.fst :=
    (r.setting overrides).books _
  have holes := Compiler.holes_compile books nested rfl (congrArg Prod.fst ran)
  rw [ran] at holes
  rwa [jobs]

private theorem nodup_ids (m n : Nat) :
    ((List.range m).map (PlaceholderId.mk .highlight) ++
      (List.range n).map (PlaceholderId.mk .math)).Nodup := by
  rw [List.nodup_append]
  refine ⟨?_, ?_, ?_⟩
  · exact List.nodup_range.map fun i j same => by injection same
  · exact List.nodup_range.map fun i j same => by injection same
  · intro a first b second same
    obtain ⟨i, -, rfl⟩ := List.mem_map.mp first
    obtain ⟨j, -, rfl⟩ := List.mem_map.mp second
    cases same

theorem nodup_of_begin {r : Renderer ω} {input : String} {overrides : Overrides ω}
    {w next : World γ ω} {compiled : Compiled ω}
    (passed : r.begin input overrides w = (.inr compiled, next)) :
    (compiled.jobs.map Prod.fst).Nodup := by
  obtain ⟨m, n, ids⟩ := ids_of_begin passed
  exact ids ▸ nodup_ids m n

/-- Whether a compiled call may get to some slots, whatever is done to the world, and end there. -/
def EndsWith (γ : Type) [Cache γ] (r : Renderer ω) (compiled : Compiled ω)
    (slots : List (Slot (Pending ω))) (result : Except CompileError String) : Prop :=
  let stage := Stage.working compiled.document slots compiled.key
  ReflTransGen (MovesSomewhere γ r) compiled.stage stage ∧ MovesSomewhere γ r stage (.done result)

/-- Whether slots hold what their jobs have found, and a result is a template with just that in it. -/
structure Held (fallback : FallbackEngine ω) (t : Template) (jobs : List (PlaceholderId × Job ω))
    (slots : List (Slot (Pending ω))) (result : Except CompileError String) : Prop where
  ids : slots.map Slot.id = jobs.map Prod.fst
  result : ∃ results : PlaceholderId → String,
    (∀ slot ∈ slots, slot.state = .inr (results slot.id)) ∧
      (∀ job ∈ jobs, job.2.Yields fallback (results job.1)) ∧ result = .ok (t.fill results)

/-- Whether each job has found something of its own just once, and a result is a template with that. -/
structure Filled (fallback : FallbackEngine ω) (t : Template) (jobs : List (PlaceholderId × Job ω))
    (found : List Finding) (result : Except CompileError String) : Prop where
  once : (found.map Finding.id).Perm (jobs.map Prod.fst)
  own : ∀ f ∈ found, ∃ job ∈ jobs, f.id = job.1 ∧ f.key = job.2.key ∧ job.2.Finds fallback f.outcome
  result : ∃ results : PlaceholderId → String,
    (∀ f ∈ found, results f.id = f.outcome.html) ∧ result = .ok (t.fill results)

variable {r : Renderer ω} {input : String} {overrides : Overrides ω} {w next : World γ ω}
  {compiled : Compiled ω} {t : Template} {slots : List (Slot (Pending ω))}
  {result : Except CompileError String}

private theorem worksOn_or_endsWith {stage : Stage ω}
    (moves : ReflTransGen (MovesSomewhere γ r) compiled.stage stage) :
    stage.WorksOn r.engines.fallback compiled ∨
      ∃ slots result, stage = .done result ∧ EndsWith γ r compiled slots result := by
  induction moves with
  | refl => exact .inl (compiled.worksOn_stage _)
  | @tail stage _ moves moved ih =>
    rcases ih with works | ⟨slots, result, rfl, -⟩
    · obtain ⟨w, next, move⟩ := moved
      rcases works.move move with works | ⟨-, html, -, -, rfl, -⟩
      · exact .inl works
      · obtain ⟨slots, rfl, -⟩ := works
        exact .inr ⟨slots, _, rfl, moves, w, next, move⟩
    · obtain ⟨w, next, moved⟩ := moved
      cases moved

theorem exists_endsWith (moves : ReflTransGen (MovesSomewhere γ r) compiled.stage (.done result)) :
    ∃ slots, EndsWith γ r compiled slots result := by
  rcases worksOn_or_endsWith moves with ⟨slots, working, -⟩ | ⟨slots, _, ⟨⟩, ends⟩
  · cases working
  · exact ⟨slots, ends⟩

/-- However the world is changed in between, a call ends with what its slots hold. -/
theorem EndsWith.held (ends : EndsWith γ r compiled slots result)
    (shown : compiled.document = ⟨t.text, t.spans⟩) (distinct : (compiled.jobs.map Prod.fst).Nodup)
    (filled : ∀ id ∈ t.holes, id ∈ compiled.jobs.map Prod.fst) :
    Held r.engines.fallback t compiled.jobs slots result := by
  obtain ⟨moves, w, next, move⟩ := ends
  rcases worksOn_or_endsWith moves with ⟨slots, ⟨⟩, serves⟩ | ⟨_, _, ⟨⟩, -⟩
  have ids := Slot.Serves.map_id serves
  cases move with
  | splice complete =>
    rw [shown] at complete
    obtain ⟨results, held, rfl⟩ := assemble?_template (ids ▸ distinct) (ids ▸ filled) complete
    exact ⟨ids, results, held, Slot.Serves.yields serves held, rfl⟩

/-- On every schedule a call ends with what its jobs have found. -/
theorem filled_of_scheduled (passed : r.begin input overrides w = (.inr compiled, next))
    (shown : compiled.document = ⟨t.text, t.spans⟩)
    (filled : ∀ id ∈ t.holes, id ∈ compiled.jobs.map Prod.fst) {s : Schedule} {n : Nat}
    (done : (r.scheduled input overrides w s n).1 = .done result) :
    Filled r.engines.fallback t compiled.jobs (r.scheduled input overrides w s n).2.2.found result := by
  have distinct := nodup_of_begin passed
  cases n with
  | zero => cases done
  | succ n =>
    obtain ⟨slots, v, same, awaited⟩ := scheduled_of_compiled passed distinct s n
    rw [same, settle] at done ⊢
    cases complete : assemble? compiled.document slots with
    | none =>
      rw [complete] at done
      cases done
    | some html =>
      rw [complete] at done
      cases done
      rw [shown] at complete
      have ids := map_id_of_stands awaited.stands
      obtain ⟨results, held, rfl⟩ := assemble?_template (ids ▸ distinct) (ids ▸ filled) complete
      have ended : ∀ slot ∈ slots, ∃ html, slot.state = .inr html :=
        fun slot member => ⟨_, held slot member⟩
      refine ⟨awaited.perm_of_done distinct ended, fun f found => (awaited.own f found).2, results, ?_, rfl⟩
      exact fun f found => Sum.inr.inj (held _ (awaited.own f found).1).symm

/-- A call that is polled in turn until it is done is one that is on a schedule. -/
theorem exists_scheduled_render (passed : r.begin input overrides w = (.inr compiled, next)) :
    ∃ n journal, r.scheduled input overrides w (.inTurn (compiled.jobs.map Prod.fst)) n =
      (.done (r.render input overrides w).1, (r.render input overrides w).2, journal) := by
  obtain ⟨n, ended⟩ := r.exists_polled (.unstarted input overrides) w
  obtain ⟨journal, same⟩ := scheduled_inTurn passed (nodup_of_begin passed) n
  exact ⟨n, journal, by rw [same, ended]; rfl⟩

/--
The jobs of a compiled call are numbered through by kind. Each of them has just one span in the
document, so that results for all of them can be spliced in; and what the call comes to is the document
with the jobs' own results in their spans and all else as it was. These are the results that the call's
slots hold at its end, whatever is done to the world between its moves, and those that its jobs have
found, on whatever schedule they are awaited.
-/
theorem splices_own_results (r : Renderer ω) (input : String) (overrides : Overrides ω)
    (nested : Event.WellNested Event.noHeadingInHeading (r.events input overrides)) (w : World γ ω)
    {next : World γ ω} {compiled : Compiled ω}
    (passed : r.begin input overrides w = (.inr compiled, next)) :
    (∃ m n, compiled.jobs.map Prod.fst = (List.range m).map (PlaceholderId.mk .highlight) ++
        (List.range n).map (PlaceholderId.mk .math)) ∧
      (compiled.document.spans.map PlaceholderSpan.id).Perm (compiled.jobs.map Prod.fst) ∧
      (∀ replacements : Replacements,
        (∀ job ∈ compiled.jobs, (replacements.find? job.1).isSome) →
        replacements.covers compiled.document.spans = true ∧
          (replacements.splice? compiled.document.html compiled.document.spans).isSome) ∧
      ∃ t : Template, t.text = compiled.document.html ∧ t.spans = compiled.document.spans ∧
        (∀ result, ReflTransGen (MovesSomewhere γ r) compiled.stage (.done result) →
          ∃ slots, EndsWith γ r compiled slots result) ∧
        (∀ slots result, EndsWith γ r compiled slots result →
          Held r.engines.fallback t compiled.jobs slots result) ∧
        (∀ s n result, (r.scheduled input overrides w s n).1 = .done result →
          Filled r.engines.fallback t compiled.jobs (r.scheduled input overrides w s n).2.2.found
            result) ∧
        ∃ n journal, r.scheduled input overrides w (.inTurn (compiled.jobs.map Prod.fst)) n =
            (.done (r.render input overrides w).1, (r.render input overrides w).2, journal) ∧
          Filled r.engines.fallback t compiled.jobs journal.found (r.render input overrides w).1 := by
  obtain ⟨t, shown, holes⟩ := template_of_begin nested passed
  have distinct := nodup_of_begin passed
  have filled : ∀ id ∈ t.holes, id ∈ compiled.jobs.map Prod.fst := fun id member => holes.subset member
  have spans : compiled.document.spans.map PlaceholderSpan.id = t.holes := by
    rw [shown]
    exact Template.map_id_spansFrom 0 t
  refine ⟨ids_of_begin passed, spans ▸ holes, fun replacements found => ⟨?_, ?_⟩, t, by rw [shown],
    by rw [shown], fun result => exists_endsWith, fun slots result ends => ends.held shown distinct filled,
    fun s n result done => filled_of_scheduled passed shown filled done, ?_⟩
  · rw [Replacements.covers, List.all_eq_true]
    intro span member
    have hole : span.id ∈ t.holes := spans ▸ List.mem_map_of_mem member
    obtain ⟨job, present, same⟩ := List.mem_map.mp (filled _ hole)
    exact same ▸ found job present
  · rw [shown, replacements.splice?_template t]
    rfl
  · obtain ⟨n, journal, ended⟩ := exists_scheduled_render passed
    have own := filled_of_scheduled passed shown filled (congrArg Prod.fst ended)
    rw [ended] at own
    exact ⟨n, journal, ended, own⟩

/-- A renderer that puts every span off. -/
def deferring : Renderer Unit where
  engines := {
    highlighter := ⟨fun code _ e =>
      (.ok (.pending ⟨1, fun e => (.ok ("<i>" ++ code ++ "</i>"), e)⟩), e)⟩
    math := ⟨fun _ _ e => (.error (.render "unknown"), e)⟩
    fallback := ⟨fun expression _ e =>
      (⟨0, fun e => (.ok ("<svg>" ++ expression ++ "</svg>"), e)⟩, e)⟩ }
  options := { math := true }

/-- A token that the input spells out is text like any other. -/
theorem splices_own_results_beside_written_token :
    ∃ (compiled : Compiled Unit) (next : World Cache.Null Unit),
      deferring.begin "# $a$\n\n<span id=\"math-0\"></span> $b$\n\n    x\n" {} ⟨⟨⟩, ()⟩ =
          (.inr compiled, next) ∧
        (compiled.document.spans.map PlaceholderSpan.id).Perm (compiled.jobs.map Prod.fst) ∧
        ∃ (t : Template) (found : List Finding),
          t.text = compiled.document.html ∧ t.spans = compiled.document.spans ∧
            Filled deferring.engines.fallback t compiled.jobs found
              (deferring.render "# $a$\n\n<span id=\"math-0\"></span> $b$\n\n    x\n" {}
                (⟨⟨⟩, ()⟩ : World Cache.Null Unit)).1 := by
  have compiles : (deferring.begin "# $a$\n\n<span id=\"math-0\"></span> $b$\n\n    x\n" {}
      (⟨⟨⟩, ()⟩ : World Cache.Null Unit)).1.isRight = true := by decide +kernel
  rcases passed : deferring.begin "# $a$\n\n<span id=\"math-0\"></span> $b$\n\n    x\n" {}
    (⟨⟨⟩, ()⟩ : World Cache.Null Unit) with ⟨result | compiled, next⟩
  · rw [passed] at compiles
    cases compiles
  · have nests : deferring.engines.parser.Nests Event.noHeadingInHeading :=
      .mono Markdown.wellNested_events Event.noHeadingInHeading_of_inlineHeadings
    obtain ⟨-, spans, -, t, text, places, -, -, -, n, journal, -, own⟩ :=
      splices_own_results _ _ _ (nests _ _) _ passed
    exact ⟨compiled, next, rfl, spans, t, journal.found, text, places, own⟩

end Renderer

end Mathdown
