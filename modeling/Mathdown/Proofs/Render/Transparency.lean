import Mathdown.Proofs.Render.Rightness

/-!
A cache changes nothing. Calls of a renderer with deterministic engines may share a cache and move in
any order: each of them comes to what it comes to without a cache. What every move keeps is that the
cache holds only what is right, and that each call is on its way to its own result.
-/

namespace Mathdown

open Cache (Keeps Key)
open Event (plainHeadings)
open Relation (ReflTransGen)
open Render

namespace Renderer

variable {γ ω : Type} [Cache γ] {r : Renderer ω} {f g : EngineFunctions} {input : String}
  {overrides : Overrides ω} {holds : γ → Prop}

theorem uses_resultKey (serves : r.Serves f overrides g) {key : Key}
    (keyed : r.resultKey input overrides = some key) :
    r.Uses key ∧ ∀ html, r.Means f key html ↔ r.inlined g input overrides = .ok html := by
  have covered : r.caching.result = true := by
    by_contra off
    simp [resultKey, off] at keyed
  obtain ⟨rfl, rfl⟩ := eq_of_resultKey keyed
  have same : g = f := by
    cases f
    cases g
    simpa using ⟨serves.highlight rfl, serves.math rfl, serves.typeset⟩
  exact ⟨⟨trivial, covered⟩, fun html => by rw [same]; rfl⟩

/-- Whether what a compile pass leaves is on its way to the result of its call. -/
structure Ready (r : Renderer ω) (f g : EngineFunctions) (input : String)
    (overrides : Overrides ω) (compiled : Compiled ω) : Prop where
  key : compiled.key = r.resultKey input overrides
  distinct : (compiled.jobs.map Prod.fst).Nodup
  stores : ∀ job ∈ compiled.jobs, r.Stores f job.2
  shown : ∃ t : Template, compiled.document = ⟨t.text, t.spans⟩ ∧
    (∀ id ∈ t.holes, id ∈ compiled.jobs.map Prod.fst) ∧
    ∀ content : PlaceholderId → String,
      (∀ job ∈ compiled.jobs, job.2.Yields r.engines.fallback (content job.1)) →
        r.inlined g input overrides = .ok (t.fill content)

/-- Whether a call is on its way to its result, or has it. -/
def OnCourse (r : Renderer ω) (f g : EngineFunctions) (input : String) (overrides : Overrides ω)
    (stage : Stage ω) : Prop :=
  stage = .unstarted input overrides ∨
    (∃ compiled, stage.WorksOn r.engines.fallback compiled ∧ r.Ready f g input overrides compiled) ∨
    stage = .done (r.inlined g input overrides)

private theorem begin_right (nests : r.engines.parser.Nests plainHeadings) (trusts : r.Trusts f holds)
    (serves : r.Serves f overrides g) (firm : f.Firm) {w next : World γ ω} (held : holds w.cache)
    {outcome : Except CompileError String ⊕ Compiled ω}
    (passed : r.begin input overrides w = (outcome, next)) :
    holds next.cache ∧
      match outcome with
      | .inl result => result = r.inlined g input overrides
      | .inr compiled => r.Ready f g input overrides compiled := by
  have looked := trusts.find? held (r.resultKey input overrides)
  rcases r.begin_cases input overrides w with ⟨blank, begun⟩ | ⟨html, dark, found, begun⟩ |
    ⟨result, s, pass, dark, ran, begun⟩
  · rw [begun] at passed
    cases passed
    exact ⟨held, by simp [inlined, blank]⟩
  · rw [begun] at passed
    cases passed
    obtain ⟨key, keyed, right⟩ := trusts.means_of_find? held found
    obtain ⟨uses, means⟩ := uses_resultKey serves keyed
    exact ⟨looked, ((means html).mp (right uses)).symm⟩
  · rw [begun] at passed
    cases passed
    have fresh : r.Sound f holds { world := (w.find? (r.resultKey input overrides)).2 } :=
      ⟨looked, by simp [Pass.jobs, Registry.toList]⟩
    have nested : Event.WellNested plainHeadings (r.events input overrides) := nests _ input
    have compiled := Compiler.compile_inlines (inlines_compiler trusts serves firm) nested fresh
    rw [ran] at compiled
    obtain ⟨sound, compiled⟩ := compiled
    refine ⟨sound.cache, ?_⟩
    have whole : r.inlined g input overrides =
        ((Compiler.inlining (r.options.override overrides.compiler) g.value).compile
          (r.events input overrides) .initial ()).1.map CompiledDocument.html := by
      rw [inlined, dark]
      rfl
    cases result with
    | error e =>
      change (Except.error e : Except CompileError String) = _
      rw [whole]
      exact (congrArg (Except.map CompiledDocument.html) compiled).symm
    | ok document =>
      obtain ⟨t, rfl, fills⟩ := compiled
      obtain ⟨t', shown, holes⟩ :=
        template_of_begin (nested.mono Event.noHeadingInHeading_of_plainHeadings) begun
      -- Both templates are of the same document, so that the jobs are those of its holes.
      have same : t.holes = t'.holes := by
        have spans := congrArg CompiledDocument.spans shown
        simpa [Template.spans] using congrArg (List.map PlaceholderSpan.id) spans
      refine ⟨rfl, nodup_of_begin begun, sound.jobs, t, rfl, ?_, fun content own => ?_⟩
      · exact fun id member => holes.subset (same ▸ member)
      · rw [whole]
        exact fills content own

private theorem advance_right (trusts : r.Trusts f holds) {id : PlaceholderId} {task : Pending ω}
    {job : PlaceholderId × Job ω} (serves : Slot.Serves r.engines.fallback ⟨id, .inl task⟩ job)
    (stores : r.Stores f job.2) {w : World γ ω} (held : holds w.cache) :
    holds (task.advance r.engines.fallback w).2.cache := by
  cases task with
  | waiting other => exact held
  | started running =>
    obtain ⟨keyed, atStart, work⟩ := serves.started running rfl
    cases delay : running.work.delay with
    | succ n =>
      simpa only [Pending.advance_of_delay_succ delay] using held
    | zero =>
      simp only [Pending.advance_of_delay_zero delay, work]
      split
      · rename_i lasting
        refine trusts.store held (fun key same => ?_) _
        obtain ⟨uses, means⟩ := stores key (keyed ▸ same)
        exact ⟨uses, means atStart w.engines lasting⟩
      · exact held

private theorem move_right (nests : r.engines.parser.Nests plainHeadings) (trusts : r.Trusts f holds)
    (serves : r.Serves f overrides g) (firm : f.Firm) {stage later : Stage ω} {w next : World γ ω}
    (held : holds w.cache)
    (course : r.OnCourse f g input overrides stage) (moved : Move r (stage, w) (later, next)) :
    holds next.cache ∧ r.OnCourse f g input overrides later := by
  rcases course with rfl | ⟨compiled, works, ready⟩ | rfl
  · cases moved with
    | answer passed =>
      obtain ⟨kept, same⟩ := begin_right nests trusts serves firm held passed
      exact ⟨kept, .inr (.inr (congrArg Stage.done same))⟩
    | compile passed =>
      obtain ⟨kept, ready⟩ := begin_right nests trusts serves firm held passed
      exact ⟨kept, .inr (.inl ⟨_, Compiled.worksOn_stage _ _, ready⟩)⟩
  · rcases works.move moved with still | ⟨slots, html, served, complete, rfl, rfl⟩
    · refine ⟨?_, .inr (.inl ⟨compiled, still, ready⟩)⟩
      obtain ⟨slots, rfl, served⟩ := works
      cases moved with
      | job front back advanced =>
        obtain ⟨job, member, own⟩ :=
          exists_of_forall₂ served (List.mem_append_right front (List.mem_cons_self ..))
        have right := advance_right trusts own (ready.stores job member) held
        rwa [advanced] at right
      | splice complete =>
        obtain ⟨slots, working, -⟩ := still
        cases working
    · obtain ⟨t, shown, filled, fills⟩ := ready.shown
      rw [shown] at complete
      have ids := Slot.Serves.map_id served
      obtain ⟨results, states, rfl⟩ :=
        assemble?_template (ids ▸ ready.distinct) (ids ▸ filled) complete
      have result := fills results (Slot.Serves.yields served states)
      refine ⟨trusts.store held (fun key keyed => ?_) _, .inr (.inr (by rw [result]))⟩
      rw [ready.key] at keyed
      obtain ⟨uses, means⟩ := uses_resultKey serves keyed
      exact ⟨uses, (means (t.fill results)).mpr result⟩
  · cases moved

private theorem moves_right (nests : r.engines.parser.Nests plainHeadings) (trusts : r.Trusts f holds)
    (serves : r.Serves f overrides g) (firm : f.Firm) {start last : Stage ω × World γ ω}
    (moves : ReflTransGen (Move r) start last) (held : holds start.2.cache)
    (course : r.OnCourse f g input overrides start.1) :
    holds last.2.cache ∧ r.OnCourse f g input overrides last.1 := by
  induction moves with
  | refl => exact ⟨held, course⟩
  | tail _ moved ih => exact move_right nests trusts serves firm ih.1 ih.2 moved

private theorem eq_of_done {result : Except CompileError String}
    (course : r.OnCourse f g input overrides (.done result)) :
    result = r.inlined g input overrides := by
  rcases course with other | ⟨compiled, ⟨slots, other, -⟩, -⟩ | same
  · cases other
  · cases other
  · cases same
    rfl

/--
Behind a cache with nothing wrong in it a document is what it is with all spans at once, and there is
nothing wrong in what is left of the cache.
-/
theorem render_right (nests : r.engines.parser.Nests plainHeadings) (trusts : r.Trusts f holds)
    (serves : r.Serves f overrides g) (firm : f.Firm) (input : String) {w : World γ ω}
    (held : holds w.cache) :
    (r.render input overrides w).1 = r.inlined g input overrides ∧
      holds (r.render input overrides w).2.cache := by
  obtain ⟨kept, course⟩ := moves_right nests trusts serves firm
    (moves_run r (.unstarted input overrides) w) held (.inl rfl)
  exact ⟨eq_of_done course, kept⟩

private theorem eq_of_unstarted {start last : Stage ω × World γ ω}
    (moves : ReflTransGen (Move r) start last) (unstarted : last.1.isUnstarted = true) :
    last = start := by
  rcases moves.cases_tail with same | ⟨middle, -, moved⟩
  · exact same
  · cases moved <;> cases unstarted

/-- The last thing that a call does is to store the HTML of its document, if it has a key for it. -/
theorem render_stores (nests : r.engines.parser.Nests plainHeadings) (trusts : r.Trusts f holds)
    (serves : r.Serves f overrides g) (firm : f.Firm) {w : World γ ω} (held : holds w.cache) {key : Key}
    (keyed : r.resultKey input overrides = some key) (dark : Text.allBlank input = false)
    (missed : Cache.get? w.cache key.text = none) {html : String}
    (rendered : r.inlined g input overrides = .ok html) :
    ∃ cache, holds cache ∧ (r.render input overrides w).2.cache = Cache.set cache key.text html := by
  have moves := moves_run r (.unstarted input overrides) w
  obtain ⟨-, course⟩ := moves_right nests trusts serves firm moves held (.inl rfl)
  have result := (eq_of_done course).trans rendered
  change ReflTransGen (Move r) (.unstarted input overrides, w)
    (.done (r.render input overrides w).1, (r.render input overrides w).2) at moves
  change (r.render input overrides w).1 = _ at result
  rw [result] at moves
  generalize (r.render input overrides w).2 = last at moves ⊢
  rcases moves.cases_tail with same | ⟨⟨stage, middle⟩, moves, moved⟩
  · cases same
  · obtain ⟨kept, course⟩ := moves_right nests trusts serves firm moves held (.inl rfl)
    cases moved with
    | answer passed =>
      cases eq_of_unstarted moves rfl
      rcases r.begin_cases input overrides w with ⟨blank, begun⟩ | ⟨found, dark', hit, begun⟩ |
        ⟨result, s, pass, dark', ran, begun⟩
      · cases blank.symm.trans dark
      · rw [keyed] at hit
        cases missed.symm.trans hit
      · rw [begun] at passed
        cases result with
        | error e => cases passed
        | ok document => cases passed
    | splice complete =>
      rcases course with other | ⟨compiled, ⟨slots, works, -⟩, ready⟩ | other
      · cases other
      · cases works
        rw [ready.key, keyed]
        exact ⟨middle.cache, kept, rfl⟩
      · cases other

/-- Whether each of some calls is on course, and the cache that they share is right. -/
def AllOnCourse (r : Renderer ω) (f : EngineFunctions)
    (functions : String × Overrides ω → EngineFunctions) (calls : List (String × Overrides ω))
    (config : List (Stage ω) × World γ ω) : Prop :=
  Keeps (r.Right f) config.2.cache ∧
    List.Forall₂ (fun stage call => r.Serves f call.2 (functions call) ∧
      r.OnCourse f (functions call) call.1 call.2 stage) config.1 calls

variable {functions : String × Overrides ω → EngineFunctions} {calls : List (String × Overrides ω)}
  {config later : List (Stage ω) × World γ ω}

theorem AllOnCourse.step (nests : r.engines.parser.Nests plainHeadings) (firm : f.Firm)
    (course : r.AllOnCourse f functions calls config)
    (stepped : Step r config later) : r.AllOnCourse f functions calls later := by
  obtain ⟨keeps, each⟩ := course
  obtain ⟨front, back, moved⟩ := stepped
  obtain ⟨call, -, serves, own⟩ :=
    exists_of_forall₂ each (List.mem_append_right front (List.mem_cons_self ..))
  refine ⟨(move_right nests (r.trusts_keeps f) serves firm keeps own moved).1, forall₂_replace ?_ each⟩
  rintro call ⟨serves, own⟩
  exact ⟨serves, (move_right nests (r.trusts_keeps f) serves firm keeps own moved).2⟩

theorem AllOnCourse.steps (nests : r.engines.parser.Nests plainHeadings) (firm : f.Firm)
    (course : r.AllOnCourse f functions calls config)
    (steps : ReflTransGen (Step r) config later) : r.AllOnCourse f functions calls later := by
  induction steps with
  | refl => exact course
  | tail _ stepped ih => exact ih.step nests firm stepped

/--
Calls of a renderer whose engines are deterministic share an honest cache, empty to begin with, and
move in any order. Wherever they get, a call that is done has the result that it has without a cache;
and in any order they get to where all of them are done.
-/
theorem cache_transparent (r : Renderer ω) (nests : r.engines.parser.Nests plainHeadings)
    (f : EngineFunctions) (computes : r.engines.Compute f) (firm : f.Firm)
    (calls : List (String × Overrides ω)) (deterministic : ∀ call ∈ calls, call.2.Deterministic)
    (cache : γ) (honest : Cache.Honest cache) (state : ω) :
    (∀ stages w, ReflTransGen (Step r)
        (calls.map fun call => .unstarted call.1 call.2, ⟨cache, state⟩) (stages, w) →
      List.Forall₂ (fun stage call => ∀ result, stage = .done result → ∀ state,
        result = (r.render call.1 call.2 (⟨⟨⟩, state⟩ : World Cache.Null ω)).1) stages calls ∧
      ((∀ later, ¬ Step r (stages, w) later) → ∀ stage ∈ stages, stage.isDone = true)) ∧
    WellFounded fun (later earlier : List (Stage ω) × World γ ω) => Step r earlier later := by
  have functions (call : String × Overrides ω) :
      ∃ g, call ∈ calls → r.Serves f call.2 g := by
    by_cases member : call ∈ calls
    · obtain ⟨g, serves⟩ := exists_serves computes (deterministic call member)
      exact ⟨g, fun _ => serves⟩
    · exact ⟨f, fun present => absurd present member⟩
  choose functions serves using functions
  refine ⟨fun stages w steps => ⟨?_, fun stuck stage member => ?_⟩, wellFounded_step γ r⟩
  · have start : r.AllOnCourse f functions calls
        (calls.map fun call => .unstarted call.1 call.2, ⟨cache, state⟩) := by
      refine ⟨honest.keeps _, ?_⟩
      rw [List.forall₂_map_left_iff, List.forall₂_same]
      exact fun call member => ⟨serves call member, .inl rfl⟩
    refine (start.steps nests firm steps).2.imp ?_
    rintro stage call ⟨serves, course⟩ result rfl state
    rw [eq_of_done course]
    exact (render_right nests (r.trusts_keeps f) serves firm call.1
      ((Cache.Null.honest ⟨⟩).keeps _)).1.symm
  · cases undone : stage.isDone with
    | true => rfl
    | false =>
      obtain ⟨⟨next, w'⟩, moved⟩ := exists_move r undone w
      obtain ⟨front, back, rfl⟩ := List.append_of_mem member
      exact absurd (.move front back moved) (stuck _)

/-- What the engines of `deferring` compute. -/
def deferred : EngineFunctions where
  highlight code _ := .ok ("<i>" ++ code ++ "</i>")
  math _ _ := .error (.render "unknown")
  typeset expression _ := .ok ("<svg>" ++ expression ++ "</svg>")

theorem nests_deferring : deferring.engines.parser.Nests plainHeadings :=
  .mono Markdown.wellNested_events Event.plainHeadings_of_inlineHeadings

theorem deferred_firm : deferred.Firm := by
  intro expression format svg typeset
  cases typeset
  have opening : Text.Solid "<svg>".toList := .ofEnds (by decide) (by decide)
  have closing : Text.Solid "</svg>".toList := .ofEnds (by decide) (by decide)
  have whole := opening.append closing expression.toList
  rw [← String.toList_append, ← String.toList_append] at whole
  exact Text.solid_iff.mp whole

/-- Two calls for the same math, one of which has a math engine of its own. -/
def mathCalls : List (String × Overrides Unit) :=
  [("# $a$", {}), ("$a$", { math := some ⟨fun expression _ state => (.ok expression, state)⟩ })]

/-- The two calls may share a cache in memory. -/
theorem cache_transparent_mathCalls :
    deferring.engines.parser.Nests plainHeadings ∧ deferring.engines.Compute deferred ∧ deferred.Firm ∧
      ∀ stages w, ReflTransGen (Step deferring)
          (mathCalls.map fun call => .unstarted call.1 call.2,
            (⟨{}, ()⟩ : World Cache.Memory Unit)) (stages, w) →
        List.Forall₂ (fun stage call => ∀ result, stage = .done result → ∀ state,
          result = (deferring.render call.1 call.2 (⟨⟨⟩, state⟩ : World Cache.Null Unit)).1) stages
          mathCalls := by
  have computes : deferring.engines.Compute deferred :=
    ⟨fun _ _ _ _ => rfl, fun _ _ _ => rfl, fun _ _ _ _ => rfl⟩
  have deterministic : ∀ call ∈ mathCalls, call.2.Deterministic := by
    intro call member
    refine ⟨fun h replaced => ?_, fun m replaced => ⟨fun expression _ => .ok expression, ?_⟩⟩
    · rcases List.mem_cons.mp member with rfl | member
      · cases replaced
      · cases List.mem_singleton.mp member
        cases replaced
    · rcases List.mem_cons.mp member with rfl | member
      · cases replaced
      · cases List.mem_singleton.mp member
        cases replaced
        exact fun _ _ _ => rfl
  refine ⟨nests_deferring, computes, deferred_firm, fun stages w steps => ?_⟩
  exact ((cache_transparent deferring nests_deferring deferred computes deferred_firm mathCalls
    deterministic {} Cache.Memory.honest ()).1 stages w steps).1

end Renderer

end Mathdown
