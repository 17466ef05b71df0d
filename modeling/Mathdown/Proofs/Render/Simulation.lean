import Mathlib.Data.Option.Basic
import Mathlib.Logic.Relation
import Mathdown.Proofs.Cache.Apart
import Mathdown.Proofs.Render.Results

/-!
Engines and caches that answer alike. Two renderers whose engines give the same in states that are
related, and leave states that are related, do the same: whatever calls of one of them do, calls of the
other do with the same cache. Of caches it is enough, for a compile pass and for jobs, that they answer
alike for the keys in use.
-/

namespace Mathdown

open Relation (ReflTransGen)

variable {ω ω' α β : Type} {related : ω → ω' → Prop}

/-- Whether two pieces of work come to the same in states that are related. -/
structure Deferred.Alike (related : ω → ω' → Prop) (d : Deferred ω α) (d' : Deferred ω' α) :
    Prop where
  delay : d.delay = d'.delay
  finish : ∀ {w w'}, related w w' →
    (d.finish w).1 = (d'.finish w').1 ∧ related (d.finish w).2 (d'.finish w').2

theorem Deferred.Alike.map {d : Deferred ω α} {d' : Deferred ω' α} (alike : d.Alike related d')
    (f : α → β) : (d.map f).Alike related (d'.map f) where
  delay := alike.delay
  finish start := ⟨congrArg f (alike.finish start).1, (alike.finish start).2⟩

/-- Whether two highlighters have said the same. -/
inductive Highlighted.Alike (related : ω → ω' → Prop) :
    Except HighlightError (Highlighted ω) → Except HighlightError (Highlighted ω') → Prop where
  | ready (html : String) : Alike related (.ok (.ready html)) (.ok (.ready html))
  | pending {work : Deferred ω (Except HighlightError String)}
      {work' : Deferred ω' (Except HighlightError String)} (alike : work.Alike related work') :
      Alike related (.ok (.pending work)) (.ok (.pending work'))
  | error (e : HighlightError) : Alike related (.error e) (.error e)

def Highlighter.Alike (related : ω → ω' → Prop) (h : Highlighter ω) (h' : Highlighter ω') : Prop :=
  ∀ source language {w w'}, related w w' →
    Highlighted.Alike related (h.highlight source language w).1 (h'.highlight source language w').1 ∧
      related (h.highlight source language w).2 (h'.highlight source language w').2

def MathEngine.Alike (related : ω → ω' → Prop) (m : MathEngine ω) (m' : MathEngine ω') : Prop :=
  ∀ expression display {w w'}, related w w' →
    (m.render expression display w).1 = (m'.render expression display w').1 ∧
      related (m.render expression display w).2 (m'.render expression display w').2

def FallbackEngine.Alike (related : ω → ω' → Prop) (f : FallbackEngine ω)
    (f' : FallbackEngine ω') : Prop :=
  ∀ expression format {w w'}, related w w' →
    (f.typeset expression format w).1.Alike related (f'.typeset expression format w').1 ∧
      related (f.typeset expression format w).2 (f'.typeset expression format w').2

structure Engines.Alike (related : ω → ω' → Prop) (e : Engines ω) (e' : Engines ω') : Prop where
  highlighter : e.highlighter.Alike related e'.highlighter
  math : e.math.Alike related e'.math
  fallback : e.fallback.Alike related e'.fallback
  parser : e.parser = e'.parser

namespace Render

variable {γ γ' : Type} {uses : Cache.Key → Prop} {kin : γ → γ' → Prop}

/-- Whether two worlds have caches that are kin, and engines in states that are related. -/
structure World.Kin (kin : γ → γ' → Prop) (related : ω → ω' → Prop) (w : World γ ω)
    (w' : World γ' ω') : Prop where
  cache : kin w.cache w'.cache
  engines : related w.engines w'.engines

/-- Whether two worlds have the same cache, and engines in states that are related. -/
abbrev World.Alike (related : ω → ω' → Prop) (w : World γ ω) (w' : World γ ω') : Prop :=
  w.Kin (· = ·) related w'

inductive Job.Alike (related : ω → ω' → Prop) : Job ω → Job ω' → Prop where
  | highlight (source : String) (key : Option Cache.Key)
      {work : Deferred ω (Except HighlightError String)}
      {work' : Deferred ω' (Except HighlightError String)} (alike : work.Alike related work') :
      Alike related (.highlight source key work) (.highlight source key work')
  | math (expression : String) (display : Bool) (key : Option Cache.Key) :
      Alike related (.math expression display key) (.math expression display key)

structure Running.Alike (related : ω → ω' → Prop) (job : Running ω) (job' : Running ω') : Prop where
  key : job.key = job'.key
  work : job.work.Alike related job'.work

inductive Pending.Alike (related : ω → ω' → Prop) : Pending ω → Pending ω' → Prop where
  | waiting {job : Job ω} {job' : Job ω'} (alike : job.Alike related job') :
      Alike related (.waiting job) (.waiting job')
  | started {job : Running ω} {job' : Running ω'} (alike : job.Alike related job') :
      Alike related (.started job) (.started job')

/-- Whether two jobs are as far as each other, or have the same result. -/
abbrev Pending.AlikeOrDone (related : ω → ω' → Prop) :
    Pending ω ⊕ String → Pending ω' ⊕ String → Prop :=
  Sum.LiftRel (Pending.Alike related) (· = ·)

structure Slot.Alike (related : ω → ω' → Prop) (slot : Slot (Pending ω)) (slot' : Slot (Pending ω')) :
    Prop where
  id : slot.id = slot'.id
  state : Pending.AlikeOrDone related slot.state slot'.state

/-- Whether two slots have the same id, and jobs that are kin or the same result. -/
structure Slot.Kin {ρ ρ' : Type} (jobs : ρ → ρ' → Prop) (slot : Slot ρ) (slot' : Slot ρ') : Prop where
  id : slot.id = slot'.id
  state : Sum.LiftRel jobs (· = ·) slot.state slot'.state

/-- Whether two jobs are alike, and have no key but one in use. -/
structure Job.Kin (uses : Cache.Key → Prop) (related : ω → ω' → Prop) (job : Job ω)
    (job' : Job ω') : Prop where
  alike : job.Alike related job'
  used : ∀ key ∈ job.key, uses key

/-- Whether two started jobs are alike, and have no key but one in use. -/
structure Running.Kin (uses : Cache.Key → Prop) (related : ω → ω' → Prop) (job : Running ω)
    (job' : Running ω') : Prop where
  alike : job.Alike related job'
  used : ∀ key ∈ job.key, uses key

structure Registry.Kin (uses : Cache.Key → Prop) (related : ω → ω' → Prop)
    (jobs : Registry (Job ω)) (jobs' : Registry (Job ω')) : Prop where
  kind : jobs.kind = jobs'.kind
  jobs : List.Forall₂ (Job.Kin uses related) jobs.jobs jobs'.jobs

structure Pass.Kin (uses : Cache.Key → Prop) (kin : γ → γ' → Prop) (related : ω → ω' → Prop)
    (p : Pass γ ω) (p' : Pass γ' ω') : Prop where
  world : p.world.Kin kin related p'.world
  code : p.code.Kin uses related p'.code
  math : p.math.Kin uses related p'.math

structure Compiled.Kin (uses : Cache.Key → Prop) (related : ω → ω' → Prop) (c : Compiled ω)
    (c' : Compiled ω') : Prop where
  document : c.document = c'.document
  key : c.key = c'.key
  used : ∀ key ∈ c.key, uses key
  jobs : List.Forall₂ (fun job job' => job.1 = job'.1 ∧ job.2.Kin uses related job'.2) c.jobs c'.jobs

section Jobs

variable {w : World γ ω} {w' : World γ' ω'}

theorem Job.Kin.start {fallback : FallbackEngine ω} {fallback' : FallbackEngine ω'}
    (draws : fallback.Alike related fallback') {job : Job ω} {job' : Job ω'}
    (jobs : job.Kin uses related job') (worlds : w.Kin kin related w') :
    (job.start fallback w).1.Kin uses related (job'.start fallback' w').1 ∧
      (job.start fallback w).2.Kin kin related (job'.start fallback' w').2 := by
  obtain ⟨alike, used⟩ := jobs
  cases alike with
  | highlight source key alike => exact ⟨⟨⟨rfl, alike.map _⟩, used⟩, worlds⟩
  | math expression display key =>
    obtain ⟨work, engines⟩ := draws expression (TexFormat.ofDisplay display) worlds.engines
    exact ⟨⟨⟨rfl, work.map _⟩, used⟩, worlds.cache, engines⟩

variable [Cache γ] [Cache γ'] (sim : Cache.Simulation uses kin)

include sim

theorem World.Kin.find? (worlds : w.Kin kin related w') {key : Option Cache.Key}
    (used : ∀ k ∈ key, uses k) :
    (w.find? key).1 = (w'.find? key).1 ∧ (w.find? key).2.Kin kin related (w'.find? key).2 := by
  obtain ⟨cache, engines⟩ := worlds
  cases key with
  | none => exact ⟨rfl, cache, engines⟩
  | some key => exact ⟨sim.get? (used key rfl) cache, sim.afterGet (used key rfl) cache, engines⟩

theorem World.Kin.store (worlds : w.Kin kin related w') {key : Option Cache.Key}
    (used : ∀ k ∈ key, uses k) (html : String) :
    (w.store key html).Kin kin related (w'.store key html) := by
  obtain ⟨cache, engines⟩ := worlds
  cases key with
  | none => exact ⟨cache, engines⟩
  | some key => exact ⟨sim.set html (used key rfl) cache, engines⟩

theorem Running.Kin.poll {job : Running ω} {job' : Running ω'} (jobs : job.Kin uses related job')
    (worlds : w.Kin kin related w') :
    Sum.LiftRel (Running.Kin uses related) (· = ·) (job.poll w).1 (job'.poll w').1 ∧
      (job.poll w).2.Kin kin related (job'.poll w').2 := by
  obtain ⟨alike, used⟩ := jobs
  cases delay : job.work.delay with
  | succ n =>
    simp only [Running.poll_of_delay_succ delay,
      Running.poll_of_delay_succ (alike.work.delay ▸ delay)]
    exact ⟨.inl ⟨⟨alike.key, rfl, alike.work.finish⟩, used⟩, worlds⟩
  | zero =>
    simp only [Running.poll_of_delay_zero delay,
      Running.poll_of_delay_zero (alike.work.delay ▸ delay)]
    obtain ⟨result, engines⟩ := alike.work.finish worlds.engines
    have finished : World.Kin kin related { w with engines := (job.work.finish w.engines).2 }
        { w' with engines := (job'.work.finish w'.engines).2 } := ⟨worlds.cache, engines⟩
    rw [← alike.key, ← result]
    refine ⟨.inr rfl, ?_⟩
    split
    · exact finished.store sim used _
    · exact finished

end Jobs

theorem Pending.Alike.advance [Cache γ] {w : World γ ω} {w' : World γ ω'}
    {fallback : FallbackEngine ω} {fallback' : FallbackEngine ω'}
    (draws : fallback.Alike related fallback') {task : Pending ω} {task' : Pending ω'}
    (alike : task.Alike related task') (worlds : w.Alike related w') :
    Pending.AlikeOrDone related (task.advance fallback w).1 (task'.advance fallback' w').1 ∧
      (task.advance fallback w).2.Alike related (task'.advance fallback' w').2 := by
  cases alike with
  | waiting alike =>
    obtain ⟨started, worlds⟩ := Job.Kin.start draws ⟨alike, fun _ _ => True.intro⟩ worlds
    exact ⟨.inl (.started started.alike), worlds⟩
  | started alike =>
    obtain ⟨states, worlds⟩ :=
      Running.Kin.poll .eq ⟨alike, fun _ _ => True.intro⟩ worlds
    refine ⟨?_, worlds⟩
    simp only [Pending.advance]
    revert states
    generalize (Running.poll _ w).1 = state, (Running.poll _ w').1 = state'
    rintro (⟨still⟩ | ⟨rfl⟩)
    · exact .inl (.started still.alike)
    · exact .inr rfl

section Results

variable {ρ ρ' : Type} {jobs : ρ → ρ' → Prop}

theorem Slot.Kin.result? {slot : Slot ρ} {slot' : Slot ρ'} (same : slot.Kin jobs slot') :
    (slot.result?.map fun html => (slot.id, html)) =
      slot'.result?.map fun html => (slot'.id, html) := by
  obtain ⟨id, state⟩ := slot
  obtain ⟨id', state'⟩ := slot'
  obtain ⟨ids, states⟩ := same
  obtain rfl : id = id' := ids
  cases states with
  | inl tasks => rfl
  | inr results => exact congrArg (fun html => some (id, html)) results

theorem assemble?_congr (document : CompiledDocument) {slots : List (Slot ρ)}
    {slots' : List (Slot ρ')} (same : List.Forall₂ (Slot.Kin jobs) slots slots') :
    assemble? document slots = assemble? document slots' := by
  have results : Slot.results? slots = Slot.results? slots' := by
    unfold Slot.results?
    congr 1
    induction same with
    | nil => rfl
    | cons first _ ih => rw [List.mapM_cons, List.mapM_cons, ih, first.result?]
  have empty : slots.isEmpty = slots'.isEmpty := by
    cases same <;> rfl
  rw [assemble?, assemble?, results, empty]

end Results

theorem Registry.Kin.register {jobs : Registry (Job ω)} {jobs' : Registry (Job ω')}
    (alike : jobs.Kin uses related jobs') {job : Job ω} {job' : Job ω'}
    (new : job.Kin uses related job') :
    (jobs.register job).1 = (jobs'.register job').1 ∧
      (jobs.register job).2.Kin uses related (jobs'.register job').2 := by
  obtain ⟨kind, each⟩ := alike
  refine ⟨?_, kind, .cons new each⟩
  change PlaceholderId.mk jobs.kind jobs.jobs.length = ⟨jobs'.kind, jobs'.jobs.length⟩
  rw [kind, each.length_eq]

theorem Registry.Kin.toList {jobs : Registry (Job ω)} {jobs' : Registry (Job ω')}
    (alike : jobs.Kin uses related jobs') :
    List.Forall₂ (fun job job' => job.1 = job'.1 ∧ job.2.Kin uses related job'.2) jobs.toList
      jobs'.toList := by
  have numbered {jobs : List (Job ω)} {jobs' : List (Job ω')}
      (each : List.Forall₂ (Job.Kin uses related) jobs jobs') (n : Nat) :
      List.Forall₂ (fun job job' => job.2 = job'.2 ∧ job.1.Kin uses related job'.1) (jobs.zipIdx n)
        (jobs'.zipIdx n) := by
    induction each generalizing n with
    | nil => exact .nil
    | cons first _ ih => exact .cons ⟨rfl, first⟩ (ih (n + 1))
  obtain ⟨kind, each⟩ := alike
  rw [Registry.toList, Registry.toList, List.forall₂_map_left_iff, List.forall₂_map_right_iff, kind]
  refine (numbered (List.forall₂_reverse_iff.mpr each) 0).imp ?_
  rintro job job' ⟨index, same⟩
  exact ⟨congrArg (PlaceholderId.mk _) index, same⟩

theorem Pass.Kin.jobs {p : Pass γ ω} {p' : Pass γ' ω'} (passes : p.Kin uses kin related p') :
    List.Forall₂ (fun job job' => job.1 = job'.1 ∧ job.2.Kin uses related job'.2) p.jobs p'.jobs :=
  List.rel_append passes.code.toList passes.math.toList

/-- Whether two compile passes have the same caches, and engines that answer alike. -/
structure Setting.Alike (related : ω → ω' → Prop) (s : Setting ω) (s' : Setting ω') : Prop where
  engines : s.engines.Alike related s'.engines
  cacheCode : s.cacheCode = s'.cacheCode
  cacheMath : s.cacheMath = s'.cacheMath

variable [Cache γ] [Cache γ'] {s : Setting ω} {s' : Setting ω'} {p : Pass γ ω} {p' : Pass γ' ω'}

def Pass.settleCode (p : Pass γ ω) (source : String) (key : Option Cache.Key) :
    Except HighlightError (Highlighted ω) → Answer × Pass γ ω
  | .ok (.ready html) => p.answer key html
  | .ok (.pending work) => p.deferCode (.highlight source key work)
  | .error _ => (.inline (Text.escapeCode source), p)

def Pass.settleMath (p : Pass γ ω) (expression : String) (display : Bool)
    (key : Option Cache.Key) : Except MathError String → Answer × Pass γ ω
  | .ok html => p.answer key html
  | .error _ => p.deferMath (.math expression display key)

/-- A code block is answered from the cache, or by what the highlighter says. -/
theorem Setting.code_cases (s : Setting ω) (p : Pass γ ω) (language : Option String)
    (source : String) :
    let named := language.filter (· != "")
    let looked := p.world.find? (s.codeKey named source)
    let said := s.engines.highlighter.highlight source named looked.2.engines
    (∃ html, looked.1 = some html ∧
        s.code p language source = (.inline html, { p with world := looked.2 })) ∨
      looked.1 = none ∧ s.code p language source =
        Pass.settleCode { p with world := { looked.2 with engines := said.2 } } source
          (s.codeKey named source) said.1 := by
  intro named looked said
  cases found : looked.1 with
  | some html =>
    refine .inl ⟨html, rfl, ?_⟩
    simp only [Setting.code]
    rw [show (p.world.find? (s.codeKey named source)).1 = some html from found]
  | none =>
    refine .inr ⟨rfl, ?_⟩
    simp only [Setting.code]
    rw [show (p.world.find? (s.codeKey named source)).1 = none from found]
    rfl

/-- A math span is answered from the cache, or by what the math engine says. -/
theorem Setting.math_cases (s : Setting ω) (p : Pass γ ω) (expression : String) (display : Bool) :
    let looked := p.world.find? (s.mathKey expression display)
    let said := s.engines.math.render expression display looked.2.engines
    (∃ html, looked.1 = some html ∧
        s.math p expression display = (.inline html, { p with world := looked.2 })) ∨
      looked.1 = none ∧ s.math p expression display =
        Pass.settleMath { p with world := { looked.2 with engines := said.2 } } expression display
          (s.mathKey expression display) said.1 := by
  intro looked said
  cases found : looked.1 with
  | some html =>
    refine .inl ⟨html, rfl, ?_⟩
    simp only [Setting.math]
    rw [show (p.world.find? (s.mathKey expression display)).1 = some html from found]
  | none =>
    refine .inr ⟨rfl, ?_⟩
    simp only [Setting.math]
    rw [show (p.world.find? (s.mathKey expression display)).1 = none from found]
    rfl

section Answers

variable (sim : Cache.Simulation uses kin)

include sim

theorem Pass.Kin.settleCode (passes : p.Kin uses kin related p') (source : String)
    {key : Option Cache.Key} (used : ∀ k ∈ key, uses k)
    {given : Except HighlightError (Highlighted ω)} {given' : Except HighlightError (Highlighted ω')}
    (said : Highlighted.Alike related given given') :
    (p.settleCode source key given).1 = (p'.settleCode source key given').1 ∧
      (p.settleCode source key given).2.Kin uses kin related (p'.settleCode source key given').2 := by
  cases said with
  | ready html => exact ⟨rfl, passes.world.store sim used html, passes.code, passes.math⟩
  | pending alike =>
    obtain ⟨id, code⟩ := passes.code.register ⟨.highlight source key alike, used⟩
    exact ⟨congrArg Answer.deferred id, passes.world, code, passes.math⟩
  | error e => exact ⟨rfl, passes⟩

theorem Pass.Kin.settleMath (passes : p.Kin uses kin related p') (expression : String)
    (display : Bool) {key : Option Cache.Key} (used : ∀ k ∈ key, uses k)
    (given : Except MathError String) :
    (p.settleMath expression display key given).1 = (p'.settleMath expression display key given).1 ∧
      (p.settleMath expression display key given).2.Kin uses kin related
        (p'.settleMath expression display key given).2 := by
  cases given with
  | ok html => exact ⟨rfl, passes.world.store sim used html, passes.code, passes.math⟩
  | error e =>
    obtain ⟨id, math⟩ := passes.math.register ⟨.math expression display key, used⟩
    exact ⟨congrArg Answer.deferred id, passes.world, passes.code, math⟩

theorem Setting.Alike.code (alike : s.Alike related s') (passes : p.Kin uses kin related p')
    (used : ∀ language source, ∀ key ∈ s.codeKey language source, uses key)
    (language : Option String) (source : String) :
    (s.code p language source).1 = (s'.code p' language source).1 ∧
      (s.code p language source).2.Kin uses kin related (s'.code p' language source).2 := by
  have keys (named : Option String) : s'.codeKey named source = s.codeKey named source := by
    rw [codeKey, codeKey, alike.cacheCode]
  have first := s.code_cases p language source
  have second := s'.code_cases p' language source
  simp only [keys] at first second
  generalize language.filter (· != "") = named at first second
  obtain ⟨found, looked⟩ := passes.world.find? sim (used named source)
  rw [← found] at second
  rcases first with ⟨html, hit, same⟩ | ⟨missed, same⟩
  · rw [hit] at second
    rcases second with ⟨_, ⟨⟩, same'⟩ | ⟨missed, -⟩
    · rw [same, same']
      exact ⟨rfl, looked, passes.code, passes.math⟩
    · cases missed
  · rw [missed] at second
    rcases second with ⟨_, ⟨⟩, -⟩ | ⟨-, same'⟩
    obtain ⟨said, engines⟩ := alike.engines.highlighter source named looked.engines
    rw [same, same']
    refine Pass.Kin.settleCode sim ?_ source (used named source) said
    exact ⟨⟨looked.cache, engines⟩, passes.code, passes.math⟩

theorem Setting.Alike.math (alike : s.Alike related s') (passes : p.Kin uses kin related p')
    (used : ∀ expression display, ∀ key ∈ s.mathKey expression display, uses key)
    (expression : String) (display : Bool) :
    (s.math p expression display).1 = (s'.math p' expression display).1 ∧
      (s.math p expression display).2.Kin uses kin related (s'.math p' expression display).2 := by
  have keys : s'.mathKey expression display = s.mathKey expression display := by
    rw [mathKey, mathKey, alike.cacheMath]
  have first := s.math_cases p expression display
  have second := s'.math_cases p' expression display
  simp only [keys] at first second
  obtain ⟨found, looked⟩ := passes.world.find? sim (used expression display)
  rw [← found] at second
  rcases first with ⟨html, hit, same⟩ | ⟨missed, same⟩
  · rw [hit] at second
    rcases second with ⟨_, ⟨⟩, same'⟩ | ⟨missed, -⟩
    · rw [same, same']
      exact ⟨rfl, looked, passes.code, passes.math⟩
    · cases missed
  · rw [missed] at second
    rcases second with ⟨_, ⟨⟩, -⟩ | ⟨-, same'⟩
    obtain ⟨said, engines⟩ := alike.engines.math expression display looked.engines
    rw [same, same', ← said]
    refine Pass.Kin.settleMath sim ?_ expression display (used expression display) _
    exact ⟨⟨looked.cache, engines⟩, passes.code, passes.math⟩

end Answers

end Render

namespace Compiler

variable {σ τ : Type} {c : Compiler σ} {c' : Compiler τ} {kin : σ → τ → Prop}

/-- Whether two compilers have the same options, and answer alike in states that are related. -/
structure Alike (kin : σ → τ → Prop) (c : Compiler σ) (c' : Compiler τ) : Prop where
  options : c.options = c'.options
  answer : ∀ {w w'} question, kin w w' →
    (c.answer w question).1 = (c'.answer w' question).1 ∧
      kin (c.answer w question).2 (c'.answer w' question).2

namespace Alike

variable {w : σ} {w' : τ}

theorem step (alike : c.Alike kin c') (event : Event) (s : Compile.State) (start : kin w w') :
    (c.step event s w).1 = (c'.step event s w').1 ∧
      kin (c.step event s w).2 (c'.step event s w').2 := by
  rw [step_eq, step_eq, alike.options]
  cases Compile.Question.ofEvent s event with
  | none => exact ⟨rfl, start⟩
  | some question =>
    obtain ⟨answers, kept⟩ := alike.answer question start
    exact ⟨by simp only [answerTo, answers], kept⟩

/-- Alike compilers have alike moments, and leave alike states. -/
theorem run (alike : c.Alike kin c') (events : List Event) (s : Compile.State) (start : kin w w') :
    List.Forall₂ (fun m m' => m.event = m'.event ∧ m.state = m'.state ∧ kin m.world m'.world)
        (c.moments events s w) (c'.moments events s w') ∧
      (c.run events s w).1 = (c'.run events s w').1 ∧
      (c.run events s w).2.1 = (c'.run events s w').2.1 ∧
      kin (c.run events s w).2.2 (c'.run events s w').2.2 := by
  induction events generalizing s w w' with
  | nil => exact ⟨.nil, rfl, rfl, start⟩
  | cons event events ih =>
    rw [moments, moments, run_cons, run_cons, alike.options]
    split
    · exact ⟨.nil, rfl, rfl, start⟩
    · obtain ⟨states, kept⟩ := alike.step event { s with depth := depthAfter s.depth event } start
      obtain ⟨moments, others⟩ := ih (c.next (moment event s w)).1 kept
      simp only [next, moment] at moments others ⊢
      rw [← states]
      exact ⟨.cons ⟨rfl, rfl, start⟩ moments, others⟩

theorem compile (alike : c.Alike kin c') (events : List Event) (s : Compile.State)
    (start : kin w w') :
    (c.compile events s w).1 = (c'.compile events s w').1 ∧
      kin (c.compile events s w).2.2 (c'.compile events s w').2.2 := by
  obtain ⟨-, errors, states, kept⟩ := alike.run events s start
  rw [Compiler.compile, Compiler.compile]
  rcases first : c.run events s w with ⟨error, left, v⟩
  rcases second : c'.run events s w' with ⟨error', left', v'⟩
  rw [first, second] at errors states kept
  obtain rfl : error = error' := errors
  obtain rfl : left = left' := states
  cases error with
  | some e => exact ⟨rfl, kept⟩
  | none => exact ⟨rfl, kept⟩

end Alike

end Compiler

/-- Whether two calls do the same, but that their engines only answer alike. -/
structure Overrides.Alike (related : ω → ω' → Prop) (o : Overrides ω) (o' : Overrides ω') :
    Prop where
  highlighter : Option.Rel (Highlighter.Alike related) o.highlighter o'.highlighter
  math : Option.Rel (MathEngine.Alike related) o.math o'.math
  compiler : o.compiler = o'.compiler

/-- A call does the same with each engine put in place of one that answers alike. -/
theorem Overrides.alike_map {f : Highlighter ω → Highlighter ω'} {g : MathEngine ω → MathEngine ω'}
    (highlights : ∀ h, Highlighter.Alike related h (f h))
    (renders : ∀ m, MathEngine.Alike related m (g m)) (o : Overrides ω) :
    o.Alike related ⟨o.highlighter.map f, o.math.map g, o.compiler⟩ := by
  obtain ⟨highlighter, math, options⟩ := o
  refine ⟨?_, ?_, rfl⟩
  · cases highlighter with
    | none => exact .none
    | some h => exact .some (highlights h)
  · cases math with
    | none => exact .none
    | some m => exact .some (renders m)

/-- Whether two renderers are the same, but that their engines only answer alike. -/
structure Renderer.Alike (related : ω → ω' → Prop) (r : Renderer ω) (r' : Renderer ω') : Prop where
  engines : r.engines.Alike related r'.engines
  caching : r.caching = r'.caching
  options : r.options = r'.options

namespace Render

/-- Whether two calls are as far as each other. -/
inductive Stage.Alike (related : ω → ω' → Prop) : Stage ω → Stage ω' → Prop where
  | unstarted (input : String) {o : Overrides ω} {o' : Overrides ω'} (alike : o.Alike related o') :
      Alike related (.unstarted input o) (.unstarted input o')
  | working (document : CompiledDocument) {slots : List (Slot (Pending ω))}
      {slots' : List (Slot (Pending ω'))} (key : Option Cache.Key)
      (alike : List.Forall₂ (Slot.Alike related) slots slots') :
      Alike related (.working document slots key) (.working document slots' key)
  | done (result : Except CompileError String) : Alike related (.done result) (.done result)

end Render

namespace Renderer

open Render

variable {γ γ' : Type} {uses : Cache.Key → Prop} {kin : γ → γ' → Prop} {r : Renderer ω}
  {r' : Renderer ω'} {o : Overrides ω} {o' : Overrides ω'}

theorem Alike.setting (alike : r.Alike related r') (overrides : o.Alike related o') :
    (r.setting o).Alike related (r'.setting o') := by
  obtain ⟨⟨highlighter, math, fallback, parser⟩, caching, -⟩ := alike
  obtain ⟨h, m, options⟩ := o
  obtain ⟨h', m', options'⟩ := o'
  obtain ⟨replaced, replaced', -⟩ := overrides
  change Option.Rel _ h h' at replaced
  change Option.Rel _ m m' at replaced'
  refine ⟨⟨?_, ?_, fallback, parser⟩, ?_, ?_⟩
  · simp only [Renderer.setting]
    cases replaced with
    | none => exact highlighter
    | some alike => exact alike
  · simp only [Renderer.setting]
    cases replaced' with
    | none => exact math
    | some alike => exact alike
  · simp only [Renderer.setting, caching]
    cases replaced <;> rfl
  · simp only [Renderer.setting, caching]
    cases replaced' <;> rfl

theorem Alike.resultKey (alike : r.Alike related r') (overrides : o.Alike related o')
    (input : String) : r.resultKey input o = r'.resultKey input o' := by
  have empty : o.isEmpty = o'.isEmpty := by
    obtain ⟨h, m, options⟩ := o
    obtain ⟨h', m', options'⟩ := o'
    obtain ⟨replaced, replaced', same⟩ := overrides
    obtain rfl : options = options' := same
    change Option.Rel _ h h' at replaced
    change Option.Rel _ m m' at replaced'
    cases replaced <;> cases replaced' <;> rfl
  rw [Renderer.resultKey, Renderer.resultKey, alike.caching, empty]

theorem Alike.events (alike : r.Alike related r') (overrides : o.Alike related o')
    (input : String) : r.events input o = r'.events input o' := by
  simp only [Renderer.events, alike.engines.parser, alike.options, overrides.compiler]

def layers (r : Renderer ω) (o : Overrides ω) : CacheOptions where
  highlight := (r.setting o).cacheCode
  math := (r.setting o).cacheMath
  result := r.caching.result && o.isEmpty

theorem covers_of_codeKey {language : Option String} {source : String} {key : Cache.Key}
    (keyed : key ∈ (r.setting o).codeKey language source) : (r.layers o).covers key = true := by
  obtain ⟨cached, rfl⟩ := Setting.codeKey_eq_some_iff.mp keyed
  exact cached

theorem covers_of_mathKey {expression : String} {display : Bool} {key : Cache.Key}
    (keyed : key ∈ (r.setting o).mathKey expression display) : (r.layers o).covers key = true := by
  obtain ⟨cached, rfl⟩ := Setting.mathKey_eq_some_iff.mp keyed
  exact cached

theorem covers_of_resultKey {input : String} {key : Cache.Key}
    (keyed : key ∈ r.resultKey input o) : (r.layers o).covers key = true := by
  simp only [resultKey, Option.mem_ite_none_right] at keyed
  obtain ⟨cached, ⟨⟩⟩ := keyed
  exact cached

theorem pass_kin {w : World γ ω} {w' : World γ' ω'} (worlds : w.Kin kin related w') :
    Pass.Kin uses kin related { world := w } { world := w' } :=
  ⟨worlds, ⟨rfl, .nil⟩, ⟨rfl, .nil⟩⟩

section Passes

variable [Cache γ] [Cache γ'] (sim : Cache.Simulation uses kin)
  (covered : ∀ key, (r.layers o).covers key = true → uses key)

include sim covered

theorem Alike.compiler (alike : r.Alike related r') (overrides : o.Alike related o') :
    (r.compiler γ o).Alike (Pass.Kin uses kin related) (r'.compiler γ' o') := by
  have settings := alike.setting overrides
  refine ⟨by simp only [Renderer.compiler, alike.options, overrides.compiler], ?_⟩
  intro p p' question passes
  cases question with
  | code language source =>
    exact settings.code sim passes (fun _ _ key keyed => covered key (covers_of_codeKey keyed))
      language source
  | math expression display =>
    exact settings.math sim passes (fun _ _ key keyed => covered key (covers_of_mathKey keyed))
      expression display

theorem Alike.begin {w : World γ ω} {w' : World γ' ω'} (alike : r.Alike related r')
    (overrides : o.Alike related o') (worlds : w.Kin kin related w') (input : String) :
    Sum.LiftRel (· = ·) (Compiled.Kin uses related) (r.begin input o w).1 (r'.begin input o' w').1 ∧
      (r.begin input o w).2.Kin kin related (r'.begin input o' w').2 := by
  have keys := alike.resultKey overrides input
  have used : ∀ key ∈ r.resultKey input o, uses key :=
    fun key keyed => covered key (covers_of_resultKey keyed)
  obtain ⟨found, looked⟩ := worlds.find? sim used
  obtain ⟨results, passes⟩ := (alike.compiler sim covered overrides).compile (r.events input o)
    .initial (pass_kin looked)
  simp only [Renderer.begin, Renderer.compile, ← keys, ← found, ← alike.events overrides]
  split
  · exact ⟨.inl rfl, worlds⟩
  · split
    · exact ⟨.inl rfl, looked⟩
    · revert results passes
      generalize (r.compiler γ o).compile _ _ _ = left, (r'.compiler γ' o').compile _ _ _ = right
      obtain ⟨result, s, p⟩ := left
      obtain ⟨result', s', p'⟩ := right
      rintro ⟨⟩ passes
      cases result with
      | error e => exact ⟨.inl rfl, passes.world⟩
      | ok document => exact ⟨.inr ⟨rfl, rfl, used, passes.jobs⟩, passes.world⟩

end Passes

variable [Cache γ] {w : World γ ω} {w' : World γ ω'}

private theorem Alike.begun (alike : r.Alike related r') (overrides : o.Alike related o')
    (worlds : w.Alike related w') {input : String}
    {outcome : Except CompileError String ⊕ Compiled ω} {next : World γ ω}
    (begun : r.begin input o w = (outcome, next)) :
    ∃ outcome' next', r'.begin input o' w' = (outcome', next') ∧ next.Alike related next' ∧
      Sum.LiftRel (· = ·) (Compiled.Kin (fun _ => True) related) outcome outcome' := by
  obtain ⟨outcomes, worlds⟩ := alike.begin .eq (fun _ _ => True.intro) overrides worlds input
  rw [begun] at outcomes worlds
  exact ⟨_, _, rfl, worlds, outcomes⟩

theorem Alike.move (alike : r.Alike related r') {stage later : Stage ω} {stage' : Stage ω'}
    {next : World γ ω} (stages : stage.Alike related stage') (worlds : w.Alike related w')
    (moved : Move r (stage, w) (later, next)) :
    ∃ later' next', Move r' (stage', w') (later', next') ∧ later.Alike related later' ∧
      next.Alike related next' := by
  cases moved with
  | @answer input o result w next passed =>
    cases stages with
    | unstarted _ overrides =>
      obtain ⟨_, _, begun, worlds, outcomes⟩ := alike.begun overrides worlds passed
      cases outcomes with
      | inl same =>
        cases same
        exact ⟨_, _, .answer begun, .done _, worlds⟩
  | @compile input o compiled w next passed =>
    cases stages with
    | unstarted _ overrides =>
      obtain ⟨_, _, begun, worlds, outcomes⟩ := alike.begun overrides worlds passed
      cases outcomes with
      | inr compiled =>
        obtain ⟨document, key, -, jobs⟩ := compiled
        refine ⟨_, _, .compile begun, ?_, worlds⟩
        rw [Compiled.stage, Compiled.stage, document, key]
        refine .working _ _ ?_
        rw [List.forall₂_map_left_iff, List.forall₂_map_right_iff]
        exact jobs.imp fun job job' same => ⟨same.1, .inl (.waiting same.2.alike)⟩
  | @job document key id task state w next front back advanced =>
    cases stages with
    | working _ _ slots =>
      -- The slot that moves has one beside it, at the same place.
      obtain ⟨front', slot', back', rfl, before, here, behind⟩ := exists_append_of_forall₂ slots
      obtain ⟨id', state'⟩ := slot'
      obtain ⟨ids, states⟩ := here
      cases states with
      | inl tasks =>
        obtain ⟨states, worlds⟩ := tasks.advance alike.engines.fallback worlds
        rw [advanced] at states worlds
        refine ⟨_, _, .job front' back' rfl, .working document key ?_, worlds⟩
        exact List.rel_append before (.cons ⟨ids, states⟩ behind)
  | @splice document slots key html w complete =>
    cases stages with
    | @working _ _ slots' _ slotsAlike =>
      have kin : List.Forall₂ (Slot.Kin (Pending.Alike related)) slots slots' :=
        slotsAlike.imp fun _ _ alike => ⟨alike.id, alike.state⟩
      have same := assemble?_congr document kin
      exact ⟨_, _, .splice (same.symm.trans complete), .done _,
        worlds.store .eq (fun _ _ => True.intro) _⟩

theorem Alike.step (alike : r.Alike related r') {stages later : List (Stage ω)}
    {stages' : List (Stage ω')} {next : World γ ω}
    (calls : List.Forall₂ (Stage.Alike related) stages stages') (worlds : w.Alike related w')
    (stepped : Step r (stages, w) (later, next)) :
    ∃ later' next', Step r' (stages', w') (later', next') ∧
      List.Forall₂ (Stage.Alike related) later later' ∧ next.Alike related next' := by
  cases stepped with
  | move front back moved =>
    obtain ⟨front', stage', back', rfl, before, here, behind⟩ := exists_append_of_forall₂ calls
    obtain ⟨later', next', moved, ahead, worlds⟩ := alike.move here worlds moved
    exact ⟨_, _, .move front' back' moved, List.rel_append before (.cons ahead behind), worlds⟩

/-- Whatever may be seen of a world, the like may be seen of a world that is alike. -/
theorem Alike.met (alike : r.Alike related r') {stages : List (Stage ω)} {stages' : List (Stage ω')}
    (calls : List.Forall₂ (Stage.Alike related) stages stages') (worlds : w.Alike related w')
    {v : World γ ω} (met : Met r stages w v) :
    ∃ v', Met r' stages' w' v' ∧ v.Alike related v' := by
  cases met with
  | between => exact ⟨w', .between, worlds⟩
  | @within input o unstarted m moment =>
    obtain ⟨stage', member, same⟩ := exists_of_forall₂ calls unstarted
    cases same with
    | @unstarted input o o' overrides =>
      have looked : (w.find? (r.resultKey input o)).2.Alike related
          (w'.find? (r.resultKey input o)).2 := (worlds.find? .eq fun _ _ => True.intro).2
      obtain ⟨moments, -⟩ := (alike.compiler .eq (fun _ _ => True.intro) overrides).run
        (r.events input o) .initial (pass_kin looked)
      obtain ⟨m', moment', -, -, passes⟩ := exists_of_forall₂ moments moment
      rw [alike.events overrides, alike.resultKey overrides] at moment'
      exact ⟨_, .within member moment', passes.world⟩

/-- Renderers whose engines answer alike do the same, in whatever order their calls move. -/
theorem Alike.steps (alike : r.Alike related r') {start last : List (Stage ω) × World γ ω}
    {stages' : List (Stage ω')} (calls : List.Forall₂ (Stage.Alike related) start.1 stages')
    (worlds : start.2.Alike related w') (steps : ReflTransGen (Step r) start last) :
    ∃ last', ReflTransGen (Step r') (stages', w') last' ∧
      List.Forall₂ (Stage.Alike related) last.1 last'.1 ∧ last.2.Alike related last'.2 := by
  induction steps with
  | refl => exact ⟨_, .refl, calls, worlds⟩
  | tail _ stepped ih =>
    obtain ⟨⟨middle, v⟩, steps, calls, worlds⟩ := ih
    obtain ⟨later, next, stepped, calls, worlds⟩ := alike.step calls worlds stepped
    exact ⟨_, steps.tail stepped, calls, worlds⟩

end Renderer

end Mathdown
