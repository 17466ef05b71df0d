import Mathdown.Proofs.Compile.Questions
import Mathdown.Proofs.Render.Isolation
import Mathdown.Proofs.Render.Memory
import Mathdown.Proofs.Render.Transparency

/-!
A warm cache makes rendering free. A call that is done has left an entry for each math span of its
document, or one for the whole of it, and a cache in memory loses none. A later call for the same
document finds them, so that it asks for nothing but code that has not been highlighted.
-/

namespace Mathdown

open Compile (Moment Question)
open Relation (ReflTransGen)

namespace Cache.Memory

def Holds (m : Memory) (key : Key) : Prop := (Cache.get? m key.text).isSome = true

/-- Whether a later cache has something under each key under which an earlier one has. -/
def Grows (m n : Memory) : Prop :=
  ∀ key, (Cache.get? m key).isSome = true → (Cache.get? n key).isSome = true

theorem Grows.refl (m : Memory) : m.Grows m := fun _ held => held

theorem Grows.trans {a b c : Memory} (first : a.Grows b) (second : b.Grows c) : a.Grows c :=
  fun key held => second key (first key held)

theorem grows_set (m : Memory) (key html : String) : m.Grows (Cache.set m key html) := by
  intro other held
  by_cases same : key = other
  · rw [same, get?_set_self]
    rfl
  · rwa [get?_set_of_ne m html same]

theorem holds_set (m : Memory) (key : Key) (html : String) : Holds (Cache.set m key.text html) key := by
  rw [Holds, get?_set_self]
  rfl

theorem Grows.holds {m n : Memory} (grows : m.Grows n) {key : Key} (held : m.Holds key) :
    n.Holds key := grows key.text held

end Cache.Memory

namespace Render

open Cache (Memory)

variable {ω : Type}

theorem World.isSome_find? {w : World Memory ω} {key : Cache.Key} :
    (w.find? (some key)).1.isSome = true ↔ w.cache.Holds key := .rfl

theorem World.grows_store (w : World Memory ω) (key : Option Cache.Key) (html : String) :
    w.cache.Grows (w.store key html).cache := by
  cases key with
  | none => exact .refl _
  | some key => exact w.cache.grows_set key.text html

theorem Pending.grows_advance (fallback : FallbackEngine ω) (task : Pending ω) (w : World Memory ω) :
    w.cache.Grows (task.advance fallback w).2.cache := by
  cases task with
  | waiting job => exact .refl _
  | started job =>
    cases delay : job.work.delay with
    | succ n =>
      simp only [advance_of_delay_succ delay]
      exact .refl _
    | zero =>
      simp only [advance_of_delay_zero delay]
      split
      · exact World.grows_store { w with engines := (job.work.finish w.engines).2 } _ _
      · exact .refl _

namespace Pass

/-- Whether a pass has come from another one. -/
structure Extends (p q : Pass Memory ω) : Prop where
  cache : p.world.cache.Grows q.world.cache
  jobs : p.jobs ⊆ q.jobs

theorem Extends.refl (p : Pass Memory ω) : p.Extends p := ⟨.refl _, fun _ => id⟩

theorem extends_settleCode (p : Pass Memory ω) (engines : ω) (source : String)
    (key : Option Cache.Key) (said : Except HighlightError (Highlighted ω)) :
    p.Extends (Pass.settleCode { p with world := { p.world with engines } } source key said).2 := by
  rcases said with e | html | work
  · exact ⟨.refl _, fun _ => id⟩
  · exact ⟨World.grows_store { p.world with engines } key html, fun _ => id⟩
  · refine ⟨.refl _, fun job member => ?_⟩
    exact (jobs_deferCode _ _).mem_iff.mpr (List.mem_append_left _ member)

theorem extends_settleMath (p : Pass Memory ω) (engines : ω) (expression : String) (display : Bool)
    (key : Option Cache.Key) (said : Except MathError String) :
    p.Extends
      (Pass.settleMath { p with world := { p.world with engines } } expression display key said).2 := by
  rcases said with e | html
  · refine ⟨.refl _, fun job member => ?_⟩
    exact (jobs_deferMath _ _).mem_iff.mpr (List.mem_append_left _ member)
  · exact ⟨World.grows_store { p.world with engines } key html, fun _ => id⟩

end Pass

theorem Setting.extends_answer (s : Setting ω) (options : CompilerOptions) (p : Pass Memory ω)
    (question : Question) :
    p.Extends ((⟨options, s.processors⟩ : Compiler (Pass Memory ω)).answer p question).2 := by
  cases question with
  | code language source =>
    change p.Extends (s.code p language source).2
    rcases s.code_memory p language source with ⟨html, same⟩ | ⟨-, same⟩
    · rw [same]
      exact .refl p
    · rw [same]
      exact p.extends_settleCode _ _ _ _
  | math expression display =>
    change p.Extends (s.math p expression display).2
    rcases s.math_memory p expression display with ⟨html, -, same⟩ | ⟨-, same⟩
    · rw [same]
      exact .refl p
    · rw [same]
      exact p.extends_settleMath _ _ _ _ _

/-- Whether there is an entry for a span, or a job that will store one, if the span is math. -/
def Pass.Settled (p : Pass Memory ω) : Question → Prop
  | .code _ _ => True
  | .math expression display => p.world.cache.Holds (.math expression display) ∨
      ∃ id, (id, Job.math expression display (some (.math expression display))) ∈ p.jobs

theorem Pass.Settled.mono {p q : Pass Memory ω} {question : Question} (settled : p.Settled question)
    (later : p.Extends q) : q.Settled question := by
  cases question with
  | code language source => trivial
  | math expression display =>
    exact settled.imp later.cache.holds fun ⟨id, member⟩ => ⟨id, later.jobs member⟩

theorem Setting.settled_answer (s : Setting ω) (cached : s.cacheMath = true) (options : CompilerOptions)
    (p : Pass Memory ω) (question : Question) :
    ((⟨options, s.processors⟩ : Compiler (Pass Memory ω)).answer p question).2.Settled question := by
  cases question with
  | code language source => trivial
  | math expression display =>
    have key : s.mathKey expression display = some (.math expression display) := if_pos cached
    change (s.math p expression display).2.Settled _
    rcases s.math_memory p expression display with ⟨html, found, same⟩ | ⟨-, same⟩
    · rw [same]
      rw [key] at found
      exact .inl (World.isSome_find?.mp (found ▸ rfl))
    · rw [same, key]
      cases (s.engines.math.render expression display p.world.engines).1 with
      | ok html => exact .inl (Cache.Memory.holds_set _ _ html)
      | error e =>
        have job := List.mem_singleton_self
          ((p.math.register (.math expression display (some (.math expression display)))).1,
            Job.math (ω := ω) expression display (some (.math expression display)))
        exact .inr ⟨_, (Pass.jobs_deferMath _ _).mem_iff.mpr (List.mem_append_right _ job)⟩

/-- Whether a job that is not done will store its result under a key. -/
def Pending.Carries (key : Cache.Key) : Pending ω → Prop
  | .waiting (.highlight ..) => False
  | .waiting (.math _ _ own) => own = some key
  | .started job => job.key = some key ∧ ∀ e, (job.work.finish e).1.lasting = true

theorem Pending.Carries.advance {key : Cache.Key} {task : Pending ω} (carries : task.Carries key)
    (fallback : FallbackEngine ω) (w : World Memory ω) :
    (task.advance fallback w).2.cache.Holds key ∨
      ∃ later, (task.advance fallback w).1 = .inl later ∧ later.Carries key := by
  rcases task with (job | ⟨expression, display, own⟩) | job
  · cases carries
  · exact .inr ⟨_, rfl, carries, fun e => Outcome.lasting_ofTypeset _ _⟩
  · obtain ⟨own, lasting⟩ : job.key = some key ∧ _ := carries
    cases delay : job.work.delay with
    | succ n =>
      simp only [Pending.advance_of_delay_succ delay]
      exact .inr ⟨_, rfl, own, lasting⟩
    | zero =>
      simp only [Pending.advance_of_delay_zero delay]
      rw [if_pos (lasting w.engines), own]
      exact .inl (Cache.Memory.holds_set _ _ _)

end Render

namespace Renderer

open Cache (Memory)
open Render

variable {ω : Type}

/-- What a document asks, whatever the engines say. -/
def questions (r : Renderer ω) (input : String) (o : Overrides ω) : List Question :=
  (⟨r.options.override o.compiler, {}⟩ : Compiler Unit).questions (r.events input o) .initial ()

theorem questions_compiler {γ : Type} [Cache γ] (r : Renderer ω) (input : String) (o : Overrides ω)
    (p : Pass γ ω) :
    (r.compiler γ o).questions (r.events input o) .initial p = r.questions input o :=
  (r.compiler γ o).questions_eq (⟨r.options.override o.compiler, {}⟩ : Compiler Unit) rfl _ rfl rfl
    p ()

def HoldsMath (r : Renderer ω) (input : String) (m : Memory) : Prop :=
  ∀ expression display, .math expression display ∈ r.questions input {} →
    m.Holds (.math expression display)

/-- Whether a cache has the document, if documents are cached, and else all its math. -/
def Warm (r : Renderer ω) (input : String) (m : Memory) : Prop :=
  Text.allBlank input = true ∨
    if r.caching.result then m.Holds (.result input) else r.HoldsMath input m

/-- Whether a call without overrides has left, or will leave, all the entries for its document. -/
def Warming (r : Renderer ω) (input : String) (m : Memory) : Stage ω → Prop
  | .unstarted text o => text = input ∧ o = {}
  | .working _ slots key => key = r.resultKey input {} ∧ ∀ expression display,
      .math expression display ∈ r.questions input {} →
        m.Holds (.math expression display) ∨
          ∃ slot ∈ slots, ∃ task, slot.state = .inl task ∧ task.Carries (.math expression display)
  | .done (.ok _) => r.Warm input m
  | .done (.error _) => True

variable {r : Renderer ω} {input : String}

theorem resultKey_empty (r : Renderer ω) (input : String) :
    r.resultKey input {} = if r.caching.result then some (.result input) else none := by
  cases on : r.caching.result <;> simp [resultKey, on, Overrides.isEmpty]

theorem HoldsMath.mono {m n : Memory} (grows : m.Grows n) (held : r.HoldsMath input m) :
    r.HoldsMath input n :=
  fun expression display asked => grows.holds (held expression display asked)

theorem Warm.mono {m n : Memory} (grows : m.Grows n) (warm : r.Warm input m) : r.Warm input n := by
  refine warm.imp_right fun held => ?_
  split at held <;> rename_i on
  · exact (if_pos on).mpr (grows.holds held)
  · exact (if_neg on).mpr (held.mono grows)

theorem Warming.mono {m n : Memory} (grows : m.Grows n) {stage : Stage ω}
    (warming : r.Warming input m stage) : r.Warming input n stage := by
  cases stage with
  | unstarted text o => exact warming
  | working document slots key =>
    obtain ⟨own, carried⟩ := warming
    refine ⟨own, fun expression display asked => ?_⟩
    exact (carried expression display asked).imp_left grows.holds
  | done result =>
    cases result with
    | ok html => exact Warm.mono grows warming
    | error e => trivial

/-- A compile pass settles all that it asks for. -/
theorem settled_compile (cached : r.caching.math = true) (p : Pass Memory ω) {question : Question}
    (asked : question ∈ r.questions input {}) :
    ((r.compiler Memory {}).compile (r.events input {}) .initial p).2.2.Settled question := by
  have kept : (r.setting {}).cacheMath = true := by simp [setting, cached]
  rw [← r.questions_compiler input {} p] at asked
  have settles (q : Pass Memory ω) (question : Question) :
      ((r.compiler Memory {}).answer q question).2.Settled question :=
    (r.setting {}).settled_answer kept _ q question
  have keeps (q : Pass Memory ω) (question other : Question) (settled : q.Settled other) :
      ((r.compiler Memory {}).answer q question).2.Settled other :=
    settled.mono ((r.setting {}).extends_answer _ q question)
  rw [Compiler.world_compile]
  exact (r.compiler Memory {}).run_settles settles keeps _ _ _ _ asked

theorem grows_begin (r : Renderer ω) (input : String) (o : Overrides ω) (w : World Memory ω) :
    w.cache.Grows (r.begin input o w).2.cache := by
  have keeps (p : Pass Memory ω) (question : Question) (grown : w.cache.Grows p.world.cache) :
      w.cache.Grows ((r.compiler Memory o).answer p question).2.world.cache :=
    grown.trans ((r.setting o).extends_answer _ p question).cache
  exact begin_keeps keeps input (.refl _)

/-- No move takes anything out of a cache in memory. -/
theorem grows_move {stage later : Stage ω} {w next : World Memory ω}
    (moved : Move r (stage, w) (later, next)) : w.cache.Grows next.cache := by
  cases moved with
  | @answer text o result w next passed =>
    have grown := r.grows_begin text o w
    rwa [passed] at grown
  | @compile text o compiled w next passed =>
    have grown := r.grows_begin text o w
    rwa [passed] at grown
  | @job document key id task state w next front back advanced =>
    have grown := task.grows_advance r.engines.fallback w
    rwa [advanced] at grown
  | splice complete => exact World.grows_store w _ _

private theorem warming_begin (cached : r.caching.math = true) {w next : World Memory ω}
    {outcome : Except CompileError String ⊕ Compiled ω}
    (passed : r.begin input {} w = (outcome, next)) :
    match outcome with
    | .inl result => r.Warming input next.cache (.done result)
    | .inr compiled => r.Warming input next.cache compiled.stage := by
  rcases r.begin_cases input {} w with ⟨blank, begun⟩ | ⟨html, dark, found, begun⟩ |
    ⟨result, s, pass, dark, ran, begun⟩
  · rw [begun] at passed
    cases passed
    exact .inl blank
  · rw [begun, World.find?_memory] at passed
    cases passed
    rw [resultKey_empty] at found
    refine .inr ?_
    split at found
    · rename_i on
      rw [if_pos on]
      exact World.isSome_find?.mp (found ▸ rfl)
    · cases found
  · rw [begun] at passed
    cases passed
    cases result with
    | error e => trivial
    | ok document =>
      refine ⟨rfl, fun expression display asked => ?_⟩
      have settled := settled_compile cached
        { world := (w.find? (r.resultKey input {})).2 } asked
      rw [ran] at settled
      refine settled.imp_right fun ⟨id, member⟩ => ⟨_, List.mem_map_of_mem member, _, rfl, rfl⟩

private theorem Warming.move (cached : r.caching.math = true) {stage later : Stage ω}
    {w next : World Memory ω} (warming : r.Warming input w.cache stage)
    (moved : Move r (stage, w) (later, next)) : r.Warming input next.cache later := by
  have grows := grows_move moved
  cases moved with
  | answer passed =>
    obtain ⟨rfl, rfl⟩ := warming
    exact warming_begin cached passed
  | compile passed =>
    obtain ⟨rfl, rfl⟩ := warming
    exact warming_begin cached passed
  | @job document key id task state w next front back advanced =>
    obtain ⟨own, carried⟩ := warming
    refine ⟨own, fun expression display asked => ?_⟩
    rcases carried expression display asked with held | ⟨slot, member, other, pending, carries⟩
    · exact .inl (grows.holds held)
    · rcases List.mem_append.mp member with before | member
      · exact .inr ⟨slot, List.mem_append_left _ before, other, pending, carries⟩
      · rcases List.mem_cons.mp member with rfl | behind
        · cases pending
          have advance := carries.advance r.engines.fallback w
          rw [advanced] at advance
          refine advance.imp_right fun ⟨later, going, carries⟩ => ?_
          exact ⟨_, List.mem_append_right _ (List.mem_cons_self ..), later, going, carries⟩
        · exact .inr ⟨slot, List.mem_append_right _ (List.mem_cons_of_mem _ behind), other, pending,
            carries⟩
  | @splice document slots key html w complete =>
    obtain ⟨rfl, carried⟩ := warming
    have math : r.HoldsMath input w.cache := fun expression display asked => by
      rcases carried expression display asked with held | ⟨slot, member, task, pending, -⟩
      · exact held
      · obtain ⟨html, done⟩ := done_of_assemble? complete slot member
        rw [done] at pending
        cases pending
    refine .inr ?_
    rw [resultKey_empty] at grows ⊢
    split
    · exact Cache.Memory.holds_set _ _ _
    · exact math

/-- Whether each call without overrides for a document has left, or will leave, the entries for it. -/
def AllWarming (r : Renderer ω) (input : String) (calls : List (String × Overrides ω))
    (config : List (Stage ω) × World Memory ω) : Prop :=
  List.Forall₂ (fun stage call => call = (input, {}) → r.Warming input config.2.cache stage)
    config.1 calls

variable {calls : List (String × Overrides ω)}

theorem AllWarming.steps (cached : r.caching.math = true)
    {start last : List (Stage ω) × World Memory ω} (warming : r.AllWarming input calls start)
    (steps : ReflTransGen (Step r) start last) : r.AllWarming input calls last := by
  induction steps with
  | refl => exact warming
  | tail _ stepped ih =>
    obtain ⟨front, back, moved⟩ := stepped
    have others (stage : Stage ω) (call : String × Overrides ω)
        (warming : call = (input, {}) → r.Warming input _ stage) (same : call = (input, {})) :=
      (warming same).mono (grows_move moved)
    obtain ⟨front', call, back', rfl, before, here, behind⟩ := exists_append_of_forall₂ ih
    exact List.rel_append (before.imp others)
      (.cons (fun same => (here same).move cached moved) (behind.imp others))

end Renderer

namespace Render

open Cache (Memory)

variable {ω : Type}

/-- Whether a request is for the code of a block that has no entry at the moment when it ends. -/
def Missed (m : Moment (Pass Memory ω)) (request : Request) : Prop :=
  ∃ language source, m.question? = some (.code language source) ∧
    request = .highlight source (language.filter (· != "")) ∧
    ¬m.world.world.cache.Holds (.highlight (language.filter (· != "")) source)

/-- Whether a job makes no request, neither when it is started nor when it is done. -/
def Job.Quiet : Job (ω × List Request) → Prop
  | .highlight _ _ work => ∀ e, (work.finish e).2.2 = e.2
  | .math .. => False

/-- Whether what is left of a job makes no request. -/
def Pending.Quiet : Pending (ω × List Request) → Prop
  | .waiting job => job.Quiet
  | .started job => ∀ e, (job.work.finish e).2.2 = e.2

/-- Whether what is left of a call makes no request. -/
def Stage.Quiet : Stage (ω × List Request) → Prop
  | .unstarted .. => False
  | .working _ slots _ => ∀ slot ∈ slots, ∀ task, slot.state = .inl task → task.Quiet
  | .done _ => True

theorem Pending.Quiet.advance {γ : Type} [Cache γ] {task : Pending (ω × List Request)}
    (quiet : task.Quiet) (fallback : FallbackEngine (ω × List Request))
    (w : World γ (ω × List Request)) :
    (task.advance fallback w).2.engines.2 = w.engines.2 ∧
      ∀ later, (task.advance fallback w).1 = .inl later → later.Quiet := by
  rcases task with (⟨source, key, work⟩ | ⟨expression, display, key⟩) | job
  · refine ⟨rfl, ?_⟩
    rintro _ ⟨⟩
    exact quiet
  · cases quiet
  · cases delay : job.work.delay with
    | succ n =>
      simp only [Pending.advance_of_delay_succ delay]
      refine ⟨trivial, ?_⟩
      rintro _ ⟨⟩
      exact quiet
    | zero =>
      simp only [Pending.advance_of_delay_zero delay]
      refine ⟨?_, by rintro _ ⟨⟩⟩
      have stored (key : Option Cache.Key) (html : String) (v : World γ (ω × List Request)) :
          (v.store key html).engines = v.engines := by cases key <;> rfl
      split
      · rw [stored]
        exact quiet w.engines
      · exact quiet w.engines

theorem Stage.Quiet.move {γ : Type} [Cache γ] {r : Renderer (ω × List Request)}
    {stage later : Stage (ω × List Request)} {w next : World γ (ω × List Request)}
    (quiet : stage.Quiet) (moved : Move r (stage, w) (later, next)) :
    later.Quiet ∧ next.engines.2 = w.engines.2 := by
  cases moved with
  | answer passed | compile passed => cases quiet
  | @job document key id task state w next front back advanced =>
    have own : task.Quiet := quiet _ (List.mem_append_right _ (List.mem_cons_self ..)) task rfl
    obtain ⟨same, going⟩ := own.advance r.engines.fallback w
    rw [advanced] at same going
    exact ⟨forall_mem_replace quiet going, same⟩
  | @splice document slots key html w complete =>
    refine ⟨trivial, ?_⟩
    cases key <;> rfl

theorem Stage.Quiet.moves {γ : Type} [Cache γ] {r : Renderer (ω × List Request)}
    {start last : Stage (ω × List Request) × World γ (ω × List Request)}
    (quiet : start.1.Quiet) (moves : ReflTransGen (Move r) start last) :
    last.1.Quiet ∧ last.2.engines.2 = start.2.engines.2 := by
  induction moves with
  | refl => exact ⟨quiet, rfl⟩
  | tail _ moved ih =>
    obtain ⟨later, same⟩ := ih.1.move moved
    exact ⟨later, same.trans ih.2⟩

/-- What a compile pass keeps that finds all math: it misses code at most, and all jobs are quiet. -/
structure Pass.Sparing (start : Memory) (missed : Request → Prop)
    (p : Pass Memory (ω × List Request)) : Prop where
  cache : start.Grows p.world.cache
  requests : ∀ request ∈ p.world.engines.2, missed request
  jobs : ∀ job ∈ p.jobs, job.2.Quiet

namespace Pass.Sparing

variable {start : Memory} {missed : Request → Prop} {p : Pass Memory (ω × List Request)}

theorem settleCode (sparing : p.Sparing start missed) (source : String) (key : Option Cache.Key)
    {said : Except HighlightError (Highlighted (ω × List Request))}
    (quiet : ∀ work, said = .ok (.pending work) → ∀ e, (work.finish e).2.2 = e.2) :
    (p.settleCode source key said).2.Sparing start missed := by
  rcases said with e | html | work
  · exact sparing
  · refine ⟨sparing.cache.trans (p.world.grows_store key html), ?_, sparing.jobs⟩
    cases key <;> exact sparing.requests
  · exact ⟨sparing.cache, sparing.requests,
      (p.forall_jobs_deferCode _).mpr ⟨sparing.jobs, quiet work rfl⟩⟩

/-- A traced highlighter is asked for a code block only if there is no entry for it. -/
theorem code (sparing : p.Sparing start missed) {s : Setting (ω × List Request)} {h : Highlighter ω}
    (traced : s.engines.highlighter = h.traced) (cached : s.cacheCode = true)
    (language : Option String) (source : String)
    (new : ¬p.world.cache.Holds (.highlight (language.filter (· != "")) source) →
      missed (.highlight source (language.filter (· != "")))) :
    (s.code p language source).2.Sparing start missed := by
  have key (named : Option String) : s.codeKey named source = some (.highlight named source) :=
    if_pos cached
  have answered := s.code_memory p language source
  simp only [key, traced] at answered
  generalize language.filter (· != "") = named at new answered
  rcases answered with ⟨html, same⟩ | ⟨absent, same⟩
  · rw [same]
    exact sparing
  · have asked : missed (.highlight source named) := by
      refine new fun held => ?_
      rw [← World.isSome_find?, absent] at held
      cases held
    have others : Pass.Sparing start missed { p with
        world := { p.world with engines := (h.traced.highlight source named p.world.engines).2 } } := by
      refine ⟨sparing.cache, fun request member => ?_, sparing.jobs⟩
      rcases List.mem_append.mp member with before | last
      · exact sparing.requests request before
      · exact List.mem_singleton.mp last ▸ asked
    rw [same]
    refine others.settleCode source _ fun work pending e => ?_
    change Except.map _ (h.highlight source named p.world.engines.1).1 = _ at pending
    generalize (h.highlight source named p.world.engines.1).1 = given at pending
    rcases given with e | html | own <;> cases pending
    rfl

theorem math (sparing : p.Sparing start missed) {s : Setting (ω × List Request)}
    (cached : s.cacheMath = true) {expression : String} {display : Bool}
    (held : start.Holds (.math expression display)) :
    (s.math p expression display).2.Sparing start missed := by
  have key : s.mathKey expression display = some (.math expression display) := if_pos cached
  rcases s.math_memory p expression display with ⟨html, -, same⟩ | ⟨absent, -⟩
  · rw [same]
    exact sparing
  · have present : (p.world.find? (s.mathKey expression display)).1.isSome = true := by
      rw [key]
      exact World.isSome_find?.mpr (sparing.cache.holds held)
    rw [absent] at present
    cases present

end Pass.Sparing

end Render

namespace Renderer

open Cache (Memory)
open Render

variable {ω : Type} {r : Renderer ω} {input : String}

private theorem sparing_compile (code : r.caching.highlight = true) (math : r.caching.math = true)
    {w : World Memory ω} (held : r.HoldsMath input w.cache) :
    ((r.traced.compiler Memory {}).compile (r.events input {}) .initial
      { world := ⟨w.cache, w.engines, []⟩ }).2.2.Sparing w.cache fun request =>
        ∃ m ∈ (r.compiler Memory {}).moments (r.events input {}) .initial { world := w },
          Missed m request := by
  have cacheMath : (r.traced.setting {}).cacheMath = true := by simp [setting, traced, math]
  have cacheCode : (r.traced.setting {}).cacheCode = true := by simp [setting, traced, code]
  have alike : (r.compiler Memory {}).Alike _ (r.traced.compiler Memory {}) :=
    r.alike_traced.compiler .eq (fun _ _ => True.intro) (Overrides.alike_traced {})
  -- The jobs of the traced renderer are quiet, and those of the renderer are of the same kinds.
  have worlds : w.Alike Request.Beside ⟨w.cache, w.engines, []⟩ := ⟨rfl, rfl⟩
  obtain ⟨moments, -⟩ := alike.run (r.events input {}) .initial (pass_kin worlds)
  rw [Compiler.world_compile]
  refine (r.traced.compiler Memory {}).run_keeps_of_moments _
    (fun m' met question asked sparing => ?_)
    ⟨.refl _, by simp, by simp [Pass.jobs, Registry.toList]⟩
  obtain ⟨m, moment, event, state, passes⟩ := exists_of_forall₂ moments.flip met
  have same : m.question? = some question := by rw [← asked, Moment.question?, event, state]; rfl
  cases question with
  | code language source =>
    refine sparing.code rfl cacheCode language source fun absent => ?_
    refine ⟨m, moment, language, source, same, rfl, fun held => absent ?_⟩
    rwa [passes.world.cache] at held
  | math expression display =>
    refine sparing.math cacheMath (held expression display ?_)
    rw [← r.questions_compiler input {} { world := w }]
    exact List.mem_filterMap.mpr ⟨m, moment, same⟩

private theorem sparing_begin (code : r.caching.highlight = true) (math : r.caching.math = true)
    {w : World Memory ω} (held : r.HoldsMath input w.cache)
    {outcome : Except CompileError String ⊕ Compiled (ω × List Request)}
    {next : World Memory (ω × List Request)}
    (passed : r.traced.begin input {} ⟨w.cache, w.engines, []⟩ = (outcome, next)) :
    (∀ request ∈ next.engines.2,
      ∃ m ∈ (r.compiler Memory {}).moments (r.events input {}) .initial { world := w },
        Missed m request) ∧
      ∀ compiled, outcome = .inr compiled → ∀ job ∈ compiled.jobs, job.2.Quiet := by
  rcases r.traced.begin_cases input {} (⟨w.cache, w.engines, []⟩ : World Memory _) with
    ⟨-, begun⟩ | ⟨html, -, -, begun⟩ | ⟨result, s, pass, -, ran, begun⟩
  · rw [begun] at passed
    cases passed
    exact ⟨by simp, nofun⟩
  · rw [begun, World.find?_memory] at passed
    cases passed
    exact ⟨by simp, nofun⟩
  · rw [World.find?_memory] at ran
    have sparing := sparing_compile code math held
    rw [show (r.traced.compiler Memory {}).compile (r.events input {}) _ _ = _ from ran] at sparing
    rw [begun] at passed
    cases passed
    refine ⟨sparing.requests, fun compiled same => ?_⟩
    cases result with
    | error e => cases same
    | ok document =>
      cases same
      exact sparing.jobs

private theorem requests_of_begin {w : World Memory ω}
    {outcome : Except CompileError String ⊕ Compiled (ω × List Request)}
    {next : World Memory (ω × List Request)}
    (passed : r.traced.begin input {} ⟨w.cache, w.engines, []⟩ = (outcome, next))
    (quiet : ∀ compiled, outcome = .inr compiled → ∀ job ∈ compiled.jobs, job.2.Quiet) :
    r.requests input {} w = next.engines.2 := by
  have moves := moves_run r.traced (.unstarted input {}) (⟨w.cache, w.engines, []⟩ : World Memory _)
  rcases moves.cases_head with same | ⟨⟨stage, v⟩, first, others⟩
  · cases same
  · have quieter : stage.Quiet ∧ v = next := by
      cases first with
      | answer other =>
        rw [passed] at other
        cases other
        exact ⟨trivial, rfl⟩
      | compile other =>
        rw [passed] at other
        cases other
        exact ⟨Slot.forall_waiting (quiet _ rfl), rfl⟩
    obtain ⟨quieter, rfl⟩ := quieter
    exact (quieter.moves others).2

private theorem begin_of_holds {ω : Type} {r : Renderer ω} {w : World Memory ω}
    (answered : Text.allBlank input = true ∨
      r.caching.result = true ∧ w.cache.Holds (.result input)) :
    ∃ html, r.begin input {} w = (.inl (.ok html), w) := by
  cases dark : Text.allBlank input with
  | true => exact ⟨"", by rw [Renderer.begin, if_pos dark]⟩
  | false =>
    obtain ⟨on, held⟩ := answered.resolve_left (by simp [dark])
    obtain ⟨html, found⟩ := Option.isSome_iff_exists.mp held
    exact ⟨html, begin_of_found dark (by rw [resultKey_empty, if_pos on]) found⟩

/--
Calls of a renderer share a cache in memory and move in any order. Wherever they get, if a call without
overrides has been done for a document, then a further one asks neither math engine for anything, has
no job for math, and asks the highlighter only for code that has no entry when it is met. If documents
are cached, it is answered at once and asks for nothing.
-/
theorem rerender_free (r : Renderer ω) (code : r.caching.highlight = true)
    (math : r.caching.math = true) (calls : List (String × Overrides ω)) (start : World Memory ω)
    {stages : List (Stage ω)} {w : World Memory ω}
    (steps : ReflTransGen (Step r) (calls.map fun call => .unstarted call.1 call.2, start) (stages, w))
    {input html : String} {i : Nat} (plain : calls[i]? = some (input, {}))
    (rendered : stages[i]? = some (.done (.ok html))) :
    (∀ request ∈ r.requests input {} w,
      ∃ m ∈ (r.compiler Memory {}).moments (r.events input {}) .initial { world := w },
        Missed m request) ∧
      (∀ compiled next, r.begin input {} w = (.inr compiled, next) →
        ∀ job ∈ compiled.jobs, ∃ source key work, job.2 = .highlight source key work) ∧
      (r.caching.result = true →
        r.requests input {} w = [] ∧ ∃ html, r.begin input {} w = (.inl (.ok html), w)) := by
  have first : r.AllWarming input calls (calls.map fun call => .unstarted call.1 call.2, start) := by
    refine List.forall₂_map_left_iff.mpr (List.forall₂_same.mpr ?_)
    rintro _ - rfl
    exact ⟨rfl, rfl⟩
  have warm : r.Warm input w.cache := by
    obtain ⟨bound, own⟩ := List.getElem?_eq_some_iff.mp plain
    obtain ⟨bound', done⟩ := List.getElem?_eq_some_iff.mp rendered
    have warming := (first.steps math steps).get bound' bound own
    simp only [List.get_eq_getElem, done] at warming
    exact warming
  have answered (now : Text.allBlank input = true ∨
      r.caching.result = true ∧ w.cache.Holds (.result input)) :
      r.requests input {} w = [] ∧ ∃ html, r.begin input {} w = (.inl (.ok html), w) := by
    obtain ⟨html, begun⟩ := begin_of_holds (r := r.traced) (w := ⟨w.cache, w.engines, []⟩) now
    exact ⟨requests_of_begin begun nofun, begin_of_holds now⟩
  -- A document that is answered at once asks for nothing. For any other one all math is found.
  by_cases now : Text.allBlank input = true ∨ r.caching.result = true ∧ w.cache.Holds (.result input)
  · obtain ⟨none, html, begun⟩ := answered now
    refine ⟨by simp [none], fun compiled next passed => ?_, fun _ => ⟨none, html, begun⟩⟩
    rw [begun] at passed
    cases passed
  · obtain ⟨off, held⟩ : ¬r.caching.result = true ∧ r.HoldsMath input w.cache := by
      rcases warm with blank | held
      · exact absurd (.inl blank) now
      · split at held
        · rename_i on
          exact absurd (.inr ⟨on, held⟩) now
        · rename_i off
          exact ⟨off, held⟩
    rcases passed : r.traced.begin input {} (⟨w.cache, w.engines, []⟩ : World Memory _) with
      ⟨outcome, v⟩
    obtain ⟨missed, quiet⟩ := sparing_begin code math held passed
    refine ⟨?_, fun compiled next begun job member => ?_, fun on => absurd on off⟩
    · rw [requests_of_begin passed quiet]
      exact missed
    · have worlds : w.Alike Request.Beside ⟨w.cache, w.engines, []⟩ := ⟨rfl, rfl⟩
      obtain ⟨outcomes, -⟩ := r.alike_traced.begin .eq (fun _ _ => True.intro)
        (Overrides.alike_traced {}) worlds input
      rw [begun, show r.traced.begin input (Overrides.traced {}) _ = _ from passed] at outcomes
      cases outcomes with
      | inr kin =>
        obtain ⟨other, present, -, same⟩ := exists_of_forall₂ kin.jobs member
        have quieter := quiet _ rfl other present
        obtain ⟨id, job⟩ := job
        obtain ⟨id', other⟩ := other
        cases same.alike with
        | highlight source key alike => exact ⟨source, key, _, rfl⟩
        | math expression display key => cases quieter

/-- Math that has been put off and drawn is not asked for again. -/
theorem rerender_free_deferring :
    deferring.questions "$a$" {} = [.math "a" false] ∧
      ∃ w : World Memory Unit, ReflTransGen (Step deferring) ([.unstarted "$a$" {}], ⟨{}, ()⟩)
          ([.done (.ok "<p><svg>a</svg></p>")], w) ∧
        deferring.requests "$a$" {} w = [] := by
  have asked : deferring.questions "$a$" {} = [.math "a" false] := by decide +kernel
  have serves : deferring.Serves deferred ({} : Overrides Unit) deferred :=
    ⟨⟨fun _ _ _ _ => rfl, fun _ _ _ => rfl, fun _ _ _ _ => rfl⟩, fun _ => rfl, fun _ => rfl, rfl⟩
  obtain ⟨html, -⟩ := render_right nests_deferring (deferring.trusts_keeps deferred) serves
    deferred_firm "$a$" (w := ⟨({} : Memory), ()⟩) (Memory.honest.keeps _)
  have moves := (moves_run deferring (.unstarted "$a$" {}) (⟨{}, ()⟩ : World Memory Unit)).lift
    (fun (config : Stage Unit × World Memory Unit) => ([config.1], config.2))
    fun _ _ moved => Step.move [] [] moved
  rw [show (deferring.run (.unstarted "$a$" {}) _).1 = _ from html,
    show deferring.inlined deferred "$a$" {} = .ok "<p><svg>a</svg></p>" by decide +kernel] at moves
  refine ⟨asked, _, moves, List.eq_nil_iff_forall_not_mem.mpr fun request member => ?_⟩
  obtain ⟨missed, -⟩ :=
    rerender_free deferring rfl rfl [("$a$", {})] ⟨{}, ()⟩ moves (i := 0) rfl rfl
  obtain ⟨m, moment, language, source, code, -⟩ := missed request member
  have among : .code language source ∈ deferring.questions "$a$" {} := by
    rw [← deferring.questions_compiler "$a$" {} ({ world := _ } : Pass Memory Unit)]
    exact List.mem_filterMap.mpr ⟨m, moment, code⟩
  rw [asked] at among
  simp at among

end Renderer

end Mathdown
