import Mathdown.Proofs.Cache.Honest
import Mathdown.Proofs.Cache.Keys
import Mathdown.Proofs.Compile.Languages
import Mathdown.Proofs.Render.Recording
import Mathdown.Proofs.Render.Splicing

/-!
Where the entries of a cache come from. The engines may be anything, but the renderer's own ones keep
a record of what they give. Whatever calls share the cache, and in whatever order they move: what
stands under the key of a span has been given for just that span by one of the renderer's own engines,
and what stands under the key of a document has been returned by a call for just that document.
-/

namespace Mathdown

open Cache (Built Key)
open Relation (ReflTransGen)

variable {γ ω α : Type}

namespace Render

/-- Whether a record says that some HTML has been given for a span. -/
def Recorded (log : List Record) : Key → (html : String) → Prop
  | .highlight language source, html => .code language source html ∈ log
  | .math expression display, html =>
    .math expression display html ∈ log ∨
      (∃ svg, .drawing expression (.ofDisplay display) (.ok svg) ∈ log ∧
        html = Html.drawing svg display) ∨
      ∃ e, .drawing expression (.ofDisplay display) (.error e) ∈ log ∧
        html = Html.errorBox e.messages
  | .result _, _ => False

/-- Whether some HTML has been returned for a document by a call that replaces nothing. -/
def Returned (calls : List (String × Overrides ω)) (stages : List (Stage α)) :
    Key → (html : String) → Prop
  | .result input, html => ((input, {}), .done (.ok html)) ∈ calls.zip stages
  | _, _ => False

theorem Recorded.mono {log more : List Record} {key : Key} {html : String}
    (recorded : Recorded log key html) (longer : log ⊆ more) : Recorded more key html := by
  cases key with
  | highlight language source => exact longer recorded
  | math expression display =>
    rcases recorded with given | ⟨svg, drawn, same⟩ | ⟨e, failed, same⟩
    · exact .inl (longer given)
    · exact .inr (.inl ⟨svg, longer drawn, same⟩)
    · exact .inr (.inr ⟨e, longer failed, same⟩)
  | result input => exact recorded

/-- Whether work, once it is done, has recorded what is to be stored under a key. -/
def Notes (key : Option Key) (work : Deferred (ω × List Record) Outcome) : Prop :=
  ∀ state, state.2 ⊆ (work.finish state).2.2 ∧
    ((work.finish state).1.lasting = true → ∀ k, key = some k →
      k.Clean ∧ Recorded (work.finish state).2.2 k (work.finish state).1.html)

def Job.Notes (fallback : FallbackEngine (ω × List Record)) (job : Job (ω × List Record)) : Prop :=
  ∀ state, state.2 ⊆ (job.work fallback state).2.2 ∧
    Render.Notes job.key (job.work fallback state).1

def Pending.Notes (fallback : FallbackEngine (ω × List Record)) :
    Pending (ω × List Record) → Prop
  | .waiting job => job.Notes fallback
  | .started job => Render.Notes job.key job.work

/-- Code that the highlighter has put off is recorded if it is highlighted in the end. -/
theorem Job.notes_highlight (fallback : FallbackEngine (ω × List Record))
    {note : Option String → String → String → List Record} {language : Option String}
    {source : String} {key : Option Key}
    (own : ∀ k, key = some k → k = .highlight language source ∧ k.Clean ∧
      note = fun language source html => [.code language source html])
    (work : Deferred ω (Except HighlightError String)) :
    (Job.highlight source key (work.notingSuccess (note language source))).Notes fallback := by
  refine fun state => ⟨fun record member => member, ?_⟩
  rintro ⟨w, log⟩
  refine ⟨List.subset_append_left _ _, fun lasting k keyed => ?_⟩
  change (Outcome.ofHighlight source (work.finish w).1).lasting = true at lasting
  cases given : (work.finish w).1 with
  | ok html =>
    obtain ⟨rfl, clean, rfl⟩ := own k keyed
    let later := work.notingSuccess fun html => [Record.code language source html]
    change _ ∧ Recorded (later.finish (w, log)).2.2 (.highlight language source)
      (Outcome.ofHighlight source (later.finish (w, log)).1).html
    rw [Deferred.finish_notingSuccess given]
    exact ⟨clean, List.mem_append_right log (List.mem_singleton_self _)⟩
  | error e =>
    rw [given] at lasting
    cases lasting

theorem Job.notes_math (fallback : FallbackEngine ω) {expression : String} {display : Bool}
    {key : Option Key} (own : ∀ k, key = some k → k = .math expression display) :
    (Job.math expression display key).Notes fallback.recording := by
  rintro ⟨w, log⟩
  refine ⟨fun record member => member, ?_⟩
  rintro ⟨w', log'⟩
  refine ⟨List.subset_append_left _ _, fun _ k keyed => ?_⟩
  obtain rfl := own k keyed
  let result := ((fallback.typeset expression (.ofDisplay display) w).1.finish w').1
  let html (answer : Except FallbackError String) := (Outcome.ofTypeset display answer).html
  have noted : Record.drawing expression (.ofDisplay display) result ∈
      log' ++ [.drawing expression (.ofDisplay display) result] :=
    List.mem_append_right log' (List.mem_singleton_self _)
  refine ⟨trivial, .inr ?_⟩
  cases given : result with
  | ok svg => exact .inl ⟨svg, given ▸ noted, congrArg html given⟩
  | error e => exact .inr ⟨e, given ▸ noted, congrArg html given⟩

variable [Cache γ]

/-- Whether all that has been stored since the start has been recorded, or is right otherwise. -/
def World.Sourced (start : γ) (old : Key → String → Prop) (w : World γ (ω × List Record)) : Prop :=
  Built (fun text html => ∃ key : Key, key.Clean ∧ key.text = text ∧
    (old key html ∨ Recorded w.engines.2 key html)) start w.cache

variable {start : γ} {old : Key → String → Prop} {w : World γ (ω × List Record)}

namespace World.Sourced

theorem mono (sourced : w.Sourced start old) {more : Key → String → Prop}
    (weaker : ∀ key html, old key html → more key html) : w.Sourced start more := by
  refine Built.mono sourced ?_
  rintro text html ⟨key, clean, same, right⟩
  exact ⟨key, clean, same, right.imp_left (weaker key html)⟩

theorem goOn (sourced : w.Sourced start old) {engines : ω × List Record}
    (longer : w.engines.2 ⊆ engines.2) : World.Sourced start old { w with engines } := by
  refine Built.mono sourced ?_
  rintro text html ⟨key, clean, same, right⟩
  exact ⟨key, clean, same, right.imp_right (·.mono longer)⟩

theorem find? (sourced : w.Sourced start old) (key : Option Key) :
    (w.find? key).2.Sourced start old := by
  cases key with
  | none => exact sourced
  | some key => exact Built.get sourced key.text

theorem store (sourced : w.Sourced start old) {key : Option Key} {html : String}
    (new : ∀ k, key = some k → k.Clean ∧ (old k html ∨ Recorded w.engines.2 k html)) :
    (w.store key html).Sourced start old := by
  cases key with
  | none => exact sourced
  | some key =>
    obtain ⟨clean, right⟩ := new key rfl
    exact Built.set sourced ⟨key, clean, rfl, right⟩

end World.Sourced

theorem Pending.Notes.advance {fallback : FallbackEngine (ω × List Record)}
    {task : Pending (ω × List Record)} (notes : task.Notes fallback) (sourced : w.Sourced start old) :
    (task.advance fallback w).2.Sourced start old ∧
      ∀ later, (task.advance fallback w).1 = .inl later → later.Notes fallback := by
  cases task with
  | waiting job =>
    obtain ⟨longer, work⟩ := notes w.engines
    refine ⟨sourced.goOn longer, ?_⟩
    rintro _ ⟨⟩
    exact work
  | started job =>
    cases delay : job.work.delay with
    | succ n =>
      simp only [Pending.advance_of_delay_succ delay]
      refine ⟨sourced, ?_⟩
      rintro _ ⟨⟩
      exact notes
    | zero =>
      simp only [Pending.advance_of_delay_zero delay]
      obtain ⟨longer, recorded⟩ := notes w.engines
      have finished := sourced.goOn longer
      refine ⟨?_, by simp⟩
      split
      · rename_i lasting
        refine finished.store fun k keyed => ?_
        obtain ⟨clean, given⟩ := recorded lasting k keyed
        exact ⟨clean, .inr given⟩
      · exact finished

/-- Whether a compile pass has stored and will store only what is recorded. -/
structure Pass.Sourced (start : γ) (old : Key → String → Prop)
    (fallback : FallbackEngine (ω × List Record)) (p : Pass γ (ω × List Record)) : Prop where
  world : p.world.Sourced start old
  jobs : ∀ job ∈ p.jobs, job.2.Notes fallback

variable {fallback : FallbackEngine (ω × List Record)} {p : Pass γ (ω × List Record)}

end Render

namespace Renderer

open Render

variable [Cache γ] {start : γ} {old : Key → String → Prop} {w : World γ (ω × List Record)}
  {p : Pass γ (ω × List Record)} {r : Renderer ω} {o : Overrides ω}

private theorem exists_highlighter (r : Renderer ω) (o : Overrides ω) :
    ∃ (h : Highlighter ω) (note : Option String → String → String → List Record),
      (r.recording.setting o.unrecorded).engines.highlighter = h.noting note ∧
        ((r.recording.setting o.unrecorded).cacheCode = true →
          note = fun language source html => [.code language source html]) := by
  obtain ⟨replaced, math, options⟩ := o
  cases replaced with
  | none => exact ⟨r.engines.highlighter, _, rfl, fun _ => rfl⟩
  | some h => exact ⟨h, _, rfl, fun cached => by simp [setting, Overrides.unrecorded] at cached⟩

private theorem exists_math (r : Renderer ω) (o : Overrides ω) :
    ∃ (m : MathEngine ω) (note : String → Bool → String → List Record),
      (r.recording.setting o.unrecorded).engines.math = m.noting note ∧
        ((r.recording.setting o.unrecorded).cacheMath = true →
          note = fun expression display html => [.math expression display html]) := by
  obtain ⟨highlighter, replaced, options⟩ := o
  cases replaced with
  | none => exact ⟨r.engines.math, _, rfl, fun _ => rfl⟩
  | some m => exact ⟨m, _, rfl, fun cached => by simp [setting, Overrides.unrecorded] at cached⟩

private theorem code_sourced (sourced : p.Sourced start old r.recording.engines.fallback)
    {language : Option String} {source : String}
    (clean : Compile.Question.Clean (.code language source)) :
    ((r.recording.setting o.unrecorded).code p language source).2.Sourced start old
      r.recording.engines.fallback := by
  obtain ⟨h, note, engine, own⟩ := exists_highlighter r o
  have keyed (k : Key)
      (same : (r.recording.setting o.unrecorded).codeKey language source = some k) :
      k = .highlight language source ∧ k.Clean ∧
        note = fun language source html => [.code language source html] := by
    obtain ⟨cached, rfl⟩ := Setting.codeKey_eq_some_iff.mp same
    exact ⟨rfl, clean, own cached⟩
  have looked := sourced.world.find? ((r.recording.setting o.unrecorded).codeKey language source)
  have answered := (r.recording.setting o.unrecorded).code_cases p language source
  simp only [clean.filter_language, engine] at answered
  rcases answered with ⟨html, -, same⟩ | ⟨-, same⟩
  · rw [same]
    exact ⟨looked, sourced.jobs⟩
  · rw [same]
    generalize (p.world.find? ((r.recording.setting o.unrecorded).codeKey language source)).2 = v
      at looked ⊢
    obtain ⟨longer, said⟩ := h.noting_cases note source language v.engines
    have noted := looked.goOn longer
    rcases said with ⟨html, said, given⟩ | ⟨work, said⟩ | ⟨e, said⟩ <;> rw [said]
    · refine ⟨noted.store fun k keyed' => ?_, sourced.jobs⟩
      obtain ⟨rfl, clean, rfl⟩ := keyed k keyed'
      exact ⟨clean, .inr (given (List.mem_singleton_self _))⟩
    · exact ⟨noted, (Pass.forall_jobs_deferCode _ _).mpr
        ⟨sourced.jobs, Job.notes_highlight _ keyed work⟩⟩
    · exact ⟨noted, sourced.jobs⟩

private theorem math_sourced (sourced : p.Sourced start old r.recording.engines.fallback)
    (expression : String) (display : Bool) :
    ((r.recording.setting o.unrecorded).math p expression display).2.Sourced start old
      r.recording.engines.fallback := by
  obtain ⟨m, note, engine, own⟩ := exists_math r o
  have keyed (k : Key)
      (same : (r.recording.setting o.unrecorded).mathKey expression display = some k) :
      k = .math expression display ∧
        note = fun expression display html => [.math expression display html] := by
    obtain ⟨cached, rfl⟩ := Setting.mathKey_eq_some_iff.mp same
    exact ⟨rfl, own cached⟩
  have looked :=
    sourced.world.find? ((r.recording.setting o.unrecorded).mathKey expression display)
  have answered := (r.recording.setting o.unrecorded).math_cases p expression display
  simp only [engine] at answered
  rcases answered with ⟨html, -, same⟩ | ⟨-, same⟩
  · rw [same]
    exact ⟨looked, sourced.jobs⟩
  · rw [same]
    generalize (p.world.find? ((r.recording.setting o.unrecorded).mathKey expression display)).2 = v
      at looked ⊢
    obtain ⟨longer, said⟩ := m.noting_cases note expression display v.engines
    have noted := looked.goOn longer
    rcases said with ⟨html, said, given⟩ | ⟨e, said⟩ <;> rw [said]
    · refine ⟨noted.store fun k keyed' => ?_, sourced.jobs⟩
      obtain ⟨rfl, rfl⟩ := keyed k keyed'
      exact ⟨trivial, .inr (.inl (given (List.mem_singleton_self _)))⟩
    · exact ⟨noted, (Pass.forall_jobs_deferMath _ _).mpr
        ⟨sourced.jobs, Job.notes_math _ fun k keyed' => (keyed k keyed').1⟩⟩

/-- All that the events of a compile pass meet, and all that it leaves, has been recorded. -/
theorem compile_sourced (r : Renderer ω) (o : Overrides ω) (input : String)
    (sourced : w.Sourced start old) :
    let compiler := r.recording.compiler γ o.unrecorded
    let events := r.recording.events input o.unrecorded
    (∀ m ∈ compiler.moments events .initial { world := w }, m.world.world.Sourced start old) ∧
      (compiler.compile events .initial { world := w }).2.2.Sourced start old
        r.recording.engines.fallback := by
  intro compiler events
  have fresh : Pass.Sourced start old r.recording.engines.fallback { world := w } :=
    ⟨sourced, by simp [Pass.jobs, Registry.toList]⟩
  have clean : Compile.State.CleanCode .initial := by rintro block ⟨⟩
  have keeps (p : Pass γ (ω × List Record)) (question : Compile.Question) (clean : question.Clean)
      (sourced : p.Sourced start old r.recording.engines.fallback) :
      (compiler.answer p question).2.Sourced start old r.recording.engines.fallback := by
    cases question with
    | code language source => exact code_sourced sourced clean
    | math expression display => exact math_sourced sourced expression display
  obtain ⟨met, left⟩ := compiler.moments_keep keeps events clean fresh
  rw [Compiler.world_compile]
  exact ⟨fun m member => (met m member).world, left⟩

private theorem begin_sourced {r : Renderer ω} {o : Overrides ω} {input : String}
    {w next : World γ (ω × List Record)} (sourced : w.Sourced start old)
    {outcome : Except CompileError String ⊕ Compiled (ω × List Record)}
    (passed : r.recording.begin input o.unrecorded w = (outcome, next)) :
    next.Sourced start old ∧ ∀ compiled, outcome = .inr compiled →
      compiled.key = r.recording.resultKey input o.unrecorded ∧
        ∀ job ∈ compiled.jobs, job.2.Notes r.recording.engines.fallback := by
  have looked := sourced.find? (r.recording.resultKey input o.unrecorded)
  rcases r.recording.begin_cases input o.unrecorded w with ⟨blank, begun⟩ |
    ⟨html, dark, found, begun⟩ | ⟨result, s, pass, dark, ran, begun⟩
  · rw [begun] at passed
    cases passed
    exact ⟨sourced, by simp⟩
  · rw [begun] at passed
    cases passed
    exact ⟨looked, by simp⟩
  · have left := (compile_sourced r o input looked).2
    rw [ran] at left
    rw [begun] at passed
    cases passed
    refine ⟨left.world, ?_⟩
    cases result with
    | error e => simp [outcome]
    | ok document =>
      rintro _ ⟨⟩
      exact ⟨rfl, left.jobs⟩

/-- Whether a call is one that records what it stores, as far as it has come. -/
def Records (r : Renderer ω) (call : String × Overrides ω) : Stage (ω × List Record) → Prop
  | .unstarted input overrides => input = call.1 ∧ overrides = call.2.unrecorded
  | .working _ slots key =>
    key = r.recording.resultKey call.1 call.2.unrecorded ∧
      ∀ slot ∈ slots, ∀ task, slot.state = .inl task → task.Notes r.recording.engines.fallback
  | .done _ => True

theorem eq_of_isEmpty_unrecorded {o : Overrides ω} (empty : o.unrecorded = {}) : o = {} := by
  obtain ⟨highlighter, math, options⟩ := o
  cases highlighter <;> cases math <;> cases empty
  rfl

private theorem move_sourced {r : Renderer ω} {call : String × Overrides ω}
    {stage later : Stage (ω × List Record)} {w next : World γ (ω × List Record)}
    (records : r.Records call stage) (sourced : w.Sourced start old)
    (moved : Move r.recording (stage, w) (later, next)) :
    r.Records call later ∧ next.Sourced start fun key html =>
      old key html ∨ key = .result call.1 ∧ call.2 = {} ∧ later = .done (.ok html) := by
  cases moved with
  | answer passed =>
    obtain ⟨rfl, rfl⟩ := records
    exact ⟨trivial, (begin_sourced sourced passed).1.mono fun _ _ => .inl⟩
  | compile passed =>
    obtain ⟨rfl, rfl⟩ := records
    obtain ⟨left, ahead⟩ := begin_sourced sourced passed
    obtain ⟨keyed, notes⟩ := ahead _ rfl
    exact ⟨⟨keyed, Slot.forall_waiting notes⟩, left.mono fun _ _ => .inl⟩
  | @job document key id task state w next front back advanced =>
    obtain ⟨keyed, notes⟩ := records
    have own := notes ⟨id, .inl task⟩ (by simp) task rfl
    obtain ⟨left, later⟩ := own.advance sourced
    rw [advanced] at left later
    exact ⟨⟨keyed, forall_mem_replace notes later⟩, left.mono fun _ _ => .inl⟩
  | splice complete =>
    obtain ⟨rfl, -⟩ := records
    refine ⟨trivial, (sourced.mono fun _ _ => .inl).store fun key keyed => ?_⟩
    obtain ⟨rfl, empty⟩ := eq_of_resultKey keyed
    exact ⟨trivial, .inl (.inr ⟨rfl, eq_of_isEmpty_unrecorded empty, rfl⟩)⟩

/-- Whether calls record all that they store, and have done so. -/
structure Accounted (r : Renderer ω) (start : γ) (calls : List (String × Overrides ω))
    (config : List (Stage (ω × List Record)) × World γ (ω × List Record)) : Prop where
  records : List.Forall₂ (fun stage call => r.Records call stage) config.1 calls
  sourced : config.2.Sourced start (Returned calls config.1)

variable {calls : List (String × Overrides ω)}
  {config later : List (Stage (ω × List Record)) × World γ (ω × List Record)}

theorem Accounted.step {r : Renderer ω} (accounted : r.Accounted start calls config)
    (stepped : Step r.recording config later) : r.Accounted start calls later := by
  obtain ⟨records, sourced⟩ := accounted
  cases stepped with
  | @move stage later w next front back moved =>
    obtain ⟨front', call, back', rfl, before, here, behind⟩ := exists_append_of_forall₂ records
    obtain ⟨ahead, left⟩ := move_sourced here sourced moved
    refine ⟨List.rel_append before (.cons ahead behind), left.mono fun key html => ?_⟩
    have lengths := before.length_eq.symm
    cases key with
    | result input =>
      simp only [Returned, List.zip_append lengths, List.zip_cons_cons, List.mem_append,
        List.mem_cons]
      rintro ((before | here | behind) | ⟨same, empty, done⟩)
      · exact .inl before
      · -- A call that has moved was not done.
        cases here
        cases moved
      · exact .inr (.inr behind)
      · cases same
        exact .inr (.inl (by rw [done, ← empty]))
    | _ => rintro (⟨⟨⟩⟩ | ⟨⟨⟩, -⟩)

theorem Accounted.steps {r : Renderer ω} (accounted : r.Accounted start calls config)
    (steps : ReflTransGen (Step r.recording) config later) : r.Accounted start calls later := by
  induction steps with
  | refl => exact accounted
  | tail _ stepped ih => exact ih.step stepped

/-- Also while a call is compiled, all that has been stored is accounted for. -/
theorem Accounted.met {r : Renderer ω} (accounted : r.Accounted start calls config)
    {v : World γ (ω × List Record)} (met : Met r.recording config.1 config.2 v) :
    v.Sourced start (Returned calls config.1) := by
  obtain ⟨records, sourced⟩ := accounted
  cases met with
  | between => exact sourced
  | within unstarted moment =>
    obtain ⟨call, -, own⟩ := exists_of_forall₂ records unstarted
    obtain ⟨rfl, rfl⟩ := own
    exact (compile_sourced r call.2 call.1 (sourced.find? _)).1 _ moment

/--
Calls share an honest cache, empty to begin with, and move in any order, whatever their engines do.
They do the same if the renderer's own engines keep a record. And if those do, then wherever the calls
have got to, all that the cache answers stands under the key of a span or of a document, and has been
recorded for that span, or returned for that document.
-/
theorem cache_accounted (r : Renderer ω) (calls : List (String × Overrides ω)) (cache : γ)
    (honest : Cache.Honest cache) (state : ω) :
    (∀ stages w, ReflTransGen (Step r)
        (calls.map fun call => .unstarted call.1 call.2, ⟨cache, state⟩) (stages, w) →
      ∃ stages' log, ReflTransGen (Step r.recording)
          (calls.map fun call => .unstarted call.1 call.2.unrecorded, ⟨cache, state, []⟩)
          (stages', ⟨w.cache, w.engines, log⟩) ∧
        List.Forall₂ (Stage.Alike Record.Beside) stages stages' ∧
        ∀ v, Met r stages w v → ∃ log',
          Met r.recording stages' ⟨w.cache, w.engines, log⟩ ⟨v.cache, v.engines, log'⟩) ∧
    ∀ stages w, ReflTransGen (Step r.recording)
        (calls.map fun call => .unstarted call.1 call.2.unrecorded, ⟨cache, state, []⟩) (stages, w) →
      ∀ v, Met r.recording stages w v → ∀ text html, Cache.get? v.cache text = some html →
        (∃ key : Key, key.Clean ∧ key.text = text) ∧
          ∀ key : Key, key.Clean → key.text = text →
            Returned calls stages key html ∨ Recorded v.engines.2 key html := by
  constructor
  · intro stages w steps
    have start : List.Forall₂ (Stage.Alike Record.Beside)
        (calls.map fun call => .unstarted call.1 call.2)
        (calls.map fun call => .unstarted call.1 call.2.unrecorded) := by
      rw [List.forall₂_map_left_iff, List.forall₂_map_right_iff, List.forall₂_same]
      exact fun call _ => .unstarted _ call.2.alike_unrecorded
    have worlds : World.Alike Record.Beside (⟨cache, state⟩ : World γ ω) ⟨cache, state, []⟩ :=
      ⟨rfl, rfl⟩
    obtain ⟨⟨stages', w'⟩, steps', alike, same⟩ := r.alike_recording.steps start worlds steps
    obtain ⟨cache', engines', log⟩ := w'
    obtain rfl : w.cache = cache' := same.cache
    obtain rfl : engines' = w.engines := same.engines
    refine ⟨stages', log, steps', alike, fun v met => ?_⟩
    obtain ⟨⟨cache', engines', log'⟩, met', rfl, rfl⟩ := r.alike_recording.met alike same met
    exact ⟨log', met'⟩
  · intro stages w steps v met text html answered
    have start : r.Accounted cache calls
        (calls.map fun call => .unstarted call.1 call.2.unrecorded, ⟨cache, state, []⟩) := by
      refine ⟨?_, Cache.Built.refl _ _⟩
      rw [List.forall₂_map_left_iff, List.forall₂_same]
      exact fun call _ => ⟨rfl, rfl⟩
    obtain ⟨key, clean, named, right⟩ := ((start.steps steps).met met).found honest answered
    refine ⟨⟨key, clean, named⟩, fun other clean' named' => ?_⟩
    rwa [Key.text_injective clean' clean (named'.trans named.symm)]

/-- A renderer that highlights at once, and allows of no element inside another. -/
def eager : Renderer Unit where
  engines := {
    highlighter := ⟨fun code _ e => (.ok (.ready ("<i>" ++ code ++ "</i>")), e)⟩
    math := ⟨fun _ _ e => (.error (.render "unknown"), e)⟩
    fallback := ⟨fun _ _ e => (⟨0, fun e => (.error ⟨["unknown"]⟩, e)⟩, e)⟩ }
  caching := { result := true }
  options := { maxNesting := 1 }

/-- Code, and behind it a quote in a quote. -/
def codeAndQuotes : String := "```rust\nx\n```\n\n> > a"

/-- Two calls, the second of which brings a highlighter of its own. -/
def codeCalls : List (String × Overrides Unit) :=
  [(codeAndQuotes, {}),
    ("```rust\nx\n```", { highlighter := some ⟨fun code _ e => (.ok (.ready code), e)⟩ })]

/-- What the calls leave in a cache in memory for their code, the renderer's highlighter has given. -/
theorem cache_accounted_codeCalls :
    Cache.Honest ({} : Cache.Memory) ∧
      ∀ stages w, ReflTransGen (Step eager.recording)
          (codeCalls.map fun call => .unstarted call.1 call.2.unrecorded,
            (⟨{}, (), []⟩ : World Cache.Memory (Unit × List Record))) (stages, w) →
        ∀ v, Met eager.recording stages w v → ∀ html,
          Cache.get? v.cache (Key.highlight (some "rust") "x\n").text = some html →
            .code (some "rust") "x\n" html ∈ v.engines.2 := by
  have clean : (Key.highlight (some "rust") "x\n").Clean := by
    rintro _ ⟨⟩
    decide
  refine ⟨Cache.Memory.honest, fun stages w steps v met html answered => ?_⟩
  have accounted := (cache_accounted eager codeCalls ({} : Cache.Memory) Cache.Memory.honest ()).2
    stages w steps v met _ html answered
  exact (accounted.2 _ clean rfl).resolve_left id

/-- What the code leaves of a compile pass that starts with nothing. -/
private def highlighted : Pass Cache.Memory Unit :=
  { world := ⟨Cache.set {} (Key.highlight (some "rust") "x\n").text "<i>x\n</i>", ()⟩ }

private theorem code_highlighted :
    (eager.setting {}).code { world := ⟨{}, ()⟩ } (some "rust") "x\n" =
      (.inline "<i>x\n</i>", highlighted) := by
  rcases (eager.setting {}).code_cases ({ world := ⟨{}, ()⟩ } : Pass Cache.Memory Unit)
    (some "rust") "x\n" with ⟨html, found, -⟩ | ⟨-, answered⟩
  · simp [World.find?, Setting.codeKey, eager, setting, Cache.get?] at found
  · exact answered

private theorem compile_codeAndQuotes : ∃ s,
    (eager.compiler Cache.Memory {}).compile (eager.events codeAndQuotes {}) .initial
        { world := ⟨{}, ()⟩ } =
      (.error (.nestingTooDeep 1), s, highlighted) := by
  have events : eager.events codeAndQuotes {} =
      [.start (.codeBlock (some "rust")), .text "x\n", .stop .codeBlock, .start (.blockQuote none),
        .start (.blockQuote none), .start .paragraph, .text "a", .stop .paragraph, .stop .blockQuote,
        .stop .blockQuote] := by
    decide +kernel
  have finished : (eager.compiler Cache.Memory {}).finishCode
      { code := some ⟨some "rust", "x\n"⟩ } { world := ⟨{}, ()⟩ } =
        ({ output := Html.codeAround (some "rust") none "<i>x\n</i>" }, highlighted) := by
    simp only [Compiler.finishCode, compiler, Setting.processors, Option.getD_some, code_highlighted]
    rfl
  have reached (rest : List Event) : (eager.compiler Cache.Memory {}).run
      (.start (.codeBlock (some "rust")) :: .text "x\n" :: .stop .codeBlock :: rest) .initial
        { world := ⟨{}, ()⟩ } =
      (eager.compiler Cache.Memory {}).run rest
        ((eager.compiler Cache.Memory {}).finishCode { code := some ⟨some "rust", "x\n"⟩ }
          { world := ⟨{}, ()⟩ }).1
        ((eager.compiler Cache.Memory {}).finishCode { code := some ⟨some "rust", "x\n"⟩ }
          { world := ⟨{}, ()⟩ }).2 := rfl
  rw [events, Compiler.compile, reached, finished]
  exact ⟨_, rfl⟩

/-- A call that fails leaves in the cache what it has found of its spans. -/
theorem cache_keeps_of_failed_call :
    ∃ w : World Cache.Memory Unit,
      ReflTransGen (Step eager) ([.unstarted codeAndQuotes {}], ⟨{}, ()⟩)
          ([.done (.error (.nestingTooDeep 1))], w) ∧
        Cache.get? w.cache (Key.highlight (some "rust") "x\n").text = some "<i>x\n</i>" := by
  have missed : (World.find? (⟨{}, ()⟩ : World Cache.Memory Unit)
      (eager.resultKey codeAndQuotes {})).1 = none := by
    simp [World.find?, resultKey, eager, Overrides.isEmpty, Cache.get?]
  have looked : (World.find? (⟨{}, ()⟩ : World Cache.Memory Unit)
      (eager.resultKey codeAndQuotes {})).2 = ⟨{}, ()⟩ := rfl
  rcases eager.begin_cases codeAndQuotes {} (⟨{}, ()⟩ : World Cache.Memory Unit) with
    ⟨blank, -⟩ | ⟨html, -, found, -⟩ | ⟨result, left, pass, -, ran, begun⟩
  · exact absurd blank (by decide +kernel)
  · cases missed.symm.trans found
  · obtain ⟨s, failed⟩ := compile_codeAndQuotes
    rw [looked, failed] at ran
    cases ran
    exact ⟨_, .single (.move [] [] (.answer begun)), Cache.Memory.get?_set_self _ _ _⟩

end Renderer

end Mathdown
