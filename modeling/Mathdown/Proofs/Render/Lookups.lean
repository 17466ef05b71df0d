import Mathdown.Proofs.Cache.Keys
import Mathdown.Proofs.Compile.Questions
import Mathdown.Proofs.Render.Moves
import Mathdown.Proofs.Render.Splicing
import Mathdown.Render.Lookup

namespace Mathdown

open Cache (Access Key Watched)
open Relation (ReflTransGen)

variable {γ ω : Type}

namespace Render

private theorem filter_firstWord (info : Option String) :
    (info.bind Text.firstWord).filter (· != "") = info.bind Text.firstWord := by
  cases named : info.bind Text.firstWord with
  | none => rfl
  | some word =>
    obtain ⟨text, -, first⟩ := Option.bind_eq_some_iff.mp named
    simp [(Text.firstWord_dark first).1]

theorem Span.key_code (info : Option String) (source : String) :
    (code info source).key = .highlight (info.bind Text.firstWord) source :=
  congrArg (Key.highlight · source) (filter_firstWord info)

theorem Lookup.clean_key (lookup : Lookup) : lookup.key.Clean := by
  cases lookup with
  | document input => exact trivial
  | ofSpan span =>
    cases span with
    | math expression display => exact trivial
    | code info source =>
      rw [key, Span.key_code]
      intro word named
      obtain ⟨text, -, first⟩ := Option.bind_eq_some_iff.mp named
      obtain ⟨nonempty, dark⟩ := Text.firstWord_dark first
      exact ⟨nonempty, fun member => absurd (dark _ member) (by decide)⟩

theorem Lookup.key_eq_iff {a b : Lookup} : a.key = b.key ↔ a.Alike b := by
  rcases a with (⟨info, source⟩ | ⟨expression, display⟩) | input <;>
    rcases b with (⟨info', source'⟩ | ⟨expression', display'⟩) | input' <;>
    simp [key, Span.key, Alike, filter_firstWord]

theorem Lookup.text_eq_iff {a b : Lookup} : a.key.text = b.key.text ↔ a.Alike b := by
  rw [← key_eq_iff]
  exact ⟨Key.text_injective a.clean_key b.clean_key, congrArg Key.text⟩

/-- Blanks name no language. -/
example : Lookup.Alike (.ofSpan (.code (some " \t") "a")) (.ofSpan (.code none "a")) := ⟨by decide, rfl⟩

/-- Whether just some keys have been looked up, in order, and nothing is stored under other keys. -/
structure World.HasAsked (keys : List String) (w : World (Watched γ) ω) : Prop where
  looked : w.cache.uses.filterMap Access.looked? = keys
  stored : ∀ key html, .set key html ∈ w.cache.uses → key ∈ keys

variable [Cache γ] {keys : List String} {w : World (Watched γ) ω}

namespace World.HasAsked

theorem find? (asked : w.HasAsked keys) (key : Option Key) :
    (w.find? key).2.HasAsked (keys ++ key.toList.map Key.text) := by
  obtain ⟨looked, stored⟩ := asked
  cases key with
  | none =>
    rw [Option.toList_none, List.map_nil, List.append_nil]
    exact ⟨looked, stored⟩
  | some key =>
    refine ⟨(List.filterMap_append ..).trans (by rw [looked]; rfl), fun other html member => ?_⟩
    rcases List.mem_append.mp member with old | last
    · exact List.mem_append_left _ (stored other html old)
    · cases List.mem_singleton.mp last

theorem store (asked : w.HasAsked keys) {key : Option Key} (known : ∀ k ∈ key, k.text ∈ keys)
    (html : String) : (w.store key html).HasAsked keys := by
  obtain ⟨looked, stored⟩ := asked
  cases key with
  | none => exact ⟨looked, stored⟩
  | some key =>
    refine ⟨(List.filterMap_append ..).trans (by simp [looked, Access.looked?]),
      fun other html' member => ?_⟩
    rcases List.mem_append.mp member with old | last
    · exact stored other html' old
    · cases List.mem_singleton.mp last
      exact known key rfl

end World.HasAsked

/-- Whether a pass has looked just some keys up, and will store under no others. -/
structure Pass.HasAsked (keys : List String) (p : Pass (Watched γ) ω) : Prop where
  world : p.world.HasAsked keys
  jobs : ∀ job ∈ p.jobs, ∀ k ∈ job.2.key, k.text ∈ keys

namespace Pass.HasAsked

variable {p : Pass (Watched γ) ω} {key : Option Key}

theorem find? (asked : p.HasAsked keys) (key : Option Key) :
    Pass.HasAsked (keys ++ key.toList.map Key.text) { p with world := (p.world.find? key).2 } :=
  ⟨asked.world.find? key,
    fun job member k keyed => List.mem_append_left _ (asked.jobs job member k keyed)⟩

omit [Cache γ] in
theorem goOn (asked : p.HasAsked keys) (engines : ω) :
    Pass.HasAsked keys { p with world := { p.world with engines } } :=
  ⟨⟨asked.world.looked, asked.world.stored⟩, asked.jobs⟩

theorem settleCode (asked : p.HasAsked keys) (known : ∀ k ∈ key, k.text ∈ keys) (source : String)
    (said : Except HighlightError (Highlighted ω)) :
    (p.settleCode source key said).2.HasAsked keys := by
  rcases said with e | html | work
  · exact asked
  · exact ⟨asked.world.store known html, asked.jobs⟩
  · exact ⟨asked.world, (p.forall_jobs_deferCode _).mpr ⟨asked.jobs, known⟩⟩

theorem settleMath (asked : p.HasAsked keys) (known : ∀ k ∈ key, k.text ∈ keys) (expression : String)
    (display : Bool) (said : Except MathError String) :
    (p.settleMath expression display key said).2.HasAsked keys := by
  rcases said with e | html
  · exact ⟨asked.world, (p.forall_jobs_deferMath _).mpr ⟨asked.jobs, known⟩⟩
  · exact ⟨asked.world.store known html, asked.jobs⟩

end Pass.HasAsked

variable {r : Renderer ω} {o : Overrides ω} {p : Pass (Watched γ) ω}

private theorem toList_codeKey (info : Option String) (source : String) :
    ((r.setting o).codeKey ((info.bind Text.firstWord).filter (· != "")) source).toList =
      [(Span.code info source).key].filter (r.layers o).covers := by
  have covers : (r.layers o).covers (Span.code info source).key = (r.setting o).cacheCode := rfl
  rw [List.filter_singleton, covers, Setting.codeKey]
  cases (r.setting o).cacheCode <;> rfl

private theorem toList_mathKey (expression : String) (display : Bool) :
    ((r.setting o).mathKey expression display).toList =
      [(Span.math expression display).key].filter (r.layers o).covers := by
  have covers : (r.layers o).covers (Span.math expression display).key = (r.setting o).cacheMath := rfl
  rw [List.filter_singleton, covers, Setting.mathKey]
  cases (r.setting o).cacheMath <;> rfl

theorem answer_hasAsked (asked : p.HasAsked keys) (span : Span) :
    ((r.compiler (Watched γ) o).answer p span.question).2.HasAsked
      (keys ++ ([span.key].filter (r.layers o).covers).map Key.text) := by
  have known {key : Option Key} : ∀ k ∈ key, k.text ∈ keys ++ key.toList.map Key.text := by
    rintro k rfl
    exact List.mem_append_right keys (List.mem_singleton_self _)
  cases span with
  | code info source =>
    rw [← toList_codeKey]
    have looked :=
      asked.find? ((r.setting o).codeKey ((info.bind Text.firstWord).filter (· != "")) source)
    change ((r.setting o).code p (info.bind Text.firstWord) source).2.HasAsked _
    rcases (r.setting o).code_cases p (info.bind Text.firstWord) source with
      ⟨html, -, same⟩ | ⟨-, same⟩ <;> rw [same]
    · exact looked
    · exact (looked.goOn _).settleCode known source _
  | math expression display =>
    rw [← toList_mathKey]
    have looked := asked.find? ((r.setting o).mathKey expression display)
    change ((r.setting o).math p expression display).2.HasAsked _
    rcases (r.setting o).math_cases p expression display with
      ⟨html, -, same⟩ | ⟨-, same⟩ <;> rw [same]
    · exact looked
    · exact (looked.goOn _).settleMath known expression display _

/-- The spans that are put to the engines are looked up one after the other. -/
theorem put_hasAsked (asked : p.HasAsked keys) (spans : List Span) :
    ((r.compiler (Watched γ) o).put (spans.map Span.question) p).2.HasAsked
      (keys ++ ((spans.map Span.key).filter (r.layers o).covers).map Key.text) := by
  induction spans generalizing keys p with
  | nil =>
    rw [List.map_nil, List.filter_nil, List.map_nil, List.append_nil]
    exact asked
  | cons span spans ih =>
    have later := ih (answer_hasAsked (r := r) (o := o) asked span)
    rw [List.append_assoc, ← List.map_append, ← List.filter_append] at later
    exact later

/-- Whether the compiler has got as far as a cursor. -/
structure Span.Cursor.Meets (cursor : Cursor) (s : Compile.State) : Prop where
  depth : cursor.depth = s.depth
  collected : s.collected =
    (cursor.fence.map fun (info, source) => ⟨info.bind Text.firstWord, source⟩, cursor.inImage)

theorem Span.Cursor.Meets.question? {cursor : Cursor} {s : Compile.State} (meets : cursor.Meets s)
    (event : Event) : Compile.Question.ofEvent s event = (cursor.span? event).map Span.question := by
  obtain ⟨-, collected⟩ := meets
  rw [Compile.Question.ofEvent_eq, collected]
  cases event with
  | stop tag =>
    cases tag with
    | codeBlock =>
      simp only [Compile.Question.ofCollected, span?]
      cases cursor.fence <;> rfl
    | _ => rfl
  | math expression display =>
    simp only [Compile.Question.ofCollected, span?]
    split <;> rfl
  | _ => rfl

theorem Span.Cursor.Meets.next {σ : Type} (c : Compiler σ) {cursor : Cursor} {s : Compile.State}
    (meets : cursor.Meets s) (event : Event) (w : σ) :
    (cursor.after event).Meets (c.next (Compiler.moment event s w)).1 := by
  obtain ⟨depth, collected⟩ := meets
  have deeper : (c.next (Compiler.moment event s w)).1.depth = Compiler.depthAfter s.depth event :=
    c.depth_step event _ w
  have further : (c.next (Compiler.moment event s w)).1.collected =
      Compile.collectedAfter s.collected event := c.collected_step event _ w
  constructor
  · rw [deeper, ← depth]
    cases event with
    | start tag => cases tag <;> rfl
    | stop tag => cases tag <;> rfl
    | _ => rfl
  · rw [further, collected]
    cases event with
    | start tag => cases tag <;> rfl
    | stop tag => cases tag <;> rfl
    | text text =>
      obtain ⟨_, _ | ⟨info, source⟩, _⟩ := cursor <;> rfl
    | _ => rfl

theorem Span.questions_eq {σ : Type} (c : Compiler σ) (events : List Event) {cursor : Cursor}
    {s : Compile.State} (meets : cursor.Meets s) (w : σ) :
    c.questions events s w = (ofEvents c.options.maxNesting cursor events).map question := by
  induction events generalizing cursor s w with
  | nil => rfl
  | cons event events ih =>
    rw [Compiler.questions_cons, ofEvents, meets.depth]
    split
    · rfl
    · have asked : (Compiler.moment event s w).question? = (cursor.span? event).map question :=
        meets.question? event
      rw [List.map_append, ← ih (meets.next c event w), asked]
      cases cursor.span? event <;> rfl

/-- The key that the result of a job is stored under. -/
def Pending.key : Pending ω → Option Key
  | .waiting job => job.key
  | .started job => job.key

/-- Whether a call that has been compiled will store under some keys only. -/
def Stage.StoresUnder (keys : List String) : Stage ω → Prop
  | .unstarted .. => False
  | .working _ slots key =>
    (∀ k ∈ key, k.text ∈ keys) ∧
      ∀ slot ∈ slots, ∀ task, slot.state = .inl task → ∀ k ∈ task.key, k.text ∈ keys
  | .done _ => True

theorem Pending.advance_hasAsked {task : Pending ω} (known : ∀ k ∈ task.key, k.text ∈ keys)
    (asked : w.HasAsked keys) (fallback : FallbackEngine ω) :
    (task.advance fallback w).2.HasAsked keys ∧
      ∀ later, (task.advance fallback w).1 = .inl later → later.key = task.key := by
  cases task with
  | waiting job =>
    refine ⟨⟨asked.looked, asked.stored⟩, ?_⟩
    rintro _ ⟨⟩
    rfl
  | started job =>
    cases delay : job.work.delay with
    | succ n =>
      simp only [advance_of_delay_succ delay]
      refine ⟨asked, ?_⟩
      rintro _ ⟨⟩
      rfl
    | zero =>
      simp only [advance_of_delay_zero delay]
      have finished : World.HasAsked keys { w with engines := (job.work.finish w.engines).2 } :=
        ⟨asked.looked, asked.stored⟩
      refine ⟨?_, by simp⟩
      split
      · exact finished.store known _
      · exact finished

theorem Stage.StoresUnder.move {r : Renderer ω} {stage later : Stage ω} {next : World (Watched γ) ω}
    (stores : stage.StoresUnder keys) (asked : w.HasAsked keys)
    (moved : Move r (stage, w) (later, next)) : later.StoresUnder keys ∧ next.HasAsked keys := by
  cases moved with
  | answer | compile => cases stores
  | @job document key id task state w next front back advanced =>
    obtain ⟨whole, jobs⟩ := stores
    have own := jobs ⟨id, .inl task⟩ (by simp) task rfl
    obtain ⟨left, same⟩ := Pending.advance_hasAsked own asked r.engines.fallback
    rw [advanced] at left same
    refine ⟨⟨whole, forall_mem_replace jobs fun task' pending => ?_⟩, left⟩
    rwa [same task' pending]
  | splice complete => exact ⟨trivial, asked.store stores.1 _⟩

theorem Stage.StoresUnder.moves {r : Renderer ω} {first last : Stage ω × World (Watched γ) ω}
    (stores : first.1.StoresUnder keys) (asked : first.2.HasAsked keys)
    (moves : ReflTransGen (Move r) first last) : last.1.StoresUnder keys ∧ last.2.HasAsked keys := by
  induction moves with
  | refl => exact ⟨stores, asked⟩
  | tail _ moved ih => exact ih.1.move ih.2 moved

end Render

namespace Renderer

open Render

variable [Cache γ]

private theorem compile_hasAsked (r : Renderer ω) (o : Overrides ω) (input : String)
    {keys : List String} {w : World (Watched γ) ω} (asked : w.HasAsked keys) :
    ((r.compiler (Watched γ) o).compile (r.events input o) .initial { world := w }).2.2.HasAsked
      (keys ++ (((Span.ofEvents (r.options.override o.compiler).maxNesting {} (r.events input o)).map
        Span.key).filter (r.layers o).covers).map Key.text) := by
  have fresh : Pass.HasAsked keys { world := w } := ⟨asked, by simp [Pass.jobs, Registry.toList]⟩
  have start : Span.Cursor.Meets {} .initial := ⟨rfl, rfl⟩
  have put := (r.compiler (Watched γ) o).put_questions (r.events input o) .initial { world := w }
  rw [Span.questions_eq _ _ start] at put
  rw [Compiler.world_compile, ← congrArg Prod.snd put]
  exact put_hasAsked fresh _

private theorem toList_resultKey (r : Renderer ω) (input : String) (o : Overrides ω) :
    (r.resultKey input o).toList = [.result input].filter (r.layers o).covers := by
  have covers : (r.layers o).covers (.result input) = (r.caching.result && o.isEmpty) := rfl
  rw [List.filter_singleton, covers, resultKey]
  cases r.caching.result && o.isEmpty <;> rfl

private theorem map_lookups {r : Renderer ω} {input : String} {o : Overrides ω} {w : World γ ω}
    (dark : Text.allBlank input = false) :
    (r.lookups input o w).map (fun lookup => lookup.key.text) =
      (r.resultKey input o).toList.map Key.text ++
        if (w.find? (r.resultKey input o)).1.isSome then []
        else (((Span.ofEvents (r.options.override o.compiler).maxNesting {} (r.events input o)).map
          Span.key).filter (r.layers o).covers).map Key.text := by
  have keys (lookups : List Lookup) :
      (lookups.filter fun lookup => (r.layers o).covers lookup.key).map (fun lookup => lookup.key.text) =
        ((lookups.map Lookup.key).filter (r.layers o).covers).map Key.text := by
    rw [List.filter_map, List.map_map]
    rfl
  rw [lookups, if_neg (by rw [dark]; exact Bool.false_ne_true), keys, List.map_cons,
    ← List.singleton_append, List.filter_append, List.map_append, toList_resultKey]
  refine congrArg _ ?_
  split
  · rfl
  · rw [List.map_map]
    rfl

private theorem begin_hasAsked (r : Renderer ω) (input : String) (o : Overrides ω) (w : World γ ω)
    {outcome : Except CompileError String ⊕ Compiled ω} {next : World (Watched γ) ω}
    (begun : r.begin input o ⟨Watched.mk w.cache [], w.engines⟩ = (outcome, next)) :
    next.HasAsked ((r.lookups input o w).map fun lookup => lookup.key.text) ∧
      ∀ compiled, outcome = .inr compiled →
        compiled.stage.StoresUnder ((r.lookups input o w).map fun lookup => lookup.key.text) := by
  have fresh : World.HasAsked [] (⟨Watched.mk w.cache [], w.engines⟩ : World (Watched γ) ω) :=
    ⟨rfl, by simp⟩
  have looked := fresh.find? (r.resultKey input o)
  have same : (World.find? ⟨Watched.mk w.cache [], w.engines⟩ (r.resultKey input o)).1 =
      (w.find? (r.resultKey input o)).1 := by
    cases r.resultKey input o <;> rfl
  cases blank : Text.allBlank input with
  | true =>
    have none : r.lookups input o w = [] := if_pos blank
    rw [Renderer.begin, if_pos blank] at begun
    cases begun
    rw [none]
    exact ⟨fresh, by simp⟩
  | false =>
    rw [map_lookups blank]
    cases found : (w.find? (r.resultKey input o)).1 with
    | some html =>
      simp only [Renderer.begin, blank, same, found, Bool.false_eq_true, if_false] at begun
      cases begun
      exact ⟨by simpa using looked, by simp⟩
    | none =>
      have left := compile_hasAsked r o input looked
      rw [if_neg (by simp)]
      rcases r.begin_cases input o ⟨Watched.mk w.cache [], w.engines⟩ with ⟨blank', -⟩ |
        ⟨html, -, found', -⟩ | ⟨result, s, pass, -, ran, compiled⟩
      · rw [blank] at blank'
        cases blank'
      · cases (same.trans found).symm.trans found'
      · rw [ran] at left
        cases compiled.symm.trans begun
        refine ⟨left.world, ?_⟩
        cases result with
        | error e => simp [Renderer.outcome]
        | ok document =>
          rintro _ ⟨⟩
          refine ⟨fun k keyed => ?_, Slot.forall_waiting left.jobs⟩
          exact List.mem_append_left _ (List.mem_map_of_mem (Option.mem_toList.mpr keyed))

/--
A call looks up its document and the spans in it, in order, as far as its caches go, and stores under no
other keys. And whatever is looked up, in whatever calls, two keys are written alike just if they are of
one kind and of code in one language or in none, of one expression and way of display, or of one
document.
-/
theorem lookups_told_apart (r : Renderer ω) (input : String) (o : Overrides ω) (w : World γ ω) :
    (r.accesses input o w).filterMap Access.looked? =
        (r.lookups input o w).map (fun lookup => lookup.key.text) ∧
      (∀ key html, .set key html ∈ r.accesses input o w →
        ∃ lookup ∈ r.lookups input o w, lookup.key.text = key) ∧
      ∀ a b : Lookup, a.key.text = b.key.text ↔ a.Alike b := by
  have moves := moves_run r (.unstarted input o) ⟨Watched.mk w.cache [], w.engines⟩
  obtain same | ⟨⟨later, next⟩, first, others⟩ := moves.cases_head
  · cases same
  · have begun : later.StoresUnder ((r.lookups input o w).map fun lookup => lookup.key.text) ∧
        next.HasAsked ((r.lookups input o w).map fun lookup => lookup.key.text) := by
      cases first with
      | answer passed => exact ⟨trivial, (begin_hasAsked r input o w passed).1⟩
      | compile passed =>
        obtain ⟨asked, stores⟩ := begin_hasAsked r input o w passed
        exact ⟨stores _ rfl, asked⟩
    obtain ⟨-, looked, stored⟩ := begun.1.moves begun.2 others
    refine ⟨looked, fun key html member => ?_, fun a b => Lookup.text_eq_iff⟩
    exact List.mem_map.mp (stored key html member)

end Renderer

end Mathdown
