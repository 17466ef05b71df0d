import Mathdown.Render.Job

/-!
Rendering Markdown to HTML. A call compiles the document in one pass, then waits for the jobs of
its deferred spans and splices their results in. Calls share the cache and the engines only, so
that any number of them may be under way at once.
-/

namespace Mathdown

/-- Which layers of the cache a renderer uses. -/
structure CacheOptions where
  highlight : Bool := true
  math : Bool := true
  /-- Whole documents, by their text. -/
  result : Bool := false
deriving DecidableEq, Repr

/-- Whether a key belongs to a layer that is used. -/
def CacheOptions.covers (o : CacheOptions) : Cache.Key → Bool
  | .highlight .. => o.highlight
  | .math .. => o.math
  | .result _ => o.result

structure Renderer (ω : Type) where
  engines : Engines ω
  caching : CacheOptions := {}
  options : CompilerOptions := {}

/-- What one call does differently. The fallback stays as it is. -/
structure Overrides (ω : Type) where
  highlighter : Option (Highlighter ω) := none
  math : Option (MathEngine ω) := none
  compiler : CompilerOverrides := {}

def Overrides.isEmpty {ω : Type} (o : Overrides ω) : Bool :=
  o.highlighter.isNone && o.math.isNone && o.compiler == {}

namespace Render

/-- A call for the HTML of a document. -/
inductive Call (ω : Type) where
  | unstarted (input : String) (overrides : Overrides ω)
  /-- Compiled, with jobs under way; with a `key`, the HTML is cached. -/
  | awaiting (document : CompiledDocument) (slots : List (Slot (Running ω)))
      (key : Option Cache.Key)
  | done (result : Except CompileError String)

/-- The HTML of a document with the results of all its jobs in it, if each job has one. -/
def assemble? {ρ : Type} (document : CompiledDocument) (slots : List (Slot ρ)) : Option String :=
  (Slot.results? slots).map fun replacements =>
    if slots.isEmpty then document.html
    else (replacements.splice? document.html document.spans).getD document.html

/-- What a compile pass leaves: the document, its jobs, and the key for its HTML. -/
structure Compiled (ω : Type) where
  document : CompiledDocument
  jobs : List (PlaceholderId × Job ω)
  key : Option Cache.Key

end Render

namespace Renderer

open Render

variable {γ ω : Type} [Cache γ]

/-- The engines and span caches of a call. A replaced engine has no part in the cache. -/
def setting (r : Renderer ω) (overrides : Overrides ω) : Setting ω where
  engines := { r.engines with
    highlighter := overrides.highlighter.getD r.engines.highlighter
    math := overrides.math.getD r.engines.math }
  cacheCode := r.caching.highlight && overrides.highlighter.isNone
  cacheMath := r.caching.math && overrides.math.isNone

/-- The key of a whole document. It says nothing of overrides, so that calls with some have none. -/
def resultKey (r : Renderer ω) (input : String) (overrides : Overrides ω) : Option Cache.Key :=
  if r.caching.result && overrides.isEmpty then some (.result input) else none

theorem eq_of_resultKey {r : Renderer ω} {input : String} {overrides : Overrides ω}
    {key : Cache.Key} (keyed : r.resultKey input overrides = some key) :
    key = .result input ∧ overrides = {} := by
  simp only [resultKey] at keyed
  split at keyed
  · rename_i stored
    cases keyed
    refine ⟨rfl, ?_⟩
    obtain ⟨highlighter, math, compiler⟩ := overrides
    simp only [Overrides.isEmpty, Bool.and_eq_true, Option.isNone_iff_eq_none, beq_iff_eq] at stored
    obtain ⟨-, ⟨rfl, rfl⟩, rfl⟩ := stored
    rfl
  · cases keyed

/-- The compiler of a call. -/
def compiler (γ : Type) [Cache γ] (r : Renderer ω) (overrides : Overrides ω) :
    Compiler (Pass γ ω) :=
  ⟨r.options.override overrides.compiler, (r.setting overrides).processors⟩

/-- The events of a call's input. -/
def events (r : Renderer ω) (input : String) (overrides : Overrides ω) : List Event :=
  let options := r.options.override overrides.compiler
  r.engines.parser ⟨options.gfm, options.math⟩ input

/-- The compile pass. -/
def compile (r : Renderer ω) (input : String) (overrides : Overrides ω) (w : World γ ω) :
    Except CompileError (CompiledDocument × List (PlaceholderId × Job ω)) × World γ ω :=
  let (result, _, pass) :=
    (r.compiler γ overrides).compile (r.events input overrides) .initial { world := w }
  (result.map fun document => (document, pass.jobs), pass.world)

/-- What is done before any job: the call is answered, or its document compiled. -/
def begin (r : Renderer ω) (input : String) (overrides : Overrides ω) (w : World γ ω) :
    (Except CompileError String ⊕ Compiled ω) × World γ ω :=
  if Text.allBlank input then (.inl (.ok ""), w)
  else
    let key := r.resultKey input overrides
    let (found, w) := w.find? key
    match found with
    | some html => (.inl (.ok html), w)
    | none =>
      match r.compile input overrides w with
      | (.error e, w) => (.inl (.error e), w)
      | (.ok (document, jobs), w) => (.inr ⟨document, jobs, key⟩, w)

def outcome (key : Option Cache.Key) (result : Except CompileError CompiledDocument)
    (pass : Pass γ ω) : Except CompileError String ⊕ Compiled ω :=
  match result with
  | .error e => .inl (.error e)
  | .ok document => .inr ⟨document, pass.jobs, key⟩

/-- A call is answered at once, or from the cache, or by what its compile pass comes to. -/
theorem begin_cases (r : Renderer ω) (input : String) (overrides : Overrides ω) (w : World γ ω) :
    (Text.allBlank input = true ∧ r.begin input overrides w = (.inl (.ok ""), w)) ∨
      (∃ html, Text.allBlank input = false ∧ (w.find? (r.resultKey input overrides)).1 = some html ∧
        r.begin input overrides w =
          (.inl (.ok html), (w.find? (r.resultKey input overrides)).2)) ∨
      ∃ result s pass, Text.allBlank input = false ∧
        (r.compiler γ overrides).compile (r.events input overrides) .initial
          { world := (w.find? (r.resultKey input overrides)).2 } = (result, s, pass) ∧
        r.begin input overrides w =
          (outcome (r.resultKey input overrides) result pass, pass.world) := by
  cases blank : Text.allBlank input with
  | true => exact .inl ⟨rfl, by rw [Renderer.begin, if_pos blank]⟩
  | false =>
    refine .inr ?_
    cases found : (w.find? (r.resultKey input overrides)).1 with
    | some html => exact .inl ⟨html, rfl, rfl, by simp [Renderer.begin, blank, found]⟩
    | none =>
      rcases ran : (r.compiler γ overrides).compile (r.events input overrides) .initial
        { world := (w.find? (r.resultKey input overrides)).2 } with ⟨result, s, pass⟩
      refine .inr ⟨result, s, pass, rfl, rfl, ?_⟩
      simp only [Renderer.begin, blank, found, compile, ran, Bool.false_eq_true, if_false]
      cases result <;> rfl

/-- Goes on after a round: if every job is done, their results are spliced in. -/
def conclude (document : CompiledDocument) (slots : List (Slot (Running ω)))
    (key : Option Cache.Key) (w : World γ ω) : Call ω × World γ ω :=
  match assemble? document slots with
  | none => (.awaiting document slots key, w)
  | some html => (.done (.ok html), w.store key html)

/-- Polls a call. The first poll compiles the document and starts all jobs. -/
def poll (r : Renderer ω) (call : Call ω) (w : World γ ω) : Call ω × World γ ω :=
  match call with
  | .unstarted input overrides =>
    match r.begin input overrides w with
    | (.inl result, w) => (.done result, w)
    | (.inr compiled, w) =>
      let (slots, w) := Slot.startAll (Job.startAndPoll r.engines.fallback) compiled.jobs w
      conclude compiled.document slots compiled.key w
  | .awaiting document slots key =>
    let (slots, w) := Slot.pollAll Running.poll slots w
    conclude document slots key w
  | .done result => (.done result, w)

end Renderer

end Mathdown
