import Mathdown.Cache
import Mathdown.Cache.Key
import Mathdown.Compile
import Mathdown.Engine
import Mathdown.Html
import Mathdown.Render.Registry

/-!
How code blocks and math spans are answered while a document is compiled: from the cache, by an
engine at once, or by a job for later. A job is started after the compile pass. What it finds goes
into the document and, unless highlighting failed, into the cache.
-/

namespace Mathdown.Render

/-- The cache and the state of the engines. -/
structure World (γ ω : Type) where
  cache : γ
  engines : ω

/-- Work for after the compile pass. With a `key`, its result is cached. -/
inductive Job (ω : Type) where
  /-- The highlighter has been asked already. -/
  | highlight (code : String) (key : Option Cache.Key)
      (work : Deferred ω (Except HighlightError String))
  /-- The fallback is asked when the job starts. -/
  | math (expression : String) (display : Bool) (key : Option Cache.Key)

/-- The HTML that a job has found, and whether it may be cached. -/
structure Outcome where
  html : String
  lasting : Bool
deriving DecidableEq, Repr

namespace Outcome

/-- Code that no highlighter has dealt with is shown as it is, which is not to last. -/
def ofHighlight (code : String) : Except HighlightError String → Outcome
  | .ok html => ⟨html, true⟩
  | .error _ => ⟨Text.escapeCode code, false⟩

def ofTypeset (display : Bool) : Except FallbackError String → Outcome
  | .ok svg => ⟨Html.drawing svg display, true⟩
  | .error e => ⟨Html.errorBox e.messages, true⟩

theorem lasting_ofTypeset (display : Bool) (result : Except FallbackError String) :
    (ofTypeset display result).lasting = true := by
  cases result <;> rfl

end Outcome

/-- A job that has been started. -/
structure Running (ω : Type) where
  key : Option Cache.Key
  work : Deferred ω Outcome

variable {γ ω : Type} [Cache γ]

/-- Looks a key up, if there is one. -/
def World.find? (w : World γ ω) (key : Option Cache.Key) : Option String × World γ ω :=
  match key with
  | some key =>
    (Cache.get? w.cache key.text, { w with cache := Cache.afterGet w.cache key.text })
  | none => (none, w)

/-- Keeps HTML under a key, if there is one. -/
def World.store (w : World γ ω) (key : Option Cache.Key) (html : String) : World γ ω :=
  match key with
  | some key => { w with cache := Cache.set w.cache key.text html }
  | none => w

def Running.poll (job : Running ω) (w : World γ ω) : (Running ω ⊕ String) × World γ ω :=
  match job.work.poll w.engines with
  | (.inl work, engines) => (.inl { job with work }, { w with engines })
  | (.inr outcome, engines) =>
    let w := { w with engines }
    (.inr outcome.html, if outcome.lasting then w.store job.key outcome.html else w)

theorem Running.poll_of_delay_zero {job : Running ω} (done : job.work.delay = 0) (w : World γ ω) :
    job.poll w = (.inr (job.work.finish w.engines).1.html,
      let next : World γ ω := { w with engines := (job.work.finish w.engines).2 }
      if (job.work.finish w.engines).1.lasting then
        next.store job.key (job.work.finish w.engines).1.html
      else next) := by
  rw [poll, Deferred.poll_of_delay_zero done]

theorem Running.poll_of_delay_succ {job : Running ω} {n : Nat} (more : job.work.delay = n + 1)
    (w : World γ ω) :
    job.poll w = (.inl { job with work := { job.work with delay := n } }, w) := by
  rw [poll, Deferred.poll_of_delay_succ more]

/-- The key of the result, if it is to be cached. -/
def Job.key : Job ω → Option Cache.Key
  | .highlight _ key _ => key
  | .math _ _ key => key

/-- What there is to do; the fallback is asked if the job is about math. -/
def Job.work (fallback : FallbackEngine ω) : Job ω → ω → Deferred ω Outcome × ω
  | .highlight code _ work, e => (work.map (Outcome.ofHighlight code), e)
  | .math expression display _, e =>
    let (work, e) := fallback.typeset expression (TexFormat.ofDisplay display) e
    (work.map (Outcome.ofTypeset display), e)

/-- Starts a job. -/
def Job.start (fallback : FallbackEngine ω) (job : Job ω) (w : World γ ω) :
    Running ω × World γ ω :=
  let (work, engines) := job.work fallback w.engines
  (⟨job.key, work⟩, { w with engines })

def Job.startAndPoll (fallback : FallbackEngine ω) (job : Job ω) (w : World γ ω) :
    (Running ω ⊕ String) × World γ ω :=
  let (running, w) := job.start fallback w
  running.poll w

/-- What is fixed during a compile pass: the engines, and which spans are cached. -/
structure Setting (ω : Type) where
  engines : Engines ω
  cacheCode : Bool
  cacheMath : Bool

/-- What a compile pass changes: the world, and the jobs so far. -/
structure Pass (γ ω : Type) where
  world : World γ ω
  code : Registry (Job ω) := ⟨.highlight, []⟩
  math : Registry (Job ω) := ⟨.math, []⟩

namespace Pass

/-- All jobs, those for code first. -/
def jobs (p : Pass γ ω) : List (PlaceholderId × Job ω) := p.code.toList ++ p.math.toList

def deferCode (p : Pass γ ω) (job : Job ω) : Answer × Pass γ ω :=
  let (id, code) := p.code.register job
  (.deferred id, { p with code })

def deferMath (p : Pass γ ω) (job : Job ω) : Answer × Pass γ ω :=
  let (id, math) := p.math.register job
  (.deferred id, { p with math })

/-- Answers with HTML, which is cached. -/
def answer (p : Pass γ ω) (key : Option Cache.Key) (html : String) : Answer × Pass γ ω :=
  (.inline html, { p with world := p.world.store key html })

end Pass

namespace Setting

def codeKey (s : Setting ω) (language : Option String) (source : String) : Option Cache.Key :=
  if s.cacheCode then some (.highlight language source) else none

def mathKey (s : Setting ω) (expression : String) (display : Bool) : Option Cache.Key :=
  if s.cacheMath then some (.math expression display) else none

theorem codeKey_eq_some_iff {s : Setting ω} {language : Option String} {source : String}
    {key : Cache.Key} :
    s.codeKey language source = some key ↔ s.cacheCode = true ∧ key = .highlight language source := by
  rw [codeKey, Option.ite_none_right_eq_some, Option.some.injEq, @eq_comm _ key]

theorem mathKey_eq_some_iff {s : Setting ω} {expression : String} {display : Bool}
    {key : Cache.Key} :
    s.mathKey expression display = some key ↔ s.cacheMath = true ∧ key = .math expression display := by
  rw [mathKey, Option.ite_none_right_eq_some, Option.some.injEq, @eq_comm _ key]

/-- Answers for a code block; an empty language is none. -/
def code (s : Setting ω) (p : Pass γ ω) (language : Option String) (source : String) :
    Answer × Pass γ ω :=
  let language := language.filter (· != "")
  let key := s.codeKey language source
  let (found, world) := p.world.find? key
  let p := { p with world }
  match found with
  | some html => (.inline html, p)
  | none =>
    let (highlighted, engines) := s.engines.highlighter.highlight source language p.world.engines
    let p := { p with world := { p.world with engines } }
    match highlighted with
    | .ok (.ready html) => p.answer key html
    | .ok (.pending work) => p.deferCode (.highlight source key work)
    | .error _ => (.inline (Text.escapeCode source), p)

/-- Answers for a math span. -/
def math (s : Setting ω) (p : Pass γ ω) (expression : String) (display : Bool) :
    Answer × Pass γ ω :=
  let key := s.mathKey expression display
  let (found, world) := p.world.find? key
  let p := { p with world }
  match found with
  | some html => (.inline html, p)
  | none =>
    let (rendered, engines) := s.engines.math.render expression display p.world.engines
    let p := { p with world := { p.world with engines } }
    match rendered with
    | .ok html => p.answer key html
    | .error _ => p.deferMath (.math expression display key)

/-- Both answers, for the compiler. -/
def processors (s : Setting ω) : Processors (Pass γ ω) where
  code := some s.code
  math := some s.math

end Setting

end Mathdown.Render
