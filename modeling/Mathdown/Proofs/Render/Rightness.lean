import Mathdown.Proofs.Cache.Honest
import Mathdown.Proofs.Cache.Keys
import Mathdown.Proofs.Render.Determinism
import Mathdown.Proofs.Render.Simulation
import Mathdown.Proofs.Render.Splicing

namespace Mathdown

open Cache (Keeps Key)
open Render

namespace Renderer

variable {γ ω : Type}

/-- Whether HTML is what a renderer makes of what a key names. -/
def Means (r : Renderer ω) (f : EngineFunctions) : Key → (html : String) → Prop
  | .highlight language source, html => html = f.code language source
  | .math expression display, html => html = f.span expression display
  | .result input, html => r.inlined f input {} = .ok html

/-- Whether a renderer looks a key up and stores HTML under it. -/
structure Uses (r : Renderer ω) (key : Key) : Prop where
  clean : key.Clean
  cached : r.caching.covers key = true

/-- Whether a renderer finds only what is right in caches of a kind, and leaves caches of that kind. -/
structure Trusts [Cache γ] (r : Renderer ω) (f : EngineFunctions) (holds : γ → Prop) : Prop where
  found : ∀ {c key html}, holds c → r.Uses key → Cache.get? c key.text = some html →
    r.Means f key html
  get : ∀ {c} key, holds c → holds (Cache.afterGet c key)
  set : ∀ {c key html}, holds c → r.Uses key → r.Means f key html → holds (Cache.set c key.text html)

def Right (r : Renderer ω) (f : EngineFunctions) (text html : String) : Prop :=
  ∀ key : Key, key.Clean → key.text = text → r.Means f key html

theorem trusts_keeps [Cache γ] (r : Renderer ω) (f : EngineFunctions) :
    r.Trusts f (Keeps (r.Right f) : γ → Prop) where
  found keeps uses answered := keeps.found answered _ uses.clean rfl
  get key keeps := keeps.get key
  set keeps uses means := by
    refine keeps.set fun other clean same => ?_
    rwa [Key.text_injective clean uses.clean same]

def Stores (r : Renderer ω) (f : EngineFunctions) (job : Job ω) : Prop :=
  ∀ key, job.key = some key → r.Uses key ∧ ∀ atStart atEnd,
    (((job.work r.engines.fallback atStart).1.finish atEnd).1).lasting = true →
      r.Means f key ((job.work r.engines.fallback atStart).1.finish atEnd).1.html

namespace Trusts

variable [Cache γ] {r : Renderer ω} {f : EngineFunctions} {holds : γ → Prop} {w : World γ ω}

theorem find? (trusts : r.Trusts f holds) (held : holds w.cache) (key : Option Key) :
    holds (w.find? key).2.cache := by
  cases key with
  | none => exact held
  | some key => exact trusts.get key.text held

theorem means_of_find? (trusts : r.Trusts f holds) (held : holds w.cache) {key : Option Key}
    {html : String} (found : (w.find? key).1 = some html) :
    ∃ k, key = some k ∧ (r.Uses k → r.Means f k html) := by
  cases key with
  | none => cases found
  | some key => exact ⟨key, rfl, fun uses => trusts.found held uses found⟩

theorem store (trusts : r.Trusts f holds) {cache : γ} (held : holds cache) {key : Option Key}
    {html : String} (new : ∀ k, key = some k → r.Uses k ∧ r.Means f k html) (engines : ω) :
    holds ((⟨cache, engines⟩ : World γ ω).store key html).cache := by
  cases key with
  | none => exact held
  | some key => exact trusts.set held (new key rfl).1 (new key rfl).2

end Trusts

variable {r : Renderer ω} {f g : EngineFunctions} {overrides : Overrides ω}

theorem uses_codeKey (serves : r.Serves f overrides g) {language : Option String} {source : String}
    (clean : Compile.Question.Clean (.code language source)) {key : Key}
    (keyed : (r.setting overrides).codeKey language source = some key) :
    r.Uses key ∧ ∀ html, r.Means f key html ↔ html = g.code language source := by
  obtain ⟨cached, rfl⟩ := Setting.codeKey_eq_some_iff.mp keyed
  obtain ⟨covered, kept⟩ := Bool.and_eq_true_iff.mp cached
  refine ⟨⟨clean, covered⟩, fun html => ?_⟩
  simp [Means, EngineFunctions.code, serves.highlight (Option.isNone_iff_eq_none.mp kept)]

theorem uses_mathKey (serves : r.Serves f overrides g) {expression : String} {display : Bool}
    {key : Key} (keyed : (r.setting overrides).mathKey expression display = some key) :
    r.Uses key ∧ ∀ html, r.Means f key html ↔ html = g.span expression display := by
  obtain ⟨cached, rfl⟩ := Setting.mathKey_eq_some_iff.mp keyed
  obtain ⟨covered, kept⟩ := Bool.and_eq_true_iff.mp cached
  refine ⟨⟨trivial, covered⟩, fun html => ?_⟩
  simp [Means, EngineFunctions.span, EngineFunctions.drawn,
    serves.math (Option.isNone_iff_eq_none.mp kept), serves.typeset]

def Finds (r : Renderer ω) (p : Pass γ ω) (content : PlaceholderId → String) : Prop :=
  ∀ job ∈ p.jobs, job.2.Yields r.engines.fallback (content job.1)

/-- What a compile pass keeps: nothing wrong is in the cache, and no job will store any. -/
structure Sound (r : Renderer ω) (f : EngineFunctions) (holds : γ → Prop) (p : Pass γ ω) : Prop where
  cache : holds p.world.cache
  jobs : ∀ job ∈ p.jobs, r.Stores f job.2

variable {holds : γ → Prop}

variable [Cache γ] {p : Pass γ ω}

private theorem settleCode_inlines (trusts : r.Trusts f holds) (serves : r.Serves f overrides g)
    (sound : r.Sound f holds p) {language : Option String} {source : String}
    (clean : Compile.Question.Clean (.code language source))
    {said : Except HighlightError (Highlighted ω)}
    (comes : Highlighted.ComesTo (g.highlight source language) said) :
    let settled := p.settleCode source ((r.setting overrides).codeKey language source) said
    r.Sound f holds settled.2 ∧ ∀ content, r.Finds settled.2 content →
      r.Finds p content ∧
        settled.1.Means content (.code language source) (g.code language source) := by
  rcases said with e | html | work
  · have value : g.code language source = Text.escapeCode source := by
      simp [EngineFunctions.code, show g.highlight source language = _ from comes,
        Outcome.ofHighlight]
    exact ⟨sound, fun content finds => ⟨finds, value.symm⟩⟩
  · have value : g.code language source = html := by
      simp [EngineFunctions.code, show g.highlight source language = _ from comes,
        Outcome.ofHighlight]
    have new : ∀ key, (r.setting overrides).codeKey language source = some key →
        r.Uses key ∧ r.Means f key html := by
      intro key keyed
      obtain ⟨uses, means⟩ := uses_codeKey serves clean keyed
      exact ⟨uses, (means html).mpr value.symm⟩
    exact ⟨⟨trusts.store sound.cache new _, sound.jobs⟩, fun content finds => ⟨finds, value.symm⟩⟩
  · have outcome (atStart atEnd : ω) :
        (((Job.highlight source ((r.setting overrides).codeKey language source) work).work
          r.engines.fallback atStart).1.finish atEnd).1 =
            Outcome.ofHighlight source (g.highlight source language) :=
      Job.outcome_highlight comes source _ atStart atEnd
    refine ⟨⟨sound.cache, (p.forall_jobs_deferCode _).mpr ⟨sound.jobs, fun key keyed => ?_⟩⟩,
      fun content finds => ?_⟩
    · obtain ⟨uses, means⟩ := uses_codeKey serves clean keyed
      refine ⟨uses, fun atStart atEnd _ => ?_⟩
      rw [outcome]
      exact (means _).mpr rfl
    · obtain ⟨before, atStart, atEnd, found⟩ := (p.forall_jobs_deferCode _).mp finds
      rw [outcome] at found
      exact ⟨before, found.symm, nofun⟩

private theorem settleMath_inlines (trusts : r.Trusts f holds) (serves : r.Serves f overrides g)
    (firm : f.Firm) (sound : r.Sound f holds p) {expression : String} {display : Bool}
    {said : Except MathError String} (rendered : said = g.math expression display) :
    let settled := p.settleMath expression display
      ((r.setting overrides).mathKey expression display) said
    r.Sound f holds settled.2 ∧ ∀ content, r.Finds settled.2 content →
      r.Finds p content ∧
        settled.1.Means content (.math expression display) (g.span expression display) := by
  rcases said with e | html
  · have value : g.span expression display = g.drawn expression display := by
      simp [EngineFunctions.span, ← rendered]
    -- The job draws what the span is worth, whenever it is started and whenever it ends.
    have outcome (atStart atEnd : ω) := congrArg Outcome.html
      (Job.outcome_math serves.computes.fallback expression display
        ((r.setting overrides).mathKey expression display) atStart atEnd)
    refine ⟨⟨sound.cache, (p.forall_jobs_deferMath _).mpr ⟨sound.jobs, fun key keyed => ?_⟩⟩,
      fun content finds => ?_⟩
    · obtain ⟨uses, means⟩ := uses_mathKey serves keyed
      refine ⟨uses, fun atStart atEnd _ => (means _).mpr ?_⟩
      rw [value]
      exact outcome atStart atEnd
    · obtain ⟨before, atStart, atEnd, found⟩ := (p.forall_jobs_deferMath _).mp finds
      have firm' : g.Firm := by
        intro expression format svg typeset
        rw [serves.typeset] at typeset
        exact firm expression format svg typeset
      refine ⟨before, ?_, fun _ _ _ => value ▸ EngineFunctions.solid_drawn firm' expression display⟩
      rw [value]
      exact found.symm.trans (outcome atStart atEnd)
  · have value : g.span expression display = html := by simp [EngineFunctions.span, ← rendered]
    have new : ∀ key, (r.setting overrides).mathKey expression display = some key →
        r.Uses key ∧ r.Means f key html := by
      intro key keyed
      obtain ⟨uses, means⟩ := uses_mathKey serves keyed
      exact ⟨uses, (means html).mpr value.symm⟩
    exact ⟨⟨trusts.store sound.cache new _, sound.jobs⟩, fun content finds => ⟨finds, value.symm⟩⟩

private theorem code_inlines (trusts : r.Trusts f holds) (serves : r.Serves f overrides g)
    (sound : r.Sound f holds p) {language : Option String} {source : String}
    (clean : Compile.Question.Clean (.code language source)) :
    r.Sound f holds ((r.setting overrides).code p language source).2 ∧
      ∀ content, r.Finds ((r.setting overrides).code p language source).2 content →
        r.Finds p content ∧ ((r.setting overrides).code p language source).1.Means content
          (.code language source) (g.code language source) := by
  have looked := trusts.find? sound.cache ((r.setting overrides).codeKey language source)
  have answered := (r.setting overrides).code_cases p language source
  simp only [clean.filter_language] at answered
  rcases answered with ⟨html, found, same⟩ | ⟨-, same⟩
  · obtain ⟨key, keyed, right⟩ := trusts.means_of_find? sound.cache found
    obtain ⟨uses, means⟩ := uses_codeKey serves clean keyed
    rw [same]
    exact ⟨⟨looked, sound.jobs⟩, fun content finds => ⟨finds, (means html).mp (right uses)⟩⟩
  · rw [same]
    generalize (p.world.find? ((r.setting overrides).codeKey language source)).2 = v at looked ⊢
    have comes := serves.computes.highlighter source language v.engines
    generalize (r.setting overrides).engines.highlighter.highlight source language v.engines = said
      at comes ⊢
    exact settleCode_inlines (p := { p with world := ⟨v.cache, said.2⟩ }) trusts serves
      ⟨looked, sound.jobs⟩ clean comes

private theorem math_inlines (trusts : r.Trusts f holds) (serves : r.Serves f overrides g)
    (firm : f.Firm) (sound : r.Sound f holds p) (expression : String) (display : Bool) :
    r.Sound f holds ((r.setting overrides).math p expression display).2 ∧
      ∀ content, r.Finds ((r.setting overrides).math p expression display).2 content →
        r.Finds p content ∧ ((r.setting overrides).math p expression display).1.Means content
          (.math expression display) (g.span expression display) := by
  have looked := trusts.find? sound.cache ((r.setting overrides).mathKey expression display)
  rcases (r.setting overrides).math_cases p expression display with ⟨html, found, same⟩ | ⟨-, same⟩
  · obtain ⟨key, keyed, right⟩ := trusts.means_of_find? sound.cache found
    obtain ⟨uses, means⟩ := uses_mathKey serves keyed
    rw [same]
    exact ⟨⟨looked, sound.jobs⟩, fun content finds => ⟨finds, (means html).mp (right uses)⟩⟩
  · rw [same]
    generalize (p.world.find? ((r.setting overrides).mathKey expression display)).2 = v at looked ⊢
    have rendered := serves.computes.math expression display v.engines
    generalize (r.setting overrides).engines.math.render expression display v.engines = said
      at rendered ⊢
    exact settleMath_inlines (p := { p with world := ⟨v.cache, said.2⟩ }) trusts serves firm
      ⟨looked, sound.jobs⟩ rendered

/-- A call's compiler compiles what would be compiled with all spans at once. -/
theorem inlines_compiler (trusts : r.Trusts f holds) (serves : r.Serves f overrides g)
    (firm : f.Firm) : (r.compiler γ overrides).Inlines g.value (r.Sound f holds) r.Finds := by
  intro p question sound clean
  cases question with
  | code language source => exact code_inlines trusts serves sound clean
  | math expression display => exact math_inlines trusts serves firm sound expression display

end Renderer

end Mathdown
