import Mathdown.Proofs.Render.Lockstep
import Mathdown.Render.Trace

/-!
Overrides are isolated from the cache. A call uses the layers of the cache that its renderer has turned
on, but not those of an engine that the call replaces, nor whole documents if it replaces anything. What
stands in a layer that it does not use makes no difference to it, and is left as it is.
-/

namespace Mathdown

open Render

variable {γ ω α : Type}

/-- Whether a state is another one with requests beside it. -/
abbrev Request.Beside (w : ω) (w' : ω × List Request) : Prop := w'.1 = w

theorem Deferred.alike_traced (d : Deferred ω α) : d.Alike Request.Beside d.traced where
  delay := rfl
  finish := by
    rintro _ ⟨w, requests⟩ rfl
    exact ⟨rfl, rfl⟩

theorem Highlighter.alike_traced (h : Highlighter ω) : h.Alike Request.Beside h.traced := by
  rintro source language _ ⟨w, requests⟩ rfl
  refine ⟨?_, rfl⟩
  change Highlighted.Alike _ _ ((h.highlight source language w).1.map Highlighted.traced)
  rcases (h.highlight source language w).1 with e | html | work
  · exact .error e
  · exact .ready html
  · exact .pending work.alike_traced

theorem MathEngine.alike_traced (m : MathEngine ω) : m.Alike Request.Beside m.traced := by
  rintro expression display _ ⟨w, requests⟩ rfl
  exact ⟨rfl, rfl⟩

theorem FallbackEngine.alike_traced (f : FallbackEngine ω) : f.Alike Request.Beside f.traced := by
  rintro expression format _ ⟨w, requests⟩ rfl
  exact ⟨Deferred.alike_traced _, rfl⟩

theorem Renderer.alike_traced (r : Renderer ω) : r.Alike Request.Beside r.traced where
  engines := ⟨Highlighter.alike_traced _, MathEngine.alike_traced _, FallbackEngine.alike_traced _, rfl⟩
  caching := rfl
  options := rfl

theorem Overrides.alike_traced (o : Overrides ω) : o.Alike Request.Beside o.traced :=
  o.alike_map Highlighter.alike_traced MathEngine.alike_traced

theorem Highlighter.alike_refl (h : Highlighter ω) : h.Alike (· = ·) h := by
  rintro source language w _ rfl
  refine ⟨?_, rfl⟩
  rcases (h.highlight source language w).1 with e | html | work
  · exact .error e
  · exact .ready html
  · exact .pending ⟨rfl, fun same => same ▸ ⟨rfl, rfl⟩⟩

theorem MathEngine.alike_refl (m : MathEngine ω) : m.Alike (· = ·) m := by
  rintro expression display w _ rfl
  exact ⟨rfl, rfl⟩

theorem Renderer.alike_refl (r : Renderer ω) : r.Alike (· = ·) r := by
  refine ⟨⟨r.engines.highlighter.alike_refl, r.engines.math.alike_refl, ?_, rfl⟩, rfl, rfl⟩
  rintro expression format w _ rfl
  exact ⟨⟨rfl, fun same => same ▸ ⟨rfl, rfl⟩⟩, rfl⟩

theorem Overrides.alike_refl (o : Overrides ω) : o.Alike (· = ·) o := by
  simpa using o.alike_map Highlighter.alike_refl MathEngine.alike_refl

namespace Renderer

variable [Cache γ] {r : Renderer ω} {o : Overrides ω} {layers : List Cache.Layer}

/-- A watched cache does what the cache does, and is used for keys that are covered only. -/
theorem render_watched (r : Renderer ω) (input : String) (o : Overrides ω) (w : World γ ω) :
    r.render input o ⟨Cache.Watched.mk w.cache [], w.engines⟩ =
        ((r.render input o w).1,
          ⟨⟨(r.render input o w).2.cache, r.accesses input o w⟩, (r.render input o w).2.engines⟩) ∧
      (r.render input o w).2.cache = Cache.after w.cache (r.accesses input o w) ∧
      ∀ use ∈ r.accesses input o w, ∃ key, (r.layers o).covers key = true ∧ use.key = key.text := by
  have worlds : w.Kin (Cache.Watches (fun key => (r.layers o).covers key = true) w.cache) (· = ·)
      ⟨Cache.Watched.mk w.cache [], w.engines⟩ := ⟨Cache.Watches.start _ _, rfl⟩
  obtain ⟨result, ⟨same, left, used⟩, engines⟩ := r.alike_refl.render
    (Cache.Watches.simulation _ _) o.alike_refl (fun _ covered => covered) worlds input
  refine ⟨?_, left, used⟩
  rw [accesses]
  revert result same engines
  rcases r.render input o ⟨Cache.Watched.mk w.cache [], w.engines⟩ with
    ⟨result', ⟨⟨cache', _⟩, engines'⟩⟩
  rintro rfl rfl rfl
  rfl

/-- Whether calls have nothing to do with some layers of the cache. -/
structure Ignores (γ : Type) [Cache γ] (r : Renderer ω) (o : Overrides ω)
    (layers : List Cache.Layer) : Prop where
  /-- No entry of the layers is read or written. -/
  unused : ∀ (input : String) (w : World γ ω), ∀ use ∈ r.accesses input o w,
    ¬Cache.Within layers use.key
  /-- Caches that differ in the layers only lead to the same result, and go on to differ in them only. -/
  result : ∀ (input : String) (w w' : World γ ω), Cache.AgreeBut layers w.cache w'.cache →
    w.engines = w'.engines →
      (r.render input o w).1 = (r.render input o w').1 ∧
        Cache.AgreeBut layers (r.render input o w).2.cache (r.render input o w').2.cache ∧
        (r.render input o w).2.engines = (r.render input o w').2.engines
  /-- The engines are asked for the same. -/
  requests : ∀ (input : String) (w w' : World γ ω), Cache.AgreeBut layers w.cache w'.cache →
    w.engines = w'.engines → r.requests input o w = r.requests input o w'
  /-- The entries of the layers stay, unless the cache itself lets go of them. -/
  kept : ∀ (input : String) (w : World γ ω) (key : String), Cache.Within layers key →
    Cache.Undisturbed w.cache key →
      Cache.get? (r.render input o w).2.cache key = Cache.get? w.cache key

private theorem render_agreeBut {ω : Type} {r : Renderer ω} {o : Overrides ω}
    (outside : ∀ key, (r.layers o).covers key = true → key.layer ∉ layers) (input : String)
    (w w' : World γ ω) (agree : Cache.AgreeBut layers w.cache w'.cache)
    (engines : w.engines = w'.engines) :
    (r.render input o w).1 = (r.render input o w').1 ∧
      Cache.AgreeBut layers (r.render input o w).2.cache (r.render input o w').2.cache ∧
      (r.render input o w).2.engines = (r.render input o w').2.engines := by
  obtain ⟨result, cache, engines⟩ := r.alike_refl.render (Cache.AgreeBut.simulation layers)
    o.alike_refl outside (⟨agree, engines⟩ : w.Kin _ (· = ·) w') input
  exact ⟨result, cache, engines⟩

theorem layers_traced (r : Renderer ω) (o : Overrides ω) : r.traced.layers o.traced = r.layers o := by
  obtain ⟨highlighter, math, options⟩ := o
  cases highlighter <;> cases math <;> rfl

/-- A call has nothing to do with layers that it does not use. -/
theorem ignores_of_covers
    (outside : ∀ key, (r.layers o).covers key = true → key.layer ∉ layers) :
    r.Ignores γ o layers := by
  have unused (input : String) (w : World γ ω) :
      ∀ use ∈ r.accesses input o w, ¬Cache.Within layers use.key := by
    intro use member
    obtain ⟨key, covered, named⟩ := (r.render_watched input o w).2.2 use member
    rw [named, Cache.Key.within_text_iff]
    exact outside key covered
  refine ⟨unused, render_agreeBut outside, ?_, ?_⟩
  · intro input w w' agree engines
    have traced (key : Cache.Key) (covered : (r.traced.layers o.traced).covers key = true) :
        key.layer ∉ layers := outside key (r.layers_traced o ▸ covered)
    obtain ⟨-, -, same⟩ := render_agreeBut traced input ⟨w.cache, w.engines, []⟩
      ⟨w'.cache, w'.engines, []⟩ agree (congrArg (·, []) engines)
    exact congrArg Prod.snd same
  · intro input w key within undisturbed
    rw [(r.render_watched input o w).2.1]
    exact undisturbed _ fun use member same => unused input w use member (same ▸ within)

private theorem plain_of_covers {key : Cache.Key} (covered : (r.layers o).covers key = true) :
    (key.layer = .highlight → o.highlighter = none) ∧ (key.layer = .math → o.math = none) ∧
      (key.layer = .result → o = {}) := by
  cases key with
  | highlight language source =>
    have own := ((Bool.and_eq_true_iff ..).mp covered).2
    exact ⟨fun _ => Option.isNone_iff_eq_none.mp own, nofun, nofun⟩
  | math expression display =>
    have own := ((Bool.and_eq_true_iff ..).mp covered).2
    exact ⟨nofun, fun _ => Option.isNone_iff_eq_none.mp own, nofun⟩
  | result input =>
    have keyed : r.resultKey input o = some (.result input) := if_pos covered
    exact ⟨nofun, nofun, fun _ => (eq_of_resultKey keyed).2⟩

/--
A call that replaces the highlighter has nothing to do with highlighted code in the cache, a call that
replaces the math engine nothing with math, and a call that replaces anything at all, be it an option,
nothing with whole documents.
-/
theorem overrides_isolated (γ : Type) [Cache γ] (r : Renderer ω) (o : Overrides ω) :
    (o.highlighter.isSome = true → r.Ignores γ o [.highlight, .result]) ∧
      (o.math.isSome = true → r.Ignores γ o [.math, .result]) ∧
      (o ≠ {} → r.Ignores γ o [.result]) := by
  refine ⟨fun replaced => ignores_of_covers fun key covered member => ?_,
    fun replaced => ignores_of_covers fun key covered member => ?_,
    fun different => ignores_of_covers fun key covered member => ?_⟩
  · obtain ⟨code, -, whole⟩ := plain_of_covers covered
    rcases List.mem_pair.mp member with layer | layer
    · simp [code layer] at replaced
    · simp [whole layer] at replaced
  · obtain ⟨-, math, whole⟩ := plain_of_covers covered
    rcases List.mem_pair.mp member with layer | layer
    · simp [math layer] at replaced
    · simp [whole layer] at replaced
  · obtain ⟨-, -, whole⟩ := plain_of_covers covered
    exact different (whole (List.mem_singleton.mp member))

def keeping : Renderer Unit where
  engines := {
    highlighter := ⟨fun code _ e => (.ok (.ready ("<i>" ++ code ++ "</i>")), e)⟩
    math := ⟨fun _ _ e => (.error (.render "unknown"), e)⟩
    fallback := ⟨fun _ _ e => (⟨1, fun e => (.error ⟨["unknown"]⟩, e)⟩, e)⟩ }
  caching := { result := true }

def otherEngines : Overrides Unit where
  highlighter := some ⟨fun code _ e => (.ok (.pending ⟨2, fun e => (.ok code, e)⟩), e)⟩
  math := some ⟨fun expression _ e => (.ok expression, e)⟩

/-- Code and math. -/
def codeAndMath : String := "```rust\nx\n```\n\n$y$"

def holding (key : Cache.Key) : Cache.Memory := Cache.set {} key.text "<i>old</i>"

private theorem agreeBut_holding {layers : List Cache.Layer} {key : Cache.Key}
    (layer : key.layer ∈ layers) : Cache.AgreeBut layers ({} : Cache.Memory) (holding key) := by
  refine Cache.Memory.agreeBut_iff.mpr fun other outside => ?_
  refine (Cache.Memory.get?_set_of_ne _ _ fun same => outside ?_).symm
  exact same ▸ Cache.Key.within_text_iff.mpr layer

/-- Whether it makes no difference to the other engines that something is cached, and it stays. -/
def Indifferent (key : Cache.Key) : Prop :=
  (keeping.render codeAndMath otherEngines ⟨({} : Cache.Memory), ()⟩).1 =
      (keeping.render codeAndMath otherEngines ⟨holding key, ()⟩).1 ∧
    keeping.requests codeAndMath otherEngines ⟨({} : Cache.Memory), ()⟩ =
      keeping.requests codeAndMath otherEngines ⟨holding key, ()⟩ ∧
    Cache.get? (keeping.render codeAndMath otherEngines ⟨holding key, ()⟩).2.cache key.text =
      some "<i>old</i>"

private theorem Ignores.indifferent {layers : List Cache.Layer}
    (ignores : keeping.Ignores Cache.Memory otherEngines layers) {key : Cache.Key}
    (layer : key.layer ∈ layers) : Indifferent key := by
  have agree := agreeBut_holding layer
  have kept := ignores.kept codeAndMath ⟨holding key, ()⟩ key.text
    (Cache.Key.within_text_iff.mpr layer) (Cache.Memory.undisturbed _ _)
  obtain ⟨result, -⟩ := ignores.result codeAndMath ⟨{}, ()⟩ ⟨holding key, ()⟩ agree rfl
  have requests := ignores.requests codeAndMath ⟨{}, ()⟩ ⟨holding key, ()⟩ agree rfl
  exact ⟨result, requests, kept.trans (Cache.Memory.get?_set_self ..)⟩

/-- What the renderer has cached for code, math and the document is left alone. -/
theorem overrides_isolated_otherEngines :
    ∀ key ∈ [.highlight (some "rust") "x\n", .math "y" false, .result codeAndMath],
      Indifferent key := by
  obtain ⟨code, math, whole⟩ := overrides_isolated Cache.Memory keeping otherEngines
  have different : otherEngines ≠ {} := fun same => by
    simpa [otherEngines] using congrArg (fun o => o.math.isSome) same
  simp only [List.forall_mem_cons]
  exact ⟨(code rfl).indifferent (by decide), (math rfl).indifferent (by decide),
    (whole different).indifferent (by decide), by simp⟩

/-- A call without overrides is answered with what has been cached for its document. -/
example : (keeping.render codeAndMath {} ⟨holding (.result codeAndMath), ()⟩).1 = .ok "<i>old</i>" :=
  render_of_found (by decide) rfl (Cache.Memory.get?_set_self ..)

end Renderer

end Mathdown
