import Mathdown.Proofs.Cache.Apart
import Mathdown.Render.Run

/-!
What a call asks of the engines and of the cache. Engines are traced beside their state: each request is
listed, whether the engine is the renderer's own or one that the call brings along.
-/

namespace Mathdown

/-- Something that an engine is asked for. -/
inductive Request where
  | highlight (source : String) (language : Option String)
  | math (expression : String) (display : Bool)
  | typeset (expression : String) (format : TexFormat)
deriving DecidableEq, Repr

variable {ω α : Type}

/-- The work, beside requests that it does not add to. -/
def Deferred.traced (d : Deferred ω α) : Deferred (ω × List Request) α :=
  ⟨d.delay, fun (w, requests) =>
    let (result, w) := d.finish w
    (result, w, requests)⟩

def Highlighted.traced : Highlighted ω → Highlighted (ω × List Request)
  | .ready html => .ready html
  | .pending work => .pending work.traced

def Highlighter.traced (h : Highlighter ω) : Highlighter (ω × List Request) where
  highlight source language := fun (w, requests) =>
    let (said, w) := h.highlight source language w
    (said.map Highlighted.traced, w, requests ++ [.highlight source language])

def MathEngine.traced (m : MathEngine ω) : MathEngine (ω × List Request) where
  render expression display := fun (w, requests) =>
    let (said, w) := m.render expression display w
    (said, w, requests ++ [.math expression display])

def FallbackEngine.traced (f : FallbackEngine ω) : FallbackEngine (ω × List Request) where
  typeset expression format := fun (w, requests) =>
    let (work, w) := f.typeset expression format w
    (work.traced, w, requests ++ [.typeset expression format])

def Engines.traced (engines : Engines ω) : Engines (ω × List Request) where
  highlighter := engines.highlighter.traced
  math := engines.math.traced
  fallback := engines.fallback.traced
  parser := engines.parser

def Renderer.traced (r : Renderer ω) : Renderer (ω × List Request) where
  engines := r.engines.traced
  caching := r.caching
  options := r.options

def Overrides.traced (o : Overrides ω) : Overrides (ω × List Request) where
  highlighter := o.highlighter.map Highlighter.traced
  math := o.math.map MathEngine.traced
  compiler := o.compiler

namespace Renderer

open Render

variable {γ : Type} [Cache γ]

/-- What the engines are asked for by a call that is run to its end. -/
def requests (r : Renderer ω) (input : String) (o : Overrides ω) (w : World γ ω) : List Request :=
  (r.traced.render input o.traced ⟨w.cache, w.engines, []⟩).2.engines.2

/-- The uses that a call makes of the cache until its end. -/
def accesses (r : Renderer ω) (input : String) (o : Overrides ω) (w : World γ ω) :
    List Cache.Access :=
  (r.render input o ⟨Cache.Watched.mk w.cache [], w.engines⟩).2.cache.uses

end Renderer

end Mathdown
