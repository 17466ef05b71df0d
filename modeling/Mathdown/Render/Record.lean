import Mathdown.Render.Move

/-!
Engines that keep a record. Beside their state they carry a list of what they have given, the latest
last. A renderer whose own engines keep a record lets a call bring along engines that keep none, so
that the record says what the renderer's own engines have given, and nothing else.
-/

namespace Mathdown

/-- Something that an engine has given. -/
inductive Record where
  | code (language : Option String) (source html : String)
  | math (expression : String) (display : Bool) (html : String)
  /-- The fallback's answer, also if it is an error. -/
  | drawing (expression : String) (format : TexFormat) (result : Except FallbackError String)

variable {ω α : Type}

/-- The work, with what there is to note of its result. -/
def Deferred.noting (note : α → List Record) (d : Deferred ω α) :
    Deferred (ω × List Record) α :=
  ⟨d.delay, fun (w, log) =>
    let (result, w) := d.finish w
    (result, w, log ++ note result)⟩

def Deferred.notingSuccess {ε : Type} (note : α → List Record) (d : Deferred ω (Except ε α)) :
    Deferred (ω × List Record) (Except ε α) :=
  d.noting fun
    | .ok result => note result
    | .error _ => []

theorem Deferred.finish_notingSuccess {ε : Type} {note : α → List Record}
    {d : Deferred ω (Except ε α)} {w : ω} {result : α} (given : (d.finish w).1 = .ok result)
    (log : List Record) :
    (d.notingSuccess note).finish (w, log) = (.ok result, (d.finish w).2, log ++ note result) := by
  simp [notingSuccess, noting, given]

/-- The highlighter, with what there is to note of code that it has highlighted, now or later. -/
def Highlighter.noting (note : (language : Option String) → (source html : String) → List Record)
    (h : Highlighter ω) : Highlighter (ω × List Record) where
  highlight source language := fun (w, log) =>
    match h.highlight source language w with
    | (.ok (.ready html), w) => (.ok (.ready html), w, log ++ note language source html)
    | (.ok (.pending work), w) =>
      (.ok (.pending (work.notingSuccess (note language source))), w, log)
    | (.error e, w) => (.error e, w, log)

/-- The math engine, with what there is to note of math that it has rendered. -/
def MathEngine.noting
    (note : (expression : String) → (display : Bool) → (html : String) → List Record)
    (m : MathEngine ω) : MathEngine (ω × List Record) where
  render expression display := fun (w, log) =>
    match m.render expression display w with
    | (.ok html, w) => (.ok html, w, log ++ note expression display html)
    | (.error e, w) => (.error e, w, log)

/-- The fallback, with a record of each answer. -/
def FallbackEngine.recording (f : FallbackEngine ω) : FallbackEngine (ω × List Record) where
  typeset expression format := fun (w, log) =>
    let (work, w) := f.typeset expression format w
    (work.noting fun result => [.drawing expression format result], w, log)

/-- Engines that keep a record. -/
def Engines.recording (engines : Engines ω) : Engines (ω × List Record) where
  highlighter := engines.highlighter.noting fun language source html => [.code language source html]
  math := engines.math.noting fun expression display html => [.math expression display html]
  fallback := engines.fallback.recording
  parser := engines.parser

/-- The renderer, with a record of what its own engines give. -/
def Renderer.recording (r : Renderer ω) : Renderer (ω × List Record) where
  engines := r.engines.recording
  caching := r.caching
  options := r.options

/-- What a call does differently, of which there is no record. -/
def Overrides.unrecorded (overrides : Overrides ω) : Overrides (ω × List Record) where
  highlighter := overrides.highlighter.map (·.noting fun _ _ _ => [])
  math := overrides.math.map (·.noting fun _ _ _ => [])
  compiler := overrides.compiler

end Mathdown
