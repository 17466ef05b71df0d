import Mathdown.Proofs.Compile.Inlining
import Mathdown.Proofs.Render.Results

namespace Mathdown

variable {ω : Type}

/-- What engines compute, as functions of what they are asked. -/
structure EngineFunctions where
  highlight : (code : String) → (language : Option String) → Except HighlightError String
  math : (expression : String) → (display : Bool) → Except MathError String
  typeset : (expression : String) → TexFormat → Except FallbackError String

/-- Whether what a highlighter says comes to a result, now or in any state later on. -/
def Highlighted.ComesTo (result : Except HighlightError String) :
    Except HighlightError (Highlighted ω) → Prop
  | .error e => result = .error e
  | .ok (.ready html) => result = .ok html
  | .ok (.pending work) => ∀ later, (work.finish later).1 = result

def Highlighter.Computes (h : Highlighter ω)
    (f : (code : String) → (language : Option String) → Except HighlightError String) : Prop :=
  ∀ code language state, Highlighted.ComesTo (f code language) (h.highlight code language state).1

def MathEngine.Computes (m : MathEngine ω)
    (f : (expression : String) → (display : Bool) → Except MathError String) : Prop :=
  ∀ expression display state, (m.render expression display state).1 = f expression display

def FallbackEngine.Computes (m : FallbackEngine ω)
    (f : (expression : String) → TexFormat → Except FallbackError String) : Prop :=
  ∀ expression format state later,
    ((m.typeset expression format state).1.finish later).1 = f expression format

structure Engines.Compute (engines : Engines ω) (f : EngineFunctions) : Prop where
  highlighter : engines.highlighter.Computes f.highlight
  math : engines.math.Computes f.math
  fallback : engines.fallback.Computes f.typeset

/-- Whether the engines that a call brings along compute something. -/
structure Overrides.Deterministic (overrides : Overrides ω) : Prop where
  highlighter : ∀ h, overrides.highlighter = some h → ∃ f, h.Computes f
  math : ∀ m, overrides.math = some m → ∃ f, m.Computes f

namespace EngineFunctions

open Compile (Question)

/-- Whether drawings begin and end with something other than a blank. -/
def Firm (f : EngineFunctions) : Prop :=
  ∀ expression format svg, f.typeset expression format = .ok svg → svg ≠ "" ∧ Text.trim svg = svg

/-- The HTML of a code block. -/
def code (f : EngineFunctions) (language : Option String) (source : String) : String :=
  (Render.Outcome.ofHighlight source (f.highlight source language)).html

/-- The HTML of math that the fallback is asked for. -/
def drawn (f : EngineFunctions) (expression : String) (display : Bool) : String :=
  (Render.Outcome.ofTypeset display (f.typeset expression (TexFormat.ofDisplay display))).html

/-- The HTML of a math span. -/
def span (f : EngineFunctions) (expression : String) (display : Bool) : String :=
  match f.math expression display with
  | .ok html => html
  | .error _ => f.drawn expression display

def value (f : EngineFunctions) : Question → String
  | .code language source => f.code language source
  | .math expression display => f.span expression display

theorem solid_drawn {f : EngineFunctions} (firm : f.Firm) (expression : String) (display : Bool) :
    Text.Solid (f.drawn expression display).toList := by
  simp only [drawn]
  cases typeset : f.typeset expression (TexFormat.ofDisplay display) with
  | ok svg =>
    cases display with
    | false => exact Text.solid_iff.mpr (firm expression _ svg typeset)
    | true =>
      have opening : Text.Solid "<span style=\"display: block; text-align: center; \">".toList :=
        .ofEnds (by decide +kernel) (by decide +kernel)
      have closing : Text.Solid "</span>".toList := .ofEnds (by decide) (by decide)
      have whole := opening.append closing svg.toList
      rw [← String.toList_append, ← String.toList_append] at whole
      exact whole
  | error e =>
    have opening : Text.Solid
        "<div style=\"display: inline-block; border: 1px solid #000; \"><strong>".toList :=
      .ofEnds (by decide +kernel) (by decide +kernel)
    have closing : Text.Solid "</strong></div>".toList := .ofEnds (by decide) (by decide)
    have whole := opening.append closing
      ("<br>".intercalate (e.messages.map Text.escapeHtml)).toList
    rw [← String.toList_append, ← String.toList_append] at whole
    exact whole

end EngineFunctions

namespace Render

variable {γ : Type} [Cache γ] {fallback : FallbackEngine ω} {f : EngineFunctions}

theorem Job.outcome_math (computes : fallback.Computes f.typeset) (expression : String)
    (display : Bool) (key : Option Cache.Key) (atStart atEnd : ω) :
    (((Job.math expression display key).work fallback atStart).1.finish atEnd).1 =
      Outcome.ofTypeset display (f.typeset expression (TexFormat.ofDisplay display)) :=
  congrArg (Outcome.ofTypeset display) (computes expression _ atStart atEnd)

theorem Job.outcome_highlight {work : Deferred ω (Except HighlightError String)}
    {result : Except HighlightError String} (comes : ∀ later, (work.finish later).1 = result)
    (source : String) (key : Option Cache.Key) (atStart atEnd : ω) :
    (((Job.highlight source key work).work fallback atStart).1.finish atEnd).1 =
      Outcome.ofHighlight source result :=
  congrArg (Outcome.ofHighlight source) (comes atEnd)

end Render

namespace Renderer

/-- The HTML of a document if all of its spans are there at once. -/
def inlined (r : Renderer ω) (f : EngineFunctions) (input : String) (overrides : Overrides ω) :
    Except CompileError String :=
  if Text.allBlank input then .ok ""
  else
    ((Compiler.inlining (r.options.override overrides.compiler) f.value).compile
      (r.events input overrides) .initial ()).1.map CompiledDocument.html

/-- Whether a call's engines compute `g`, where those that it does not replace compute `f`. -/
structure Serves (r : Renderer ω) (f : EngineFunctions) (overrides : Overrides ω)
    (g : EngineFunctions) : Prop where
  computes : (r.setting overrides).engines.Compute g
  highlight : overrides.highlighter = none → g.highlight = f.highlight
  math : overrides.math = none → g.math = f.math
  typeset : g.typeset = f.typeset

theorem exists_serves {r : Renderer ω} {f : EngineFunctions} (computes : r.engines.Compute f)
    {overrides : Overrides ω} (deterministic : overrides.Deterministic) :
    ∃ g, r.Serves f overrides g := by
  obtain ⟨highlight, highlights, own⟩ : ∃ highlight,
      (overrides.highlighter.getD r.engines.highlighter).Computes highlight ∧
        (overrides.highlighter = none → highlight = f.highlight) := by
    cases replaced : overrides.highlighter with
    | none => exact ⟨f.highlight, computes.highlighter, fun _ => rfl⟩
    | some h =>
      obtain ⟨highlight, highlights⟩ := deterministic.highlighter h replaced
      exact ⟨highlight, highlights, nofun⟩
  obtain ⟨math, renders, own'⟩ : ∃ math,
      (overrides.math.getD r.engines.math).Computes math ∧
        (overrides.math = none → math = f.math) := by
    cases replaced : overrides.math with
    | none => exact ⟨f.math, computes.math, fun _ => rfl⟩
    | some m =>
      obtain ⟨math, renders⟩ := deterministic.math m replaced
      exact ⟨math, renders, nofun⟩
  exact ⟨⟨highlight, math, f.typeset⟩, ⟨highlights, renders, computes.fallback⟩, own, own', rfl⟩

end Renderer

end Mathdown
