import Mathdown.Config.Build
import Mathdown.Proofs.Cache.Entries
import Mathdown.Proofs.Compile.Depth
import Mathdown.Proofs.Render.Options

namespace Mathdown.Config

open Compiler (nestingError)

variable {a b c : Config} {lib : Libraries} {runner : Runner} {text : String}

/-- What the engines of a configuration compute. -/
def functions (c : Config) (lib : Libraries) (runner : Runner) : EngineFunctions where
  highlight code language :=
    match (lib.highlighter.highlight code language ()).1 with
    | .error e => .error e
    | .ok (.ready html) => .ok html
    | .ok (.pending work) => (work.finish ()).1
  math expression display := (lib.math.render expression display ()).1
  typeset expression format :=
    c.fallback.result (runner c.fallback.program (c.fallback.arguments expression format))

theorem compute_functions (c : Config) (lib : Libraries) (runner : Runner) :
    (c.renderer lib runner).engines.Compute (c.functions lib runner) := by
  refine ⟨fun code language state => ?_, fun _ _ _ => rfl, fun _ _ _ _ => rfl⟩
  simp only [renderer, functions]
  rcases (lib.highlighter.highlight code language state).1 with e | html | work
  · rfl
  · rfl
  · exact fun _ => rfl

theorem firm_functions (c : Config) (lib : Libraries) (runner : Runner) :
    (c.functions lib runner).Firm := by
  intro expression format svg typeset
  simp only [functions, Command.result] at typeset
  split at typeset
  · cases typeset
  · cases typeset
  · split at typeset
    · split at typeset <;> cases typeset
    · split at typeset
      · cases typeset
      · rename_i some
        cases typeset
        exact Text.solid_iff.mp (Text.solid_trim fun none => some (by rw [none]; rfl))

/-- The HTML of a text without a cache. -/
def html (c : Config) (lib : Libraries) (runner : Runner) (text : String) :
    Except CompileError String :=
  (c.renderer lib runner).inlined (c.functions lib runner) text {}

/-- The events of a text. -/
def events (c : Config) (lib : Libraries) (text : String) : List Event :=
  lib.parser ⟨c.markdown.gfm, c.markdown.math⟩ text

/-- Whether a text is rendered, and not rejected for how deep it nests. -/
def Accepts (c : Config) (lib : Libraries) (text : String) : Prop :=
  Text.allBlank text = true ∨ nestingError c.markdown.maxNesting 0 (c.events lib text) = none

private def ideal (c : Config) (lib : Libraries) (runner : Runner) : Compiler Unit :=
  Compiler.inlining c.markdown (c.functions lib runner).value

private theorem html_eq (dark : Text.allBlank text = false) :
    c.html lib runner text =
      ((c.ideal lib runner).compile (c.events lib text) .initial ()).1.map CompiledDocument.html := by
  rw [html, Renderer.inlined, dark]
  rfl

theorem accepts_iff (c : Config) (lib : Libraries) (runner : Runner) (text : String) :
    c.Accepts lib text ↔ ∃ html, c.html lib runner text = .ok html := by
  cases blank : Text.allBlank text with
  | true => simp [Accepts, blank, html, Renderer.inlined]
  | false =>
    have rejected := (c.ideal lib runner).compile_error_iff (c.events lib text) .initial ()
    simp only [Accepts, blank, Bool.false_eq_true, false_or]
    rw [html_eq blank]
    cases compiled : ((c.ideal lib runner).compile (c.events lib text) .initial ()).1 with
    | error e =>
      have error := (rejected e).mp compiled
      simp only [Except.map, reduceCtorEq, exists_false, iff_false]
      intro none
      cases error.symm.trans none
    | ok document =>
      simp only [Except.map, Except.ok.injEq, exists_eq', iff_true]
      cases error : nestingError c.markdown.maxNesting 0 (c.events lib text) with
      | none => rfl
      | some e => cases ((rejected e).mpr error).symm.trans compiled

theorem html_of_compile {events : List Event} (dark : Text.allBlank text = false)
    (read : c.events lib text = events) (document : CompiledDocument) (s : Compile.State)
    (compiled : (Compiler.inlining c.markdown (c.functions lib runner).value).compile events .initial () =
      (.ok document, s, ())) :
    c.html lib runner text = .ok document.html := by
  rw [html_eq dark, read, ideal, compiled]
  rfl

/-- Configurations that read a text, show code and draw the math in it alike render it alike. -/
theorem html_congr {runner' : Runner} (gfm : a.markdown.gfm = b.markdown.gfm)
    (math : a.markdown.math = b.markdown.math)
    (lineNumbers : a.markdown.lineNumbers = b.markdown.lineNumbers) (accepted : a.Accepts lib text)
    (accepted' : b.Accepts lib text)
    (spans : ∀ expression display, .math expression display ∈ a.events lib text →
      (a.functions lib runner).span expression display =
        (b.functions lib runner').span expression display) :
    a.html lib runner text = b.html lib runner' text := by
  cases blank : Text.allBlank text with
  | true => simp [html, Renderer.inlined, blank]
  | false =>
    simp only [Accepts, blank, Bool.false_eq_true, false_or] at accepted accepted'
    have read : b.events lib text = a.events lib text := by
      unfold events
      rw [gfm, math]
    rw [read] at accepted'
    -- The first configuration with the limit of the other one.
    let c : Config := { a with markdown.maxNesting := b.markdown.maxNesting }
    have limits : c.html lib runner text = a.html lib runner text := by
      have compiled : ((a.ideal lib runner).withLimit b.markdown.maxNesting).compile (a.events lib text)
          .initial () = (a.ideal lib runner).compile (a.events lib text) .initial () :=
        (a.ideal lib runner).compile_withLimit () accepted accepted'
      rw [html_eq blank, html_eq blank]
      exact congrArg (fun compiled => Except.map CompiledDocument.html compiled.1) compiled
    have options : c.markdown = b.markdown := by
      cases own : b.markdown
      simp only [own] at gfm math lineNumbers
      simp only [c, own, gfm, math, lineNumbers]
    rw [← limits]
    have parser : (c.renderer lib runner).engines.parser = (b.renderer lib runner').engines.parser :=
      (c.parser_renderer lib runner).trans (b.parser_renderer lib runner').symm
    have same : (c.renderer lib runner).options = (b.renderer lib runner').options := options
    have highlight : (c.functions lib runner).highlight = (b.functions lib runner').highlight := rfl
    exact Renderer.inlined_congr parser same highlight spans

/--
Whether two configurations make the same of all texts that a cache can keep, whatever programs do:
they read them alike, show code alike, reject the same ones, and draw math alike.
-/
structure RendersLike (lib : Libraries) (a b : Config) : Prop where
  gfm : a.markdown.gfm = b.markdown.gfm
  math : a.markdown.math = b.markdown.math
  lineNumbers : a.markdown.lineNumbers = b.markdown.lineNumbers
  nesting : ∀ text, Cache.Entry.Fits (Cache.Key.result text).text →
    (a.Accepts lib text ↔ b.Accepts lib text)
  fallback : a.markdown.math = true → a.fallback = b.fallback

theorem RendersLike.refl (c : Config) : RendersLike lib c c :=
  ⟨rfl, rfl, rfl, fun _ _ => Iff.rfl, fun _ => rfl⟩

theorem html_of_rendersLike (heeds : lib.parser.HeedsMath) (alike : RendersLike lib a b)
    (runner : Runner)
    (fits : Cache.Entry.Fits (Cache.Key.result text).text) {html : String}
    (rendered : a.html lib runner text = .ok html) : b.html lib runner text = .ok html := by
  have accepted : a.Accepts lib text := (a.accepts_iff lib runner text).mpr ⟨html, rendered⟩
  have accepted' := (alike.nesting text fits).mp accepted
  rw [← rendered, ← html_congr alike.gfm alike.math alike.lineNumbers accepted accepted']
  intro expression display member
  cases math : a.markdown.math with
  | true =>
    simp only [EngineFunctions.span, EngineFunctions.drawn, functions, alike.fallback math]
  | false => exact absurd member (heeds _ text math expression display)

end Mathdown.Config
