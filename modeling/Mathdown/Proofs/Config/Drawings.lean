import Mathdown.Proofs.Config.Staleness

/-!
Configurations and math that only the fallback draws. A drawing is kept apart from the document that
it is for, so that one configuration shows what the fallback of another one has drawn.
-/

namespace Mathdown

/-- What the libraries are documented to make of a few short texts, and to keep to whatever they read. -/
structure Libraries.Documented (lib : Libraries) : Prop extends Parser.Orderly lib.parser where
  struck : ∀ math, lib.parser ⟨true, math⟩ "~~a~~" =
    [.start .paragraph, .start .strikethrough, .text "a", .stop .strikethrough, .stop .paragraph]
  unstruck : ∀ math, lib.parser ⟨false, math⟩ "~~a~~" =
    [.start .paragraph, .text "~~a~~", .stop .paragraph]
  indented : ∀ options, lib.parser options "    a" =
    [.start (.codeBlock none), .text "a", .stop .codeBlock]
  dollars : ∀ gfm, lib.parser ⟨gfm, false⟩ "$a$" = [.start .paragraph, .text "$a$", .stop .paragraph]
  spanned : ∀ gfm, lib.parser ⟨gfm, true⟩ "$a$" =
    [.start .paragraph, .math "a" false, .stop .paragraph]
  spannedTwice : ∀ gfm, lib.parser ⟨gfm, true⟩ "$a^b^c$" =
    [.start .paragraph, .math "a^b^c" false, .stop .paragraph]
  /-- Math that is understood is not shown as it is written. -/
  understood : ∃ html, (lib.math.render "a" false ()).1 = .ok html ∧ html ≠ "$a$"
  /-- There is no superscript of a superscript without braces. -/
  rejected : ∃ e, (lib.math.render "a^b^c" false ()).1 = .error e

namespace Config

open Cache (Directory HoldsOnly Key Store)
open Compile (Act Question State)
open Render

variable {a b c : Config} {lib : Libraries} {configs : Set Config} {runner : Runner}
  {store : Store} {html : String}

/-- A document with math that the first engine rejects. -/
def doubleScript : String := "$a^b^c$"

private theorem dark_doubleScript : Text.allBlank doubleScript = false := by decide

private theorem events_doubleScript (documented : lib.Documented) (math : c.markdown.math = true) :
    c.events lib doubleScript = [.start .paragraph, .math "a^b^c" false, .stop .paragraph] := by
  rw [events, math]
  exact documented.spannedTwice c.markdown.gfm

private theorem compile_paragraph {σ : Type} (c : Compiler σ) (limit : 0 < c.options.maxNesting)
    (expression : String) (display : Bool) (w : σ) :
    ∃ document s,
      c.compile [.start .paragraph, .math expression display, .stop .paragraph] .initial w =
        (.ok document, s, (c.answer w (.math expression display)).2) ∧
      ∀ html, (c.answer w (.math expression display)).1 = .inline html →
        document = ⟨"<p>" ++ html ++ "</p>", []⟩ := by
  have outermost : ¬ c.options.maxNesting < 1 := by omega
  rcases answered : c.answer w (.math expression display) with ⟨answer, after⟩
  cases answer <;>
    simp [Compiler.compile, Compiler.run, Compiler.tooDeep, Compiler.depthAfter, outermost,
      Compiler.step_eq, Question.ofEvent, Compiler.answerTo, answered, State.initial, Act.ofEvent,
      Act.entering, Act.answeringMath, Act.leaving, Act.perform, State.write, State.writeInline,
      State.writeToken, State.noteText]

def drawing (c : Config) (lib : Libraries) (runner : Runner) : String :=
    (c.functions lib runner).drawn "a^b^c" false

private def drawingKey : Key := .math "a^b^c" false

private theorem mathKey_doubleScript (caches : c.caching.math = true) :
    ((c.renderer lib runner).setting {}).mathKey "a^b^c" false = some drawingKey := by
  simp [Setting.mathKey, Renderer.setting, renderer, caches, drawingKey]

private theorem math_of_found (caches : c.caching.math = true)
    (found : Cache.get? store drawingKey.text = some html) :
    ((c.renderer lib runner).setting {}).math { world := ⟨store, ()⟩ } "a^b^c" false =
      (.inline html, { world := ⟨store, ()⟩ }) := by
  simp only [Setting.math, mathKey_doubleScript caches, World.find?, found]
  rfl

private theorem math_of_missed (documented : lib.Documented) (caches : c.caching.math = true)
    (missed : Cache.get? store drawingKey.text = none) :
    ((c.renderer lib runner).setting {}).math { world := ⟨store, ()⟩ } "a^b^c" false =
      ({ world := ⟨store, ()⟩ } : Pass Store Unit).deferMath
        (.math "a^b^c" false (some drawingKey)) := by
  obtain ⟨e, rejected⟩ := documented.rejected
  have engine : ((c.renderer lib runner).setting {}).engines.math.render "a^b^c" false () =
      (.error e, ()) := Prod.ext rejected rfl
  simp only [Setting.math, mathKey_doubleScript caches, World.find?, missed, engine]
  rfl

private theorem begin_doubleScript (documented : lib.Documented) (math : c.markdown.math = true)
    (limit : 0 < c.markdown.maxNesting) {key : Option Key}
    (keyed : (c.renderer lib runner).resultKey doubleScript {} = key)
    (looked : (⟨store, ()⟩ : World Store Unit).find? key = (none, ⟨store, ()⟩))
    {answer : Answer} {pass : Pass Store Unit}
    (answered : ((c.renderer lib runner).setting {}).math { world := ⟨store, ()⟩ } "a^b^c" false =
      (answer, pass)) :
    ∃ document,
      (c.renderer lib runner).begin doubleScript {} ⟨store, ()⟩ =
        (.inr ⟨document, pass.jobs, key⟩, pass.world) ∧
      ∀ html, answer = .inline html → document = ⟨"<p>" ++ html ++ "</p>", []⟩ := by
  obtain ⟨document, s, compiled, shown⟩ := compile_paragraph
    ((c.renderer lib runner).compiler Store {}) limit "a^b^c" false { world := ⟨store, ()⟩ }
  have asked : ((c.renderer lib runner).compiler Store {}).answer { world := ⟨store, ()⟩ }
      (.math "a^b^c" false) = (answer, pass) := answered
  rw [asked] at compiled shown
  have read : (c.renderer lib runner).events doubleScript {} = _ := events_doubleScript documented math
  refine ⟨document, ?_, shown⟩
  simp only [Renderer.begin, dark_doubleScript, Bool.false_eq_true, if_false, keyed, looked,
    Renderer.compile, read, compiled]
  rfl

private theorem startAll_drawing (c : Config) (lib : Libraries) (runner : Runner) (store : Store) :
    Slot.startAll (Job.startAndPoll (c.renderer lib runner).engines.fallback)
      [(⟨.math, 0⟩, .math "a^b^c" false (some drawingKey))] (⟨store, ()⟩ : World Store Unit) =
        ([⟨⟨.math, 0⟩, .inr (c.drawing lib runner)⟩],
          ⟨Cache.set store drawingKey.text (c.drawing lib runner), ()⟩) := by
  have polled : Job.startAndPoll (c.renderer lib runner).engines.fallback
      (.math "a^b^c" false (some drawingKey)) (⟨store, ()⟩ : World Store Unit) =
        (.inr (c.drawing lib runner), if (Outcome.ofTypeset false
          ((c.functions lib runner).typeset "a^b^c" .inline)).lasting then
            ⟨Cache.set store drawingKey.text (c.drawing lib runner), ()⟩ else ⟨store, ()⟩) := rfl
  simp only [Slot.startAll, polled, Outcome.lasting_ofTypeset, if_true]

private theorem cache_render_doubleScript (documented : lib.Documented) (math : c.markdown.math = true)
    (limit : 0 < c.markdown.maxNesting) (caches : c.caching.math = true)
    (results : c.caching.result = false) (runner : Runner)
    (missed : Cache.get? store drawingKey.text = none) :
    ((c.renderer lib runner).render doubleScript {} ⟨store, ()⟩).2.cache =
      Cache.set store drawingKey.text (c.drawing lib runner) := by
  have keyed : (c.renderer lib runner).resultKey doubleScript {} = none := by
    simp [Renderer.resultKey, renderer, results]
  obtain ⟨document, begun, -⟩ :=
    begin_doubleScript documented math limit keyed rfl (math_of_missed documented caches missed)
  obtain ⟨html, complete⟩ : ∃ html, assemble? document
      [(⟨⟨.math, 0⟩, .inr (c.drawing lib runner)⟩ : Slot (Running Unit))] = some html := ⟨_, rfl⟩
  rw [Renderer.render_of_started begun (startAll_drawing c lib runner store) complete]
  rfl

private theorem render_doubleScript_of_found (documented : lib.Documented)
    (math : c.markdown.math = true)
    (limit : 0 < c.markdown.maxNesting) (caches : c.caching.math = true)
    (missed : Cache.get? store (Key.result doubleScript).text = none)
    (found : Cache.get? store drawingKey.text = some html) :
    ((c.renderer lib runner).render doubleScript {} ⟨store, ()⟩).1 =
      .ok ("<p>" ++ html ++ "</p>") := by
  have looked : (⟨store, ()⟩ : World Store Unit).find?
      ((c.renderer lib runner).resultKey doubleScript {}) = (none, ⟨store, ()⟩) := by
    unfold Renderer.resultKey
    split
    · simp only [World.find?, missed]
      rfl
    · rfl
  obtain ⟨document, begun, shown⟩ :=
    begin_doubleScript documented math limit rfl looked (math_of_found caches found)
  obtain rfl := shown html rfl
  exact congrArg Prod.fst (Renderer.render_of_started begun rfl rfl)

theorem html_of_paragraph {text expression : String} (dark : Text.allBlank text = false)
    (read : c.events lib text = [.start .paragraph, .math expression false, .stop .paragraph])
    (limit : 0 < c.markdown.maxNesting) :
    c.html lib runner text =
      .ok ("<p>" ++ (c.functions lib runner).span expression false ++ "</p>") := by
  obtain ⟨document, s, compiled, shown⟩ := compile_paragraph
    (Compiler.inlining c.markdown (c.functions lib runner).value) limit expression false ()
  have answered := congrArg Prod.fst
    (Compiler.answer_inlining c.markdown (c.functions lib runner).value (.math expression false))
  rw [html_of_compile dark read document s compiled, shown _ answered]
  rfl

theorem html_doubleScript (documented : lib.Documented) (math : c.markdown.math = true)
    (limit : 0 < c.markdown.maxNesting) (runner : Runner) :
    c.html lib runner doubleScript = .ok ("<p>" ++ c.drawing lib runner ++ "</p>") := by
  obtain ⟨e, rejected⟩ := documented.rejected
  have rejected : (c.functions lib runner).math "a^b^c" false = .error e := rejected
  rw [html_of_paragraph dark_doubleScript (events_doubleScript documented math) limit,
    EngineFunctions.span, rejected]
  rfl

private theorem exists_drawn (documented : lib.Documented) (caches : c.cachesMath = true)
    (limit : 0 < c.markdown.maxNesting)
    (results : c.caching.result = false) (runner : Runner) (version : String) :
    ∃ d : Directory, (c.render lib runner (some ["cache"]) version doubleScript {}).2 = d.tree ∧
      d.root = ["cache"] ∧ d.Open version ∧ d.get? (Key.result doubleScript).text = none ∧
      d.get? drawingKey.text = some (c.drawing lib runner) := by
  obtain ⟨on, both⟩ := Bool.and_eq_true_iff.mp caches
  obtain ⟨kept, math⟩ := Bool.and_eq_true_iff.mp both
  obtain ⟨d, new, root, opened, empty⟩ := exists_cache on version
  have missed : d.get? drawingKey.text = none :=
    Directory.get?_eq_none empty fun _ => not_false
  have left : (c.render lib runner (some ["cache"]) version doubleScript {}).2 =
      (d.set drawingKey.text (c.drawing lib runner)).tree := by
    unfold Config.render
    rw [new]
    dsimp only
    rw [cache_render_doubleScript documented math limit kept results runner missed]
    rfl
  have only : HoldsOnly (fun key _ => key = drawingKey.text) d.root
      (d.set drawingKey.text (c.drawing lib runner)).tree := by
    refine Directory.holdsOnly_set (fun shelf name bytes stands key html found => ?_) fun _ => rfl
    exact (empty shelf name bytes stands key html found).elim
  have fits : Cache.Entry.Fits drawingKey.text := by
    unfold Cache.Entry.Fits
    decide
  exact ⟨d.set drawingKey.text (c.drawing lib runner), left, root, opened.set _ _,
    Directory.get?_eq_none only fun _ => by decide, opened.get?_set_self fits _⟩

theorem eq_of_paragraph (first second : String)
    (same : (.ok ("<p>" ++ first ++ "</p>") : Except CompileError String) =
      .ok ("<p>" ++ second ++ "</p>")) : first = second := by
  have lists := congrArg String.toList (Except.ok.inj same)
  exact String.toList_inj.mp (by simpa using lists)

theorem drawing_of_cachesResults (documented : lib.Documented) (safe : ShareSafely lib configs)
    (member : a ∈ configs)
    (member' : b ∈ configs) (caches : a.cachesResults = true) (caches' : b.cachesResults = true)
    (math : a.markdown.math = true) (math' : b.markdown.math = true)
    (limit : 0 < a.markdown.maxNesting) (limit' : 0 < b.markdown.maxNesting) (runner : Runner) :
    a.drawing lib runner = b.drawing lib runner := by
  have fits : Cache.Entry.Fits (Key.result doubleScript).text := by
    unfold Cache.Entry.Fits
    decide
  have shown := html_of_shareSafely documented.toOrderly safe member member' caches caches' fits
    (html_doubleScript documented math limit runner)
  exact eq_of_paragraph _ _ (shown.symm.trans (html_doubleScript documented math' limit' runner))

/-- What one configuration stores of math is shown by another one, which must draw it alike. -/
theorem drawing_of_cachesMath (documented : lib.Documented) (safe : ShareSafely lib configs)
    (member : a ∈ configs)
    (member' : b ∈ configs) (caches : a.cachesMath = true) (caches' : b.cachesMath = true)
    (limit : 0 < a.markdown.maxNesting) (limit' : 0 < b.markdown.maxNesting)
    (results : a.caching.result = false) (runner : Runner) :
    a.drawing lib runner = b.drawing lib runner := by
  obtain ⟨on, both⟩ := Bool.and_eq_true_iff.mp caches'
  obtain ⟨kept, math⟩ := Bool.and_eq_true_iff.mp both
  obtain ⟨d, left, root, opened, absent, found⟩ := exists_drawn documented caches limit results runner ""
  have after := render_after_of_shareSafely documented.toOrderly safe member member' runner doubleScript
  rw [left, html_doubleScript documented math limit'] at after
  unfold Config.render at after
  rw [cache_of_open on root opened] at after
  have shown := (render_doubleScript_of_found documented math limit' kept absent found).symm.trans after
  exact eq_of_paragraph _ _ shown

end Config

end Mathdown
