import Mathdown.Proofs.Config.Drawings
import Mathdown.Proofs.Markdown.Math

namespace Mathdown.Config

open Cache (Key)
open Compile (Act Question State)

variable {a b c : Config} {lib : Libraries} {configs : Set Config} {runner : Runner} {text : String}

theorem limit_of_validate (valid : c.validate = .ok ()) : 0 < c.markdown.maxNesting := by
  unfold validate at valid
  split at valid
  · cases valid
  · split at valid
    · cases valid
    · rename_i limit
      exact Nat.pos_of_ne_zero limit

/-- Programs that draw one thing for a configuration, and another thing for all others. -/
private def telling (c : Config) : Runner := fun program args =>
  if program = c.fallback.program ∧ args = c.fallback.arguments "a^b^c" .inline then
    .ended (.code 0) [0x78] []
  else .ended (.code 0) [0x79] []

private theorem drawing_eq {output : List UInt8} (ends : runner c.fallback.program
    (c.fallback.arguments "a^b^c" .inline) = .ended (.code 0) output [])
    (trimmed : Text.trim (Text.Utf8.decodeLossy output) = text) (some : text ≠ "") :
    c.drawing lib runner = text := by
  have typeset : (c.functions lib runner).typeset "a^b^c" .inline = .ok text := by
    simp [functions, ends, Command.result, ExitStatus.isSuccess, trimmed, some]
  change (Render.Outcome.ofTypeset false ((c.functions lib runner).typeset "a^b^c" .inline)).html = _
  rw [typeset]
  rfl

private theorem arguments_injective {first second : Command} {expression : String}
    {format : TexFormat} (same : first.arguments expression format = second.arguments expression format) :
    first.args = second.args := by
  unfold Command.arguments at same
  exact List.append_cancel_right (List.append_cancel_right same)

private theorem fallback_of_drawing (lib : Libraries)
    (alike : ∀ runner, a.drawing lib runner = b.drawing lib runner) : a.fallback = b.fallback := by
  by_contra differs
  have own : a.drawing lib (telling a) = "x" :=
    drawing_eq (if_pos ⟨rfl, rfl⟩) (by cbv) (by decide)
  have other : b.drawing lib (telling a) = "y" := by
    refine drawing_eq (if_neg ?_) (by cbv) (by decide)
    rintro ⟨program, arguments⟩
    have args := arguments_injective arguments
    cases first : a.fallback
    cases second : b.fallback
    rw [first, second] at program args differs
    exact differs (congrArg₂ Command.mk program.symm args.symm)
  have same := alike (telling a)
  rw [own, other] at same
  exact absurd same (by decide)

private theorem fallback_of_cachesMath (documented : lib.Documented)
    (safe : ShareSafely lib configs) (member : a ∈ configs)
    (member' : b ∈ configs) (limit : 0 < a.markdown.maxNesting) (limit' : 0 < b.markdown.maxNesting)
    (caches : a.cachesMath = true) (caches' : b.cachesMath = true) : a.fallback = b.fallback := by
  refine fallback_of_drawing lib fun runner => ?_
  obtain ⟨on, both⟩ := Bool.and_eq_true_iff.mp caches
  obtain ⟨on', both'⟩ := Bool.and_eq_true_iff.mp caches'
  -- One that caches no documents is to be the first, so that only its drawing is found.
  cases results : a.caching.result with
  | false =>
    exact drawing_of_cachesMath documented safe member member' caches caches' limit limit' results runner
  | true =>
    cases results' : b.caching.result with
    | false =>
      have drawn := drawing_of_cachesMath documented safe member' member caches' caches limit' limit results'
      exact (drawn runner).symm
    | true =>
      exact drawing_of_cachesResults documented safe member member' (Bool.and_eq_true_iff.mpr ⟨on, results⟩)
        (Bool.and_eq_true_iff.mpr ⟨on', results'⟩) (Bool.and_eq_true_iff.mp both).2
        (Bool.and_eq_true_iff.mp both').2 limit limit' runner

/-- No programs. -/
def silent : Runner := fun _ _ => .notFound

/--
Whether a text that can be cached shows an option: it becomes the same for all configurations without it,
whatever programs do, and never that for one with it.
-/
structure Shows (lib : Libraries) (text : String) (option : CompilerOptions → Bool) : Prop where
  fits : Cache.Entry.Fits (Key.result text).text
  differs : ∃ plain, ∀ (c : Config) (runner : Runner), 0 < c.markdown.maxNesting →
    (option c.markdown = false → c.html lib runner text = .ok plain) ∧
      (option c.markdown = true → c.html lib runner text ≠ .ok plain)

private theorem html_of_plain {shown : String} (dark : Text.allBlank text = false)
    (read : c.events lib text = [.start .paragraph, .text shown, .stop .paragraph])
    (limit : 0 < c.markdown.maxNesting) :
    c.html lib runner text = .ok ("<p>" ++ Text.escapeHtml shown ++ "</p>") := by
  have outermost : ¬ c.markdown.maxNesting < 1 := by omega
  refine html_of_compile dark read ⟨_, []⟩ .initial ?_
  simp [Compiler.compile, Compiler.run, Compiler.inlining, Compiler.tooDeep, Compiler.depthAfter,
    outermost, Compiler.step_eq, Question.ofEvent, Compiler.answerTo, State.initial, Act.ofEvent,
    Act.entering, Act.showing, Act.leaving, Act.perform, State.write, State.writeInline, State.noteText]

private theorem html_of_struck {shown html : String} (dark : Text.allBlank text = false)
    (read : c.events lib text = [.start .paragraph, .start .strikethrough, .text shown,
      .stop .strikethrough, .stop .paragraph])
    (rendered : c.html lib runner text = .ok html) :
    html = "<p><s>" ++ Text.escapeHtml shown ++ "</s>" ++ "</p>" := by
  have accepted : c.Accepts lib text := (c.accepts_iff lib runner text).mpr ⟨html, rendered⟩
  have limit : 2 ≤ c.markdown.maxNesting := by
    rw [Accepts, dark, read] at accepted
    by_contra shallow
    obtain none | one : c.markdown.maxNesting = 0 ∨ c.markdown.maxNesting = 1 := by omega
    · simp [Compiler.nestingError, Compiler.tooDeep, none] at accepted
    · simp [Compiler.nestingError, Compiler.tooDeep, Compiler.depthAfter, one] at accepted
  have outermost : ¬ c.markdown.maxNesting < 1 := by omega
  have inner : ¬ c.markdown.maxNesting < 2 := by omega
  have whole : c.html lib runner text =
      .ok ("<p><s>" ++ Text.escapeHtml shown ++ "</s>" ++ "</p>") := by
    refine html_of_compile dark read ⟨_, []⟩ .initial ?_
    simp [Compiler.compile, Compiler.run, Compiler.inlining, Compiler.tooDeep, Compiler.depthAfter,
      outermost, inner, Compiler.step_eq, Question.ofEvent, Compiler.answerTo, State.initial,
      Act.ofEvent, Act.entering, Act.showing, Act.leaving, Act.perform, State.write, State.writeInline,
      State.noteText]
  exact Except.ok.inj (rendered.symm.trans whole)

private theorem html_of_code {source : String} (dark : Text.allBlank text = false)
    (read : c.events lib text = [.start (.codeBlock none), .text source, .stop .codeBlock])
    (limit : 0 < c.markdown.maxNesting) :
    c.html lib runner text = .ok (Html.codeAround none
      (if c.markdown.lineNumbers then some (Text.lines source).length else none)
      ((c.functions lib runner).code none source)) := by
  have outermost : ¬ c.markdown.maxNesting < 1 := by omega
  refine html_of_compile dark read ⟨_, []⟩ .initial ?_
  simp [Compiler.compile, Compiler.run, Compiler.inlining, Compiler.tooDeep, Compiler.depthAfter,
    outermost, Compiler.step_eq, Question.ofEvent, Compiler.answerTo, Compiler.answer, State.initial,
    Act.ofEvent, Act.entering, Act.answeringCode, Act.block, Act.perform, State.write,
    EngineFunctions.value]
  rfl

theorem shows_gfm (documented : lib.Documented) : Shows lib "~~a~~" CompilerOptions.gfm where
  fits := by
    unfold Cache.Entry.Fits
    decide
  differs := by
    have dark : Text.allBlank "~~a~~" = false := by decide
    refine ⟨"<p>~~a~~</p>", fun c runner limit => ⟨fun off => ?_, fun on shown => ?_⟩⟩
    · have read : c.events lib "~~a~~" = [.start .paragraph, .text "~~a~~", .stop .paragraph] := by
        rw [events, off]
        exact documented.unstruck _
      exact html_of_plain dark read limit
    · have read : c.events lib "~~a~~" = [.start .paragraph, .start .strikethrough, .text "a",
          .stop .strikethrough, .stop .paragraph] := by
        rw [events, on]
        exact documented.struck _
      exact absurd (html_of_struck dark read shown) (by decide)

theorem shows_math (documented : lib.Documented) : Shows lib "$a$" CompilerOptions.math where
  fits := by
    unfold Cache.Entry.Fits
    decide
  differs := by
    have dark : Text.allBlank "$a$" = false := by decide
    refine ⟨"<p>$a$</p>", fun c runner limit => ⟨fun off => ?_, fun on shown => ?_⟩⟩
    · have read : c.events lib "$a$" = [.start .paragraph, .text "$a$", .stop .paragraph] := by
        rw [events, off]
        exact documented.dollars _
      exact html_of_plain dark read limit
    · have read : c.events lib "$a$" = [.start .paragraph, .math "a" false, .stop .paragraph] := by
        rw [events, on]
        exact documented.spanned _
      obtain ⟨html, understood, differs⟩ := documented.understood
      have first : (c.functions lib runner).math "a" false = .ok html := understood
      have whole := (html_of_paragraph dark read limit).symm.trans shown
      rw [EngineFunctions.span, first] at whole
      exact differs (eq_of_paragraph html "$a$" whole)

theorem shows_lineNumbers (documented : lib.Documented) :
    Shows lib "    a" CompilerOptions.lineNumbers where
  fits := by
    unfold Cache.Entry.Fits
    decide
  differs := by
    have dark : Text.allBlank "    a" = false := by decide
    have read (c : Config) : c.events lib "    a" = _ := documented.indented _
    have code (c : Config) (runner : Runner) : (c.functions lib runner).code none "a" =
        (({} : Config).functions lib silent).code none "a" := rfl
    refine ⟨Html.codeAround none none ((({} : Config).functions lib silent).code none "a"),
      fun c runner limit => ⟨fun off => ?_, fun on shown => ?_⟩⟩
    · rw [html_of_code dark (read c) limit, off, code c runner]
      rfl
    · rw [html_of_code dark (read c) limit, on, code c runner] at shown
      have lists := congrArg String.toList (Except.ok.inj shown)
      simp [Html.codeAround, Html.codeStart] at lists

variable {option : CompilerOptions → Bool}

private theorem off_of_shareSafely (orderly : lib.parser.Orderly) (safe : ShareSafely lib configs)
    (member : a ∈ configs) (member' : b ∈ configs) (caches : a.cachesResults = true)
    (caches' : b.cachesResults = true) (shows : Shows lib text option)
    (limit : 0 < a.markdown.maxNesting) (limit' : 0 < b.markdown.maxNesting)
    (off : option a.markdown = false) : option b.markdown = false := by
  obtain ⟨plain, differs⟩ := shows.differs
  have shown := html_of_shareSafely orderly safe member member' caches caches' shows.fits
    ((differs a silent limit).1 off)
  exact Bool.eq_false_iff.mpr fun on => (differs b silent limit').2 on shown

private theorem option_of_shareSafely (orderly : lib.parser.Orderly) (safe : ShareSafely lib configs)
    (member : a ∈ configs) (member' : b ∈ configs) (caches : a.cachesResults = true)
    (caches' : b.cachesResults = true) (shows : Shows lib text option)
    (limit : 0 < a.markdown.maxNesting) (limit' : 0 < b.markdown.maxNesting) :
    option a.markdown = option b.markdown := by
  apply Bool.eq_iff_iff.mpr
  rw [← not_iff_not, Bool.not_eq_true, Bool.not_eq_true]
  exact ⟨off_of_shareSafely orderly safe member member' caches caches' shows limit limit',
    off_of_shareSafely orderly safe member' member caches' caches shows limit' limit⟩

private theorem rendersLike_of_shareSafely (documented : lib.Documented)
    (safe : ShareSafely lib configs) (member : a ∈ configs)
    (member' : b ∈ configs) (limit : 0 < a.markdown.maxNesting) (limit' : 0 < b.markdown.maxNesting)
    (caches : a.cachesResults = true) (caches' : b.cachesResults = true) : RendersLike lib a b := by
  have orderly := documented.toOrderly
  have math : a.markdown.math = b.markdown.math :=
    option_of_shareSafely orderly safe member member' caches caches'
      (shows_math documented) limit limit'
  refine ⟨?_, math, ?_, fun text fits => ?_, fun on => ?_⟩
  · exact option_of_shareSafely orderly safe member member' caches caches'
      (shows_gfm documented) limit limit'
  · exact option_of_shareSafely orderly safe member member' caches caches'
      (shows_lineNumbers documented) limit limit'
  · rw [a.accepts_iff lib silent, b.accepts_iff lib silent]
    constructor
    · rintro ⟨html, rendered⟩
      exact ⟨html, html_of_shareSafely orderly safe member member' caches caches' fits rendered⟩
    · rintro ⟨html, rendered⟩
      exact ⟨html, html_of_shareSafely orderly safe member' member caches' caches fits rendered⟩
  · exact fallback_of_drawing lib fun runner => drawing_of_cachesResults documented safe member member' caches
      caches' on (math ▸ on) limit limit' runner

/--
With a parser and engines that do as they are documented to, valid configurations may share a directory
just if any two of them that cache math have the same fallback, and any two of them that cache documents
render all that can be cached alike.
-/
theorem shareSafely_iff (documented : lib.Documented) (valid : ∀ c ∈ configs, c.validate = .ok ()) :
    ShareSafely lib configs ↔ ∀ a ∈ configs, ∀ b ∈ configs, SharesWith lib a b := by
  constructor
  · intro safe a member b member'
    have limit := limit_of_validate (valid a member)
    have limit' := limit_of_validate (valid b member')
    exact ⟨fallback_of_cachesMath documented safe member member' limit limit',
      rendersLike_of_shareSafely documented safe member member' limit limit'⟩
  · exact shareSafely_of_sharesWith documented.toOrderly

/-- The parser and the engines of the program do as they are relied on to do. -/
theorem documented_bundled : Libraries.bundled.Documented where
  nests := .mono Markdown.wellNested_events Event.plainHeadings_of_inlineHeadings
  heedsMath := fun _ text off => Markdown.noMath_events off text
  struck := by decide +kernel
  unstruck := by decide +kernel
  indented := by
    rintro ⟨gfm, math⟩
    revert gfm math
    decide +kernel
  dollars := by decide +kernel
  spanned := by decide +kernel
  spannedTwice := by decide +kernel
  understood := ⟨Tex.html "a" false, by rfl, by decide⟩
  rejected := ⟨_, rfl⟩

/-- The default configuration, and one with another fallback that caches no math. -/
def others : Set Config := {{}, { caching := { math := false }, fallback := ⟨"mathdraw", []⟩ }}

theorem shareSafely_others :
    Libraries.bundled.Documented ∧ (∀ c ∈ others, c.validate = .ok ()) ∧ ShareSafely .bundled others := by
  have valid : ∀ c ∈ others, c.validate = .ok () := by
    rintro c (rfl | rfl) <;> decide
  refine ⟨documented_bundled, valid, (shareSafely_iff documented_bundled valid).mpr ?_⟩
  have plain : ∀ c ∈ others, c.cachesResults = false := by
    rintro c (rfl | rfl) <;> rfl
  intro a member b member'
  refine ⟨fun caches caches' => ?_, fun caches => ?_⟩
  · rcases member with rfl | rfl
    · rcases member' with rfl | rfl
      · rfl
      · cases caches'
    · cases caches
  · cases (plain a member).symm.trans caches

/-- A configuration that caches documents, with the extensions of Markdown or without them. -/
def extended (gfm : Bool) : Config := { caching := { result := true }, markdown := { gfm } }

/-- Who wants the extensions is shown what has been rendered without them. -/
theorem extended_stale :
    (∀ gfm, (extended gfm).validate = .ok ()) ∧
      ((extended true).render .bundled silent (some ["cache"]) "1" "~~a~~"
        ((extended false).render .bundled silent (some ["cache"]) "1" "~~a~~" {}).2).1 =
          .ok "<p>~~a~~</p>" ∧
      ((extended true).render .bundled silent (some ["cache"]) "1" "~~a~~" {}).1 =
        .ok "<p><s>a</s></p>" ∧
      ¬ ShareSafely .bundled (Set.range extended) := by
  have orderly := documented_bundled.toOrderly
  have fits := (shows_gfm documented_bundled).fits
  have without : (extended false).html .bundled silent "~~a~~" = .ok "<p>~~a~~</p>" := by
    decide +kernel
  have extensions : (extended true).html .bundled silent "~~a~~" = .ok "<p><s>a</s></p>" := by
    decide +kernel
  refine ⟨by decide, ?_, ?_, fun safe => ?_⟩
  · exact render_after_render orderly rfl rfl (by decide) fits without "1"
  · rw [← extensions]
    exact render_of_empty orderly _ _ _ _ (emptyAt_nil _)
  · have shown := html_of_shareSafely orderly safe ⟨false, rfl⟩ ⟨true, rfl⟩ rfl rfl fits without
    exact absurd (extensions.symm.trans shown) (by decide)

end Mathdown.Config
