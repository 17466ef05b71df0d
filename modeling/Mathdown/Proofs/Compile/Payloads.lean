import Mathlib.Data.List.Forall2
import Mathlib.Data.Option.Basic
import Mathdown.Compile.Moment
import Mathdown.Event.Shape
import Mathdown.Proofs.Html.Tags

/-!
The texts of a document write no tags. Two documents that are alike but for their texts, and have no raw
HTML, are compiled to the same tags, or are rejected both, whether their elements nest or not.
-/

namespace Mathdown

namespace Html

/-- Whether two texts have the same tags, which they complete. -/
def SameTags (first second : String) : Prop :=
  ∃ marks, Reads .text first marks .text ∧ Reads .text second marks .text

namespace SameTags

variable {first second front back : String}

theorem tags_eq (same : SameTags first second) : tags first = tags second := by
  obtain ⟨marks, reads, reads'⟩ := same
  rw [reads.tags_eq, reads'.tags_eq]

theorem append (same : SameTags first second) (same' : SameTags front back) :
    SameTags (first ++ front) (second ++ back) := by
  obtain ⟨marks, reads, reads'⟩ := same
  obtain ⟨more, goesOn, goesOn'⟩ := same'
  exact ⟨marks ++ more, reads.append goesOn, reads'.append goesOn'⟩

theorem of_read {text : String} (ends : (read .text text.toList).2 = .text) : SameTags text text :=
  ⟨tags text, Prod.ext rfl ends, Prod.ext rfl ends⟩

theorem heading (level : Nat) {id id' : String} (unquoted : ∀ c ∈ id.toList, c ≠ '"')
    (unquoted' : ∀ c ∈ id'.toList, c ≠ '"') (same : SameTags first second) :
    SameTags (headingStart level id ++ (Text.trim first ++ headingStop level))
      (headingStart level id' ++ (Text.trim second ++ headingStop level)) := by
  obtain ⟨marks, reads, reads'⟩ := same
  exact ⟨_, (reads_headingStart level unquoted).append (reads_trim_headingStop level reads),
    (reads_headingStart level unquoted').append (reads_trim_headingStop level reads')⟩

end SameTags

end Html

namespace Compile

open Html (SameTags)

/-- States that have written the same tags, and will go on to, whatever texts they hold. -/
structure State.SameTags (s t : State) : Prop where
  output : Html.SameTags s.output t.output
  heading : Option.Rel (fun heading heading' => heading.level = heading'.level ∧
    Html.SameTags heading.html heading'.html) s.heading t.heading
  depth : s.depth = t.depth
  code : s.code.isSome = t.code.isSome
  image : s.image.isSome = t.image.isSome
  table : s.table = t.table
  quotes : s.quotes = t.quotes

/-- Acts that write the same tags, and are the same but for their texts. -/
inductive Act.SameTags : Act → Act → Prop
  | write {html html' : String} (same : Html.SameTags html html') : SameTags (.write html) (.write html')
  | inline {html html' : String} (same : Html.SameTags html html') :
      SameTags (.inline html) (.inline html')
  | noteText (text text' : String) : SameTags (.noteText text) (.noteText text')
  | noteAlt (text text' : String) : SameTags (.noteAlt text) (.noteAlt text')
  | beginHeading (level : Nat) : SameTags (.beginHeading level) (.beginHeading level)
  | endHeading : SameTags .endHeading .endHeading
  | setCode {code code' : Option CodeCapture} (same : code.isSome = code'.isSome) :
      SameTags (.setCode code) (.setCode code')
  | setImage {image image' : Option ImageCapture} (same : image.isSome = image'.isSome) :
      SameTags (.setImage image) (.setImage image')
  | setTable (table : TableCursor) : SameTags (.setTable table) (.setTable table)
  | setQuotes (quotes : List (Option AlertKind)) : SameTags (.setQuotes quotes) (.setQuotes quotes)

namespace State.SameTags

variable {s t : State}

theorem initial : State.SameTags .initial .initial :=
  ⟨.of_read rfl, .none, rfl, rfl, rfl, rfl, rfl⟩

theorem setDepth (same : s.SameTags t) (depth : Nat) :
    State.SameTags { s with depth } { t with depth } :=
  { same with depth := rfl }

private theorem writeInline (same : s.SameTags t) {html html' : String}
    (markup : Html.SameTags html html') : (s.writeInline html).SameTags (t.writeInline html') := by
  have heading := same.heading
  simp only [State.writeInline, same.image]
  split
  · exact same
  · generalize opened : s.heading = first at heading
    generalize opened' : t.heading = second at heading
    cases heading with
    | none => exact { same with output := same.output.append markup }
    | some alike => exact { same with heading := .some ⟨alike.1, alike.2.append markup⟩ }

private theorem noteText (same : s.SameTags t) (text text' : String) :
    (s.noteText text).SameTags (t.noteText text') := by
  have heading := same.heading
  unfold State.noteText
  generalize opened : s.heading = first at heading
  generalize opened' : t.heading = second at heading
  cases heading with
  | none => exact same
  | some alike => exact { same with heading := .some alike }

private theorem noteAlt (same : s.SameTags t) (text text' : String) :
    (s.noteAlt text).SameTags (t.noteAlt text') := by
  have image := same.image
  unfold State.noteAlt
  cases held : s.image <;> cases held' : t.image <;> rw [held, held'] at image
  · exact same
  · cases image
  · cases image
  · exact { same with image := rfl }

private theorem finishHeading (same : s.SameTags t) : s.finishHeading.SameTags t.finishHeading := by
  have heading := same.heading
  unfold State.finishHeading
  generalize opened : s.heading = first at heading
  generalize opened' : t.heading = second at heading
  cases heading with
  | none => exact same
  | @some a b alike =>
    have written := Html.SameTags.heading b.level (unquoted_headingId { s with heading := none } a.text)
      (unquoted_headingId { t with heading := none } b.text) alike.2
    refine { same with output := ?_, heading := .none }
    simp only [State.write, alike.1, String.append_assoc]
    exact same.output.append written

theorem perform (same : s.SameTags t) {act act' : Act} (alike : act.SameTags act') :
    (act.perform s).SameTags (act'.perform t) := by
  cases alike with
  | write markup => exact { same with output := same.output.append markup }
  | inline markup => exact same.writeInline markup
  | noteText text text' => exact same.noteText text text'
  | noteAlt text text' => exact same.noteAlt text text'
  | beginHeading level => exact { same with heading := .some ⟨rfl, .of_read rfl⟩ }
  | endHeading => exact same.finishHeading
  | setCode code => exact { same with code }
  | setImage image => exact { same with image }
  | setTable table => exact { same with table := rfl }
  | setQuotes quotes => exact { same with quotes := rfl }

theorem performAll (same : s.SameTags t) {acts acts' : List Act}
    (alike : List.Forall₂ Act.SameTags acts acts') :
    (Act.performAll acts s).SameTags (Act.performAll acts' t) := by
  induction alike generalizing s t with
  | nil => exact same
  | cons first _ ih => exact ih (same.perform first)

end State.SameTags

namespace Act

variable {s t : State} {options : CompilerOptions}

private theorem sameTags_write {html : String} (ends : (Html.read .text html.toList).2 = .text) :
    List.Forall₂ Act.SameTags [.write html] [.write html] :=
  .cons (.write (.of_read ends)) .nil

private theorem sameTags_inline {html : String} (ends : (Html.read .text html.toList).2 = .text) :
    List.Forall₂ Act.SameTags [.inline html] [.inline html] :=
  .cons (.inline (.of_read ends)) .nil

private theorem sameTags_showing (same : s.SameTags t) (text text' : String) {html html' : String}
    (markup : Html.SameTags html html') :
    List.Forall₂ Act.SameTags (showing s text html) (showing t text' html') := by
  unfold showing
  rw [same.image]
  split
  · exact .cons (.noteAlt text text') .nil
  · exact .cons (.noteText text text') (.cons (.inline markup) .nil)

private theorem sameTags_entering (same : s.SameTags t) {tag tag' : Tag} (like : tag.Like tag') :
    List.Forall₂ Act.SameTags (entering s tag) (entering t tag') := by
  cases like with
  | fence info info' => exact .cons (.setCode rfl) .nil
  | link url title url' title' =>
    exact .cons (.inline ⟨_, Html.reads_linkStart url, Html.reads_linkStart url'⟩) .nil
  | image url title url' title' => exact .cons (.setImage rfl) .nil
  | refl =>
    cases tag with
    | paragraph | item | definitionList | definitionTerm | definitionBody =>
      exact sameTags_write rfl
    | heading level => exact .cons (.beginHeading level) .nil
    | blockQuote kind =>
      simp only [entering, same.quotes]
      refine .cons (.setQuotes _) (sameTags_write ?_)
      cases kind with
      | none => rfl
      | some kind => exact congrArg Prod.snd (Html.reads_alertStart kind)
    | codeBlock info => exact .cons (.setCode rfl) .nil
    | list first => exact sameTags_write (congrArg Prod.snd (Html.reads_listStart first))
    | htmlBlock | footnoteDefinition label | metadata => exact .nil
    | table columns => exact .cons (.setTable _) (sameTags_write rfl)
    | tableHead | tableRow =>
      simp only [entering, same.table]
      exact .cons (.setTable _) (sameTags_write rfl)
    | tableCell =>
      simp only [entering, same.table]
      exact sameTags_write (congrArg Prod.snd (Html.reads_cellStart _ _))
    | emphasis | strong | strikethrough | superscript | subscript => exact sameTags_inline rfl
    | link url title => exact sameTags_inline (congrArg Prod.snd (Html.reads_linkStart url))
    | image url title => exact .cons (.setImage rfl) .nil

private theorem sameTags_leaving (same : s.SameTags t) (tag : TagEnd) :
    List.Forall₂ Act.SameTags (leaving s tag) (leaving t tag) := by
  cases tag with
  | paragraph | item | definitionList | definitionTerm | definitionBody | table | tableRow =>
    exact sameTags_write rfl
  | heading level => exact .cons .endHeading .nil
  | blockQuote =>
    simp only [leaving, same.quotes]
    split <;> exact .cons (.setQuotes _) (sameTags_write rfl)
  | list ordered => exact sameTags_write (congrArg Prod.snd (Html.reads_listStop ordered))
  | footnoteDefinition | htmlBlock | metadata | codeBlock => exact .nil
  | image =>
    have image := same.image
    simp only [leaving]
    cases held : s.image <;> cases held' : t.image <;> rw [held, held'] at image
    · exact .nil
    · cases image
    · cases image
    · exact .cons (.setImage rfl) (.cons (.inline ⟨_, Html.reads_image .., Html.reads_image ..⟩) .nil)
  | tableHead =>
    simp only [leaving, same.table]
    exact .cons (.setTable _) (sameTags_write rfl)
  | tableCell =>
    simp only [leaving, same.table]
    exact .cons (.setTable _) (sameTags_write (congrArg Prod.snd (Html.reads_cellStop _)))
  | emphasis | strong | strikethrough | superscript | subscript | link => exact sameTags_inline rfl

private theorem ofEvent_stop (options : CompilerOptions) (s : State) (answer : Answer) {tag : TagEnd}
    (other : tag ≠ .codeBlock) : ofEvent options s answer (.stop tag) = leaving s tag := by
  cases tag with
  | codeBlock => exact absurd rfl other
  | _ => rfl

/-- Events that are alike do what writes the same tags, if no processor answers them. -/
theorem sameTags_ofEvent (same : s.SameTags t) (unnumbered : options.lineNumbers = false)
    {event event' : Event} (like : event.Like event') (shown : event.isRaw = false) :
    List.Forall₂ Act.SameTags (ofEvent options s .passThrough event)
      (ofEvent options t .passThrough event') := by
  have text (text text' : String) :
      List.Forall₂ Act.SameTags (ofEvent options s .passThrough (.text text))
        (ofEvent options t .passThrough (.text text')) := by
    have code := same.code
    simp only [ofEvent]
    cases held : s.code <;> cases held' : t.code <;> rw [held, held'] at code
    · exact sameTags_showing same _ _ ⟨_, Html.reads_escapeHtml text, Html.reads_escapeHtml text'⟩
    · cases code
    · cases code
    · exact .cons (.setCode rfl) .nil
  have math (expression expression' : String) (display : Bool) :
      List.Forall₂ Act.SameTags (ofEvent options s .passThrough (.math expression display))
        (ofEvent options t .passThrough (.math expression' display)) := by
    simp only [ofEvent, same.image]
    split
    · exact .cons (.noteAlt _ _) .nil
    · exact .cons (.noteText _ _)
        (.cons (.inline ⟨_, Html.reads_math expression display, Html.reads_math expression' display⟩)
          .nil)
  cases like with
  | start like => exact sameTags_entering same like
  | text first second => exact text first second
  | code first second =>
    exact sameTags_showing same _ _ ⟨_, Html.reads_codeSpan first, Html.reads_codeSpan second⟩
  | math first second display => exact math first second display
  | refl =>
    cases event with
    | start tag => exact sameTags_entering same (.refl tag)
    | stop tag =>
      by_cases code : tag = .codeBlock
      · subst code
        simp only [ofEvent, answeringCode, unnumbered]
        exact .cons (.setCode rfl)
          (.cons (.write ⟨_, Html.reads_codeBlock _ _, Html.reads_codeBlock _ _⟩) .nil)
      · rw [ofEvent_stop options s _ code, ofEvent_stop options t _ code]
        exact sameTags_leaving same tag
    | text first => exact text first first
    | code first =>
      exact sameTags_showing same _ _ ⟨_, Html.reads_codeSpan first, Html.reads_codeSpan first⟩
    | math first display => exact math first first display
    | html html | inlineHtml html => cases shown
    | footnoteReference label => exact .nil
    | softBreak =>
      simp only [ofEvent, same.image]
      split
      · exact .cons (.noteAlt _ _) .nil
      · exact sameTags_inline rfl
    | hardBreak => exact sameTags_inline rfl
    | rule => exact sameTags_write rfl
    | taskMarker checked => exact sameTags_write (congrArg Prod.snd (Html.reads_taskMarker checked))

end Act

end Compile

namespace Compiler

open Compile (Act State)

variable {σ : Type}

private theorem answerTo_silent (options : CompilerOptions) (w : σ)
    (question : Option Compile.Question) :
    ({ options } : Compiler σ).answerTo w question = (.passThrough, w) := by
  rcases question with _ | ⟨_, _⟩ | ⟨_, _⟩ <;> rfl

/-- A run over events that are alike ends alike, in states that have written the same tags. -/
theorem sameTags_run (options : CompilerOptions) (unnumbered : options.lineNumbers = false)
    {events events' : List Event} (like : List.Forall₂ Event.Like events events')
    (shown : ∀ event ∈ events, event.isRaw = false) {s t : State} (same : s.SameTags t) (w : σ) :
    let c : Compiler σ := { options }
    (c.run events s w).1 = (c.run events' t w).1 ∧
      (c.run events s w).2.1.SameTags (c.run events' t w).2.1 := by
  intro c
  induction like generalizing s t w with
  | nil => exact ⟨rfl, same⟩
  | @cons event event' _ _ first _ ih =>
    obtain ⟨here, others⟩ := List.forall_mem_cons.mp shown
    have depth : depthAfter s.depth event = depthAfter t.depth event' ∧
        tooDeep options.maxNesting s.depth event = tooDeep options.maxNesting t.depth event' := by
      rw [same.depth]
      cases first <;> exact ⟨rfl, rfl⟩
    have deeper := same.setDepth (depthAfter t.depth event')
    simp only [run, c, depth.1, depth.2]
    split
    · exact ⟨rfl, deeper⟩
    · rw [step_eq, step_eq, answerTo_silent, answerTo_silent]
      exact ih others (deeper.performAll (Act.sameTags_ofEvent deeper unnumbered first here)) w

/-- The tags of compiled HTML do not depend on the texts of the document. -/
theorem tags_compile_congr (options : CompilerOptions) (unnumbered : options.lineNumbers = false)
    {events events' : List Event} (like : List.Forall₂ Event.Like events events')
    (shown : ∀ event ∈ events, event.isRaw = false) (w : σ) :
    let c : Compiler σ := { options }
    (∃ error, (c.compile events .initial w).1 = .error error ∧
        (c.compile events' .initial w).1 = .error error) ∨
      ∃ document document', (c.compile events .initial w).1 = .ok document ∧
        (c.compile events' .initial w).1 = .ok document' ∧
        Html.tags document.html = Html.tags document'.html := by
  intro c
  have ends : (c.run events .initial w).1 = (c.run events' .initial w).1 ∧
      (c.run events .initial w).2.1.SameTags (c.run events' .initial w).2.1 :=
    sameTags_run options unnumbered like shown .initial w
  simp only [compile]
  generalize c.run events .initial w = first at ends ⊢
  generalize c.run events' .initial w = second at ends ⊢
  obtain ⟨error, s, _⟩ := first
  obtain ⟨error', t, _⟩ := second
  obtain ⟨rfl, same⟩ := ends
  cases error with
  | none => exact .inr ⟨_, _, rfl, rfl, same.output.tags_eq⟩
  | some error => exact .inl ⟨error, rfl, rfl⟩

/-- Texts that look like markup, in a heading, a link and an image that is left without being entered. -/
theorem tags_compile_congr_markup :
    let c : Compiler Unit := {}
    ∃ document document',
      (c.compile [.stop .image, .start (.heading 2), .text "<b>", .code "</h2>", .stop (.heading 2),
        .start (.link "\"><i>" "'"), .start (.codeBlock (some "\">x")), .text "</code>", .stop .codeBlock,
        .start (.image "\">" "<p>"), .math "\" alt=\"" true, .stop .image] .initial ()).1 =
          .ok document ∧
      (c.compile [.stop .image, .start (.heading 2), .text "a", .code "b", .stop (.heading 2),
        .start (.link "c" "d"), .start (.codeBlock (some "e")), .text "f", .stop .codeBlock,
        .start (.image "g" ""), .math "h" true, .stop .image] .initial ()).1 = .ok document' ∧
      Html.tags document.html = Html.tags document'.html := by
  intro c
  have like : List.Forall₂ Event.Like
      [.stop .image, .start (.heading 2), .text "<b>", .code "</h2>", .stop (.heading 2),
        .start (.link "\"><i>" "'"), .start (.codeBlock (some "\">x")), .text "</code>", .stop .codeBlock,
        .start (.image "\">" "<p>"), .math "\" alt=\"" true, .stop .image]
      [.stop .image, .start (.heading 2), .text "a", .code "b", .stop (.heading 2),
        .start (.link "c" "d"), .start (.codeBlock (some "e")), .text "f", .stop .codeBlock,
        .start (.image "g" ""), .math "h" true, .stop .image] := by
    repeat' constructor
  obtain ⟨error, failed, -⟩ | found := tags_compile_congr {} rfl like (by decide) ()
  · cases failed
  · exact found

end Compiler

end Mathdown
