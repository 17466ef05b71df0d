import Mathlib.Data.Option.Basic
import Mathdown.Event.Shape
import Mathdown.Proofs.Compile.Images
import Mathdown.Proofs.Html.Tags
import Mathdown.Proofs.Markdown.Shape

/-!
Compiled HTML is balanced. What stands at a place of a document adds balanced HTML to the output and to
the heading that is open, and leaves all else as it was that the markup behind it depends on.
-/

namespace Mathdown

/-- An image holds no other image. -/
def Event.singleImages : Event.Admission := fun outer inner => !(outer.isImage && inner.isImage)

namespace Compile

open Event (Place)
open Html (Balanced Encloses)

/-- Whether a text has had balanced HTML added to it. -/
def Grown (before after : String) : Prop := ∃ html, Balanced html ∧ after = before ++ html

theorem Grown.refl (text : String) : Grown text text := ⟨"", Html.balanced_empty, by simp⟩

theorem Grown.trans {first second third : String} (one : Grown first second)
    (two : Grown second third) : Grown first third := by
  obtain ⟨front, balanced, rfl⟩ := one
  obtain ⟨back, balanced', rfl⟩ := two
  exact ⟨front ++ back, balanced.append balanced', String.append_assoc ..⟩

theorem Grown.around {front back before after : String} (encloses : Encloses front back)
    (grown : Grown (before ++ front) after) : Grown before (after ++ back) := by
  obtain ⟨html, balanced, rfl⟩ := grown
  exact ⟨front ++ html ++ back, encloses.around balanced, by simp only [String.append_assoc]⟩

/-- Whether a heading is the same but for balanced HTML that has been added. -/
def HeadingCapture.Grows (before after : HeadingCapture) : Prop :=
  after.level = before.level ∧ Grown before.html after.html

/-- What events do that stand at one place and leave what they enter. -/
structure State.Grows (s t : State) : Prop where
  output : Grown s.output t.output
  heading : Option.Rel HeadingCapture.Grows s.heading t.heading
  image : t.image.isSome = s.image.isSome
  code : t.code.isSome = s.code.isSome
  quotes : t.quotes = s.quotes
  inHead : t.table.inHead = s.table.inHead

namespace State.Grows

variable {s t u : State} {html front back : String}

private theorem heading_refl (heading : Option HeadingCapture) :
    Option.Rel HeadingCapture.Grows heading heading := by
  cases heading with
  | none => exact .none
  | some heading => exact .some ⟨rfl, .refl _⟩

theorem refl (s : State) : s.Grows s := ⟨.refl _, heading_refl _, rfl, rfl, rfl, rfl⟩

private theorem heading_trans {first second third : Option HeadingCapture}
    (one : Option.Rel HeadingCapture.Grows first second)
    (two : Option.Rel HeadingCapture.Grows second third) :
    Option.Rel HeadingCapture.Grows first third := by
  cases one with
  | none => exact two
  | some one =>
    cases two with
    | some two => exact .some ⟨two.1.trans one.1, one.2.trans two.2⟩

theorem setDepth (depth : Nat) : s.Grows { s with depth } := { refl s with }

theorem trans (one : s.Grows t) (two : t.Grows u) : s.Grows u where
  output := one.output.trans two.output
  heading := heading_trans one.heading two.heading
  image := two.image.trans one.image
  code := two.code.trans one.code
  quotes := two.quotes.trans one.quotes
  inHead := two.inHead.trans one.inHead

theorem isSome_heading (grows : s.Grows t) : t.heading.isSome = s.heading.isSome := by
  have heading := grows.heading
  generalize s.heading = first at heading ⊢
  generalize t.heading = second at heading ⊢
  cases heading <;> rfl

theorem outside (grows : s.Grows t) (outside : s.heading = none) : t.heading = none := by
  have same := grows.isSome_heading
  rwa [outside, Option.isSome_none, Option.isSome_eq_false_iff, Option.isNone_iff_eq_none] at same

theorem around (encloses : Encloses front back) (grows : (s.write front).Grows t) :
    s.Grows (t.write back) :=
  { grows with output := grows.output.around encloses }

theorem write (balanced : Balanced html) (s : State) : s.Grows (s.write html) :=
  { refl s with output := ⟨html, balanced, rfl⟩ }

theorem inline (balanced : Balanced html) (s : State) : s.Grows (s.writeInline html) := by
  unfold State.writeInline
  split
  · exact refl s
  · split
    · rename_i heading opened
      exact { refl s with heading := by rw [opened]; exact .some ⟨rfl, html, balanced, rfl⟩ }
    · exact write balanced s

theorem token (id : PlaceholderId) (s : State) : s.Grows (s.writeToken id) := by
  have balanced : Balanced id.token := (Html.reads_token id).balanced rfl
  unfold State.writeToken
  split
  · rename_i heading opened
    exact { refl s with heading := by rw [opened]; exact .some ⟨rfl, _, balanced, rfl⟩ }
  · exact { refl s with output := ⟨_, balanced, rfl⟩ }

/-- Elements within a line that are written around what has grown, unless it is in an image. -/
theorem around_inline (encloses : Encloses front back) (grows : (s.writeInline front).Grows t) :
    s.Grows (t.writeInline back) := by
  have image : t.image.isSome = s.image.isSome :=
    grows.image.trans (Act.leaves_perform (.inline front) s |>.image rfl)
  unfold State.writeInline at grows ⊢
  rw [image]
  split
  · rename_i collecting
    rwa [if_pos collecting] at grows
  · rename_i writing
    rw [if_neg writing] at grows
    cases opened : s.heading with
    | none =>
      simp only [opened] at grows
      simp only [grows.outside opened]
      exact grows.around encloses
    | some heading =>
      simp only [opened] at grows
      have grown := grows.heading
      generalize reopened : t.heading = later at grown
      cases grown with
      | some grown =>
        exact { grows with
          heading := by rw [opened]; exact .some ⟨grown.1, grown.2.around encloses⟩ }

theorem finishHeading {level : Nat} (outside : s.heading = none)
    (grows : State.Grows { s with heading := some ⟨level, "", "", []⟩ } t) :
    s.Grows t.finishHeading := by
  have grown := grows.heading
  generalize opened : t.heading = later at grown
  cases grown with
  | @some _ heading grown =>
    obtain ⟨sameLevel, inner, balanced, html⟩ := grown
    obtain ⟨out, before, output⟩ := grows.output
    have content : Balanced heading.html := by rwa [html, String.empty_append]
    have balanced := Html.balanced_heading heading.level (unquoted_headingId t heading.text) content
    simp only [State.finishHeading, opened]
    refine { grows with
      output := ⟨_, before.append balanced, ?_⟩
      heading := ?_ }
    · simp [State.write, State.headingId, output, String.append_assoc]
    · rw [outside]
      exact .none

theorem leaveQuote {kind : Option AlertKind}
    (grows : State.Grows (State.write { s with quotes := kind :: s.quotes }
      ((kind.map Html.alertStart).getD Html.quoteStart)) t) :
    s.Grows (Compiler.leave .blockQuote t) := by
  have quotes : t.quotes = kind :: s.quotes := grows.quotes
  cases kind with
  | none =>
    have encloses : Encloses Html.quoteStart Html.quoteStop :=
      Html.encloses_element "blockquote" rfl rfl rfl
    simp only [Compiler.leave, quotes]
    exact { grows with output := grows.output.around encloses, quotes := rfl }
  | some kind =>
    simp only [Compiler.leave, quotes]
    exact { grows with output := grows.output.around (Html.encloses_alert kind), quotes := rfl }

theorem leaveImage {image : ImageCapture} (outside : s.image.isSome = false)
    (grows : State.Grows { s with image := some image } t) :
    s.Grows (Compiler.leave .image t) := by
  obtain ⟨image, held⟩ := Option.isSome_iff_exists.mp grows.image
  have dropped : s.Grows { t with image := none } := { grows with image := outside.symm }
  have balanced := (Html.reads_image image.url image.alt image.title).balanced rfl
  simp only [Compiler.leave, held]
  exact dropped.trans (.inline balanced _)

theorem leaveRow (grows : State.Grows
      (State.write { s with table := { s.table with cell := 0 } } "<tr>") t) :
    s.Grows (Compiler.leave .tableRow t) := by
  have encloses : Encloses "<tr>" "</tr>" := Html.encloses_element "tr" rfl rfl rfl
  exact { grows with output := grows.output.around encloses }

theorem leaveCell
    (grows : State.Grows (s.write (Html.cellStart s.table.inHead s.table.alignment)) t) :
    s.Grows (Compiler.leave .tableCell t) := by
  have inHead : t.table.inHead = s.table.inHead := grows.inHead
  have encloses := Html.encloses_cell s.table.inHead s.table.alignment
  simp only [Compiler.leave, inHead]
  exact { grows with output := grows.output.around encloses, inHead := rfl }

theorem leaveTable {columns : List Alignment} (outside : s.table.inHead = false)
    (head : State.Grows (State.write (State.write { s with table := ⟨true, columns, 0⟩ } "<table>")
      "<thead><tr>") t)
    (body : State.Grows (State.write { t with table := { t.table with inHead := false } }
      "</tr></thead><tbody>") u) : s.Grows (u.write "</tbody></table>") := by
  obtain ⟨first, balanced, output⟩ := head.output
  obtain ⟨second, balanced', output'⟩ := body.output
  refine ⟨⟨_, Html.balanced_table balanced balanced', ?_⟩, heading_trans head.heading body.heading,
    body.image.trans head.image, body.code.trans head.code, body.quotes.trans head.quotes,
    body.inHead.trans outside.symm⟩
  simp only [State.write] at output output' ⊢
  rw [output', output]
  simp only [String.append_assoc]

/-- A code block adds balanced HTML if what it is answered with is balanced. -/
theorem answeringCode (options : CompilerOptions) (block : CodeCapture) {answer : Answer}
    (whole : ∀ html, answer = .inline html → Balanced html) (s : State) :
    s.Grows (Act.performAll (Act.answeringCode options block answer) s) := by
  unfold Act.answeringCode
  generalize (if options.lineNumbers = true then some (Text.lines block.source).length else none) = lines
  have encloses := Html.encloses_code block.language lines
  cases answer with
  | deferred id => exact (token id (s.write _)).around encloses
  | inline html => exact .write (encloses.around (whole html rfl)) s
  | passThrough =>
    have source : Balanced (Text.escapeHtml block.source) :=
      (Html.reads_escapeHtml block.source).balanced rfl
    exact .write (encloses.around source) s

theorem leaveCode {block : CodeCapture} {options : CompilerOptions} {answer : Answer}
    (outside : s.code.isSome = false) (whole : ∀ html, answer = .inline html → Balanced html)
    (grows : State.Grows { s with code := some block } t) :
    s.Grows (Act.performAll (.setCode none :: Act.answeringCode options (Act.block t) answer) t) := by
  have dropped : s.Grows { t with code := none } := { grows with code := outside.symm }
  exact dropped.trans (answeringCode options (Act.block t) whole _)

end State.Grows

def Act.isWhole : Act → Prop
  | .write html | .inline html => Balanced html
  | .token _ | .noteText _ | .noteAlt _ => True
  | _ => False

theorem Act.grows_perform {act : Act} (whole : act.isWhole) (s : State) :
    s.Grows (act.perform s) := by
  cases act with
  | write html => exact .write whole s
  | inline html => exact .inline whole s
  | token id => exact .token id s
  | noteText text =>
    simp only [perform, State.noteText]
    split
    · rename_i heading opened
      exact { State.Grows.refl s with
        heading := by rw [opened]; exact .some ⟨rfl, .refl _⟩ }
    · exact .refl s
  | noteAlt text =>
    simp only [perform, State.noteAlt]
    split
    · rename_i image held
      exact { State.Grows.refl s with image := by simp [held] }
    · exact .refl s
  | _ => cases whole

theorem Act.grows_performAll {acts : List Act} (whole : ∀ act ∈ acts, act.isWhole) (s : State) :
    s.Grows (performAll acts s) :=
  performAll_keeps s.Grows (fun act member t grown => grown.trans (act.grows_perform (whole act member) t))
    (.refl s)

/-- What a state holds at a place, within the elements that are open there. -/
structure Fits (place : Place) (stack : List Tag) (s : State) : Prop where
  image : s.image.isSome = stack.any Tag.isImage
  code : s.code.isSome = (place == .code)
  outside : place ≠ .line → s.heading.isSome = false ∧ s.image.isSome = false
  inHead : place = .blocks → s.table.inHead = false

namespace Fits

variable {place inner : Place} {stack : List Tag} {s t : State} {tag : Tag}

theorem of_eq (fits : Fits place stack s) (image : t.image.isSome = s.image.isSome)
    (code : t.code.isSome = s.code.isSome) (heading : t.heading.isSome = s.heading.isSome)
    (inHead : t.table.inHead = s.table.inHead) : Fits place stack t where
  image := image.trans fits.image
  code := code.trans fits.code
  outside other := by rw [heading, image]; exact fits.outside other
  inHead blocks := inHead.trans (fits.inHead blocks)

theorem grows (fits : Fits place stack s) (grows : s.Grows t) : Fits place stack t :=
  fits.of_eq grows.image grows.code grows.isSome_heading grows.inHead

theorem setDepth (fits : Fits place stack s) (depth : Nat) : Fits place stack { s with depth } :=
  fits.of_eq rfl rfl rfl rfl

/-- Which element is entered plays no part, unless it collects what is in it. -/
theorem within (fits : Fits place stack s) (opens : place.inside tag = some inner)
    (plain : tag.isImage = false ∧ tag.isHeading = false ∧ tag.isCodeBlock = false) :
    Fits inner (tag :: stack) s := by
  obtain ⟨noImage, noHeading, noCode⟩ := plain
  have places := Place.within_of_inside opens
  refine ⟨?_, ?_, fun other => fits.outside (places.line other), fun blocks => fits.inHead (places.blocks blocks)⟩
  · rw [List.any_cons, noImage, fits.image]
    rfl
  · rw [fits.code, beq_false_of_ne places.notCode, beq_false_of_ne (places.inner_ne_code noCode)]

theorem writeInline (fits : Fits place stack s) (html : String) :
    Fits place stack (s.writeInline html) := by
  have leaves := Act.leaves_perform (.inline html) s
  refine fits.of_eq (leaves.image rfl) (congrArg Option.isSome (leaves.code nofun))
    (leaves.heading rfl) ?_
  unfold State.writeInline
  split
  · rfl
  · split <;> rfl

theorem enter (fits : Fits place stack s) (opens : place.inside tag = some inner) :
    Fits inner (tag :: stack) (Compiler.enter tag s) := by
  cases tag with
  | heading level =>
    cases place <;> cases opens
    exact ⟨fits.image, fits.code, fun other => absurd rfl other, nofun⟩
  | codeBlock info =>
    cases place <;> cases opens
    exact ⟨fits.image, rfl, fun _ => fits.outside nofun, nofun⟩
  | table columns | tableHead => cases place <;> cases opens
  | emphasis | strong | strikethrough | superscript | subscript | link url title =>
    exact (fits.within opens ⟨rfl, rfl, rfl⟩).writeInline _
  | image url title =>
    have inLine : inner = .line ∧ place ≠ .code := by
      cases place <;> cases opens <;> exact ⟨rfl, nofun⟩
    obtain ⟨rfl, notCode⟩ := inLine
    exact ⟨rfl, fits.code.trans (beq_false_of_ne notCode), fun other => absurd rfl other, nofun⟩
  | _ => exact (fits.within opens ⟨rfl, rfl, rfl⟩).of_eq rfl rfl rfl rfl

end Fits

theorem Act.whole_ofEvent {options : CompilerOptions} {s : State} {answer : Answer} {place : Place}
    {event : Event} (held : place.holds event = true) (shown : event.isRaw = false)
    (outside : s.code = none) (whole : ∀ html, answer = .inline html → Balanced html) :
    ∀ act ∈ ofEvent options s answer event, act.isWhole := by
  have showing (text html : String) (balanced : Balanced html) :
      ∀ act ∈ showing s text html, act.isWhole := by
    unfold Act.showing
    split
    · simp [isWhole]
    · simp [isWhole, balanced]
  cases event with
  | start tag | stop tag => cases place <;> cases held
  | text text =>
    simp only [ofEvent, outside]
    exact showing _ _ ((Html.reads_escapeHtml text).balanced rfl)
  | code source => exact showing _ _ ((Html.reads_codeSpan source).balanced rfl)
  | math expression display =>
    simp only [ofEvent]
    split
    · simp [isWhole]
    · cases answer with
      | deferred id => simp [answeringMath, isWhole]
      | inline html => simp [answeringMath, isWhole, whole]
      | passThrough =>
        simp [answeringMath, isWhole, (Html.reads_math expression display).balanced rfl]
  | html html | inlineHtml html => cases shown
  | footnoteReference label => simp [ofEvent]
  | softBreak =>
    have blank : Balanced "\n" := ⟨rfl, rfl⟩
    simp only [ofEvent]
    split <;> simp [isWhole, blank]
  | hardBreak =>
    have balanced : Balanced Html.hardBreak := ⟨rfl, rfl⟩
    simpa [ofEvent, isWhole] using balanced
  | rule =>
    have balanced : Balanced Html.rule := ⟨rfl, rfl⟩
    simpa [ofEvent, isWhole] using balanced
  | taskMarker checked => simpa [ofEvent, isWhole] using (Html.reads_taskMarker checked).balanced rfl

end Compile

namespace Compiler

open Compile (Act Fits Moment State)
open Event (Place Shaped)
open Html (Balanced)

variable {σ : Type} {place inner : Place} {stack : List Tag} {s : State} {tag : Tag}

theorem grows_leaf (c : Compiler σ)
    (whole : ∀ w question html, (c.answer w question).1 = .inline html → Balanced html)
    {event : Event} (held : place.holds event = true) (shown : event.isRaw = false)
    (fits : Fits place stack s) (w : σ) : s.Grows (c.step event s w).1 := by
  rw [step_eq]
  have fair : ∀ html, (c.answerTo w (Compile.Question.ofEvent s event)).1 = .inline html →
      Balanced html := by
    intro html answered
    cases asked : Compile.Question.ofEvent s event with
    | none =>
      rw [asked] at answered
      cases answered
    | some question =>
      rw [asked] at answered
      exact whole w question html answered
  cases collecting : s.code with
  | none => exact Act.grows_performAll (Act.whole_ofEvent held shown collecting fair) s
  | some block =>
    have atCode : (place == .code) = true := by
      rw [← fits.code, collecting]
      rfl
    obtain rfl := eq_of_beq atCode
    cases event with
    | text text =>
      simp only [Act.ofEvent, collecting, Act.performAll_cons, Act.performAll_nil, Act.perform]
      exact { State.Grows.refl s with code := by simp [collecting] }
    | _ => cases held

theorem grows_element (c : Compiler σ)
    (whole : ∀ w question html, (c.answer w question).1 = .inline html → Balanced html)
    (fits : Fits place stack s) (opens : place.inside tag = some inner)
    (single : stack.all (Event.singleImages · tag) = true) {t : State}
    (grows : (enter tag s).Grows t) (w : σ) : s.Grows (c.step (.stop tag.toEnd) t w).1 := by
  have around (front back : String) (encloses : Html.Encloses front back)
      (grows : (s.write front).Grows t) : s.Grows (t.write back) := grows.around encloses
  have inline (front back : String) (encloses : Html.Encloses front back)
      (grows : (s.writeInline front).Grows t) : s.Grows (t.writeInline back) :=
    grows.around_inline encloses
  cases tag with
  | paragraph => exact around "<p>" "</p>" (Html.encloses_element "p" rfl rfl rfl) grows
  | heading level =>
    cases place <;> cases opens
    have outside := (fits.outside nofun).1
    rw [Option.isSome_eq_false_iff, Option.isNone_iff_eq_none] at outside
    exact grows.finishHeading outside
  | blockQuote kind => exact grows.leaveQuote
  | codeBlock info =>
    cases place <;> cases opens
    rw [Tag.toEnd, step_eq]
    exact grows.leaveCode fits.code fun html answered => whole w _ html answered
  | htmlBlock | footnoteDefinition label | metadata => exact grows
  | list first => exact around _ _ (Html.encloses_list first) grows
  | item => exact around "<li>" "</li>" (Html.encloses_element "li" rfl rfl rfl) grows
  | definitionList => exact around "<dl>" "</dl>" (Html.encloses_element "dl" rfl rfl rfl) grows
  | definitionTerm => exact around "<dt>" "</dt>" (Html.encloses_element "dt" rfl rfl rfl) grows
  | definitionBody => exact around "<dd>" "</dd>" (Html.encloses_element "dd" rfl rfl rfl) grows
  | table columns | tableHead => cases place <;> cases opens
  | tableRow => exact grows.leaveRow
  | tableCell => exact grows.leaveCell
  | emphasis => exact inline "<em>" "</em>" (Html.encloses_element "em" rfl rfl rfl) grows
  | strong => exact inline "<strong>" "</strong>" (Html.encloses_element "strong" rfl rfl rfl) grows
  | strikethrough => exact inline "<s>" "</s>" (Html.encloses_element "s" rfl rfl rfl) grows
  | superscript => exact inline "<sup>" "</sup>" (Html.encloses_element "sup" rfl rfl rfl) grows
  | subscript => exact inline "<sub>" "</sub>" (Html.encloses_element "sub" rfl rfl rfl) grows
  | link url title =>
    exact inline _ "</a>" (Html.encloses_element "a" (Html.reads_linkStart url) rfl rfl) grows
  | image url title =>
    have noImage : s.image.isSome = false := by
      rw [fits.image]
      simpa [Event.singleImages, Tag.isImage] using single
    exact grows.leaveImage noImage

/-- The run of an element: what enters it, what is in it, what leaves it, and what stands behind it. -/
theorem run_element (c : Compiler σ) {content rest : List Event} {closing : TagEnd} {w : σ}
    (compiled : (c.run (.start tag :: content ++ .stop closing :: rest) s w).1 = none) :
    ∃ left w' outer inner,
      c.run content (enter tag { s with depth := outer }) w = (none, left, w') ∧
      c.run (.start tag :: content ++ .stop closing :: rest) s w =
        c.run rest (c.step (.stop closing) { left with depth := inner } w').1
          (c.step (.stop closing) { left with depth := inner } w').2 := by
  rw [List.cons_append] at compiled ⊢
  have enters := run_cons_of_eq_none compiled
  change _ = c.run _ (enter tag { s with depth := s.depth + 1 }) w at enters
  rw [enters] at compiled ⊢
  rw [run_append] at compiled ⊢
  generalize filled : c.run content (enter tag { s with depth := s.depth + 1 }) w = within
    at compiled ⊢
  obtain ⟨error, left, w'⟩ := within
  cases error with
  | some error => cases compiled
  | none =>
    rw [if_pos rfl] at compiled ⊢
    exact ⟨left, w', s.depth + 1, left.depth - 1, filled, run_cons_of_eq_none compiled⟩

/-- Events that have the shape of a place add balanced HTML there. -/
theorem grows_run (c : Compiler σ)
    (whole : ∀ w question html, (c.answer w question).1 = .inline html → Balanced html)
    {events : List Event} (shaped : Shaped place events)
    (shown : ∀ event ∈ events, event.isRaw = false)
    (single : Event.nests Event.singleImages stack events = some stack)
    (fits : Fits place stack s) (w : σ) (compiled : (c.run events s w).1 = none) :
    s.Grows (c.run events s w).2.1 := by
  induction shaped generalizing stack s w with
  | nil place => exact .refl s
  | @leaf _ event _ held _ ih =>
    obtain ⟨here, others⟩ := List.forall_mem_cons.mp shown
    rw [Event.nests_cons, Event.stackAfter_of_holds held, Option.bind_some] at single
    have next := run_cons_of_eq_none compiled
    rw [next] at compiled ⊢
    have grows := (State.Grows.setDepth _).trans
      (c.grows_leaf whole held here (fits.setDepth (depthAfter s.depth event)) w)
    exact grows.trans (ih others single (fits.grows grows) _ compiled)
  | @element _ _ tag content rest opens within _ ihWithin ih =>
    obtain ⟨admitted, nested, single⟩ := within.nests_element single
    simp only [List.cons_append, List.forall_mem_cons, List.forall_mem_append] at shown
    obtain ⟨left, w', outer, depth, fills, leaves⟩ := c.run_element compiled
    rw [leaves] at compiled ⊢
    have deeper := fits.setDepth outer
    have filled := ihWithin shown.2.1 nested (deeper.enter opens) w (by rw [fills])
    rw [fills] at filled
    have grows : s.Grows _ := (State.Grows.setDepth outer).trans
      (c.grows_element whole deeper opens admitted (filled.trans (.setDepth depth)) w')
    exact grows.trans (ih shown.2.2.2 single (fits.grows grows) _ compiled)
  | table columns headCells body _ ihHead ihBody ih =>
    obtain ⟨nestedHead, nestedRows, single⟩ := headCells.nests_table body single
    simp only [List.cons_append, List.forall_mem_cons, List.forall_mem_append] at shown
    obtain ⟨u, w₂, outer, last, fills, leaves⟩ := c.run_element compiled
    rw [leaves] at compiled ⊢
    obtain ⟨t, w₁, depth, inner, fillsHead, fillsRows⟩ := c.run_element (by rw [fills])
    rw [fillsRows] at fills
    have fitsHead : Fits .cells (.tableHead :: .table columns :: stack)
        (enter .tableHead { enter (.table columns) { s with depth := outer } with depth }) :=
      ⟨fits.image, fits.code, fun _ => fits.outside nofun, nofun⟩
    have head := ihHead shown.2.2.1.1 nestedHead fitsHead w (by rw [fillsHead])
    rw [fillsHead] at head
    have fitsLeft := fitsHead.grows head
    have fitsRows : Fits .rows (.table columns :: stack)
        (c.step (.stop .tableHead) { t with depth := inner } w₁).1 :=
      ⟨fitsLeft.image, fitsLeft.code, fun _ => fitsLeft.outside nofun, nofun⟩
    have body := ihBody shown.2.2.1.2.2 nestedRows fitsRows _ (by rw [fills])
    rw [fills] at body
    -- The head ends within the table, so that both leave tags open until the table ends.
    have grows : s.Grows (c.step (.stop .table) { u with depth := last } w₂).1 := by
      have filled : State.Grows _ { t with depth := inner } := head.trans (.setDepth inner)
      exact (State.Grows.setDepth depth).trans
        (.leaveTable (fits.inHead rfl) filled (body.trans (.setDepth last)))
    exact grows.trans (ih shown.2.2.2.2 single (fits.grows grows) _ compiled)

/-- Compiled HTML is balanced. -/
theorem balanced_compile (c : Compiler σ)
    (whole : ∀ w question html, (c.answer w question).1 = .inline html → Balanced html)
    {events : List Event} (shaped : Shaped .blocks events)
    (shown : ∀ event ∈ events, event.isRaw = false)
    (single : Event.WellNested Event.singleImages events) (w : σ) {document : CompiledDocument}
    (compiled : (c.compile events .initial w).1 = .ok document) : Balanced document.html := by
  have fits : Fits .blocks [] .initial := ⟨rfl, rfl, fun _ => ⟨rfl, rfl⟩, fun _ => rfl⟩
  simp only [compile] at compiled
  split at compiled
  · cases compiled
  · rename_i s w' ran
    obtain rfl := Except.ok.inj compiled
    have grows := c.grows_run whole shaped shown single fits w (by rw [ran])
    obtain ⟨html, balanced, output⟩ := grows.output
    rw [ran] at output
    have same : s.output = html := output.trans (String.empty_append ..)
    rwa [← same] at balanced

/-- A heading, a table with an image in it, and code, answered by both kinds of processor. -/
theorem balanced_compile_table :
    let c : Compiler Unit := {
      options := { lineNumbers := true }
      processors := {
        code := some fun w _ _ => (.deferred ⟨.highlight, 0⟩, w)
        math := some fun w _ _ => (.inline "<i>x</i>", w) } }
    ∃ document, (c.compile (Markdown.events ⟨true, true⟩
        "# *b* $x$\n\n|x|\n|-|\n|![i *j*](u)|\n\n```c\nf\n```\n") .initial ()).1 = .ok document ∧
      document.spans ≠ [] ∧ Balanced document.html := by
  intro c
  have parsed : Markdown.events ⟨true, true⟩
      "# *b* $x$\n\n|x|\n|-|\n|![i *j*](u)|\n\n```c\nf\n```\n" =
        [.start (.heading 1), .start .emphasis, .text "b", .stop .emphasis, .text " ",
          .math "x" false, .stop (.heading 1), .start (.table [.unset]), .start .tableHead,
          .start .tableCell, .text "x", .stop .tableCell, .stop .tableHead, .start .tableRow,
          .start .tableCell, .start (.image "u" ""), .text "i ", .start .emphasis, .text "j",
          .stop .emphasis, .stop .image, .stop .tableCell, .stop .tableRow, .stop .table,
          .start (.codeBlock (some "c")), .text "f\n", .stop .codeBlock] := by
    decide +kernel
  have shaped := Markdown.shaped_events ⟨true, true⟩
    "# *b* $x$\n\n|x|\n|-|\n|![i *j*](u)|\n\n```c\nf\n```\n"
  rw [parsed] at shaped ⊢
  have whole : ∀ w question html, (c.answer w question).1 = .inline html → Balanced html := by
    intro w question html answered
    cases question with
    | code language source => cases answered
    | math expression display =>
      obtain rfl := Answer.inline.inj answered
      exact ⟨rfl, rfl⟩
  refine ⟨_, rfl, by decide, c.balanced_compile whole shaped (by decide) ?_ () rfl⟩
  unfold Event.WellNested
  decide

/-- An image in another ends that one, whose markup is written from there on. -/
example : ¬ Balanced
    ((({} : Compiler Unit).compile [.start (.image "u" ""), .start .emphasis, .start (.image "v" ""),
      .stop .image, .stop .emphasis, .stop .image] .initial ()).1.toOption.elim "" (·.html)) := by
  decide

end Compiler

end Mathdown
