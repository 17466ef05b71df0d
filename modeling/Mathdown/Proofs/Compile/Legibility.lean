import Mathdown.Proofs.Compile.Balance
import Mathdown.Proofs.Html.Visible

/-!
What a reader sees of a document. Text is collected in three places on its way: the output, the heading
that is open and the code block that is open. Together they show at any time just what the events up to
there have to say, in order, whatever is still to be trimmed, escaped or framed.
-/

namespace Mathdown

open Text (dark)

/-- Whether the event enters or leaves an image. -/
def Event.isImage : Event → Bool
  | .start tag => tag.isImage
  | .stop closing => closing == .image
  | _ => false

/-- What an event has to say: its text, or the title of the alert that it enters. -/
def Event.payload : Event → List Char
  | .text shown | .code shown => shown.toList
  | .math expression _ => expression.toList
  | .start (.blockQuote (some kind)) => (Html.alertTitle kind).toList
  | _ => []

namespace Compile

open Event (Place)

/-- Whether a text is what a heading that is being collected shows. -/
def Titled : Option HeadingCapture → List Char → Prop
  | none, text => text = []
  | some heading, text => Html.Shows heading.html text

/-- What a code block that is being collected will show. -/
def sourced : Option CodeCapture → List Char
  | none => []
  | some block => dark block.source.toList

/-- Whether all that has been collected shows a text, one place after the other. -/
def State.Says (s : State) (text : List Char) : Prop :=
  ∃ written titled, Html.Shows s.output written ∧ Titled s.heading titled ∧
    text = written ++ titled ++ sourced s.code

variable {s t : State} {text more : List Char} {html : String} {place inner : Place} {headed : Bool}

theorem State.Says.output (spoken : s.Says text) (heading : s.heading = none) (code : s.code = none) :
    Html.Shows s.output text := by
  obtain ⟨written, titled, shows, title, rfl⟩ := spoken
  rw [heading] at title
  obtain rfl : titled = [] := title
  rwa [code, sourced, List.append_nil, List.append_nil]

/-- What shows nothing may be written anywhere, and anything where nothing else is being collected. -/
theorem State.Says.write (spoken : s.Says text) (shows : Html.Shows html more)
    (free : more = [] ∨ s.heading = none ∧ s.code = none) : (s.write html).Says (text ++ more) := by
  rcases free with rfl | ⟨heading, code⟩
  · obtain ⟨written, titled, shown, title, rfl⟩ := spoken
    have same := shown.append shows
    rw [List.append_nil] at same
    exact ⟨written, titled, same, title, List.append_nil _⟩
  · refine ⟨_, [], (spoken.output heading code).append shows, ?_, ?_⟩
    · change Titled s.heading []
      rw [heading]
      rfl
    · change _ = _ ++ sourced s.code
      rw [code, sourced, List.append_nil, List.append_nil]

theorem State.Says.inline (spoken : s.Says text) (image : s.image = none) (shows : Html.Shows html more)
    (free : more = [] ∨ s.code = none) : (s.writeInline html).Says (text ++ more) := by
  have outside : ¬ s.image.isSome = true := by
    rw [image]
    exact Bool.false_ne_true
  rw [State.writeInline, if_neg outside]
  cases opened : s.heading with
  | none => exact spoken.write shows (free.imp_right fun code => ⟨opened, code⟩)
  | some heading =>
    obtain ⟨written, titled, shown, title, rfl⟩ := spoken
    rw [opened] at title
    refine ⟨written, titled ++ more, shown, title.append shows, ?_⟩
    rcases free with rfl | code
    · rw [List.append_nil, List.append_nil]
    · change _ = _ ++ sourced s.code
      rw [code, sourced, List.append_nil, List.append_nil, List.append_assoc]

/-- What a state between two events shows at a place, within a heading or not. -/
structure Tells (place : Place) (headed : Bool) (s : State) (text : List Char) : Prop where
  image : s.image = none
  code : s.code.isSome = (place == .code)
  heading : s.heading.isSome = headed
  outside : place ≠ .line → headed = false
  spoken : s.Says text

def Act.isQuiet : Act → Prop
  | .write html | .inline html => Html.Shows html []
  | .noteText _ | .setTable _ | .setQuotes _ => True
  | _ => False

namespace Tells

theorem codeless (tells : Tells place headed s text) (other : place ≠ .code) : s.code = none := by
  have code := tells.code
  rwa [beq_false_of_ne other, Option.isSome_eq_false_iff, Option.isNone_iff_eq_none] at code

theorem headless (tells : Tells place headed s text) (other : place ≠ .line) : s.heading = none := by
  have heading := tells.heading
  rwa [tells.outside other, Option.isSome_eq_false_iff, Option.isNone_iff_eq_none] at heading

theorem setDepth (tells : Tells place headed s text) (depth : Nat) :
    Tells place headed { s with depth } text :=
  ⟨tells.image, tells.code, tells.heading, tells.outside, tells.spoken⟩

theorem move (tells : Tells place headed s text) (other : place ≠ .code) (other' : inner ≠ .code)
    (outside : inner ≠ .line → headed = false) : Tells inner headed s text :=
  ⟨tells.image, by rw [tells.code, beq_false_of_ne other, beq_false_of_ne other'], tells.heading,
    outside, tells.spoken⟩

theorem write (tells : Tells place headed s text) (shows : Html.Shows html more)
    (free : more = [] ∨ s.heading = none ∧ s.code = none) :
    Tells place headed (s.write html) (text ++ more) :=
  ⟨tells.image, tells.code, tells.heading, tells.outside, tells.spoken.write shows free⟩

theorem inline (tells : Tells place headed s text) (shows : Html.Shows html more)
    (free : more = [] ∨ s.code = none) : Tells place headed (s.writeInline html) (text ++ more) := by
  have leaves := Act.leaves_perform (.inline html) s
  exact ⟨by simpa [tells.image, Act.perform] using leaves.image rfl,
    (congrArg Option.isSome (leaves.code nofun)).trans tells.code,
    (leaves.heading rfl).trans tells.heading, tells.outside, tells.spoken.inline tells.image shows free⟩

theorem noteText (tells : Tells place headed s text) (noted : String) :
    Tells place headed (s.noteText noted) text := by
  unfold State.noteText
  split
  · rename_i heading opened
    obtain ⟨written, titled, shown, title, rfl⟩ := tells.spoken
    rw [opened] at title
    exact ⟨tells.image, tells.code, by simpa [opened] using tells.heading, tells.outside,
      written, titled, shown, title, rfl⟩
  · exact tells

theorem quiet (tells : Tells place headed s text) {act : Act} (quiet : act.isQuiet) :
    Tells place headed (act.perform s) text := by
  cases act with
  | write html =>
    have told := tells.write quiet (.inl rfl)
    rwa [List.append_nil] at told
  | inline html =>
    have told := tells.inline quiet (.inl rfl)
    rwa [List.append_nil] at told
  | noteText noted => exact tells.noteText noted
  | setTable table | setQuotes quotes =>
    exact ⟨tells.image, tells.code, tells.heading, tells.outside, tells.spoken⟩
  | _ => cases quiet

theorem quietAll (tells : Tells place headed s text) {acts : List Act}
    (quiet : ∀ act ∈ acts, act.isQuiet) : Tells place headed (Act.performAll acts s) text :=
  Act.performAll_keeps (Tells place headed · text)
    (fun act member _ told => told.quiet (quiet act member)) tells

end Tells

private theorem Act.quiet_write {html : String} (silent : Html.Silent .text html .text) :
    ∀ act ∈ [Act.write html], act.isQuiet := List.forall_mem_singleton.mpr silent.shows_nil

private theorem Act.quiet_inline {html : String} (silent : Html.Silent .text html .text) :
    ∀ act ∈ [Act.inline html], act.isQuiet := List.forall_mem_singleton.mpr silent.shows_nil

/-- Markup of elements is not seen; headings, code blocks, alerts and images apart. -/
theorem Act.quiet_entering (tag : Tag)
    (plain : tag.isHeading = false ∧ tag.isCodeBlock = false ∧ tag.isImage = false)
    (untitled : Event.payload (.start tag) = []) (s : State) : ∀ act ∈ entering s tag, act.isQuiet := by
  obtain ⟨noHeading, noCode, noImage⟩ := plain
  cases tag with
  | heading level => cases noHeading
  | codeBlock info => cases noCode
  | image url title => cases noImage
  | blockQuote kind =>
    cases kind with
    | none => exact List.forall_mem_cons.mpr ⟨trivial, quiet_write ⟨rfl, rfl⟩⟩
    | some kind => cases kind <;> cases untitled
  | footnoteDefinition label | htmlBlock | metadata => exact List.forall_mem_nil _
  | list first => exact quiet_write (Html.silent_listStart first)
  | table columns | tableHead | tableRow =>
    exact List.forall_mem_cons.mpr ⟨trivial, quiet_write ⟨rfl, rfl⟩⟩
  | tableCell =>
    refine quiet_write ?_
    cases s.table.inHead <;> cases s.table.alignment <;> exact ⟨rfl, rfl⟩
  | emphasis | strong | strikethrough | superscript | subscript => exact quiet_inline ⟨rfl, rfl⟩
  | link url title => exact quiet_inline (Html.silent_linkStart url)
  | _ => exact quiet_write ⟨rfl, rfl⟩

theorem Act.quiet_leaving (tag : Tag)
    (plain : tag.isHeading = false ∧ tag.isCodeBlock = false ∧ tag.isImage = false) (s : State) :
    ∀ act ∈ leaving s tag.toEnd, act.isQuiet := by
  obtain ⟨noHeading, noCode, noImage⟩ := plain
  cases tag with
  | heading level => cases noHeading
  | codeBlock info => cases noCode
  | image url title => cases noImage
  | blockQuote kind =>
    simp only [Tag.toEnd, leaving]
    split <;> exact List.forall_mem_cons.mpr ⟨trivial, quiet_write ⟨rfl, rfl⟩⟩
  | footnoteDefinition label | htmlBlock | metadata => exact List.forall_mem_nil _
  | list first => exact quiet_write (Html.silent_listStop first.isSome)
  | tableHead => exact List.forall_mem_cons.mpr ⟨trivial, quiet_write ⟨rfl, rfl⟩⟩
  | tableCell =>
    refine List.forall_mem_cons.mpr ⟨trivial, quiet_write ?_⟩
    cases s.table.inHead <;> exact ⟨rfl, rfl⟩
  | emphasis | strong | strikethrough | superscript | subscript | link url title =>
    exact quiet_inline ⟨rfl, rfl⟩
  | _ => exact quiet_write ⟨rfl, rfl⟩

end Compile

namespace Compiler

open Compile (Act State Tells Titled sourced)
open Event (Place Shaped)

variable {σ : Type} {place inner : Place} {headed : Bool} {s t : State} {text said : List Char}

theorem tells_leaf (c : Compiler σ) (unprocessed : c.processors = {}) {event : Event}
    (held : place.holds event = true) (escaped : event.isRaw = false)
    (tells : Tells place headed s text) (w : σ) :
    Tells place headed (c.step event s w).1 (text ++ dark event.payload) := by
  have noImage : s.image.isSome = false := by rw [tells.image]; rfl
  -- Only text stands where code is collected.
  have noted (shown html : String) (shows : Html.Shows html (dark shown.toList))
      (other : place ≠ .code) :
      Tells place headed ((s.noteText shown).writeInline html) (text ++ dark shown.toList) := by
    have told := tells.noteText shown
    exact told.inline shows (.inr (told.codeless other))
  have silent (html : String) (shows : Html.Shows html []) :
      Tells place headed (s.writeInline html) (text ++ dark []) := tells.inline shows (.inl rfl)
  cases event with
  | start tag | stop tag => cases place <;> cases held
  | html html | inlineHtml html => cases escaped
  | text shown =>
    simp only [step, Compiler.text]
    split
    · rename_i block collected
      obtain ⟨written, titled, shows, title, rfl⟩ := tells.spoken
      refine ⟨tells.image, ?_, tells.heading, tells.outside, written, titled, shows, title, ?_⟩
      · rw [← tells.code, collected]
        rfl
      · simp [collected, sourced, Event.payload]
    · rename_i outside
      rw [if_neg (by rw [noImage]; exact Bool.false_ne_true)]
      refine noted shown _ (Html.shows_escapeHtml shown) ?_
      rintro rfl
      have code := tells.code
      rw [outside] at code
      cases code
  | code source =>
    have other : place ≠ .code := by rintro rfl; cases held
    simp only [step, codeSpan, noImage, Bool.false_eq_true, if_false]
    exact noted source _ (Html.shows_codeSpan source) other
  | math expression display =>
    have other : place ≠ .code := by rintro rfl; cases held
    simp only [step, math, noImage, unprocessed, Bool.false_eq_true, if_false]
    exact noted expression _ (Html.shows_math expression display) other
  | footnoteReference label =>
    simp only [step, Event.payload]
    rwa [show dark [] = [] from rfl, List.append_nil]
  | softBreak =>
    simp only [step, noImage, Bool.false_eq_true, if_false]
    exact silent "\n" ⟨rfl, ['\n'], rfl, rfl⟩
  | hardBreak => exact silent _ ⟨rfl, [], rfl, rfl⟩
  | rule => exact tells.write ⟨rfl, [], rfl, rfl⟩ (.inl rfl)
  | taskMarker checked => exact tells.write (Html.shows_taskMarker checked) (.inl rfl)

private theorem tells_finishHeading (tells : Tells .line true t said) :
    Tells .blocks false t.finishHeading said := by
  obtain ⟨heading, opened⟩ := Option.isSome_iff_exists.mp tells.heading
  obtain ⟨written, titled, shows, title, rfl⟩ := tells.spoken
  rw [opened] at title
  have piece := Html.shows_heading heading.level (t.unquoted_headingId heading.text) title
  rw [State.finishHeading, opened]
  refine ⟨tells.image, tells.code, rfl, fun _ => rfl, written ++ titled, [], ?_, rfl, ?_⟩
  · simpa [State.write, State.headingId, String.append_assoc] using shows.append piece
  · rw [List.append_nil]
    rfl

private theorem tells_finishCode (c : Compiler σ) (unprocessed : c.processors = {})
    (tells : Tells .code headed t said) (w : σ) :
    Tells .blocks headed (c.finishCode t w).1 said := by
  obtain ⟨block, collected⟩ := Option.isSome_iff_exists.mp tells.code
  obtain ⟨written, titled, shows, title, rfl⟩ := tells.spoken
  have closed := tells.outside nofun
  subst closed
  have outside := tells.headless nofun
  rw [outside] at title
  obtain rfl : titled = [] := title
  have whole (lines : Option Nat) := shows.append (Html.shows_codeBlock block.language block.source lines)
  simp only [finishCode, unprocessed, collected, Option.getD_some]
  refine ⟨tells.image, rfl, tells.heading, fun _ => rfl, _, [], whole _, ?_, ?_⟩
  · change Titled t.heading []
    rw [outside]
    rfl
  · rw [List.append_nil, List.append_nil]
    exact (List.append_nil _).symm

theorem tells_enter (tells : Tells place headed s text) {tag : Tag}
    (plain : tag.isHeading = false ∧ tag.isCodeBlock = false ∧ tag.isImage = false)
    (untitled : Event.payload (.start tag) = []) : Tells place headed (enter tag s) text := by
  have entered : enter tag s = Act.performAll (Act.entering s tag) s := by
    cases tag <;> rfl
  rw [entered]
  exact tells.quietAll (Act.quiet_entering tag plain untitled s)

theorem tells_leave (c : Compiler σ) (tells : Tells place headed t said) {tag : Tag}
    (plain : tag.isHeading = false ∧ tag.isCodeBlock = false ∧ tag.isImage = false) (w : σ) :
    Tells place headed (c.step (.stop tag.toEnd) t w).1 said := by
  have left (answer : Answer) :
      Act.ofEvent c.options t answer (.stop tag.toEnd) = Act.leaving t tag.toEnd := by
    cases tag <;> first | rfl | cases plain.2.1
  rw [step_eq, left]
  exact tells.quietAll (Act.quiet_leaving tag plain t)

theorem tells_within {tag : Tag} (opens : place.inside tag = some inner) (noImage : tag.isImage = false)
    (tells : Tells place headed s text) :
    Tells inner (headed || tag.isHeading) (enter tag s)
      (text ++ dark (Event.payload (.start tag))) := by
  have places := Place.within_of_inside opens
  have codeless := tells.codeless places.notCode
  have plain (noHeading : tag.isHeading = false) (noCode : tag.isCodeBlock = false)
      (untitled : Event.payload (.start tag) = []) :
      Tells inner (headed || tag.isHeading) (enter tag s)
        (text ++ dark (Event.payload (.start tag))) := by
    rw [noHeading, Bool.or_false, untitled, show dark [] = [] from rfl, List.append_nil]
    exact (tells_enter tells ⟨noHeading, noCode, noImage⟩ untitled).move places.notCode
      (places.inner_ne_code noCode) fun other => tells.outside (places.line other)
  cases tag with
  | image url title => cases noImage
  | heading level =>
    cases place <;> cases opens
    obtain rfl := tells.outside nofun
    have headless := tells.headless nofun
    obtain ⟨written, titled, shows, title, rfl⟩ := tells.spoken
    rw [headless] at title
    obtain rfl : titled = [] := title
    exact ⟨tells.image, tells.code, rfl, fun other => absurd rfl other, written, [], shows,
      ⟨rfl, [], rfl, rfl⟩, List.append_nil _⟩
  | codeBlock info =>
    cases place <;> cases opens
    have outside := tells.outside nofun
    obtain ⟨written, titled, shows, title, rfl⟩ := tells.spoken
    refine ⟨tells.image, rfl, tells.heading.trans (Bool.or_false headed).symm,
      fun _ => by rw [outside]; rfl, written, titled, shows, title, ?_⟩
    rw [codeless]
    exact List.append_nil _
  | blockQuote kind =>
    cases kind with
    | none => exact plain rfl rfl rfl
    | some kind =>
      cases place <;> cases opens
      have quiet : (Act.setQuotes (some kind :: s.quotes)).isQuiet := trivial
      rw [show Tag.isHeading (.blockQuote (some kind)) = false from rfl, Bool.or_false]
      exact (tells.quiet quiet).write (Html.shows_alertStart kind)
        (.inr ⟨tells.headless nofun, codeless⟩)
  | _ => exact plain rfl rfl rfl

theorem tells_behind (c : Compiler σ) (unprocessed : c.processors = {}) {tag : Tag}
    (opens : place.inside tag = some inner) (noImage : tag.isImage = false)
    (outside : place ≠ .line → headed = false) (told : Tells inner (headed || tag.isHeading) t said)
    (w : σ) : Tells place headed (c.step (.stop tag.toEnd) t w).1 said := by
  have places := Place.within_of_inside opens
  have plain (noHeading : tag.isHeading = false) (noCode : tag.isCodeBlock = false) :
      Tells place headed (c.step (.stop tag.toEnd) t w).1 said := by
    rw [noHeading, Bool.or_false] at told
    exact (c.tells_leave told ⟨noHeading, noCode, noImage⟩ w).move (places.inner_ne_code noCode)
      places.notCode outside
  cases tag with
  | image url title => cases noImage
  | heading level =>
    cases place <;> cases opens
    obtain rfl := outside nofun
    exact tells_finishHeading told
  | codeBlock info =>
    cases place <;> cases opens
    rw [show Tag.isHeading (.codeBlock info) = false from rfl, Bool.or_false] at told
    exact c.tells_finishCode unprocessed told w
  | _ => exact plain rfl rfl

/-- Events that have the shape of a place tell there what they have to say, in order. -/
theorem tells_run (c : Compiler σ) (unprocessed : c.processors = {}) {events : List Event}
    (shaped : Shaped place events) (escaped : ∀ event ∈ events, event.isRaw = false)
    (plain : ∀ event ∈ events, event.isImage = false) (tells : Tells place headed s text)
    (w : σ) (compiled : (c.run events s w).1 = none) :
    Tells place headed (c.run events s w).2.1 (text ++ dark (events.flatMap Event.payload)) := by
  induction shaped generalizing headed s text w with
  | nil place => simpa [dark, run] using tells
  | @leaf _ event rest held _ ih =>
    obtain ⟨here, others⟩ := List.forall_mem_cons.mp escaped
    have next := run_cons_of_eq_none compiled
    rw [next] at compiled ⊢
    rw [List.flatMap_cons, Text.dark_append, ← List.append_assoc]
    refine ih others (List.forall_mem_cons.mp plain).2 ?_ _ compiled
    exact c.tells_leaf unprocessed held here (tells.setDepth _) w
  | @element _ _ tag content rest opens _ _ ihWithin ih =>
    simp only [List.cons_append, List.forall_mem_cons, List.forall_mem_append] at escaped plain
    obtain ⟨left, w', outer, depth, fills, leaves⟩ := c.run_element compiled
    rw [leaves] at compiled ⊢
    have entered := tells_within opens plain.1 (tells.setDepth outer)
    have filled := ihWithin escaped.2.1 plain.2.1 entered w (by rw [fills])
    rw [fills] at filled
    have left := c.tells_behind unprocessed opens plain.1 tells.outside (filled.setDepth depth) w'
    have told := ih escaped.2.2.2 plain.2.2.2 left _ compiled
    have silent : Event.payload (.stop tag.toEnd) = [] := rfl
    simpa [List.flatMap_cons, List.flatMap_append, silent, List.append_assoc] using told
  | @table columns head rows rest _ _ _ ihHead ihBody ih =>
    simp only [List.cons_append, List.forall_mem_cons, List.forall_mem_append] at escaped plain
    obtain ⟨u, w₂, outer, last, fills, leaves⟩ := c.run_element compiled
    rw [leaves] at compiled ⊢
    obtain ⟨t, w₁, depth, inner, fillsHead, fillsRows⟩ := c.run_element (by rw [fills])
    rw [fillsRows] at fills
    have outside := tells.outside (by decide)
    have unseenTable : Tag.isHeading (.table columns) = false ∧ Tag.isCodeBlock (.table columns) = false ∧
        Tag.isImage (.table columns) = false := ⟨rfl, rfl, rfl⟩
    have unseenHead : Tag.isHeading .tableHead = false ∧ Tag.isCodeBlock .tableHead = false ∧
        Tag.isImage .tableHead = false := ⟨rfl, rfl, rfl⟩
    have entered := tells_enter (tells.setDepth outer) unseenTable rfl
    have enteredHead : Tells .cells headed _ text :=
      (tells_enter (entered.setDepth depth) unseenHead rfl).move (by decide) (by decide) fun _ => outside
    have filledHead := ihHead escaped.2.2.1.1 plain.2.2.1.1 enteredHead w (by rw [fillsHead])
    rw [fillsHead] at filledHead
    have enteredRows : Tells .rows headed (c.step (.stop .tableHead) { t with depth := inner } w₁).1 _ :=
      (c.tells_leave (filledHead.setDepth inner) unseenHead w₁).move
        (by decide) (by decide) fun _ => outside
    have filledRows := ihBody escaped.2.2.1.2.2 plain.2.2.1.2.2 enteredRows _ (by rw [fills])
    rw [fills] at filledRows
    have left : Tells .blocks headed (c.step (.stop .table) { u with depth := last } w₂).1 _ :=
      (c.tells_leave (filledRows.setDepth last) unseenTable w₂).move
        (by decide) (by decide) fun _ => outside
    have told := ih escaped.2.2.2.2 plain.2.2.2.2 left _ compiled
    simpa [List.flatMap_append, Event.payload, List.append_assoc] using told

/--
A document without images and raw HTML shows all that its events have to say, in order and once each,
and nothing else, blanks left aside: its texts, code and math, and the titles of its alerts.
-/
theorem dark_decode_compile (c : Compiler σ) (unprocessed : c.processors = {}) {events : List Event}
    (shaped : Shaped .blocks events) (escaped : ∀ event ∈ events, event.isRaw = false)
    (plain : ∀ event ∈ events, event.isImage = false) (w : σ) {document : CompiledDocument}
    (compiled : (c.compile events .initial w).1 = .ok document) (references : Html.References) :
    dark (references.decode (Html.textContent document.html)) =
      dark (events.flatMap Event.payload) := by
  have start : Tells .blocks false .initial [] :=
    ⟨rfl, rfl, rfl, fun _ => rfl, [], [], ⟨rfl, [], rfl, rfl⟩, rfl, rfl⟩
  simp only [compile] at compiled
  split at compiled
  · cases compiled
  · rename_i s w' ran
    obtain rfl := Except.ok.inj compiled
    have told := c.tells_run unprocessed shaped escaped plain start w (by rw [ran])
    rw [ran, List.nil_append] at told
    have shown := told.spoken.output (told.headless (by decide)) (told.codeless (by decide))
    exact shown.dark_decode references

/-- Text that looks like a reference, a heading with blanks at its end, numbered code and an alert. -/
theorem dark_decode_compile_alert :
    let c : Compiler Unit := { options := { lineNumbers := true } }
    ∃ document, (c.compile (Markdown.events ⟨true, true⟩
        "# a *b* \\&lt;\n\n> [!TIP]\n> `<i>` $x<y$\n\n```c\nf & g\n```\n") .initial ()).1 = .ok document ∧
      dark (Html.References.basic.decode (Html.textContent document.html)) =
        "ab&lt;Tip<i>x<yf&g".toList := by
  intro c
  have parsed : Markdown.events ⟨true, true⟩
      "# a *b* \\&lt;\n\n> [!TIP]\n> `<i>` $x<y$\n\n```c\nf & g\n```\n" =
        [.start (.heading 1), .text "a ", .start .emphasis, .text "b", .stop .emphasis, .text " ",
          .text "&lt;", .stop (.heading 1), .start (.blockQuote (some .tip)), .start .paragraph,
          .code "<i>", .text " ", .math "x<y" false, .stop .paragraph, .stop .blockQuote,
          .start (.codeBlock (some "c")), .text "f & g\n", .stop .codeBlock] := by
    decide +kernel
  have shaped := Markdown.shaped_events ⟨true, true⟩
    "# a *b* \\&lt;\n\n> [!TIP]\n> `<i>` $x<y$\n\n```c\nf & g\n```\n"
  rw [parsed] at shaped ⊢
  have shown := c.dark_decode_compile rfl shaped (by decide) (by decide) () rfl Html.References.basic
  exact ⟨_, rfl, shown.trans (by decide)⟩

end Compiler

end Mathdown
