import Mathdown.Compile

/-!
What an event does, as a list of acts. An event asks a processor at most one question, and all
else that it does is a few acts on the state, which depend on the answer and on what is being
collected. `Compiler.step_eq` says that a step of the compiler is just that, `Act.due_of_mem_ofEvent`
which acts an event may have, and `Act.leaves_perform` what an act leaves alone.
-/

namespace Mathdown.Compile

/-- One change of the compiler's state. -/
inductive Act where
  | write (html : String)
  | inline (html : String)
  | token (id : PlaceholderId)
  | noteText (text : String)
  | noteAlt (text : String)
  | beginHeading (level : Nat)
  | endHeading
  | setCode (code : Option CodeCapture)
  | setImage (image : Option ImageCapture)
  | setTable (table : TableCursor)
  | setQuotes (quotes : List (Option AlertKind))
deriving DecidableEq, Repr

namespace Act

def perform (s : State) : Act → State
  | .write html => s.write html
  | .inline html => s.writeInline html
  | .token id => s.writeToken id
  | .noteText text => s.noteText text
  | .noteAlt text => s.noteAlt text
  | .beginHeading level => { s with heading := some ⟨level, "", "", []⟩ }
  | .endHeading => s.finishHeading
  | .setCode code => { s with code }
  | .setImage image => { s with image }
  | .setTable table => { s with table }
  | .setQuotes quotes => { s with quotes }

def token? : Act → Option PlaceholderId
  | .token id => some id
  | _ => none

def entering (s : State) : Tag → List Act
  | .paragraph => [.write "<p>"]
  | .heading level => [.beginHeading level]
  | .blockQuote kind =>
    [.setQuotes (kind :: s.quotes), .write ((kind.map Html.alertStart).getD Html.quoteStart)]
  | .codeBlock info => [.setCode (some ⟨info.bind Text.firstWord, ""⟩)]
  | .list first => [.write (Html.listStart first)]
  | .item => [.write "<li>"]
  | .footnoteDefinition _ | .htmlBlock | .metadata => []
  | .definitionList => [.write "<dl>"]
  | .definitionTerm => [.write "<dt>"]
  | .definitionBody => [.write "<dd>"]
  | .table columns => [.setTable ⟨false, columns, 0⟩, .write "<table>"]
  | .tableHead => [.setTable { s.table with inHead := true, cell := 0 }, .write "<thead><tr>"]
  | .tableRow => [.setTable { s.table with cell := 0 }, .write "<tr>"]
  | .tableCell => [.write (Html.cellStart s.table.inHead s.table.alignment)]
  | .emphasis => [.inline "<em>"]
  | .strong => [.inline "<strong>"]
  | .strikethrough => [.inline "<s>"]
  | .superscript => [.inline "<sup>"]
  | .subscript => [.inline "<sub>"]
  | .link url _ => [.inline (Html.linkStart url)]
  | .image url title => [.setImage (some ⟨url, title, ""⟩)]

def leaving (s : State) : TagEnd → List Act
  | .paragraph => [.write "</p>"]
  | .heading _ => [.endHeading]
  | .blockQuote =>
    match s.quotes with
    | some _ :: rest => [.setQuotes rest, .write Html.alertStop]
    | quotes => [.setQuotes quotes.tail, .write Html.quoteStop]
  | .list ordered => [.write (Html.listStop ordered)]
  | .item => [.write "</li>"]
  | .footnoteDefinition | .htmlBlock | .metadata | .codeBlock => []
  | .image =>
    match s.image with
    | some image => [.setImage none, .inline (Html.image image.url image.alt image.title)]
    | none => []
  | .definitionList => [.write "</dl>"]
  | .definitionTerm => [.write "</dt>"]
  | .definitionBody => [.write "</dd>"]
  | .table => [.write "</tbody></table>"]
  | .tableHead => [.setTable { s.table with inHead := false }, .write "</tr></thead><tbody>"]
  | .tableRow => [.write "</tr>"]
  | .tableCell =>
    [.setTable { s.table with cell := s.table.cell + 1 }, .write (Html.cellStop s.table.inHead)]
  | .emphasis => [.inline "</em>"]
  | .strong => [.inline "</strong>"]
  | .strikethrough => [.inline "</s>"]
  | .superscript => [.inline "</sup>"]
  | .subscript => [.inline "</sub>"]
  | .link => [.inline "</a>"]

/-- Writing text where it is collected, or else as `html`. -/
def showing (s : State) (text html : String) : List Act :=
  if s.image.isSome then [.noteAlt text] else [.noteText text, .inline html]

def answeringCode (options : CompilerOptions) (block : CodeCapture) : Answer → List Act :=
  let lines := if options.lineNumbers then some (Text.lines block.source).length else none
  fun
  | .deferred id =>
    [.write (Html.codeStart block.language lines.isSome), .token id, .write (Html.codeStop lines)]
  | .inline html => [.write (Html.codeAround block.language lines html)]
  | .passThrough => [.write (Html.codeBlock block.language block.source lines)]

def answeringMath (expression : String) (display : Bool) : Answer → List Act
  | .deferred id => [.token id]
  | .inline html => [.inline html]
  | .passThrough => [.inline (Html.math expression display)]

/-- The code block that is being collected; without one, an empty block is written. -/
def block (s : State) : CodeCapture := s.code.getD ⟨none, ""⟩

/-- All that an event does, by the answer to its question. -/
def ofEvent (options : CompilerOptions) (s : State) (answer : Answer) : Event → List Act
  | .start tag => entering s tag
  | .stop .codeBlock => .setCode none :: answeringCode options (block s) answer
  | .stop tag => leaving s tag
  | .text text =>
    match s.code with
    | some block => [.setCode (some { block with source := block.source ++ text })]
    | none => showing s text (Text.escapeHtml text)
  | .code source => showing s source (Html.codeSpan source)
  | .math expression display =>
    if s.image.isSome then [.noteAlt expression]
    else .noteText expression :: answeringMath expression display answer
  | .html html | .inlineHtml html => [.inline html]
  | .footnoteReference _ => []
  | .softBreak => if s.image.isSome then [.noteAlt " "] else [.inline "\n"]
  | .hardBreak => [.inline Html.hardBreak]
  | .rule => [.write Html.rule]
  | .taskMarker checked => [.write (Html.taskMarker checked)]

def performAll (acts : List Act) (s : State) : State := acts.foldl perform s

@[simp] theorem performAll_nil (s : State) : performAll [] s = s := rfl

@[simp] theorem performAll_cons (act : Act) (acts : List Act) (s : State) :
    performAll (act :: acts) s = performAll acts (act.perform s) := rfl

theorem performAll_keeps (holds : State → Prop) {acts : List Act}
    (each : ∀ act ∈ acts, ∀ s, holds s → holds (act.perform s)) {s : State} (before : holds s) :
    holds (performAll acts s) := by
  induction acts generalizing s with
  | nil => exact before
  | cons act rest ih =>
    obtain ⟨here, others⟩ := List.forall_mem_cons.mp each
    exact ih others (here s before)

def keepsHeading : Act → Bool
  | .beginHeading _ | .endHeading => false
  | _ => true

/-- Whether an act leaves alone whether an image is being collected. -/
def keepsImage : Act → Bool
  | .setImage _ => false
  | _ => true

/-- Whether an act leaves alone what is being collected. -/
def isPlain : Act → Bool
  | .beginHeading _ | .endHeading | .setCode _ | .setImage _ => false
  | _ => true

theorem keeps_of_isPlain {act : Act} (plain : act.isPlain = true) :
    act.keepsHeading = true ∧ act.keepsImage = true := by
  cases act with
  | beginHeading level | endHeading | setCode code | setImage image => cases plain
  | _ => exact ⟨rfl, rfl⟩

/-- How an event comes to have an act. -/
inductive Due (s : State) : Event → Act → Prop where
  | plain (event : Event) {act : Act} (plain : act.isPlain = true) : Due s event act
  | beginHeading (level : Nat) : Due s (.start (.heading level)) (.beginHeading level)
  | endHeading (level : Nat) : Due s (.stop (.heading level)) .endHeading
  | beginCode (info : Option String) :
      Due s (.start (.codeBlock info)) (.setCode (some ⟨info.bind Text.firstWord, ""⟩))
  | noteCode (text : String) {block : CodeCapture} (held : s.code = some block) :
      Due s (.text text) (.setCode (some { block with source := block.source ++ text }))
  | endCode : Due s (.stop .codeBlock) (.setCode none)
  | beginImage (url title : String) :
      Due s (.start (.image url title)) (.setImage (some ⟨url, title, ""⟩))
  | endImage : Due s (.stop .image) (.setImage none)

private theorem Due.ofAll {s : State} {event : Event} {acts : List Act} {act : Act}
    (plain : acts.all isPlain = true) (member : act ∈ acts) : Due s event act :=
  .plain event (List.all_eq_true.mp plain act member)

theorem due_of_mem_ofEvent {options : CompilerOptions} {s : State} {answer : Answer} {event : Event}
    {act : Act} (member : act ∈ ofEvent options s answer event) : Due s event act := by
  cases event with
  | start tag =>
    cases tag with
    | heading level =>
      obtain rfl := List.mem_singleton.mp member
      exact .beginHeading level
    | codeBlock info =>
      obtain rfl := List.mem_singleton.mp member
      exact .beginCode info
    | image url title =>
      obtain rfl := List.mem_singleton.mp member
      exact .beginImage url title
    | _ => exact .ofAll rfl member
  | stop tag =>
    cases tag with
    | heading level =>
      obtain rfl := List.mem_singleton.mp member
      exact .endHeading level
    | codeBlock =>
      rcases List.mem_cons.mp member with rfl | member
      · exact .endCode
      · cases answer <;> exact .ofAll rfl member
    | blockQuote =>
      simp only [ofEvent, leaving] at member
      split at member <;> exact .ofAll rfl member
    | image =>
      -- Only an image that is open is written and ended.
      simp only [ofEvent, leaving] at member
      split at member
      · rcases List.mem_cons.mp member with rfl | member
        · exact .endImage
        · exact .ofAll rfl member
      · cases member
    | _ => exact .ofAll rfl member
  | text text =>
    simp only [ofEvent, showing] at member
    split at member
    · rename_i block held
      obtain rfl := List.mem_singleton.mp member
      exact .noteCode text held
    · split at member <;> exact .ofAll rfl member
  | code source =>
    simp only [ofEvent, showing] at member
    split at member <;> exact .ofAll rfl member
  | math expression display =>
    simp only [ofEvent] at member
    split at member
    · exact .ofAll rfl member
    · cases answer <;> exact .ofAll rfl member
  | softBreak =>
    simp only [ofEvent] at member
    split at member <;> exact .ofAll rfl member
  | _ => exact .ofAll rfl member

/-- What an act leaves as it was. -/
structure Leaves (act : Act) (s t : State) : Prop where
  depth : t.depth = s.depth
  slugs : act ≠ .endHeading → t.slugs = s.slugs
  code : (∀ code, act ≠ .setCode code) → t.code = s.code
  heading : act.keepsHeading = true → t.heading.isSome = s.heading.isSome
  image : act.keepsImage = true → t.image.isSome = s.image.isSome

theorem leaves_perform (act : Act) (s : State) : act.Leaves s (act.perform s) := by
  have same : act.Leaves s s := ⟨rfl, fun _ => rfl, fun _ => rfl, fun _ => rfl, fun _ => rfl⟩
  cases act with
  | inline html =>
    simp only [perform, State.writeInline, State.write]
    split
    · exact same
    · split <;> rename_i opened
      · exact { same with heading := fun _ => by simp [opened] }
      · exact ⟨rfl, fun _ => rfl, fun _ => rfl, fun _ => rfl, fun _ => rfl⟩
  | token id =>
    simp only [perform, State.writeToken]
    split <;> rename_i opened
    · exact { same with heading := fun _ => by simp [opened] }
    · exact ⟨rfl, fun _ => rfl, fun _ => rfl, fun _ => rfl, fun _ => rfl⟩
  | noteText text =>
    simp only [perform, State.noteText]
    split <;> rename_i opened
    · exact { same with heading := fun _ => by simp [opened] }
    · exact same
  | noteAlt text =>
    simp only [perform, State.noteAlt]
    split <;> rename_i held
    · exact { same with image := fun _ => by simp [held] }
    · exact same
  | beginHeading level => exact { same with heading := fun keeps => by cases keeps }
  | endHeading =>
    simp only [perform, State.finishHeading]
    split
    · exact same
    · exact { same with
        slugs := fun other => absurd rfl other
        heading := fun keeps => by cases keeps }
  | setCode code => exact { same with code := fun other => absurd rfl (other code) }
  | setImage image => exact { same with image := fun keeps => by cases keeps }
  | _ => exact ⟨rfl, fun _ => rfl, fun _ => rfl, fun _ => rfl, fun _ => rfl⟩

end Act

/-- What a processor is asked. -/
inductive Question where
  | code (language : Option String) (source : String)
  | math (expression : String) (display : Bool)
deriving DecidableEq, Repr

/-- What an event asks of a processor: code when a block ends, and math outside images. -/
def Question.ofEvent (s : State) : Event → Option Question
  | .stop .codeBlock => some (.code (Act.block s).language (Act.block s).source)
  | .math expression display => if s.image.isSome then none else some (.math expression display)
  | _ => none

end Mathdown.Compile

namespace Mathdown.Compiler

open Compile (Act Question State)

variable {σ : Type}

/-- The answer to a question; what no processor is there for is shown as it is. -/
def answer (c : Compiler σ) (w : σ) : Question → Answer × σ
  | .code language source =>
    match c.processors.code with
    | some process => process w language source
    | none => (.passThrough, w)
  | .math expression display =>
    match c.processors.math with
    | some process => process w expression display
    | none => (.passThrough, w)

def answerTo (c : Compiler σ) (w : σ) : Option Question → Answer × σ
  | some question => c.answer w question
  | none => (.passThrough, w)

private theorem finishCode_eq (c : Compiler σ) (s : State) (w : σ) :
    c.finishCode s w =
      (Act.performAll (.setCode none :: Act.answeringCode c.options (Act.block s)
        (c.answer w (.code (Act.block s).language (Act.block s).source)).1) s,
        (c.answer w (.code (Act.block s).language (Act.block s).source)).2) := by
  unfold finishCode answer Act.block
  cases c.processors.code with
  | none => rfl
  | some process =>
    dsimp only
    generalize process w (s.code.getD ⟨none, ""⟩).language (s.code.getD ⟨none, ""⟩).source = given
    obtain ⟨answer, after⟩ := given
    cases answer <;> rfl

private theorem math_eq (c : Compiler σ) (expression : String) (display : Bool) (s : State) (w : σ)
    (outside : s.image.isSome = false) :
    c.math expression display s w =
      (Act.performAll (.noteText expression :: Act.answeringMath expression display
        (c.answer w (.math expression display)).1) s,
        (c.answer w (.math expression display)).2) := by
  unfold math answer
  simp only [outside, Bool.false_eq_true, if_false]
  cases c.processors.math with
  | none => rfl
  | some process =>
    dsimp only
    generalize process w expression display = given
    obtain ⟨answer, after⟩ := given
    cases answer <;> rfl

/-- A step asks what there is to be asked, and performs the acts of the event. -/
theorem step_eq (c : Compiler σ) (event : Event) (s : State) (w : σ) :
    c.step event s w =
      (Act.performAll
        (Act.ofEvent c.options s (c.answerTo w (Question.ofEvent s event)).1 event) s,
        (c.answerTo w (Question.ofEvent s event)).2) := by
  have showing (text html : String) :
      Act.performAll (Act.showing s text html) s =
        if s.image.isSome then s.noteAlt text else (s.noteText text).writeInline html := by
    unfold Act.showing
    split <;> rfl
  cases event with
  | start tag => cases tag <;> rfl
  | stop tag =>
    cases tag with
    | codeBlock => exact c.finishCode_eq s w
    | blockQuote =>
      simp only [step, leave, Question.ofEvent, answerTo, Act.ofEvent, Act.leaving]
      rcases s.quotes with _ | ⟨_ | kind, rest⟩ <;> rfl
    | image =>
      simp only [step, leave, Question.ofEvent, answerTo, Act.ofEvent, Act.leaving]
      cases s.image <;> rfl
    | _ => rfl
  | text text =>
    simp only [step, Compiler.text, Question.ofEvent, answerTo, Act.ofEvent]
    cases s.code with
    | some block => rfl
    | none => simp only [showing]
  | code source =>
    simp only [step, codeSpan, Question.ofEvent, answerTo, Act.ofEvent, showing]
  | math expression display =>
    simp only [step, Question.ofEvent, Act.ofEvent]
    cases inside : s.image.isSome with
    | true => simp [math, inside, answerTo, Act.perform]
    | false => simpa [answerTo] using c.math_eq expression display s w inside
  | softBreak =>
    simp only [step, Question.ofEvent, answerTo, Act.ofEvent]
    split <;> rfl
  | _ => rfl

/-- Compilers that answer alike to all that events ask run alike. -/
theorem run_congr {c d : Compiler σ} (same : c.options = d.options) {events : List Event}
    (alike : ∀ event ∈ events, ∀ s question, Question.ofEvent s event = some question →
      ∀ w, c.answer w question = d.answer w question) (s : State) (w : σ) :
    c.run events s w = d.run events s w := by
  induction events generalizing s w with
  | nil => rfl
  | cons event events ih =>
    obtain ⟨first, others⟩ := List.forall_mem_cons.mp alike
    have answers (s : State) :
        c.answerTo w (Question.ofEvent s event) = d.answerTo w (Question.ofEvent s event) := by
      cases asked : Question.ofEvent s event with
      | none => rfl
      | some question => exact first s question asked w
    simp only [run, step_eq, same, answers]
    split
    · rfl
    · exact ih others _ _

theorem compile_congr {c d : Compiler σ} (same : c.options = d.options) {events : List Event}
    (alike : ∀ event ∈ events, ∀ s question, Question.ofEvent s event = some question →
      ∀ w, c.answer w question = d.answer w question) (s : State) (w : σ) :
    c.compile events s w = d.compile events s w := by
  unfold compile
  rw [run_congr same alike]

/-- What every answer keeps true of the processors' state, a run keeps true. -/
theorem run_keeps {c : Compiler σ} {holds : σ → Prop}
    (keeps : ∀ w question, holds w → holds (c.answer w question).2) (events : List Event) (s : State)
    {w : σ} (before : holds w) : holds (c.run events s w).2.2 := by
  induction events generalizing s w with
  | nil => exact before
  | cons event events ih =>
    simp only [run]
    split
    · exact before
    · apply ih
      rw [step_eq]
      cases Question.ofEvent { s with depth := depthAfter s.depth event } event with
      | none => exact before
      | some question => exact keeps w question before

/-- What is left of the processors' state is what the run leaves, whether it fails or not. -/
theorem world_compile (c : Compiler σ) (events : List Event) (s : State) (w : σ) :
    (c.compile events s w).2.2 = (c.run events s w).2.2 := by
  rw [compile]
  split <;> rename_i ran <;> rw [ran]

/-- A document that is compiled is what the run has written, and the run has not failed. -/
theorem run_of_compile {c : Compiler σ} {events : List Event} {s : State} {w : σ}
    {document : CompiledDocument} (compiled : (c.compile events s w).1 = .ok document) :
    (c.run events s w).1 = none ∧
      document = ⟨(c.run events s w).2.1.output, (c.run events s w).2.1.spans⟩ := by
  rw [compile] at compiled
  split at compiled
  · cases compiled
  · rename_i ran
    rw [ran]
    exact ⟨rfl, (Except.ok.inj compiled).symm⟩

theorem compile_keeps {c : Compiler σ} {holds : σ → Prop}
    (keeps : ∀ w question, holds w → holds (c.answer w question).2) (events : List Event) (s : State)
    {w : σ} (before : holds w) : holds (c.compile events s w).2.2 := by
  rw [world_compile]
  exact run_keeps keeps events s before

end Mathdown.Compiler
