import Mathdown.Compile.Options
import Mathdown.Compile.State

/-!
The compiler from events to HTML. `Compiler.step` says what one event does to the state;
`Compiler.run` folds it over a document and stops where elements nest too deep. Code blocks and
math are offered to processors, which carry a state of their own.
-/

namespace Mathdown

/-- What a processor says about a code block or math span. -/
inductive Answer where
  /-- Its HTML comes later, in place of this token. -/
  | deferred (id : PlaceholderId)
  /-- This is its HTML. -/
  | inline (html : String)
  /-- It is shown as it is. -/
  | passThrough
deriving DecidableEq, Repr

/-- Processors of code blocks and of math, over a state that they share. -/
structure Processors (σ : Type) where
  /-- Given the language and the source of a code block. -/
  code : Option (σ → Option String → String → Answer × σ) := none
  /-- Given an expression and whether it is display math. -/
  math : Option (σ → String → Bool → Answer × σ) := none

/-- Why a document cannot be compiled. -/
inductive CompileError where
  | nestingTooDeep (limit : Nat)
deriving DecidableEq, Repr

def CompileError.message : CompileError → String
  | .nestingTooDeep limit =>
    "document nesting exceeds the limit of " ++ toString limit ++ " levels"

/-- Compiled HTML and the placeholders in it, in document order. -/
structure CompiledDocument where
  html : String
  spans : List PlaceholderSpan
deriving DecidableEq, Repr

/-- A compiler: its options and processors. -/
structure Compiler (σ : Type) where
  options : CompilerOptions := {}
  processors : Processors σ := {}

namespace Compiler

open Compile (State)

variable {σ : Type}

def enter (tag : Tag) (s : State) : State :=
  match tag with
  | .paragraph => s.write "<p>"
  | .heading level => { s with heading := some ⟨level, "", "", []⟩ }
  | .blockQuote kind =>
    { s with quotes := kind :: s.quotes }.write ((kind.map Html.alertStart).getD Html.quoteStart)
  | .codeBlock info => { s with code := some ⟨info.bind Text.firstWord, ""⟩ }
  | .list first => s.write (Html.listStart first)
  | .item => s.write "<li>"
  | .footnoteDefinition _ | .htmlBlock | .metadata => s
  | .definitionList => s.write "<dl>"
  | .definitionTerm => s.write "<dt>"
  | .definitionBody => s.write "<dd>"
  | .table columns => { s with table := ⟨false, columns, 0⟩ }.write "<table>"
  | .tableHead =>
    { s with table := { s.table with inHead := true, cell := 0 } }.write "<thead><tr>"
  | .tableRow => { s with table := { s.table with cell := 0 } }.write "<tr>"
  | .tableCell => s.write (Html.cellStart s.table.inHead s.table.alignment)
  | .emphasis => s.writeInline "<em>"
  | .strong => s.writeInline "<strong>"
  | .strikethrough => s.writeInline "<s>"
  | .superscript => s.writeInline "<sup>"
  | .subscript => s.writeInline "<sub>"
  | .link url _ => s.writeInline (Html.linkStart url)
  | .image url title => { s with image := some ⟨url, title, ""⟩ }

/-- Writes a code block whose source is complete. -/
def finishCode (c : Compiler σ) (s : State) (w : σ) : State × σ :=
  let block := s.code.getD ⟨none, ""⟩
  let s := { s with code := none }
  let lines := if c.options.lineNumbers then some (Text.lines block.source).length else none
  let (answer, w) := match c.processors.code with
    | some process => process w block.language block.source
    | none => (.passThrough, w)
  match answer with
  | .deferred id =>
    (((s.write (Html.codeStart block.language lines.isSome)).writeToken id).write
      (Html.codeStop lines), w)
  | .inline html => (s.write (Html.codeAround block.language lines html), w)
  | .passThrough => (s.write (Html.codeBlock block.language block.source lines), w)

def leave (tag : TagEnd) (s : State) : State :=
  match tag with
  | .paragraph => s.write "</p>"
  | .heading _ => s.finishHeading
  | .blockQuote =>
    match s.quotes with
    | some _ :: rest => { s with quotes := rest }.write Html.alertStop
    | quotes => { s with quotes := quotes.tail }.write Html.quoteStop
  | .list ordered => s.write (Html.listStop ordered)
  | .item => s.write "</li>"
  | .footnoteDefinition | .htmlBlock | .metadata | .codeBlock => s
  | .image =>
    match s.image with
    | some image => { s with image := none }.writeInline (Html.image image.url image.alt image.title)
    | none => s
  | .definitionList => s.write "</dl>"
  | .definitionTerm => s.write "</dt>"
  | .definitionBody => s.write "</dd>"
  | .table => s.write "</tbody></table>"
  | .tableHead =>
    { s with table := { s.table with inHead := false } }.write "</tr></thead><tbody>"
  | .tableRow => s.write "</tr>"
  | .tableCell =>
    { s with table := { s.table with cell := s.table.cell + 1 } }.write
      (Html.cellStop s.table.inHead)
  | .emphasis => s.writeInline "</em>"
  | .strong => s.writeInline "</strong>"
  | .strikethrough => s.writeInline "</s>"
  | .superscript => s.writeInline "</sup>"
  | .subscript => s.writeInline "</sub>"
  | .link => s.writeInline "</a>"

/-- Writes text to the innermost place that collects it: code, an image, a heading, the document. -/
def text (text : String) (s : State) : State :=
  match s.code with
  | some block => { s with code := some { block with source := block.source ++ text } }
  | none =>
    if s.image.isSome then s.noteAlt text
    else (s.noteText text).writeInline (Text.escapeHtml text)

def codeSpan (source : String) (s : State) : State :=
  if s.image.isSome then s.noteAlt source
  else (s.noteText source).writeInline (Html.codeSpan source)

/-- Writes a math span; inside an image it is text and no processor sees it. -/
def math (c : Compiler σ) (expression : String) (display : Bool) (s : State) (w : σ) : State × σ :=
  if s.image.isSome then (s.noteAlt expression, w)
  else
    let s := s.noteText expression
    let (answer, w) := match c.processors.math with
      | some process => process w expression display
      | none => (.passThrough, w)
    match answer with
    | .deferred id => (s.writeToken id, w)
    | .inline html => (s.writeInline html, w)
    | .passThrough => (s.writeInline (Html.math expression display), w)

/-- What an event does, nesting aside. -/
def step (c : Compiler σ) (event : Event) (s : State) (w : σ) : State × σ :=
  match event with
  | .start tag => (enter tag s, w)
  | .stop .codeBlock => c.finishCode s w
  | .stop tag => (leave tag s, w)
  | .text text => (Compiler.text text s, w)
  | .code source => (codeSpan source s, w)
  | .math expression display => c.math expression display s w
  | .html html | .inlineHtml html => (s.writeInline html, w)
  | .footnoteReference _ => (s, w)
  | .softBreak => (if s.image.isSome then s.noteAlt " " else s.writeInline "\n", w)
  | .hardBreak => (s.writeInline Html.hardBreak, w)
  | .rule => (s.write Html.rule, w)
  | .taskMarker checked => (s.write (Html.taskMarker checked), w)

/-- The depth of elements after an event; leaving at the outermost level changes nothing. -/
def depthAfter (depth : Nat) : Event → Nat
  | .start _ => depth + 1
  | .stop _ => depth - 1
  | _ => depth

/-- Whether an event enters an element at a depth beyond the limit. -/
def tooDeep (limit depth : Nat) : Event → Bool
  | .start _ => limit < depth + 1
  | _ => false

/-- Folds `step` over the events. An error leaves everything as it was, but for the depth. -/
def run (c : Compiler σ) : List Event → State → σ → Option CompileError × State × σ
  | [], s, w => (none, s, w)
  | event :: events, s, w =>
    let depth := depthAfter s.depth event
    if tooDeep c.options.maxNesting s.depth event then
      (some (.nestingTooDeep c.options.maxNesting), { s with depth }, w)
    else
      let (s, w) := c.step event { s with depth } w
      run c events s w

/-- Compiles a document. What is left in the state goes into the next one. -/
def compile (c : Compiler σ) (events : List Event) (s : State) (w : σ) :
    Except CompileError CompiledDocument × State × σ :=
  match c.run events s w with
  | (some error, s, w) => (.error error, s, w)
  | (none, s, w) => (.ok ⟨s.output, s.spans⟩, { s with output := "", spans := [] }, w)

/-- Compiles documents in turn, each in the state that the one before it leaves. -/
def compileAll (c : Compiler σ) :
    List (List Event) → State → σ → List (Except CompileError CompiledDocument) × State × σ
  | [], s, w => ([], s, w)
  | events :: rest, s, w =>
    let (result, s, w) := c.compile events s w
    let (results, s, w) := compileAll c rest s w
    (result :: results, s, w)

end Compiler

end Mathdown
