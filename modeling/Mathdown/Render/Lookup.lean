import Mathdown.Proofs.Render.Isolation

namespace Mathdown

/-- The key that a use looks up, if it looks one up. -/
def Cache.Access.looked? : Cache.Access → Option String
  | .get key => some key
  | .set .. => none

namespace Render

/-- A part of a document that the engines are there for. -/
inductive Span where
  /-- Code behind a fence with an info string, or without one. -/
  | code (info : Option String) (source : String)
  | math (expression : String) (display : Bool)
deriving DecidableEq, Repr

namespace Span

/-- What the compiler asks for the span. Code is in the language that the info string begins with. -/
def question : Span → Compile.Question
  | .code info source => .code (info.bind Text.firstWord) source
  | .math expression display => .math expression display

/-- The key of the span; an empty language is none. -/
def key : Span → Cache.Key
  | .code info source => .highlight ((info.bind Text.firstWord).filter (· != "")) source
  | .math expression display => .math expression display

/-- Where the reading of a document's spans has got to. -/
structure Cursor where
  depth : Nat := 0
  /-- The code block that is being read: its info string, and its source so far. -/
  fence : Option (Option String × String) := none
  inImage : Bool := false
deriving DecidableEq, Repr

namespace Cursor

def after (cursor : Cursor) (event : Event) : Cursor :=
  let cursor := { cursor with depth := Compiler.depthAfter cursor.depth event }
  match event with
  | .start (.codeBlock info) => { cursor with fence := some (info, "") }
  | .stop .codeBlock => { cursor with fence := none }
  | .start (.image _ _) => { cursor with inImage := true }
  | .stop .image => { cursor with inImage := false }
  | .text text => { cursor with fence := cursor.fence.map fun (info, source) => (info, source ++ text) }
  | _ => cursor

/-- The span that an event completes. Math within an image is part of its alternative text. -/
def span? (cursor : Cursor) : Event → Option Span
  | .stop .codeBlock =>
    let (info, source) := cursor.fence.getD (none, "")
    some (.code info source)
  | .math expression display => if cursor.inImage then none else some (.math expression display)
  | _ => none

end Cursor

def ofEvents (limit : Nat) : Cursor → List Event → List Span
  | _, [] => []
  | cursor, event :: events =>
    if Compiler.tooDeep limit cursor.depth event then []
    else (cursor.span? event).toList ++ ofEvents limit (cursor.after event) events

end Span

/-- Something that may be looked up. -/
inductive Lookup where
  | ofSpan (span : Span)
  | document (input : String)
deriving DecidableEq, Repr

namespace Lookup

def key : Lookup → Cache.Key
  | .ofSpan span => span.key
  | .document input => .result input

/-- Whether two are of one kind and alike: code in the same language, or both in none. -/
def Alike : Lookup → Lookup → Prop
  | .ofSpan (.code info source), .ofSpan (.code info' source') =>
    info.bind Text.firstWord = info'.bind Text.firstWord ∧ source = source'
  | .ofSpan (.math expression display), .ofSpan (.math expression' display') =>
    expression = expression' ∧ display = display'
  | .document input, .document input' => input = input'
  | _, _ => False

end Lookup

end Render

namespace Renderer

open Render

variable {γ ω : Type} [Cache γ]

/-- What a call looks up, in order. A document that is in the cache is not read for its spans. -/
def lookups (r : Renderer ω) (input : String) (o : Overrides ω) (w : World γ ω) : List Lookup :=
  if Text.allBlank input then []
  else
    let limit := (r.options.override o.compiler).maxNesting
    let spans :=
      if (w.find? (r.resultKey input o)).1.isSome then []
      else (Span.ofEvents limit {} (r.events input o)).map .ofSpan
    (.document input :: spans).filter fun lookup => (r.layers o).covers lookup.key

end Renderer

end Mathdown
