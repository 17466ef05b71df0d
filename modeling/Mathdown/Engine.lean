import Mathdown.Deferred
import Mathdown.Markdown.Document
import Mathdown.Parser

/-!
Engines, which turn code and math into HTML. An engine may carry a state, be slow, or fail: a
highlighter answers at once or later, the math engine at once, and the fallback for math later.
-/

namespace Mathdown

variable {ω : Type}

/-- Why code has not been highlighted. -/
inductive HighlightError where
  /-- There is no grammar for the language. -/
  | unknownLanguage (language : String)
  | engine (language message : String)
deriving DecidableEq, Repr

def HighlightError.message : HighlightError → String
  | .unknownLanguage language => "unknown language: " ++ language
  | .engine language message => "highlighting " ++ language ++ " failed: " ++ message

/-- What a highlighter gives: HTML for the inside of a code block, now or later. -/
inductive Highlighted (ω : Type) where
  | ready (html : String)
  | pending (work : Deferred ω (Except HighlightError String))

/-- A highlighter, over a state `ω`. Without a language it finds one out for itself. -/
structure Highlighter (ω : Type) where
  highlight : (code : String) → (language : Option String) → ω →
    Except HighlightError (Highlighted ω) × ω

/-- Why the math engine has given no HTML. -/
inductive MathError where
  | options (message : String)
  | render (message : String)
deriving DecidableEq, Repr

def MathError.message : MathError → String
  | .options message => "failed to build KaTeX options: " ++ message
  | .render message => "KaTeX rendering failed: " ++ message

/-- A math engine, over a state `ω`. -/
structure MathEngine (ω : Type) where
  render : (expression : String) → (display : Bool) → ω → Except MathError String × ω

/-- The form of math that the fallback is asked for. -/
inductive TexFormat where
  | display | inline
deriving DecidableEq, Repr

namespace TexFormat

def ofDisplay (display : Bool) : TexFormat := if display then .display else .inline

/-- The usual name of the format. -/
def name : TexFormat → String
  | .display => "TeX"
  | .inline => "inline-TeX"

end TexFormat

/-- Why the fallback has given no drawing, in one or more messages. -/
structure FallbackError where
  messages : List String
deriving DecidableEq, Repr

def FallbackError.message (e : FallbackError) : String := "; ".intercalate e.messages

/-- The engine for math that the first one fails on; what it draws is SVG. -/
structure FallbackEngine (ω : Type) where
  typeset : (expression : String) → TexFormat → ω →
    Deferred ω (Except FallbackError String) × ω

/-- The engines of a renderer, and the parser that reads its documents. -/
structure Engines (ω : Type) where
  highlighter : Highlighter ω
  math : MathEngine ω
  fallback : FallbackEngine ω
  parser : Parser := Markdown.events

end Mathdown
