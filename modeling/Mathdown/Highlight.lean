import Mathdown.Engine
import Mathdown.Grammar.Table

namespace Mathdown.Highlight

/-- The grammar for code, by its language or, without one, by how it begins. -/
def grammarFor (table : List Grammar) (code : String) :
    Option String → Except HighlightError Grammar
  | some language =>
    match Grammar.find? table language with
    | some grammar => .ok grammar
    | none => .error (.unknownLanguage language)
  | none => .ok ((Grammar.byFirstLine? table code).getD Grammar.plainText)

/-- Turns code into HTML by its grammar, or says why it cannot. -/
abbrev Writer := Grammar → (code : String) → Except String String

def plain : Writer := fun grammar code => .ok (grammar.render code)

def highlighter {ω : Type} (table : List Grammar) (write : Writer := plain) : Highlighter ω where
  highlight code language w :=
    match grammarFor table code language with
    | .error e => (.error e, w)
    | .ok grammar =>
      match write grammar code with
      | .error message => (.error (.engine grammar.name message), w)
      | .ok html => (.ok (.ready html), w)

end Mathdown.Highlight
