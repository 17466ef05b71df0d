import Mathdown.Event.Nesting
import Mathdown.Markdown.Options

namespace Mathdown

/-- A Markdown parser. -/
abbrev Parser := Markdown.Options → String → List Event

namespace Parser

/-- Whether all that is read nests, with no elements in others but those that are admitted. -/
def Nests (admits : Event.Admission) (parser : Parser) : Prop :=
  ∀ options text, Event.WellNested admits (parser options text)

/-- Whether nothing is taken for math where math is off. -/
def HeedsMath (parser : Parser) : Prop :=
  ∀ options text, options.math = false → ∀ expression display,
    .math expression display ∉ parser options text

/-- What a renderer relies on of its parser. -/
structure Orderly (parser : Parser) : Prop where
  /-- There are no headings and no code blocks in headings. -/
  nests : parser.Nests Event.plainHeadings
  heedsMath : parser.HeedsMath

theorem Nests.mono {parser : Parser} {admits more : Event.Admission} (nests : parser.Nests admits)
    (weaker : ∀ outer inner, admits outer inner = true → more outer inner = true) :
    parser.Nests more :=
  fun options text => (nests options text).mono weaker

end Parser

end Mathdown
