import Mathdown.Engine
import Mathdown.Tex.Parse
import Mathdown.Text.Escape

/-!
The engine for math in TeX. Math that it does not understand it leaves to the fallback; other math
stands in the spans that style sheets for math look for.
-/

namespace Mathdown.Tex

def className (display : Bool) : String := if display then "katex-display" else "katex"

def html (expression : String) (display : Bool) : String :=
  let inner := "<span class=\"katex\"><span class=\"katex-html\" aria-hidden=\"true\">" ++
    Text.escapeHtml expression ++ "</span></span>"
  if display then "<span class=\"" ++ className display ++ "\">" ++ inner ++ "</span>" else inner

def render (expression : String) (display : Bool) : Except MathError String :=
  match check display expression with
  | .ok () => .ok (html expression display)
  | .error e => .error (.render e.message)

def engine {ω : Type} : MathEngine ω where
  render expression display w := (render expression display, w)

end Mathdown.Tex
