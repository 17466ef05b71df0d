import Mathdown.Html.Mark
import Mathdown.Markdown.Entity

namespace Mathdown.Html

/-- What a character shows. A `<` is seen only if it turns out to begin nothing. -/
def Reading.shows : Reading → Char → List Char
  | .text, c => if c = '<' then [] else [c]
  | .opened, c =>
    match (Reading.step .opened c).1 with
    | .text => ['<', c]
    | .opened => ['<']
    | _ => []
  | _, _ => []

/-- What is seen at the end of a text. -/
def Reading.rest : Reading → List Char
  | .opened => ['<']
  | _ => []

/-- What a text shows that is read from some place on. -/
def shown : Reading → List Char → List Char
  | _, [] => []
  | r, c :: cs => r.shows c ++ shown (r.step c).1 cs

/-- The text of HTML, without its tags. -/
def textContent (html : String) : List Char :=
  shown .text html.toList ++ (read .text html.toList).2.rest

theorem shown_append (r : Reading) (front back : List Char) :
    shown r (front ++ back) = shown r front ++ shown (read r front).2 back := by
  induction front generalizing r with
  | nil => rfl
  | cons c cs ih => rw [List.cons_append, shown, shown, ih, read, List.append_assoc]

example : textContent "a <b title=\"<\">c</b><!-- d --> < e" = "a c < e".toList := by decide

/-- What names stand for; those of the characters that HTML gives a meaning to are among them. -/
structure References where
  named : String → Option (List Char)
  amp : named "amp" = some ['&']
  lt : named "lt" = some ['<']
  gt : named "gt" = some ['>']
  quot : named "quot" = some ['"']

namespace References

/-- Whether a character may stand in a reference. -/
def isPart (c : Char) : Bool := c.isAlphanum || c == '#'

/-- What stands between `&` and `;` in a reference, as text. -/
def value? (references : References) : List Char → Option (List Char)
  | '#' :: 'x' :: digits | '#' :: 'X' :: digits =>
    if digits ≠ [] && digits.all (Markdown.Entity.hexDigit? · |>.isSome) then
      some [Markdown.Entity.ofCodePoint (Markdown.Entity.ofHex digits)]
    else none
  | '#' :: digits =>
    if digits ≠ [] && digits.all Char.isDigit then
      some [Markdown.Entity.ofCodePoint (Markdown.Entity.ofDecimal digits)]
    else none
  | name => references.named (String.ofList name)

/-- Reads on, behind an `&` and some characters if there are any. What is no reference stays. -/
def decodeFrom (references : References) : Option (List Char) → List Char → List Char
  | none, [] => []
  | some part, [] => '&' :: part
  | none, c :: cs =>
    if c = '&' then decodeFrom references (some []) cs else c :: decodeFrom references none cs
  | some part, c :: cs =>
    if c = ';' then
      (references.value? part).getD ('&' :: part ++ [';']) ++ decodeFrom references none cs
    else if isPart c then decodeFrom references (some (part ++ [c])) cs
    else '&' :: part ++
      if c = '&' then decodeFrom references (some []) cs else c :: decodeFrom references none cs

/-- A text with what its character references stand for in their places. -/
def decode (references : References) (cs : List Char) : List Char := references.decodeFrom none cs

def basic : References where
  named
    | "amp" => some ['&']
    | "lt" => some ['<']
    | "gt" => some ['>']
    | "quot" => some ['"']
    | _ => none
  amp := rfl
  lt := rfl
  gt := rfl
  quot := rfl

example : basic.decode "a &amp;lt; &#x3C;&#62; &b &c; &".toList = "a &lt; <> &b &c; &".toList := by
  decide +kernel

end References

end Mathdown.Html
