import Mathdown.Html.Visible

/-!
Character references that may number any character. Readers of HTML put another character for a reference
to the character zero, and some do for control characters; here a number stands for its character,
whichever that is.
-/

namespace Mathdown.Html

def numbered? (n : Nat) : Option (List Char) :=
  if n.isValidChar then some [Char.ofNat n] else none

/-- Reads on, behind an `&` and some characters if there are any, where references have given values. -/
def expandFrom (value? : List Char → Option (List Char)) : Option (List Char) → List Char → List Char
  | none, [] => []
  | some part, [] => '&' :: part
  | none, c :: cs =>
    if c = '&' then expandFrom value? (some []) cs else c :: expandFrom value? none cs
  | some part, c :: cs =>
    if c = ';' then
      (value? part).getD ('&' :: part ++ [';']) ++ expandFrom value? none cs
    else if References.isPart c then expandFrom value? (some (part ++ [c])) cs
    else '&' :: part ++
      if c = '&' then expandFrom value? (some []) cs else c :: expandFrom value? none cs

namespace References

/-- What stands between `&` and `;` in a reference, as text, where numbers have given values. -/
def valueBy? (references : References) (number? : Nat → Option (List Char)) :
    List Char → Option (List Char)
  | '#' :: 'x' :: digits | '#' :: 'X' :: digits =>
    if digits ≠ [] && digits.all (Markdown.Entity.hexDigit? · |>.isSome) then
      number? (Markdown.Entity.ofHex digits)
    else none
  | '#' :: digits =>
    if digits ≠ [] && digits.all Char.isDigit then number? (Markdown.Entity.ofDecimal digits)
    else none
  | name => references.named (String.ofList name)

theorem value?_eq (references : References) :
    references.value? = references.valueBy? fun n => some [Markdown.Entity.ofCodePoint n] := by
  funext name
  unfold value?
  split
  · rfl
  · rfl
  · rw [valueBy?] <;> assumption
  · rw [valueBy?] <;> assumption

theorem decode_eq (references : References) (cs : List Char) :
    references.decode cs = expandFrom references.value? none cs := by
  suffices same : ∀ part, references.decodeFrom part cs = expandFrom references.value? part cs from
    same none
  induction cs with
  | nil => intro part; cases part <;> rfl
  | cons c cs ih => intro part; cases part <;> simp only [decodeFrom, expandFrom, ih]

/-- A text with what its character references stand for in their places, for any characters. -/
def expand (references : References) (cs : List Char) : List Char :=
  expandFrom (references.valueBy? numbered?) none cs

example : basic.expand "&#0;&#x1F600;&#1114112; &amp;#38;".toList =
    "\x00😀&#1114112; &#38;".toList := by
  decide +kernel

end References

end Mathdown.Html
