/-!
The two ways of writing text into HTML. `escapeHtml` names the five characters that HTML gives a
meaning to; `escapeCode` writes every character but ASCII letters, digits and the space as a
decimal character reference.
-/

namespace Mathdown.Text

def escapeHtmlChar : Char → List Char
  | '&' => "&amp;".toList
  | '<' => "&lt;".toList
  | '>' => "&gt;".toList
  | '"' => "&quot;".toList
  | '\'' => "&#x27;".toList
  | c => [c]

/-- Text as HTML that shows it and opens no tag, reference or quotation. -/
def escapeHtml (s : String) : String := String.ofList (s.toList.flatMap escapeHtmlChar)

/-- Whether a character neither begins nor ends a tag or a quotation. -/
def isInert (c : Char) : Bool := c != '<' && c != '>' && c != '"' && c != '\''

theorem isInert_of_mem_escapeHtml {c : Char} {s : String} (member : c ∈ (escapeHtml s).toList) :
    isInert c = true := by
  rw [escapeHtml, String.toList_ofList, List.mem_flatMap] at member
  obtain ⟨original, -, member⟩ := member
  have inert : (escapeHtmlChar original).all isInert = true := by
    unfold escapeHtmlChar
    split
    case h_6 => simp_all [isInert]
    all_goals rfl
  exact List.all_eq_true.mp inert c member

def isPlainCode (c : Char) : Bool := c.isAlphanum || c == ' '

/-- The form of a character in code that no highlighter has dealt with. -/
def escapeCodeChar (c : Char) : List Char :=
  if isPlainCode c then [c] else '&' :: '#' :: Nat.toDigits 10 c.toNat ++ [';']

/-- Source code with all but letters, digits and spaces as decimal character references. -/
def escapeCode (s : String) : String := String.ofList (s.toList.flatMap escapeCodeChar)

end Mathdown.Text
