import Mathdown.Pattern

namespace Mathdown

structure Grammar where
  name : String
  /-- The kind of text, from the general to the special, with dots between. -/
  scope : String
  extensions : List String
  /-- What code of the language begins with, if that can be told. -/
  firstLine : Option Pattern := none

namespace Grammar

def lower (s : String) : String := String.ofList (s.toList.map Char.toLower)

def sameLetters (s t : String) : Bool := lower s == lower t

def findLast? (fits : Grammar → Bool) (table : List Grammar) : Option Grammar :=
  table.reverse.find? fits

def byExtension? (table : List Grammar) (token : String) : Option Grammar :=
  findLast? (fun g => g.extensions.any (sameLetters · token)) table

def byName? (table : List Grammar) (name : String) : Option Grammar :=
  findLast? (fun g => g.name == name) table

/-- The grammar with that extension, or else of that name in any case. -/
def byToken? (table : List Grammar) (token : String) : Option Grammar :=
  (byExtension? table token).or (findLast? (fun g => sameLetters g.name token) table)

/-- The grammar of a language, by its token in lower case, its name, or its extension. -/
def find? (table : List Grammar) (language : String) : Option Grammar :=
  ((byToken? table (lower language)).or (byName? table language)).or
    (byExtension? table (lower language))

def withoutMark (code : String) : String :=
  match code.toList with
  | '\uFEFF' :: rest => String.ofList rest
  | _ => code

def byFirstLine? (table : List Grammar) (code : String) : Option Grammar :=
  let code := withoutMark code
  findLast? (fun g => (g.firstLine.map (·.search code)).getD false) table

def atoms (g : Grammar) : List String := g.scope.splitOn "."

def classes (g : Grammar) : String := " ".intercalate (g.atoms.map fun atom => "syntax-" ++ atom)

def escapeChar : Char → List Char
  | '&' => "&amp;".toList
  | '<' => "&lt;".toList
  | '>' => "&gt;".toList
  | '"' => "&quot;".toList
  | '\'' => "&#39;".toList
  | c => [c]

/-- Code as one span of the grammar's class. Empty code has no span. -/
def render (g : Grammar) (code : String) : String :=
  if code.isEmpty then ""
  else "<span class=\"" ++ g.classes ++ "\">" ++
    String.ofList (code.toList.flatMap escapeChar) ++ "</span>"

end Grammar

end Mathdown
