import Mathdown.Markdown.Entity
import Mathdown.Markdown.Line
import Mathdown.Unicode.CaseFold
import Mathdown.Unicode.Punctuation

namespace Mathdown.Markdown.LinkParts

open Unicode (isAsciiPunctuation)

/--
Text with backslash escapes and character references resolved, and without carriage returns. In a
table a bar is written with a backslash, so two backslashes before one stand for an escaped bar.
-/
def unescape (inTable : Bool) : (fuel : Nat) → List Char → List Char
  | 0, cs => cs
  | _, [] => []
  | fuel + 1, c :: cs =>
    match c, cs with
    | '\\', '\\' :: '|' :: rest =>
      if inTable then '|' :: unescape inTable fuel rest
      else '\\' :: unescape inTable fuel ('|' :: rest)
    | '\\', d :: rest =>
      if isAsciiPunctuation d then d :: unescape inTable fuel rest
      else '\\' :: unescape inTable fuel (d :: rest)
    | '&', _ =>
      match Entity.read? (c :: cs) with
      | some (value, rest) => value ++ unescape inTable fuel rest
      | none => '&' :: unescape inTable fuel cs
    | '\r', _ => unescape inTable fuel cs
    | _, _ => c :: unescape inTable fuel cs

def plain (inTable : Bool) (cs : List Char) : List Char := unescape inTable (cs.length + 1) cs

def maxParens : Nat := 32

private def pointed? : List Char → Option (List Char × List Char)
  | [] => none
  | '>' :: rest => some ([], rest)
  | '\\' :: c :: rest =>
    if isAsciiPunctuation c then (pointed? rest).map fun (part, rest) => ('\\' :: c :: part, rest)
    else (pointed? (c :: rest)).map fun (part, rest) => ('\\' :: part, rest)
  | c :: rest =>
    if c == '\n' || c == '\r' || c == '<' then none
    else (pointed? rest).map fun (part, rest) => (c :: part, rest)

private def bare? : (depth : Nat) → List Char → Option (List Char × List Char)
  | depth, [] => if depth == 0 then some ([], []) else none
  | depth, '\\' :: c :: rest =>
    if isAsciiPunctuation c then (bare? depth rest).map fun (part, rest) => ('\\' :: c :: part, rest)
    else (bare? depth (c :: rest)).map fun (part, rest) => ('\\' :: part, rest)
  | depth, c :: rest =>
    if c.toNat ≤ 0x20 then if depth == 0 then some ([], c :: rest) else none
    else if c == '(' then
      if maxParens < depth then none
      else (bare? (depth + 1) rest).map fun (part, rest) => (c :: part, rest)
    else if c == ')' then
      if depth == 0 then some ([], c :: rest)
      else (bare? (depth - 1) rest).map fun (part, rest) => (c :: part, rest)
    else (bare? depth rest).map fun (part, rest) => (c :: part, rest)

/-- A destination as it is written: its text without angle brackets, and what follows it. -/
def destination? (cs : List Char) : Option (List Char × List Char) :=
  match cs with
  | '<' :: rest => pointed? rest
  | _ => bare? 0 cs

/-- Passes blanks with at most one line end among them, and the indentation behind it. -/
def skipSeparator (cs : List Char) : List Char :=
  match cs.dropWhile isInnerBlank with
  | '\n' :: rest => rest.dropWhile isInnerBlank
  | '\r' :: rest => rest.dropWhile isInnerBlank
  | rest => rest

def titleClose? : List Char → Option (Char × Char × List Char)
  | '"' :: rest => some ('"', '"', rest)
  | '\'' :: rest => some ('\'', '\'', rest)
  | '(' :: rest => some ('(', ')', rest)
  | _ => none

/-- The inside of a title, with escapes and references resolved on the way. -/
def titleBody? (inTable : Bool) (opened closed : Char) :
    (fuel : Nat) → List Char → Option (List Char × List Char)
  | 0, _ => none
  | _, [] => none
  | fuel + 1, c :: cs =>
    let more (value rest : List Char) :=
      (titleBody? inTable opened closed fuel rest).map fun (part, rest) => (value ++ part, rest)
    if c == closed then some ([], cs)
    else if c == opened then none
    else
      match c, cs with
      | '\n', _ | '\r', _ => more ['\n'] (cs.dropWhile isIndent)
      | '&', _ =>
        match Entity.read? (c :: cs) with
        | some (value, rest) => more value rest
        | none => more [c] cs
      | '\\', '\\' :: '|' :: rest => if inTable then more ['|'] rest else more ['\\'] ('|' :: rest)
      | '\\', d :: rest => if isAsciiPunctuation d then more [d] rest else more [c] (d :: rest)
      | _, _ => more [c] cs

def title? (inTable : Bool) (cs : List Char) : Option (List Char × List Char) := do
  let (opened, closed, rest) ← titleClose? cs
  titleBody? inTable opened closed (rest.length + 1) rest

/-- Destination and title of an inline link, from its opening parenthesis on. -/
def inline? (inTable : Bool) (cs : List Char) :
    Option (List Char × List Char × List Char) :=
  match cs with
  | '(' :: rest => do
    let (url, rest) ← destination? (skipSeparator rest)
    let rest := skipSeparator rest
    let (title, rest) := match title? inTable rest with
      | some (title, rest) => (title, skipSeparator rest)
      | none => ([], rest)
    match rest with
    | ')' :: after => some (plain inTable url, title, after)
    | _ => none
  | _ => none

def maxLabel : Nat := 1000

private def label (inTable : Bool) :
    (fuel : Nat) → (blank : Bool) → List Char → Option (List Char × List Char)
  | 0, _, _ => none
  | _, _, [] => none
  | fuel + 1, blank, c :: cs =>
    if c == '[' then none
    else if c == ']' then if blank then none else some ([], cs)
    else
      match c, cs with
      | '\\', d :: rest =>
        match inTable && d == '\\', rest with
        | true, '|' :: rest =>
          (label inTable fuel false rest).map fun (part, rest) => ('\\' :: '|' :: part, rest)
        | _, _ => (label inTable fuel false rest).map fun (part, rest) => (c :: d :: part, rest)
      | _, _ =>
        if isAsciiBlank c then
          let blanks := (c :: cs).takeWhile isAsciiBlank
          let ends := (blanks.filter (· == '\n')).length
          if 1 < ends then none
          else
            (label inTable fuel blank (cs.dropWhile isAsciiBlank)).map fun (part, rest) =>
              (' ' :: part, rest)
        else (label inTable fuel false cs).map fun (part, rest) => (c :: part, rest)

/--
A label from its opening bracket on: its text with every run of blanks made one space, and what
follows it. A label with nothing but blanks is none.
-/
def label? (inTable : Bool) (cs : List Char) : Option (List Char × List Char) :=
  match cs with
  | '[' :: rest =>
    (label inTable maxLabel true rest).map fun (part, rest) =>
      (dropTrailing (· == ' ') (part.dropWhile (· == ' ')), rest)
  | _ => none

/-- The form of a label under which definitions are looked up. -/
def key (label : List Char) : String := String.ofList (Unicode.fold label)

end Mathdown.Markdown.LinkParts
