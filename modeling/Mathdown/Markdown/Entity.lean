import Mathdown.Markdown.Entity.Names
import Std.Data.HashMap

namespace Mathdown.Markdown.Entity

def hexDigit? (c : Char) : Option Nat :=
  if c.isDigit then some (c.toNat - '0'.toNat)
  else if 'a' ≤ c && c ≤ 'f' then some (c.toNat - 'a'.toNat + 10)
  else if 'A' ≤ c && c ≤ 'F' then some (c.toNat - 'A'.toNat + 10)
  else none

def ofHex (digits : List Char) : Nat :=
  digits.foldl (fun n c => 16 * n + (hexDigit? c).getD 0) 0

def ofDecimal (digits : List Char) : Nat :=
  digits.foldl (fun n c => 10 * n + (c.toNat - '0'.toNat)) 0

/-- The character with a code point; zero and what is no character give the replacement character. -/
def ofCodePoint (n : Nat) : Char :=
  if n == 0 then '\uFFFD'
  else if h : n.isValidChar then Char.ofNatAux n h
  else '\uFFFD'

private def row (word : String) : String × List Char :=
  match word.splitOn "=" with
  | [name, value] =>
    (name, (value.splitOn "+").map fun digits => ofCodePoint (ofHex digits.toList))
  | _ => (word, [])

def table : Std.HashMap String (List Char) :=
  names.foldl (fun table line =>
    (line.splitOn " ").foldl (fun table word =>
      let (name, value) := row word
      table.insert name value) table) ∅

/--
A character reference at the start of a text: what it stands for, and the rest of the text.
-/
def read? (cs : List Char) : Option (List Char × List Char) :=
  match cs with
  | '&' :: '#' :: rest =>
    let (digits, after, value) := match rest with
      | x :: more =>
        if x == 'x' || x == 'X' then
          let digits := (more.take 6).takeWhile fun c => (hexDigit? c).isSome
          (digits, more.drop digits.length, ofHex digits)
        else
          let digits := (rest.take 7).takeWhile Char.isDigit
          (digits, rest.drop digits.length, ofDecimal digits)
      | [] => ([], [], 0)
    match after with
    | ';' :: after => if digits.isEmpty then none else some ([ofCodePoint value], after)
    | _ => none
  | '&' :: rest =>
    match rest.dropWhile Char.isAlphanum with
    | ';' :: after =>
      (table[String.ofList (rest.takeWhile Char.isAlphanum)]?).map fun value => (value, after)
    | _ => none
  | _ => none

end Mathdown.Markdown.Entity
