import Mathdown.Toml.Value

namespace Mathdown.Toml

abbrev Reader (α : Type) := List Char → Except ReadError (α × List Char)

def isBlank (c : Char) : Bool := c == ' ' || c == '\t'

def skipBlanks (cs : List Char) : List Char := cs.dropWhile isBlank

/-- Whether a character may stand in a comment, or in a string on one line. -/
def isVisible (c : Char) : Bool := c == '\t' || (0x20 ≤ c.toNat && c.toNat != 0x7F)

def digitValue? (c : Char) : Option Nat :=
  if c.isDigit then some (c.toNat - '0'.toNat)
  else if 'a' ≤ c && c ≤ 'f' then some (c.toNat - 'a'.toNat + 10)
  else if 'A' ≤ c && c ≤ 'F' then some (c.toNat - 'A'.toNat + 10)
  else none

/-- The character of a number, unless there is none. -/
def scalar? (n : Nat) : Option Char := if n.isValidChar then some (Char.ofNat n) else none

def escape? : Char → Option Char
  | 'b' => some '\x08'
  | 't' => some '\t'
  | 'n' => some '\n'
  | 'f' => some '\x0c'
  | 'r' => some '\r'
  | 'e' => some '\x1b'
  | '"' => some '"'
  | '\\' => some '\\'
  | _ => none

def escapeDigits? : Char → Option Nat
  | 'x' => some 2
  | 'u' => some 4
  | 'U' => some 8
  | _ => none

/-- Where a reader of a string stands. -/
inductive StringState where
  | plain
  /-- After a backslash. -/
  | escape
  /-- Within an escape: digits to come after the next, and the value of those before. -/
  | digits (left value : Nat)
  /-- In the blanks after a backslash at the end of a line. -/
  | lineEnd
  /-- In the blanks and lines that such a backslash leaves out. -/
  | gap
deriving Repr, DecidableEq

private def push (c : Char) (rest : Except ReadError (List Char × List Char)) :
    Except ReadError (List Char × List Char) :=
  rest.map fun (text, rest) => (c :: text, rest)

def closeThree (quote : Char) (cs : List Char) : List Char × List Char :=
  let more := ((cs.take 2).takeWhile (· == quote)).length
  (cs.take more, cs.drop more)

/-- The rest of a string in double quotes, on one line. -/
def basicBody : StringState → Reader (List Char)
  | _, [] => .error .malformed
  | .escape, c :: cs =>
    match escape? c, escapeDigits? c with
    | some e, _ => push e (basicBody .plain cs)
    | none, some n => basicBody (.digits (n - 1) 0) cs
    | none, none => .error .malformed
  | .digits left value, c :: cs =>
    match digitValue? c, left with
    | none, _ => .error .malformed
    | some d, left + 1 => basicBody (.digits left (16 * value + d)) cs
    | some d, 0 =>
      match scalar? (16 * value + d) with
      | some e => push e (basicBody .plain cs)
      | none => .error .malformed
  | _, c :: cs =>
    if c = '"' then .ok ([], cs)
    else if c = '\\' then basicBody .escape cs
    else if isVisible c then push c (basicBody .plain cs)
    else .error .malformed

def basicLines : StringState → Reader (List Char)
  | _, [] => .error .malformed
  | .escape, c :: cs =>
    match escape? c, escapeDigits? c with
    | some e, _ => push e (basicLines .plain cs)
    | none, some n => basicLines (.digits (n - 1) 0) cs
    | none, none =>
      if isBlank c then basicLines .lineEnd cs
      else if c = '\n' then basicLines .gap cs
      else if c = '\r' && cs.head? == some '\n' then basicLines .lineEnd cs
      else .error .malformed
  | .digits left value, c :: cs =>
    match digitValue? c, left with
    | none, _ => .error .malformed
    | some d, left + 1 => basicLines (.digits left (16 * value + d)) cs
    | some d, 0 =>
      match scalar? (16 * value + d) with
      | some e => push e (basicLines .plain cs)
      | none => .error .malformed
  | .lineEnd, c :: cs =>
    if isBlank c then basicLines .lineEnd cs
    else if c = '\n' then basicLines .gap cs
    else if c = '\r' && cs.head? == some '\n' then basicLines .lineEnd cs
    else .error .malformed
  | state, c :: cs =>
    if state = .gap && (isBlank c || c = '\n') then basicLines .gap cs
    else if c = '\r' && cs.head? == some '\n' then
      if state = .gap then basicLines .gap cs else push c (basicLines .plain cs)
    else if c = '"' && cs.take 2 == ['"', '"'] then .ok (closeThree '"' (cs.drop 2))
    else if c = '\\' then basicLines .escape cs
    else if isVisible c || c = '\n' then push c (basicLines .plain cs)
    else .error .malformed

/-- The rest of a string in single quotes, on one line. -/
def literalBody : Reader (List Char)
  | [] => .error .malformed
  | c :: cs =>
    if c = '\'' then .ok ([], cs)
    else if isVisible c then push c (literalBody cs)
    else .error .malformed

def literalLines : Reader (List Char)
  | [] => .error .malformed
  | c :: cs =>
    if c = '\'' && cs.take 2 == ['\'', '\''] then .ok (closeThree '\'' (cs.drop 2))
    else if isVisible c || c = '\n' || (c = '\r' && cs.head? == some '\n') then
      push c (literalLines cs)
    else .error .malformed

def dropLineEnd : List Char → List Char
  | '\n' :: cs => cs
  | '\r' :: '\n' :: cs => cs
  | cs => cs

def string : Reader String := fun cs =>
  (·.map String.ofList id) <$>
    match cs with
    | '"' :: '"' :: '"' :: cs => basicLines .plain (dropLineEnd cs)
    | '"' :: cs => basicBody .plain cs
    | '\'' :: '\'' :: '\'' :: cs => literalLines (dropLineEnd cs)
    | '\'' :: cs => literalBody cs
    | _ => .error .malformed

def isKeyChar (c : Char) : Bool := c.isAlphanum || c == '_' || c == '-'

def keyPart : Reader String := fun cs =>
  match cs with
  | '"' :: cs => (·.map String.ofList id) <$> basicBody .plain cs
  | '\'' :: cs => (·.map String.ofList id) <$> literalBody cs
  | _ =>
    let word := cs.takeWhile isKeyChar
    if word.isEmpty then .error .malformed
    else .ok (String.ofList word, cs.drop word.length)

/-- The parts of a key between its dots, of which there are no more than the fuel. -/
def keyParts : Nat → Reader (List String)
  | 0, _ => .error .malformed
  | fuel + 1, cs => do
    let (part, cs) ← keyPart (skipBlanks cs)
    match skipBlanks cs with
    | '.' :: cs =>
      let (parts, cs) ← keyParts fuel cs
      return (part :: parts, cs)
    | cs => return ([part], cs)

def key : Reader (List String) := fun cs => keyParts (cs.length + 1) cs

end Mathdown.Toml
