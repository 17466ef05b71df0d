import Mathdown.Markdown.LinkParts
import Mathdown.Markdown.Options
import Mathdown.Text.Blank
import Mathdown.Unicode.Punctuation

/-!
Tokens of inline text: plain stretches, and the characters that may turn out to be markup. What a
token is worth is decided later, when all of its block is known; until then each keeps its place
in the text, so that it can still be shown as it was written.
-/

namespace Mathdown.Markdown

open Unicode (isAsciiPunctuation isPunctuation)

inductive Mark where
  /-- Shown as it stands in the text. -/
  | text
  /-- Shown as these characters. -/
  | chars (value : List Char)
  | softBreak
  /-- `escaped`: the line ends in a backslash. -/
  | hardBreak (escaped : Bool)
  /-- A run of one character that may open or close emphasis. -/
  | delimiter (char : Char) (size : Nat) (canOpen canClose : Bool)
  /-- A run of backticks; `escaped`: a backslash stands before it. -/
  | backticks (size : Nat) (escaped : Bool)
  /-- A dollar sign, and the group of braces it stands in. -/
  | dollar (canOpen canClose : Bool) (group : Nat)
  | less
  | opening (image : Bool)
  /-- `viable`: what it closes has not been tried as a reference. -/
  | closing (viable : Bool)
deriving DecidableEq, Repr

/-- A token, from `start` to just before `stop`; `source` is the block's text from `start` on. -/
structure Token where
  mark : Mark
  start : Nat
  stop : Nat
  source : List Char
deriving Repr

namespace Token

def written (t : Token) : List Char := t.source.take (t.stop - t.start)

def after (t : Token) : List Char := t.source.drop (t.stop - t.start)

/-- The tokens that lie behind a place, the first of them without what lies before it. -/
def dropTo (place : Nat) : List Token → List Token
  | [] => []
  | t :: ts =>
    if t.stop ≤ place then dropTo place ts
    else if t.start < place then
      { t with start := place, source := t.source.drop (place - t.start) } :: ts
    else t :: ts

end Token

/-- The groups around a place, innermost first, and the name of the next one to be opened. -/
structure BraceGroups where
  next : Nat := 0
  groups : List Nat := []
deriving DecidableEq, Repr

namespace BraceGroups

def root : Nat := 255

/-- How many groups are told apart by name. Deeper ones are told apart by their depth alone. -/
def maxGroups : Nat := 31

def enter (b : BraceGroups) : BraceGroups :=
  let groups := if b.groups.isEmpty then [root] else b.groups
  if groups.length < maxGroups then ⟨b.next + 1, b.next % 256 :: groups⟩
  else if groups.length == maxGroups then ⟨maxGroups, b.next % 256 :: groups⟩
  else ⟨b.next + 1, groups⟩

/-- Leaves a group. A brace with no partner begins a new outermost group. -/
def leave (b : BraceGroups) : BraceGroups :=
  match b.groups with
  | [] => b
  | [_] => ⟨b.next + 1, [b.next % 256]⟩
  | _ :: rest =>
    if b.groups.length ≤ maxGroups then { b with groups := rest }
    else if b.next ≤ maxGroups then { b with groups := rest }
    else { b with next := b.next - 1 }

/-- The group of the current place; the first dollar sign fixes the outermost one. -/
def current (b : BraceGroups) : Nat × BraceGroups :=
  if maxGroups < b.groups.length then (b.next % 256, b)
  else
    match b.groups with
    | group :: _ => (group, b)
    | [] => (root, { b with groups := [root] })

end BraceGroups

/-- Whether a run of delimiters may open emphasis, by the characters around it. -/
def canOpen (delimiter : Char) (size : Nat) (before after : Option Char) : Bool :=
  match after with
  | none => false
  | some next =>
    if Text.isBlank next then false
    else
      match before with
      | none => true
      | some last =>
        (delimiter == '*' && !isPunctuation next) || (delimiter == '~' && 1 < size) ||
          (delimiter == '~' && last == '~' && !isPunctuation next) ||
          Text.isBlank last || isPunctuation last

/-- Whether a run of delimiters may close emphasis, by the characters around it. -/
def canClose (delimiter : Char) (size : Nat) (before after : Option Char) : Bool :=
  match before with
  | none => false
  | some last =>
    if Text.isBlank last then false
    else
      match after with
      | none => true
      | some next =>
        ((delimiter == '*' || (delimiter == '~' && 1 < size)) && !isPunctuation last) ||
          (delimiter == '~' && last == '~') || Text.isBlank next || isPunctuation next

/-- What the reader of tokens holds: where the current stretch of plain text began. -/
structure Lexing where
  start : Nat
  source : List Char
  /-- Tokens so far, the latest first. -/
  tokens : List Token
  groups : BraceGroups

namespace Lexing

def flush (l : Lexing) (place : Nat) : Lexing :=
  if l.start < place then { l with tokens := ⟨.text, l.start, place, l.source⟩ :: l.tokens } else l

/-- Adds a token of `size` characters at a place; plain text goes on behind it. -/
def add (l : Lexing) (mark : Mark) (place size : Nat) (source : List Char) : Lexing :=
  let l := l.flush place
  { l with
    start := place + size
    source := source.drop size
    tokens := ⟨mark, place, place + size, source⟩ :: l.tokens }

/-- Leaves out the characters from a place to where plain text goes on. -/
def skip (l : Lexing) (place size : Nat) (source : List Char) : Lexing :=
  { l.flush place with start := place + size, source := source.drop size }

end Lexing

/-- What is read: the options, and whether the text is a table cell. -/
structure LexMode where
  options : Options
  inCell : Bool

/--
Reads the tokens of one line. `left` characters of the line are to be read, and `before` is the
character in front of them; the source goes on behind the line.
-/
def lexLine (mode : LexMode) :
    (fuel left place : Nat) → (before : Option Char) → (source : List Char) → Lexing → Lexing
  | 0, left, place, _, _, l => l.flush (place + left)
  | _, 0, place, _, _, l => l.flush place
  | _, _, place, _, [], l => l.flush place
  | fuel + 1, left + 1, place, before, c :: cs, l =>
    let source := c :: cs
    let goOn (size : Nat) (last : Char) (l : Lexing) : Lexing :=
      lexLine mode fuel (left + 1 - size) (place + size) (some last) (source.drop size) l
    -- The next characters of the line; the source may go on behind it.
    let ahead := cs.take (min left 2)
    if c == '*' || c == '_' || (c == '~' && mode.options.gfm) then
      let size := 1 + min left (countWhile (· == c) cs)
      let next := (source.drop size).head?
      let opens := canOpen c size before next
      let closes := canClose c size before next
      if (opens || closes) && (c != '~' || size ≤ 2) then
        goOn size c (l.add (.delimiter c size opens closes) place size source)
      else goOn size c l
    else if c == '\\' then
      match ahead with
      | '`' :: _ =>
        let size := min left (countWhile (· == '`') cs)
        goOn (size + 1) '`'
          ((l.skip place 1 source).add (.backticks size true) (place + 1) size cs)
      | '\\' :: '|' :: _ =>
        if mode.inCell then goOn 3 '|' (l.skip place 2 source)
        else goOn 2 '\\' (l.skip place 1 source)
      | d :: _ => if isAsciiPunctuation d then goOn 2 d (l.skip place 1 source) else goOn 1 c l
      | [] => goOn 1 c l
    else if c == '`' then
      let size := 1 + min left (countWhile (· == '`') cs)
      goOn size c (l.add (.backticks size false) place size source)
    else if c == '&' then
      match Entity.read? source with
      | some (value, rest) =>
        let size := source.length - rest.length
        goOn size ';' (l.add (.chars value) place size source)
      | none => goOn 1 c l
    else if c == '<' then goOn 1 c (l.add .less place 1 source)
    else if c == '!' then
      match ahead with
      | '[' :: _ => goOn 2 '[' (l.add (.opening true) place 2 source)
      | _ => goOn 1 c l
    else if c == '[' then goOn 1 c (l.add (.opening false) place 1 source)
    else if c == ']' then goOn 1 c (l.add (.closing true) place 1 source)
    else if c == '$' && mode.options.math then
      let spaced (d : Option Char) : Bool := (d.map isAsciiBlank).getD true
      let (group, groups) := l.groups.current
      let mark := Mark.dollar (!spaced cs.head?) (!spaced before) group
      goOn 1 c ({ l with groups }.add mark place 1 source)
    else if c == '{' && mode.options.math then goOn 1 c { l with groups := l.groups.enter }
    else if c == '}' && mode.options.math then goOn 1 c { l with groups := l.groups.leave }
    else goOn 1 c l

private def isBreak (c : Char) : Bool := c == '\n' || c == '\r'

/-- Reads line by line. Blanks at the start of a line are left out, and those at its end as well. -/
def lexLines (mode : LexMode) : (fuel place : Nat) → (source : List Char) → Lexing → Lexing
  | 0, _, _, l => l
  | fuel + 1, place, source, l =>
    let lead := countWhile isIndent source
    let source := source.drop lead
    let place := place + lead
    let line := source.takeWhile fun c => !isBreak c
    let body := dropTrailing isInnerBlank line
    let ends := place + line.length
    match source.drop line.length with
    | [] =>
      lexLine mode (line.length + 1) body.length place none source
        { l with start := place, source := source }
    | _ :: rest =>
      let slashes := countWhile (· == '\\') line.reverse
      let body := if slashes % 2 == 1 then line.dropLast else body
      let mark := if slashes % 2 == 1 then .hardBreak true
        else if 2 ≤ line.length - body.length then .hardBreak false else .softBreak
      let l := lexLine mode (line.length + 1) body.length place none source
        { l with start := place, source := source }
      let token : Token :=
        ⟨mark, place + body.length, ends + 1, source.drop body.length⟩
      lexLines mode fuel (ends + 1) rest { l with tokens := token :: l.tokens }

def Token.ofChars (mode : LexMode) (source : List Char) : List Token :=
  (lexLines mode (source.length + 1) 0 source ⟨0, source, [], {}⟩).tokens.reverse

end Mathdown.Markdown
