import Mathdown.Event
import Mathdown.Markdown.Definition
import Mathdown.Markdown.RawHtml
import Mathdown.Markdown.Token

/-!
Inline content. `Inline.resolve` goes over the tokens of a block once and settles code, math,
HTML, links and images; `Inline.nest` then pairs the delimiters of emphasis among what is left, and
does so apart for the text of each link.
-/

namespace Mathdown.Markdown

/-- Inline content; a delimiter is one that has not been paired yet. -/
inductive Inline where
  | text (value : List Char)
  | softBreak
  | hardBreak (escaped : Bool)
  | delimiter (char : Char) (size : Nat) (canOpen canClose : Bool)
  | code (value : List Char)
  | math (value : List Char) (display : Bool)
  | html (value : List Char)
  | link (image : Bool) (url title : List Char) (children : List Inline)
  | emphasis (children : List Inline)
  | strong (children : List Inline)
  | strikethrough (children : List Inline)

namespace Inline

/-- A run that waits for its partner; `before` is what stands in front of it, the latest first. -/
structure Opener where
  char : Char
  /-- What is left of the run. -/
  count : Nat
  /-- The size of the whole run. -/
  run : Nat
  /-- Whether the run may close emphasis as well. -/
  both : Bool
  before : List Inline

def delimiterText (c : Char) (count : Nat) : Inline := .text (List.replicate count c)

/-- Content within emphasis of the given strength, strong emphasis innermost. -/
def emphasise (c : Char) : Nat → List Inline → List Inline
  | 0, children => children
  | 1, children => [if c == '~' then .strikethrough children else .emphasis children]
  | n + 2, children =>
    emphasise c n [if c == '~' then .strikethrough children else .strong children]

def matchesRun (c : Char) (run : Nat) (both : Bool) (o : Opener) : Bool :=
  o.char == c && (c != '~' || run == o.run) &&
    ((!both && !o.both) || (run + o.run) % 3 != 0 || run % 3 == 0)

/-- Gives up on the openers, innermost first, whose runs then stand as text before `items`. -/
def giveUp (openers : List Opener) (items : List Inline) : List Inline :=
  openers.foldl (fun items o => items ++ delimiterText o.char o.count :: o.before) items

/--
Pairs a closing run with openers until it is used up or none fits. The answer is what is left of
the run, of the openers, and the content after the last opener, the latest first.
-/
def close (c : Char) (run : Nat) (both : Bool) :
    (fuel count : Nat) → List Opener → List Inline → Nat × List Opener × List Inline
  | 0, count, openers, items => (count, openers, items)
  | _, 0, openers, items => (0, openers, items)
  | fuel + 1, count, openers, items =>
    let inner := openers.takeWhile fun o => !matchesRun c run both o
    match openers.drop inner.length with
    | [] => (count, openers, items)
    | o :: outer =>
      let used := min count o.count
      let wrapped := emphasise c used (giveUp inner items).reverse
      if used < o.count then
        close c run both fuel (count - used) ({ o with count := o.count - used } :: outer)
          wrapped.reverse
      else close c run both fuel (count - used) outer (wrapped.reverse ++ o.before)

/-- Goes over the content; `items` is what stands after the innermost opener, the latest first. -/
def nestFrom : List Inline → List Opener → List Inline → List Inline
  | [], openers, items => (giveUp openers items).reverse
  | .delimiter c size canOpen canClose :: rest, openers, items =>
    let both := canOpen && canClose
    let (left, openers, items) :=
      if canClose then close c size both (size + 1) size openers items else (size, openers, items)
    if left == 0 then nestFrom rest openers items
    else if canOpen then nestFrom rest (⟨c, left, size, both, items⟩ :: openers) []
    else nestFrom rest openers (delimiterText c left :: items)
  | item :: rest, openers, items => nestFrom rest openers (item :: items)

private def isDelimiter : Inline → Bool
  | .delimiter .. => true
  | _ => false

/-- A line end in front of nothing, after a backslash, is the backslash. -/
def endEscaped (items : List Inline) : List Inline :=
  match items.getLast? with
  | some (.hardBreak true) => items.dropLast ++ [.text ['\\']]
  | _ => items

/-- Content with every delimiter paired or made text. -/
def nest (items : List Inline) : List Inline :=
  nestFrom (if items.any isDelimiter then endEscaped items else items) [] []

/-- What is fixed while the tokens of a block are resolved. -/
structure Scope where
  definitions : Definitions
  inCell : Bool
  /-- The block's text. -/
  source : List Char
  /-- The markers in front of each line but the first, as they are written. -/
  margins : List (List Char)

/-- A bracket that waits for its partner; `before` is what stands in front of it. -/
structure Bracket where
  image : Bool
  /-- Whether it may not begin a link, being around one. -/
  spent : Bool
  token : Token
  before : List Inline

def ofToken (t : Token) : Inline :=
  match t.mark with
  | .chars value => .text value
  | .softBreak => .softBreak
  | .hardBreak escaped => .hardBreak escaped
  | .delimiter c size canOpen canClose => .delimiter c size canOpen canClose
  | _ => .text t.written

def dropBrackets (brackets : List Bracket) (items : List Inline) : List Inline :=
  brackets.foldl (fun items b => items ++ .text b.token.written :: b.before) items

def spend (brackets : List Bracket) : List Bracket :=
  brackets.map fun b => if b.image then b else { b with spent := true }

private def unbar : List Char → List Char
  | '\\' :: '|' :: cs => '|' :: unbar cs
  | c :: cs => c :: unbar cs
  | [] => []

/-- The text of a code span: line ends are spaces, and one space comes off either end. -/
def codeText (inCell : Bool) (cs : List Char) : List Char :=
  let cs := (if inCell then unbar cs else cs).map fun c => if c == '\n' || c == '\r' then ' ' else c
  if cs.head? == some ' ' && cs.getLast? == some ' ' && !cs.all (· == ' ')
  then (cs.drop 1).dropLast else cs

def withMargins (scope : Scope) (start : Nat) (value : List Char) : List Char :=
  let passed := ((scope.source.take start).filter (· == '\n')).length
  go (scope.margins.drop passed) value
where
  go : List (List Char) → List Char → List Char
    | _, [] => []
    | margin :: margins, '\n' :: cs => '\n' :: margin ++ go margins cs
    | margins, c :: cs => c :: go margins cs

private def dollarNext (t : Token) (rest : List Token) : Bool :=
  match rest with
  | ⟨.dollar .., start, _, _⟩ :: _ => t.stop == start
  | _ => false

/--
The dollar sign that ends a math span, with the tokens from it on. It is the first one of the same
group of braces, and must be able to end the span.
-/
def mathEnd? (display : Bool) (group : Nat) : List Token → Option (Token × List Token)
  | [] => none
  | t :: rest =>
    match t.mark with
    | .dollar _ canClose other =>
      if other == group then
        if (if display then dollarNext t rest else canClose) then some (t, rest) else none
      else mathEnd? display group rest
    | _ => mathEnd? display group rest

/-- The math span that a dollar sign opens: its content, and the tokens behind it. -/
def math? (scope : Scope) (t : Token) (canOpen : Bool) (group : Nat) (rest : List Token) :
    Option (Inline × List Token) :=
  if !canOpen then none
  else
    let display := dollarNext t rest
    let inner := if display then rest.drop 1 else rest
    match mathEnd? display group inner with
    | none => none
    | some (last, behind) =>
      let width := if display then 2 else 1
      let value := (t.source.drop width).take (last.start - t.start - width)
      if !display && value.isEmpty then none
      else
        let value := if scope.inCell then unbar value else value
        some (.math value display, if display then behind.drop 1 else behind)

/-- The backticks that end a code span: the next run of that size, with the tokens behind it. -/
def codeEnd? (size : Nat) : List Token → Option (Token × List Token)
  | [] => none
  | t :: rest =>
    match t.mark with
    | .backticks other _ => if other == size then some (t, rest) else codeEnd? size rest
    | _ => codeEnd? size rest

/-- The code span that backticks open; one that is escaped does not count as one of them. -/
def code? (scope : Scope) (t : Token) (size : Nat) (escaped : Bool) (rest : List Token) :
    Option (List Inline × List Token) :=
  let size := if escaped then size - 1 else size
  if size == 0 then none
  else
    match codeEnd? size rest with
    | none => none
    | some (last, behind) =>
      let value := t.after.take (last.start - t.stop)
      let span := Inline.code (codeText scope.inCell value)
      -- The latest comes first.
      some (if escaped then [span, .text ['`']] else [span], behind)

def angle? (scope : Scope) (t : Token) (rest : List Token) : Option (Inline × List Token) :=
  let size (after : List Char) : Nat := t.source.length - after.length
  if rest.isEmpty then none
  else
    match RawHtml.autolink? t.source with
    | some (target, after) =>
      some (.link false target [] [.text target], Token.dropTo (t.start + size after) rest)
    | none =>
      match RawHtml.special? t.source with
      | some after =>
        some (.html (withMargins scope t.start (t.source.take (size after))),
          Token.dropTo (t.start + size after) rest)
      | none =>
        (RawHtml.tag? true t.source).map fun after =>
          (.html (t.source.take (size after)), Token.dropTo (t.start + size after) rest)

/-- Where a pair of brackets leads, and the tokens behind it. -/
structure Target where
  target : LinkTarget
  behind : List Token

def inlineTarget? (scope : Scope) (closing : Token) (rest : List Token) : Option Target := do
  let (url, title, after) ← LinkParts.inline? scope.inCell closing.after
  let place := closing.stop + (closing.after.length - after.length)
  if rest.isEmpty then none else return ⟨⟨url, title⟩, Token.dropTo place rest⟩

/-- A label behind a closing bracket, the place where it ends, and the tokens behind it. -/
def followingLabel? (scope : Scope) (rest : List Token) :
    Option (List Char × Nat × List Token) :=
  match rest with
  | [] => none
  | t :: _ => do
    let (label, after) ← LinkParts.label? scope.inCell t.source
    let stop := t.start + (t.source.length - after.length)
    return (label, stop, Token.dropTo stop rest)

def ownLabel? (scope : Scope) (b : Bracket) (closing : Token) : Option (List Char) :=
  let lead := if b.image then 1 else 0
  let text := (b.token.source.drop lead).take (closing.stop - b.token.start - lead)
  match LinkParts.label? scope.inCell text with
  | some (label, []) => some label
  | _ => none

def markTried (place : Nat) (tokens : List Token) : List Token :=
  tokens.map fun t =>
    match t.mark with
    | .closing _ => if t.stop == place then { t with mark := .closing false } else t
    | _ => t

/-- How a reference goes on behind its closing bracket. -/
inductive Reference where
  /-- Another label follows. -/
  | full (label : List Char) (stop : Nat) (behind : List Token)
  /-- An empty pair of brackets follows. -/
  | collapsed (behind : List Token)
  | shortcut

def referenceKind (scope : Scope) (rest : List Token) : Reference :=
  match rest with
  | t :: _ =>
    if "[]".toList.isPrefixOf t.source then .collapsed (rest.drop 2)
    else
      match followingLabel? scope rest with
      | some (label, stop, behind) => .full label stop behind
      | none => .shortcut
  | [] => .shortcut

/--
The target of a pair of brackets by its label. The tokens come back as well, with the label's own
closing bracket marked if it has been tried.
-/
def referenceTarget (scope : Scope) (b : Bracket) (closing : Token) (viable : Bool)
    (rest : List Token) : Option Target × List Token :=
  match referenceKind scope rest with
  | .full label stop behind =>
    match scope.definitions.find? label with
    | some target => (some ⟨target, behind⟩, rest)
    | none => (none, markTried stop rest)
  | .collapsed behind =>
    (if viable then
      ((ownLabel? scope b closing).bind scope.definitions.find?).map fun target => ⟨target, behind⟩
     else none, rest)
  | .shortcut =>
    (if viable then
      ((ownLabel? scope b closing).bind scope.definitions.find?).map fun target => ⟨target, rest⟩
     else none, rest)

/-- What a token begins that no bracket is needed for, and the tokens behind it. -/
def span? (scope : Scope) (t : Token) (rest : List Token) : Option (List Inline × List Token) :=
  match t.mark with
  | .less => (angle? scope t rest).map fun (item, rest) => ([item], rest)
  | .dollar canOpen _ group =>
    (math? scope t canOpen group rest).map fun (item, rest) => ([item], rest)
  | .backticks size escaped => code? scope t size escaped rest
  | _ => none

/-- The target of a pair of brackets, with the tokens behind it where there is none. -/
def target (scope : Scope) (b : Bracket) (closing : Token) (viable : Bool) (rest : List Token) :
    Option Target × List Token :=
  if b.spent then (none, rest)
  else
    match inlineTarget? scope closing rest with
    | some found => (some found, rest)
    | none => referenceTarget scope b closing viable rest

/-- Goes over the tokens; `items` is what stands after the innermost bracket, the latest first. -/
def resolveFrom (scope : Scope) :
    (fuel : Nat) → List Token → List Bracket → List Inline → List Inline
  | 0, _, brackets, items => (dropBrackets brackets items).reverse
  | _, [], brackets, items => (dropBrackets brackets items).reverse
  | fuel + 1, t :: rest, brackets, items =>
    match t.mark, brackets with
    | .opening image, _ => resolveFrom scope fuel rest (⟨image, false, t, items⟩ :: brackets) []
    | .closing viable, b :: outer =>
      match target scope b t viable rest with
      | (some found, _) =>
        let link := Inline.link b.image found.target.url found.target.title (nest items.reverse)
        resolveFrom scope fuel found.behind (if b.image then outer else spend outer)
          (link :: b.before)
      | (none, rest) =>
        resolveFrom scope fuel rest outer
          (.text t.written :: (items ++ .text b.token.written :: b.before))
    | _, _ =>
      match span? scope t rest with
      | some (spans, rest) => resolveFrom scope fuel rest brackets (spans ++ items)
      | none => resolveFrom scope fuel rest brackets (ofToken t :: items)

/-- The content that the tokens of a block stand for. -/
def resolve (scope : Scope) (tokens : List Token) : List Inline :=
  nest (resolveFrom scope (tokens.length + 1) tokens [] [])

mutual
def toEvents : Inline → List Event
  | .text value => [.text (String.ofList value)]
  | .softBreak => [.softBreak]
  | .hardBreak _ => [.hardBreak]
  | .delimiter c size _ _ => [.text (String.ofList (List.replicate size c))]
  | .code value => [.code (String.ofList value)]
  | .math value display => [.math (String.ofList value) display]
  | .html value => [.inlineHtml (String.ofList value)]
  | .link image url title children =>
    let tag := if image then Tag.image (String.ofList url) (String.ofList title)
      else .link (String.ofList url) (String.ofList title)
    .start tag :: allToEvents children ++ [.stop tag.toEnd]
  | .emphasis children => .start .emphasis :: allToEvents children ++ [.stop .emphasis]
  | .strong children => .start .strong :: allToEvents children ++ [.stop .strong]
  | .strikethrough children =>
    .start .strikethrough :: allToEvents children ++ [.stop .strikethrough]

def allToEvents : List Inline → List Event
  | [] => []
  | item :: rest => toEvents item ++ allToEvents rest
end

end Inline

end Mathdown.Markdown
