import Mathdown.Tex.Commands
import Mathdown.Tex.Token

/-!
Reading TeX math. Nothing is built: it is only found out whether the math can be understood, that
is, whether every command is known and has its arguments, braces and environments are closed, and
no symbol has two scripts of a kind. All readers take fuel, which bounds how deeply they call each
other, and give back the tokens that they leave.
-/

namespace Mathdown.Tex

structure Context where
  /-- Whether the math is displayed. -/
  display : Bool := false
  /-- Whether this is text within math. -/
  isText : Bool := false
  /-- Whether a fence has been opened. -/
  isFenced : Bool := false
  /-- Whether this is a cell of an environment. -/
  inCell : Bool := false
  /-- The token that ends math within text. -/
  mathEnd : Option Token := none

inductive Place where
  | atom | argument
deriving DecidableEq

inductive Kind where
  | operator | other
deriving DecidableEq

def skipBlanks : List Token → List Token
  | .blank :: ts => skipBlanks ts
  | ts => ts

/-- The tokens up to the brace that closes a group, and those after it. -/
def toBrace : (depth : Nat) → List Token → Except TexError (List Token × List Token)
  | _, [] => .error (.incomplete "\x7b")
  | depth, t :: ts =>
    match t, depth with
    | .char '\x7d', 0 => .ok ([], ts)
    | .char '\x7d', depth + 1 => (toBrace depth ts).map fun (inner, ts) => (t :: inner, ts)
    | .char '\x7b', depth => (toBrace (depth + 1) ts).map fun (inner, ts) => (t :: inner, ts)
    | _, depth => (toBrace depth ts).map fun (inner, ts) => (t :: inner, ts)

/-- The tokens up to the bracket that closes an argument, and those after it. -/
def toBracket : (depth : Nat) → List Token → Except TexError (List Token × List Token)
  | _, [] => .error (.incomplete "[")
  | depth, t :: ts =>
    match t, depth with
    | .char ']', 0 => .ok ([], ts)
    | .char '\x7d', 0 => .error (.unexpected t)
    | .char '\x7d', depth + 1 => (toBracket depth ts).map fun (inner, ts) => (t :: inner, ts)
    | .char '\x7b', depth => (toBracket (depth + 1) ts).map fun (inner, ts) => (t :: inner, ts)
    | _, depth => (toBracket depth ts).map fun (inner, ts) => (t :: inner, ts)

def argument (name : String) (ts : List Token) : Except TexError (List Token × List Token) :=
  match skipBlanks ts with
  | [] => .error (.incomplete name)
  | .char '\x7b' :: ts => toBrace 0 ts
  | .char '\x7d' :: _ => .error (.unexpected (.char '\x7d'))
  | t :: ts => .ok ([t], ts)

/-- The tokens of an argument in brackets, if there is one. -/
def optional (ts : List Token) : Except TexError (Option (List Token) × List Token) :=
  match skipBlanks ts with
  | .char '[' :: rest => (toBracket 0 rest).map fun (inner, rest) => (some inner, rest)
  | _ => .ok (none, ts)

def textOf (ts : List Token) : List Char := ts.flatMap fun t => t.text.toList

def units : List String := words "pt mm cm in bp pc dd cc nd nc sp px ex em mu"

def isSize (cs : List Char) : Bool :=
  let skip (cs : List Char) : List Char := cs.dropWhile (· == ' ')
  let cs := skip cs
  let cs := skip (if cs.head? == some '+' || cs.head? == some '-' then cs.drop 1 else cs)
  let whole := cs.takeWhile Char.isDigit
  let rest := cs.drop whole.length
  let places := if rest.head? == some '.' then (rest.drop 1).takeWhile Char.isDigit else []
  let rest := if rest.head? == some '.' then rest.drop (places.length + 1) else rest
  !(whole.isEmpty && places.isEmpty) && units.contains (String.ofList ((skip rest).take 2)) &&
    (skip ((skip rest).drop 2)).isEmpty

def bareSize : (fuel : Nat) → (read : List Token) → List Token → Except TexError (List Token)
  | 0, _, _ => .error .badSize
  | fuel + 1, read, ts =>
    if isSize (textOf read) then .ok ts
    else
      match ts with
      | [] => .error .badSize
      | t :: ts => bareSize fuel (read ++ [t]) ts

/-- Whether this is a color: a name or three or six hexadecimal digits. -/
def isColor (cs : List Char) : Bool :=
  let isHex (c : Char) : Bool := c.isDigit || ('a' ≤ c.toLower && c.toLower ≤ 'f')
  match cs with
  | '#' :: digits => (digits.length = 3 || digits.length = 6) && digits.all isHex
  | _ => !cs.isEmpty && (cs.all Char.isAlpha || (cs.length = 6 && cs.all isHex))

def isDelimiter : Token → Bool
  | .char c => delimiterChars.contains c
  | .command name => delimiterNames.contains name
  | _ => false

def delimiter (name : String) (ts : List Token) : Except TexError (List Token) :=
  match skipBlanks ts with
  | [] => .error (.incomplete name)
  | t :: ts => if isDelimiter t then .ok ts else .error .badDelimiter

def isSymbolChar (isText : Bool) (c : Char) : Bool :=
  0x80 ≤ c.toNat || c == '~' ||
    if isText then c.toNat < 0x7F && !("\x7b\x7d$&#^_%\\".toList.contains c)
    else c.isAlphanum || "/@.\"+-*=<>:|()[]!?,;".toList.contains c

def isSymbol (isText : Bool) (name : String) : Bool :=
  if isText then (textSymbols ++ shortSymbols).contains name else symbols.contains name

def isEnd (context : Context) (t : Token) : Bool :=
  match t with
  | .char c => c == '\x7d' || c == '&' || context.mathEnd == some t
  | .command name =>
    name == "end" || name == "right" || name == "endgroup" || context.mathEnd == some t ||
      (context.inCell && (name == "\\" || name == "cr"))
  | _ => false

def environmentName (name : String) (ts : List Token) :
    Except TexError (String × List Token) :=
  (argument name ts).map fun (inner, ts) => (String.ofList (textOf inner), ts)

mutual

/-- Reads as much as belongs together, in one or two parts with a bar between. -/
def expression (fuel : Nat) (context : Context) (hasBar : Bool) (ts : List Token) :
  Except TexError (List Token) :=
match fuel with
| 0 => .error (.incomplete "")
| fuel + 1 =>
  let ts := if context.isText then ts else skipBlanks ts
  match ts with
  | [] => .ok []
  | t :: rest =>
    if isEnd context t then .ok ts
    else
      match t with
      | .command name =>
        match shape? name with
        | some shape =>
          if shape.isBar then
            if context.isText then .error (.misplaced name)
            else if hasBar then .error .doubleFraction
            else do
              let rest ← arguments fuel context name shape.args rest
              expression fuel context true rest
          else atoms fuel context hasBar ts
        | none => atoms fuel context hasBar ts
      | _ => atoms fuel context hasBar ts

def atoms (fuel : Nat) (context : Context) (hasBar : Bool) (ts : List Token) :
  Except TexError (List Token) :=
match fuel with
| 0 => .error (.incomplete "")
| fuel + 1 => do
  let (kind?, rest) ← group fuel context .atom ts
  let rest ← if context.isText then pure rest
    else scripts fuel context (kind? == some .operator) false false rest
  if rest.length = ts.length then return ts else expression fuel context hasBar rest

def scripts (fuel : Nat) (context : Context) (isOperator hasUpper hasLower : Bool)
  (ts : List Token) : Except TexError (List Token) :=
match fuel with
| 0 => .error (.incomplete "")
| fuel + 1 =>
  match skipBlanks ts with
  | .command "limits" :: rest | .command "nolimits" :: rest =>
    if isOperator then scripts fuel context isOperator hasUpper hasLower rest
    else .error (.misplaced "limits")
  | .char '^' :: rest =>
    if hasUpper then .error .doubleScript
    else do
      let rest ← script fuel context "^" rest
      scripts fuel context isOperator true hasLower rest
  | .char '_' :: rest =>
    if hasLower then .error .doubleScript
    else do
      let rest ← script fuel context "_" rest
      scripts fuel context isOperator hasUpper true rest
  | .char '\'' :: rest =>
    if hasUpper then .error .doubleScript
    else
      match rest.dropWhile (· == .char '\'') with
      | .char '^' :: rest => do
        let rest ← script fuel context "^" rest
        scripts fuel context isOperator true hasLower rest
      | rest => scripts fuel context isOperator true hasLower rest
  | _ => .ok ts

def script (fuel : Nat) (context : Context) (name : String) (ts : List Token) :
  Except TexError (List Token) :=
match fuel with
| 0 => .error (.incomplete name)
| fuel + 1 => do
  match ← group fuel context .argument (skipBlanks ts) with
  | (some _, rest) => return rest
  | (none, _) => .error (.incomplete name)

/-- Reads a group, a command with its arguments, or a symbol, if there is one. -/
def group (fuel : Nat) (context : Context) (place : Place) (ts : List Token) :
  Except TexError (Option Kind × List Token) :=
match fuel with
| 0 => .error (.incomplete "")
| fuel + 1 =>
  let inner := { context with inCell := false, mathEnd := none }
  match ts with
  | [] => .ok (none, [])
  | .blank :: rest => .ok (some .other, rest)
  | .verbatim _ :: rest => .ok (some .other, rest)
  | .char '\x7b' :: rest => do
    match ← expression fuel inner false rest with
    | .char '\x7d' :: rest => return (some .other, rest)
    | t :: _ => .error (.unexpected t)
    | [] => .error (.incomplete "\x7b")
  | .char '$' :: rest =>
    if context.isText then do
      match ← expression fuel { inner with isText := false, mathEnd := some (.char '$') } false
          rest with
      | .char '$' :: rest => return (some .other, rest)
      | t :: _ => .error (.unexpected t)
      | [] => .error (.incomplete "$")
    else .error (.unexpected (.char '$'))
  | .char c :: rest =>
    if isSymbolChar context.isText c then .ok (some .other, rest) else .ok (none, ts)
  | .command name :: rest => command fuel context place name rest

def command (fuel : Nat) (context : Context) (place : Place) (name : String) (rest : List Token) :
  Except TexError (Option Kind × List Token) :=
match fuel with
| 0 => .error (.incomplete name)
| fuel + 1 =>
  let inner := { context with inCell := false, mathEnd := none }
  match name with
  | "limits" | "nolimits" => .ok (none, .command name :: rest)
  | "\\" => do
    let (size, after) ← match rest with
      | .char '[' :: _ => optional rest
      | _ => .ok (none, rest)
    if size.all (isSize ∘ textOf) then return (some .other, after) else .error .badSize
  | "begingroup" => do
    match ← expression fuel inner false rest with
    | .command "endgroup" :: rest => return (some .other, rest)
    | _ => .error (.incomplete "\\begingroup")
  | "(" =>
    if context.isText then do
      match ← expression fuel { inner with isText := false, mathEnd := some (.command ")") } false
          rest with
      | .command ")" :: rest => return (some .other, rest)
      | _ => .error (.incomplete "\\(")
    else .error (.misplaced name)
  | "left" =>
    if place = .argument || context.isText then .error (.misplaced name)
    else do
      let rest ← delimiter "\\left" rest
      match ← expression fuel { inner with isFenced := true } false rest with
      | .command "right" :: rest => return (some .other, ← delimiter "\\right" rest)
      | _ => .error (.incomplete "\\left")
  | "middle" =>
    if place = .atom && context.isFenced
    then return (some .other, ← delimiter "\\middle" rest) else .error (.misplaced name)
  | "begin" =>
    if place = .argument then .error (.misplaced name)
    else do
      let (title, rest) ← environmentName "\\begin" rest
      match environment? title with
      | none => .error (.undefined title)
      | some environment =>
        if environment.displayOnly && !context.display then .error (.misplaced title)
        else
          let (_, rest) ← if environment.optional then optional rest else .ok (none, rest)
          let rest ← arguments fuel inner title environment.args rest
          let rest ← cells fuel { inner with inCell := true } rest
          let (closing, rest) ← environmentName "\\end" rest
          if closing = title then return (some .other, rest)
          else .error (.unexpected (.command "end"))
  | _ =>
    match shape? name with
    | some shape =>
      if (place = .argument && !shape.inArgument) || (context.isText && !shape.inText) ||
          (name = "tag" && !context.display) then
        .error (.misplaced name)
      else do
        let rest := if name = "operatorname" && rest.head? == some (.char '*')
          then rest.drop 1 else rest
        let (inBrackets, rest) ← match shape.optional with
          | some _ => optional rest
          | none => .ok (none, rest)
        match shape.optional, inBrackets with
        | some kind, some tokens => content fuel inner kind tokens
        | _, _ => pure ()
        let args := if inBrackets.isNone then shape.args
          else shape.args.map fun arg => if arg = Argument.next then Argument.same else arg
        let rest ← arguments fuel inner name args rest
        return (some (if shape.isOperator then .operator else .other), rest)
    | none =>
      if isSymbol context.isText name then .ok (some .other, rest) else .error (.undefined name)

def arguments (fuel : Nat) (context : Context) (name : String) (args : List Argument)
  (ts : List Token) : Except TexError (List Token) :=
match fuel with
| 0 => .error (.incomplete name)
| fuel + 1 =>
  match args with
  | [] => .ok ts
  | .next :: args => do
    match ← group fuel context .argument (skipBlanks ts) with
    | (some _, ts) => arguments fuel context name args ts
    | (none, _) => .error (.incomplete name)
  | .delimiter :: args => do arguments fuel context name args (← delimiter name ts)
  | .size :: args =>
    match skipBlanks ts with
    | .char '\x7b' :: _ => do
      let (tokens, ts) ← argument name ts
      content fuel context .size tokens
      arguments fuel context name args ts
    | ts => do arguments fuel context name args (← bareSize (ts.length + 1) [] ts)
  | kind :: args => do
    let (tokens, ts) ← argument name ts
    content fuel context kind tokens
    arguments fuel context name args ts

def content (fuel : Nat) (context : Context) (kind : Argument) (ts : List Token) :
  Except TexError Unit :=
match fuel with
| 0 => .error (.incomplete "")
| fuel + 1 =>
  let whole (context : Context) : Except TexError Unit := do
    match ← expression fuel context false ts with
    | [] => return ()
    | t :: _ => .error (.unexpected t)
  match kind with
  | .raw => .ok ()
  | .size => if isSize (textOf ts) then .ok () else .error .badSize
  | .color => if isColor (textOf ts) then .ok () else .error .badColor
  | .text => whole { context with isText := true }
  | .math => whole { context with isText := false }
  | _ => whole context

def cells (fuel : Nat) (context : Context) (ts : List Token) : Except TexError (List Token) :=
match fuel with
| 0 => .error (.incomplete "\\begin")
| fuel + 1 => do
  let ts := (skipBlanks ts).dropWhile fun t =>
    t == .command "hline" || t == .command "hdashline" || t == .blank
  match ← expression fuel context false ts with
  | .char '&' :: rest => cells fuel context rest
  | .command "end" :: rest => return rest
  | .command "cr" :: rest => cells fuel context rest
  | .command "\\" :: rest => do
    let (size, rest) ← optional rest
    if size.all (isSize ∘ textOf) then cells fuel context rest else .error .badSize
  | t :: _ => .error (.unexpected t)
  | [] => .error (.incomplete "\\begin")

end

def check (display : Bool) (text : String) : Except TexError Unit := do
  let ts ← tokens text
  content (16 * ts.length + 16) { display } .same ts

end Mathdown.Tex
