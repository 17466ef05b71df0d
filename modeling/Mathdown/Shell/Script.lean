namespace Mathdown.Shell

inductive Part where
  | text (quoted : Bool) (value : List Char)
  /-- The value of a parameter, or a text in its place if it is unset or empty. -/
  | parameter (quoted : Bool) (name : List Char) (otherwise : Option (List Char))
deriving DecidableEq, Repr

abbrev Word := List Part

inductive Target where
  | output | errors | nowhere
deriving DecidableEq, Repr

/-- Sends the output with a number to where another one goes, or nowhere. -/
structure Redirect where
  number : Nat
  target : Target
deriving DecidableEq, Repr

inductive Token where
  | word (value : Word)
  | redirect (value : Redirect)
  /-- An operator, or the end of a line. -/
  | operator (value : String)
deriving DecidableEq, Repr

/-- When a command is run, by how the one before it ended. -/
inductive Joint where
  | always | ifSuccess | ifFailure
deriving DecidableEq, Repr

inductive Item where
  | run (line : Nat) (words : List Word) (redirects : List Redirect)
  | choose (condition yes no : List (Joint × Item))
  /-- Commands with redirections in common; those apart leave nothing behind but their status. -/
  | group (apart : Bool) (body : List (Joint × Item)) (redirects : List Redirect)
  /-- Commands run once for each field of the words. -/
  | each (name : String) (words : List Word) (body : List (Joint × Item))
  /-- The output of the first is what the second reads. -/
  | pipe (first second : Item)
  | negate (item : Item)

abbrev Script := List (Joint × Item)

private def isNameStart (c : Char) : Bool := c.isAlpha || c == '_'

private def isNamePart (c : Char) : Bool := c.isAlphanum || c == '_'

/-- Whether a character is the whole name of a parameter. -/
def isSpecial (c : Char) : Bool := "*@#?$!-".toList.contains c || c.isDigit

/-- A parameter behind its dollar sign, and the rest; a sign without one is text. -/
def parameter? (quoted : Bool) (cs : List Char) : Option (Part × List Char) :=
  match cs with
  | '\x7b' :: rest =>
    let body := rest.takeWhile (· != '\x7d')
    match rest.drop body.length with
    | _ :: after =>
      let name := body.takeWhile fun c => c != ':' && c != '-'
      let name := if name.isEmpty then body.take 1 else name
      match body.drop name.length with
      | [] => some (.parameter quoted name none, after)
      | ':' :: '-' :: otherwise => some (.parameter quoted name (some otherwise), after)
      | _ => none
    | [] => none
  | c :: rest =>
    if isSpecial c then some (.parameter quoted [c] none, rest)
    else if isNameStart c then
      some (.parameter quoted (cs.takeWhile isNamePart) none, cs.dropWhile isNamePart)
    else none
  | [] => none

/-- The parts between double quotes, and what follows them. Each step takes fuel. -/
def quotedParts : (fuel : Nat) → List Char → Option (Word × List Char)
  | 0, _ => none
  | _, [] => none
  | fuel + 1, c :: cs =>
    let more (part : Part) (rest : List Char) :=
      (quotedParts fuel rest).map fun (parts, rest) => (part :: parts, rest)
    match c, cs with
    | '"', _ => some ([.text true []], cs)
    | '\\', '\n' :: rest => quotedParts fuel rest
    | '\\', d :: rest =>
      if "$`\"\\".toList.contains d then more (.text true [d]) rest
      else more (.text true ['\\', d]) rest
    | '$', _ =>
      match parameter? true cs with
      | some (part, rest) => more part rest
      | none => more (.text true ['$']) cs
    | _, _ => more (.text true [c]) cs

def endsWord (c : Char) : Bool := " \t\n;&|<>()".toList.contains c

def wordParts : (fuel : Nat) → List Char → Option (Word × List Char)
  | 0, _ => none
  | _, [] => some ([], [])
  | fuel + 1, c :: cs =>
    let more (part : Part) (rest : List Char) :=
      (wordParts fuel rest).map fun (parts, rest) => (part :: parts, rest)
    if endsWord c then some ([], c :: cs)
    else
      match c, cs with
      | '\'', _ =>
        match cs.dropWhile (· != '\'') with
        | _ :: rest => more (.text true (cs.takeWhile (· != '\''))) rest
        | [] => none
      | '"', _ => do
        let (inner, rest) ← quotedParts (cs.length + 1) cs
        let (parts, rest) ← wordParts fuel rest
        return (inner ++ parts, rest)
      | '\\', '\n' :: rest => wordParts fuel rest
      | '\\', d :: rest => more (.text true [d]) rest
      | '$', _ =>
        match parameter? false cs with
        | some (part, rest) => more part rest
        | none => more (.text false ['$']) cs
      | _, _ => more (.text false [c]) cs

def redirect? (cs : List Char) : Option (Redirect × List Char) :=
  let number := cs.takeWhile Char.isDigit
  let from1 := if number == ['2'] then 2 else 1
  match cs.drop number.length with
  | '>' :: '&' :: d :: rest =>
    if d == '1' then some (⟨from1, .output⟩, rest)
    else if d == '2' then some (⟨from1, .errors⟩, rest)
    else none
  | '>' :: rest =>
    let path := rest.dropWhile (· == ' ')
    if "/dev/null".toList.isPrefixOf path then some (⟨from1, .nowhere⟩, path.drop 9) else none
  | _ => none

/-- The tokens of a script with their lines. There is no answer for a quotation without end. -/
def tokens? : (fuel line : Nat) → List Char → Option (List (Nat × Token))
  | 0, _, _ => none
  | _, _, [] => some []
  | fuel + 1, line, c :: cs =>
    let more (token : Token) (rest : List Char) :=
      (tokens? fuel line rest).map ((line, token) :: ·)
    match c, cs with
    | ' ', _ | '\t', _ => tokens? fuel line cs
    | '\\', '\n' :: rest => tokens? fuel (line + 1) rest
    | '\n', _ => (tokens? fuel (line + 1) cs).map ((line, .operator ";") :: ·)
    | '#', _ => tokens? fuel line (cs.dropWhile (· != '\n'))
    | '&', '&' :: rest => more (.operator "&&") rest
    | '|', '|' :: rest => more (.operator "||") rest
    | ';', _ => more (.operator ";") cs
    | _, _ =>
      match redirect? (c :: cs) with
      | some (value, rest) => more (.redirect value) rest
      | none =>
        if endsWord c then more (.operator (String.singleton c)) cs
        else do
          let (value, rest) ← wordParts (cs.length + 2) (c :: cs)
          more (.word value) rest

/-- The text of a word without quotations and parameters. -/
def plain? : Token → Option String
  | .word parts =>
    let texts := parts.mapM fun part => match part with
      | .text false value => some value
      | _ => none
    texts.map fun values => String.ofList values.flatten
  | _ => none

def keywords : List String :=
  ["if", "then", "elif", "else", "fi", "for", "in", "do", "done", "\x7b", "\x7d", "!"]

/-- What a token opens or ends, if it does: a keyword, or a parenthesis. -/
def boundary? (token : Token) : Option String :=
  match token with
  | .operator "(" => some "("
  | .operator ")" => some ")"
  | _ => (plain? token).filter keywords.contains

/-- The words and redirections of one command, and the tokens behind it. -/
def simple : List (Nat × Token) → List Word × List Redirect × List (Nat × Token)
  | (line, token) :: rest =>
    match token with
    | .word value =>
      let (words, redirects, after) := simple rest
      (value :: words, redirects, after)
    | .redirect value =>
      let (words, redirects, after) := simple rest
      (words, value :: redirects, after)
    | .operator _ => ([], [], (line, token) :: rest)
  | [] => ([], [], [])

def behind? (expected : String) : List (Nat × Token) → Option (List (Nat × Token))
  | (_, token) :: rest => if boundary? token == some expected then some rest else none
  | [] => none

/-- The words that a loop goes through, and the tokens behind them: after `in`, or all arguments. -/
def loopWords (tokens : List (Nat × Token)) : List Word × List (Nat × Token) :=
  match behind? "in" tokens with
  | some rest =>
    let (words, _, rest) := simple rest
    (words, rest)
  | none => ([[.parameter true ['@'] none]], tokens)

def closings : List String := ["then", "elif", "else", "fi", "do", "done", "\x7d", ")"]

private def isSeparator : Nat × Token → Bool
  | (_, .operator ";") => true
  | _ => false

mutual
/-- Reads a list of commands up to a boundary, or to the end. Each step takes fuel. -/
def commands? : (fuel : Nat) → Joint → List (Nat × Token) → Option (Script × List (Nat × Token))
  | 0, _, _ => none
  | _, _, [] => some ([], [])
  | fuel + 1, joint, (line, token) :: rest =>
    match token with
    | .operator ";" => commands? fuel .always rest
    | .operator "&&" => commands? fuel .ifSuccess rest
    | .operator "||" => commands? fuel .ifFailure rest
    | _ =>
      if closings.any (boundary? token == some ·) then
        some ([], (line, token) :: rest)
      else do
        let (item, rest) ← pipeline? fuel ((line, token) :: rest)
        let (after, rest) ← commands? fuel .always rest
        return ((joint, item) :: after, rest)

def pipeline? : (fuel : Nat) → List (Nat × Token) → Option (Item × List (Nat × Token))
  | 0, _ => none
  | fuel + 1, tokens =>
    match behind? "!" tokens with
    | some rest => (pipeline? fuel rest).map fun (item, rest) => (.negate item, rest)
    | none => do
      let (first, rest) ← command? fuel tokens
      match rest with
      | (_, .operator "|") :: rest =>
        let (second, rest) ← pipeline? fuel (rest.dropWhile isSeparator)
        return (.pipe first second, rest)
      | _ => return (first, rest)

def command? : (fuel : Nat) → List (Nat × Token) → Option (Item × List (Nat × Token))
  | 0, _ => none
  | _, [] => none
  | fuel + 1, (line, token) :: rest =>
    match boundary? token with
    | some "if" => branches? fuel rest
    | some "(" => group? fuel true ")" rest
    | some "\x7b" => group? fuel false "\x7d" rest
    | some "for" =>
      match rest with
      | (_, token) :: rest => do loop? fuel (← plain? token) rest
      | [] => none
    | some _ => none
    | none =>
      match token with
      | .operator _ => none
      | _ =>
        let (words, redirects, rest) := simple ((line, token) :: rest)
        some (.run line words redirects, rest)

/-- Reads commands up to a closing boundary, and the redirections behind it. -/
def group? : (fuel : Nat) → (apart : Bool) → (closing : String) → List (Nat × Token) →
    Option (Item × List (Nat × Token))
  | 0, _, _, _ => none
  | fuel + 1, separate, closing, tokens => do
    let (body, rest) ← commands? fuel .always tokens
    let (words, redirects, rest) := simple (← behind? closing rest)
    if words.isEmpty then return (.group separate body redirects, rest) else none

def loop? : (fuel : Nat) → (name : String) → List (Nat × Token) →
    Option (Item × List (Nat × Token))
  | 0, _, _ => none
  | fuel + 1, name, tokens => do
    let (words, rest) := loopWords tokens
    let (body, rest) ← commands? fuel .always (← behind? "do" (rest.dropWhile isSeparator))
    return (.each name words body, ← behind? "done" rest)

def branches? : (fuel : Nat) → List (Nat × Token) → Option (Item × List (Nat × Token))
  | 0, _ => none
  | fuel + 1, tokens => do
    let (condition, rest) ← commands? fuel .always tokens
    let (yes, rest) ← commands? fuel .always (← behind? "then" rest)
    match behind? "elif" rest, behind? "else" rest with
    | some rest, _ =>
      let (no, rest) ← branches? fuel rest
      return (.choose condition yes [(.always, no)], rest)
    | none, some rest =>
      let (no, rest) ← commands? fuel .always rest
      return (.choose condition yes no, ← behind? "fi" rest)
    | none, none => return (.choose condition yes [], ← behind? "fi" rest)
end

/-- Why a script cannot be read. -/
inductive ScriptError where
  | unterminated
  | unexpected
deriving DecidableEq, Repr

def Script.read (text : String) : Except ScriptError Script :=
  let cs := text.toList
  match tokens? (cs.length + 1) 1 cs with
  | none => .error .unterminated
  | some tokens =>
    match commands? (4 * tokens.length + 4) .always tokens with
    | some (script, []) => .ok script
    | _ => .error .unexpected

end Mathdown.Shell
