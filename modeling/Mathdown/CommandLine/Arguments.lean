namespace Mathdown.CommandLine

/-- What can be given to a rendering. -/
inductive Parameter where
  | input | output | config | resultCache | noCache | lineNumbers | fallbackCommand | verbose | help
deriving Repr, DecidableEq

namespace Parameter

def named : List Parameter :=
  [output, config, resultCache, noCache, lineNumbers, fallbackCommand, verbose, help]

def long : Parameter → String
  | input => ""
  | output => "output"
  | config => "config"
  | resultCache => "result-cache"
  | noCache => "no-cache"
  | lineNumbers => "line-numbers"
  | fallbackCommand => "fallback-command"
  | verbose => "verbose"
  | help => "help"

def letter? : Parameter → Option Char
  | output => some 'o'
  | config => some 'c'
  | verbose => some 'v'
  | help => some 'h'
  | _ => none

def value? : Parameter → Option String
  | output => some "OUTPUT"
  | config => some "CONFIG"
  | fallbackCommand => some "FALLBACK_COMMAND"
  | _ => none

def isPath : Parameter → Bool
  | input | output | config => true
  | _ => false

def text (p : Parameter) : String :=
  match p, p.value? with
  | input, _ => "[INPUT]"
  | _, some value => "--" ++ p.long ++ " <" ++ value ++ ">"
  | _, none => "--" ++ p.long

def ofLong? (name : String) : Option Parameter := named.find? (·.long == name)

def ofLetter? (c : Char) : Option Parameter := named.find? (·.letter? == some c)

end Parameter

/-- Why arguments are not taken. -/
inductive ArgumentError where
  | unknownCommand (name : String)
  | unexpected (argument : String)
  | unexpectedValue (value argument : String)
  | missingValue (p : Parameter)
  | repeated (p : Parameter)
  | conflict (first second : Parameter)
deriving Repr, DecidableEq

def ArgumentError.message : ArgumentError → String
  | .unknownCommand name => "unrecognized subcommand '" ++ name ++ "'"
  | .unexpected argument => "unexpected argument '" ++ argument ++ "' found"
  | .unexpectedValue value argument =>
    "unexpected value '" ++ value ++ "' for '" ++ argument ++ "' found; no more were expected"
  | .missingValue p => "a value is required for '" ++ p.text ++ "' but none was supplied"
  | .repeated p => "the argument '" ++ p.text ++ "' cannot be used multiple times"
  | .conflict first second =>
    "the argument '" ++ first.text ++ "' cannot be used with '" ++ second.text ++ "'"

/-- Why reading stops before the end. -/
inductive Stop where
  | error (e : ArgumentError)
  | help
deriving Repr, DecidableEq

/-- What has been read of the arguments. -/
structure Reading where
  /-- What has been given so far, in order, with its value. -/
  given : List (Parameter × String) := []
  /-- What has been read last, with its value if that has been read too. -/
  pending : Option (Parameter × Option String) := none
  /-- Whether only inputs follow. -/
  onlyInputs : Bool := false

namespace Reading

def record (r : Reading) (p : Parameter) (value : String) : Except Stop Reading :=
  if p = .help then .error .help
  else if r.given.any (·.1 == p) then .error (.error (.repeated p))
  else if p.isPath && value = "" then .error (.error (.missingValue p))
  else .ok { r with given := r.given ++ [(p, value)], pending := none }

def settle (r : Reading) : Except Stop Reading :=
  match r.pending with
  | none => .ok r
  | some (p, none) => .error (.error (.missingValue p))
  | some (p, some value) => r.record p value

/-- Reads a named parameter, and its value if that comes with the name. -/
def name (r : Reading) (p : Parameter) (value : Option String) : Except Stop Reading := do
  let r ← r.settle
  match p.value?, value with
  | some _, none => return { r with pending := some (p, none) }
  | _, value => r.record p (value.getD "")

def long (r : Reading) (body : List Char) : Except Stop Reading :=
  let front := body.takeWhile (· != '=')
  let value := if front.length = body.length then none
    else some (String.ofList (body.drop (front.length + 1)))
  match Parameter.ofLong? (String.ofList front), value with
  | none, _ => .error (.error (.unexpected ("--" ++ String.ofList front)))
  | some p, some text =>
    if p.value?.isSome then r.name p value
    else .error (.error (.unexpectedValue text p.text))
  | some p, none => r.name p none

/-- Reads the letters of an argument with one dash. What follows a letter with a value is that. -/
def letters (r : Reading) : List Char → Except Stop Reading
  | [] => .ok r
  | c :: cs =>
    match Parameter.ofLetter? c with
    | none => .error (.error (.unexpected ("-" ++ c.toString)))
    | some p =>
      if p.value?.isSome then
        match cs with
        | [] => r.name p none
        | '=' :: value => r.name p (some (String.ofList value))
        | value => r.name p (some (String.ofList value))
      else do letters (← r.name p none) cs

def input (r : Reading) (argument : String) : Except Stop Reading :=
  if r.given.any (·.1 == .input) || r.pending.any (·.1 == .input) then
    .error (.error (.unexpected argument))
  else do
    let r ← r.settle
    return { r with pending := some (.input, some argument) }

def step (r : Reading) (argument : String) : Except Stop Reading :=
  if r.onlyInputs then r.input argument
  else
    match argument.toList with
    | ['-', '-'] => .ok { r with onlyInputs := true }
    | '-' :: '-' :: body => r.long body
    | '-' :: c :: cs => r.letters (c :: cs)
    | _ =>
      match r.pending with
      | some (p, none) => .ok { r with pending := some (p, some argument) }
      | _ => r.input argument

/-- The first parameter that does not go with another one, in the order they are given. -/
def conflict? (r : Reading) : Option (Parameter × Parameter) :=
  let has (p : Parameter) : Bool := r.given.any (·.1 == p)
  if has .resultCache && has .noCache then
    r.given.findSome? fun (p, _) =>
      if p = .resultCache then some (p, .noCache)
      else if p = .noCache then some (p, .resultCache)
      else none
  else none

end Reading

/-- How a document is to be rendered. -/
structure Request where
  input : Option String := none
  output : Option String := none
  config : Option String := none
  resultCache : Bool := false
  noCache : Bool := false
  lineNumbers : Bool := false
  fallbackCommand : Option String := none
  verbose : Bool := false
deriving Repr, DecidableEq

def Request.ofReading (r : Reading) : Request where
  input := r.given.lookup .input
  output := r.given.lookup .output
  config := r.given.lookup .config
  resultCache := (r.given.lookup .resultCache).isSome
  noCache := (r.given.lookup .noCache).isSome
  lineNumbers := (r.given.lookup .lineNumbers).isSome
  fallbackCommand := r.given.lookup .fallbackCommand
  verbose := (r.given.lookup .verbose).isSome

def readRequest (args : List String) : Except Stop Request := do
  let r ← args.foldlM Reading.step {}
  let r ← r.settle
  match r.conflict? with
  | some (first, second) => .error (.error (.conflict first second))
  | none => return .ofReading r

/-- What the program is asked for. -/
inductive Order where
  | render (request : Request)
  | help
  | version
  /-- The usage, because nothing is asked for. -/
  | usage
deriving Repr, DecidableEq

def orderOfLetters : List Char → Except ArgumentError Order
  | 'h' :: _ => .ok .help
  | 'V' :: _ => .ok .version
  | c :: _ => .error (.unexpected ("-" ++ c.toString))
  | [] => .ok .usage

def orderOfLong (body : List Char) : Except ArgumentError Order :=
  let front := String.ofList (body.takeWhile (· != '='))
  let order? := if front = "help" then some Order.help
    else if front = "version" then some Order.version else none
  match order? with
  | none => .error (.unexpected ("--" ++ front))
  | some order =>
    if front.length = body.length then .ok order
    else .error (.unexpectedValue (String.ofList (body.drop (front.length + 1))) ("--" ++ front))

def orderOfTopics : List String → Except ArgumentError Order
  | [] => .ok .help
  | "help" :: rest => orderOfHelp rest
  | "render" :: rest => orderOfHelp rest
  | topic :: _ => .error (.unknownCommand topic)
where
  orderOfHelp : List String → Except ArgumentError Order
    | [] => .ok .help
    | topic :: _ => .error (.unknownCommand topic)

def readOrder : List String → Except ArgumentError Order
  | [] => .ok .usage
  | ["--"] => .ok .usage
  | "--" :: argument :: _ =>
    .error (if argument = "render" || argument = "help" then .unexpected argument
      else .unknownCommand argument)
  | argument :: rest =>
    match argument.toList with
    | '-' :: '-' :: body => orderOfLong body
    | '-' :: c :: cs => orderOfLetters (c :: cs)
    | _ =>
      if argument = "render" then
        match readRequest rest with
        | .ok request => .ok (.render request)
        | .error .help => .ok .help
        | .error (.error e) => .error e
      else if argument = "help" then orderOfTopics rest
      else .error (.unknownCommand argument)

end Mathdown.CommandLine
