import Mathdown.Command
import Mathdown.Shell.Script
import Mathdown.Shell.Text

/-!
A small shell, which runs the scripts that math commands are made of: the commands `echo`,
`printf`, `cat`, `exit`, `shift`, `kill` and `test` among others. A script starts with nothing on
standard input.
-/

namespace Mathdown.Shell

/-- What a script is run with, and what it has written. -/
structure State where
  /-- What the shell calls itself. -/
  name : String
  args : List String
  values : List (String × String) := []
  /-- The status of the last command. -/
  status : Nat := 0
  /-- What is left to read. -/
  input : List UInt8 := []
  output : List UInt8 := []
  errors : List UInt8 := []
deriving Repr

/-- What a command does: what it writes, its status, and whether the script goes on. -/
structure Effect where
  output : List UInt8 := []
  errors : List UInt8 := []
  status : Nat := 0
  ending : Option ExitStatus := none
deriving Repr

def isBlank (c : Char) : Bool := c == ' ' || c == '\t' || c == '\n'

namespace State

def value (s : State) (name : List Char) : String :=
  match name with
  | ['?'] => toString s.status
  | ['#'] => toString s.args.length
  | ['0'] => s.name
  | _ =>
    if name.all Char.isDigit then
      let n := name.foldl (fun n d => 10 * n + (d.toNat - '0'.toNat)) 0
      (s.args[n - 1]?).getD ""
    else (s.values.lookup (String.ofList name)).getD ""

/-- The fields that a word has given so far, the latest first, and whether the latest is open. -/
structure Fields where
  done : List (List Char) := []
  current : Option (List Char) := none

namespace Fields

def append (f : Fields) (cs : List Char) : Fields :=
  { f with current := some (f.current.getD [] ++ cs) }

def cut (f : Fields) : Fields :=
  match f.current with
  | some field => ⟨field :: f.done, none⟩
  | none => f

def split (f : Fields) (cs : List Char) : Fields :=
  cs.foldl (fun f c => if isBlank c then f.cut else f.append [c]) f

/-- Appends several values as fields of their own; the first and the last may go on. -/
def spread (add : Fields → List Char → Fields) (f : Fields) : List (List Char) → Fields
  | [] => f
  | [value] => add f value
  | value :: rest => spread add (add f value).cut rest

def toList (f : Fields) : List String := (f.cut.done.reverse).map String.ofList

end Fields

def expand (s : State) (word : Word) : List String :=
  (word.foldl part {}).toList
where
  part (f : Fields) : Part → Fields
    | .text _ value => f.append value
    | .parameter true ['@'] _ => f.spread Fields.append (s.args.map String.toList)
    | .parameter true ['*'] _ => f.append (" ".intercalate s.args).toList
    | .parameter false ['@'] _ | .parameter false ['*'] _ =>
      f.spread Fields.split (s.args.map String.toList)
    | .parameter quoted name otherwise =>
      let value := (s.value name).toList
      let value := if value.isEmpty then otherwise.getD [] else value
      if quoted then f.append value else f.split value

end State

private def say (text : String) : List UInt8 := Text.Utf8.encode text.toList

private def ofBool (b : Bool) : Nat := if b then 0 else 1

/-- The status of a test: zero if it holds, one if it does not, two if it makes no sense. -/
def test : List String → Nat
  | [] => 1
  | ["!", a] => ofBool (a.isEmpty)
  | [a] => ofBool (!a.isEmpty)
  | ["-n", a] => ofBool (!a.isEmpty)
  | ["-z", a] => ofBool (a.isEmpty)
  | [a, "=", b] => ofBool (a == b)
  | [a, "!=", b] => ofBool (a != b)
  | [a, op, b] =>
    match a.toInt?, b.toInt? with
    | some m, some n =>
      match op with
      | "-eq" => ofBool (m == n)
      | "-ne" => ofBool (m != n)
      | "-lt" => ofBool (m < n)
      | "-le" => ofBool (m ≤ n)
      | "-gt" => ofBool (n < m)
      | "-ge" => ofBool (n ≤ m)
      | _ => 2
    | _, _ => 2
  | "!" :: rest => if test rest == 0 then 1 else 0
  | _ => 2

def signal? (text : String) : Option Nat :=
  let word := String.ofList (text.toList.dropWhile (· == '-'))
  match word.toNat? with
  | some n => some n
  | none =>
    let word := if "SIG".toList.isPrefixOf word.toList then String.ofList (word.toList.drop 3)
      else word
    (List.range 16).find? fun n => ExitStatus.signalName n == " (SIG" ++ word ++ ")"

/-- Runs a command by its words. What it changes in the state is left to the caller. -/
def command (s : State) (line : Nat) : List String → Effect
  | [] => {}
  | "echo" :: words => { output := echoBytes words }
  | "printf" :: format :: args => { output := formatAll format (args.length + 1) args }
  | "true" :: _ | ":" :: _ | "shift" :: _ | "sleep" :: _ => {}
  | "cat" :: [] | "cat" :: "-" :: [] => { output := s.input }
  | "read" :: _ => { status := ofBool (s.input.contains 10) }
  | "false" :: _ => { status := 1 }
  | "exit" :: [] => { status := s.status, ending := some (.code s.status) }
  | "exit" :: n :: _ =>
    let status := (n.toNat?.getD 2) % 256
    { status, ending := some (.code status) }
  | "test" :: words => { status := test words }
  | "[" :: words => { status := test words.dropLast }
  | "cat" :: file :: _ =>
    { status := 1, errors := say ("cat: " ++ file ++ ": No such file or directory\n") }
  | "kill" :: words =>
    match (words.filter (· != "-s")).head?.bind signal? with
    | some n => { status := 128 + n, ending := some (.signal n) }
    | none => { status := 2 }
  | name :: _ =>
    { status := 127
      errors := say (s.name ++ ": " ++ toString line ++ ": " ++ name ++ ": not found\n") }

/-- Where outputs one and two go after redirections. -/
def targets (redirects : List Redirect) : Target × Target :=
  redirects.foldl (fun (one, two) r =>
    let target := match r.target with
      | .output => one
      | .errors => two
      | .nowhere => .nowhere
    if r.number == 2 then (one, target) else (target, two)) (.output, .errors)

namespace State

def write (s : State) (target : Target) (bytes : List UInt8) : State :=
  match target with
  | .output => { s with output := s.output ++ bytes }
  | .errors => { s with errors := s.errors ++ bytes }
  | .nowhere => s

/-- A word that sets a variable: its name and the value. -/
def assignment? (field : String) : Option (String × String) :=
  let name := field.toList.takeWhile fun c => c.isAlphanum || c == '_'
  match name, field.toList.drop name.length with
  | c :: _, '=' :: value =>
    if c.isDigit then none else some (String.ofList name, String.ofList value)
  | _, _ => none

/-- The state behind a command that takes arguments off or reads. -/
def consumed (s : State) : List String → State
  | "shift" :: _ => { s with args := s.args.drop 1 }
  | "cat" :: _ => { s with input := [] }
  | "read" :: names =>
    let (line, rest) := s.input.span (· != 10)
    let field := Text.Utf8.decodeLossy line
    { s with input := rest.drop 1
             values := (names.head?.getD "REPLY", field) :: s.values }
  | _ => s

/-- The status that a script ends with: that of its exit, or of its last command. -/
def ended (s : State) : Option ExitStatus → Nat
  | some (.code n) => n
  | some (.signal n _) => 128 + n
  | none => s.status

def runSimple (s : State) (line : Nat) (words : List Word) (redirects : List Redirect) :
    State × Option ExitStatus :=
  let fields := words.flatMap s.expand
  match fields with
  | [field] =>
    match assignment? field with
    | some entry => ({ s with values := entry :: s.values, status := 0 }, none)
    | none => apply s line fields redirects
  | _ => apply s line fields redirects
where
  apply (s : State) (line : Nat) (fields : List String) (redirects : List Redirect) :
      State × Option ExitStatus :=
    let (last, fields) := match fields with
      | "exec" :: field :: rest => (true, field :: rest)
      | _ => (false, fields)
    let effect := command s line fields
    let (one, two) := targets redirects
    let s := (s.write one effect.output).write two effect.errors
    let s := { s.consumed fields with status := effect.status }
    (s, if last then some (effect.ending.getD (.code s.status)) else effect.ending)

mutual
/-- Runs a script until its end or an exit. Each step takes fuel. -/
def run : (fuel : Nat) → State → Script → State × Option ExitStatus
  | 0, s, _ => (s, none)
  | _, s, [] => (s, none)
  | fuel + 1, s, (joint, item) :: rest =>
    let wanted := match joint with
      | .always => true
      | .ifSuccess => s.status == 0
      | .ifFailure => s.status != 0
    if !wanted then run fuel s rest
    else
      match runItem fuel s item with
      | (s, some status) => (s, some status)
      | (s, none) => run fuel s rest

def runItem : (fuel : Nat) → State → Item → State × Option ExitStatus
  | 0, s, _ => (s, none)
  | fuel + 1, s, item =>
    match item with
    | .run line words redirects => runSimple s line words redirects
    | .choose condition yes no =>
      match run fuel s condition with
      | (s, some status) => (s, some status)
      | (s, none) => if s.status == 0 then run fuel s yes else run fuel { s with status := 0 } no
    | .group separate body redirects =>
      let (inner, ending) := run fuel { s with output := [], errors := [] } body
      let (one, two) := targets redirects
      let outer := if separate then s else { inner with output := s.output, errors := s.errors }
      let outer := (outer.write one inner.output).write two inner.errors
      -- A signal ends the whole shell, an exit only what runs apart.
      if separate then
        ({ outer with status := inner.ended ending }, ending.filter ExitStatus.isSignal)
      else ({ outer with status := inner.status }, ending)
    | .each name words body =>
      (words.flatMap s.expand).foldl (fun (s, ending) field =>
        match ending with
        | some status => (s, some status)
        | none => run fuel { s with values := (name, field) :: s.values } body)
        ({ s with status := 0 }, none)
    | .pipe first second =>
      let left := (runItem fuel { s with output := [] } first).1
      let (right, ending) :=
        runItem fuel { s with input := left.output, output := [], errors := left.errors } second
      ({ s with output := s.output ++ right.output, errors := right.errors
                status := right.ended ending }, ending.filter ExitStatus.isSignal)
    | .negate item =>
      match runItem fuel s item with
      | (s, some status) => (s, some status)
      | (s, none) => ({ s with status := ofBool (s.status != 0) }, none)
end

end State

mutual
def Item.size : Item → Nat
  | .run .. => 1
  | .choose condition yes no => 1 + scriptSize condition + scriptSize yes + scriptSize no
  | .group _ body _ | .each _ _ body => 1 + scriptSize body
  | .pipe first second => 1 + first.size + second.size
  | .negate item => 1 + item.size

def scriptSize : List (Joint × Item) → Nat
  | [] => 1
  | (_, item) :: rest => 1 + item.size + scriptSize rest
end

def runText (values : List (String × String)) (name : String) (args : List String)
    (text : String) : ProcessOutcome :=
  match Script.read text with
  | .error .unterminated =>
    .ended (.code 2) [] (say (name ++ ": 1: Syntax error: Unterminated quoted string\n"))
  | .error .unexpected => .ended (.code 2) [] (say (name ++ ": 1: Syntax error\n"))
  | .ok script =>
    let (s, ending) := State.run (scriptSize script) { name, args, values } script
    .ended (ending.getD (.code s.status)) s.output s.errors

/-- Runs the shell with the variables of its caller and the arguments of a command line. -/
def runWith (values : List (String × String)) (args : List String) : ProcessOutcome :=
  match args with
  | "-c" :: "--" :: script :: rest | "-c" :: script :: rest =>
    if "-".toList.isPrefixOf script.toList && script != "--" then
      .ended (.code 2) [] (say "sh: 0: Illegal option --\n")
    else
      match rest with
      | [] => runText values "sh" [] script
      | name :: args => runText values name args script
  | "--" :: file :: _ | file :: _ =>
    if "-".toList.isPrefixOf file.toList then
      .ended (.code 2) [] (say "sh: 0: Illegal option --\n")
    else .ended (.code 2) [] (say ("sh: 0: cannot open " ++ file ++ ": No such file\n"))
  | [] => .ended (.code 0) [] []

end Mathdown.Shell
