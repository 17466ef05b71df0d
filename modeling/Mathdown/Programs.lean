import Mathdown.FileTree.Route
import Mathdown.Shell

namespace Mathdown.Programs

def maxArgument : Nat := 131071

def maxName : Nat := 255

private def isEchoOption (word : String) : Bool :=
  match word.toList with
  | '-' :: flags => !flags.isEmpty && flags.all fun c => c == 'n' || c == 'e' || c == 'E'
  | _ => false

/-- What the program `echo` writes, which knows three options and no escapes unless asked to. -/
def echo (args : List String) : List UInt8 :=
  let options := args.takeWhile isEchoOption
  let text := (" ".intercalate (args.drop options.length)).toList
  let flags := options.flatMap String.toList
  let escapes := (flags.filter fun c => c == 'e' || c == 'E').getLast? == some 'e'
  let (bytes, ended) :=
    if escapes then Shell.unescape (text.length + 1) text else (Text.Utf8.encode text, false)
  if ended || flags.contains 'n' then bytes else bytes ++ [10]

def byName (values : List (String × String)) (name : String) (args : List String) :
    Option ProcessOutcome :=
  match name with
  | "sh" => some (Shell.runWith values args)
  | "echo" => some (.ended (.code 0) (echo args) [])
  | "true" => some (.ended (.code 0) [] [])
  | "false" => some (.ended (.code 1) [] [])
  | _ => none

def baseName? (program : String) : Option String :=
  ["/bin/", "/usr/bin/"].findSome? fun directory =>
    if directory.toList.isPrefixOf program.toList
    then some (String.ofList (program.toList.drop directory.length)) else none

/-- A program that is no name but a path: what stands there cannot be run. -/
def byPath (tree : FileTree) (current : FileTree.Place) (program : String) : ProcessOutcome :=
  match tree.resolve current program with
  | .error .notFound => .notFound
  | .error e => .failed e.message
  | .ok place => if (tree.find? place).isSome then .failed "Permission denied (os error 13)" else .notFound

/-- Runs a program with some variables from a current directory. -/
def run (values : List (String × String)) (tree : FileTree) (current : FileTree.Place)
    (program : String) (args : List String) : ProcessOutcome :=
  if (program :: args).any (·.toList.contains '\x00') then
    .failed "nul byte found in provided data"
  else if args.any (maxArgument < ·.utf8ByteSize) then
    .failed "Argument list too long (os error 7)"
  else
    let isPath := program.toList.contains '/'
    match byName values (if isPath then (baseName? program).getD "" else program) args with
    | some outcome => outcome
    | none =>
      if isPath then byPath tree current program
      else if maxName < program.utf8ByteSize then .failed "File name too long (os error 36)"
      else .notFound

end Mathdown.Programs
