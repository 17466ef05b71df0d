import Mathdown.CommandLine.Arguments
import Mathdown.CommandLine.Help
import Mathdown.Config.Build
import Mathdown.Config.Load
import Mathdown.Programs

/-!
The program. It takes arguments, standard input, variables and a tree of files, and gives an exit
code, what it writes, and the tree that it leaves.
-/

namespace Mathdown.CommandLine

open Variables (Environment)

/-- What the program finds when it is started. -/
structure Surroundings where
  environment : Environment := []
  tree : FileTree := {}
  /-- The current directory. -/
  current : FileTree.Place := []
  input : ByteArray := .empty

structure Outcome where
  code : Nat := 0
  output : String := ""
  /-- What is written to standard error. -/
  errors : String := ""
  tree : FileTree

/-- Why a document is not rendered. -/
inductive Failure where
  | config (e : ConfigError)
  | file (e : FileError)
  | compile (e : CompileError)

def Failure.message : Failure → String
  | .config e => e.message
  | .file e => e.message
  | .compile e => e.message

/-- The variable that names the fallback command where no argument does. -/
def fallbackVariable : String := "TEXMARK_FALLBACK_COMMAND"

def Request.overrides (r : Request) (environment : Environment) : ConfigOverrides where
  cacheEnabled := if r.noCache then some false else none
  resultCache := if r.resultCache then some true else none
  lineNumbers := if r.lineNumbers then some true else none
  fallbackCommand := r.fallbackCommand <|> environment.lookup fallbackVariable

def readInput (r : Request) (s : Surroundings) : Except FileError String :=
  match r.input with
  | some path => s.tree.readTextAt s.current path
  | none =>
    match String.fromUTF8? s.input with
    | some text => .ok text
    | none => .error .notText

def deliver (r : Request) (s : Surroundings) (html : String) : Except FileError Outcome :=
  match r.output with
  | some path => do
    let tree ← s.tree.writeAt s.current path html.toUTF8
    return { errors := "Rendered to " ++ path ++ "\n", tree }
  | none => return { output := html, tree := s.tree }

def failed (e : Failure) (tree : FileTree) : Outcome :=
  { code := 1, errors := "Error: " ++ e.message ++ "\n", tree }

def render (r : Request) (s : Surroundings) : Outcome :=
  match Config.load s.environment s.tree s.current r.config (r.overrides s.environment) with
  | .error e => failed (.config e) s.tree
  | .ok c =>
    match readInput r s with
    | .error e => failed (.file e) s.tree
    | .ok text =>
      let (result, tree) := c.render .bundled (Programs.run s.environment s.tree s.current)
        (c.cacheDir.map (s.tree.locate s.current)) version text s.tree
      match result with
      | .error e => failed (.compile e) tree
      | .ok html =>
        match deliver r { s with tree } html with
        | .error e => failed (.file e) tree
        | .ok outcome =>
          if r.verbose then
            { outcome with
              errors := outcome.errors ++ toString html.utf8ByteSize ++ " bytes of HTML\n" }
          else outcome

def run (args : List String) (s : Surroundings) : Outcome :=
  match readOrder args with
  | .ok (.render request) => render request s
  | .ok .help => { output := help, tree := s.tree }
  | .ok .version => { output := programName ++ " " ++ version ++ "\n", tree := s.tree }
  | .ok .usage => { code := 2, errors := help, tree := s.tree }
  | .error e => { code := 2, errors := complaint e.message, tree := s.tree }

end Mathdown.CommandLine
