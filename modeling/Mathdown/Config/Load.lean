import Mathdown.Config
import Mathdown.Config.Variables
import Mathdown.FileTree.Route
import Mathdown.Toml.Document

namespace Mathdown.Config

open Variables (Environment)

/-- The name of a configuration file. -/
def fileName : String := "texmark.toml"

/-- Puts values for variables in the value of a field. -/
def expandField (environment : Environment) (field text : String) : Except ConfigError String :=
  (Variables.expand environment text).mapError (.unset field)

/-- Puts values for variables in the fields that may name them. -/
def expand (environment : Environment) (c : Config) : Except ConfigError Config := do
  let cacheDir ← c.cacheDir.mapM (expandField environment "cache.dir")
  let program ← expandField environment "math.fallback_command" c.fallback.program
  let args ← c.fallback.args.mapM (expandField environment "math.fallback_args")
  return { c with cacheDir, fallback := ⟨program, args⟩ }

/-- The configuration of a text, whose paths start at a base directory. -/
def ofToml (environment : Environment) (baseDir text : String) (parse : Toml.Parser := Toml.parse) :
    Except ConfigError Config := do
  let value ← (parse text).mapError .unreadable
  let c ← (decode value).mapError .unfit
  let c ← c.expand environment
  return { c with cacheDir := c.cacheDir.map (FileTree.join baseDir) }

def ofFile (environment : Environment) (tree : FileTree) (current : FileTree.Place)
    (path : String) (parse : Toml.Parser := Toml.parse) : Except ConfigError Config := do
  let text ← (tree.readTextAt current path).mapError .file
  let c ← ofToml environment ((FileTree.parent? path).getD ".") text parse
  return { c with file := some path }

/-- Looks for a configuration file in a directory and, going up, in those above it. -/
def discover? (tree : FileTree) (current : FileTree.Place) : Option String :=
  ((List.range (current.length + 1)).map fun up => current.take (current.length - up) ++ [fileName])
    |>.find? tree.isFile |>.map FileTree.route

/-- The configuration of the file that is named or found, or the defaults. -/
def ofTree (environment : Environment) (tree : FileTree) (current : FileTree.Place)
    (named : Option String) (parse : Toml.Parser := Toml.parse) : Except ConfigError Config :=
  match named with
  | some path =>
    match tree.resolve current path with
    | .error _ => .error (.notFound path)
    | .ok place =>
      if (tree.find? place).isSome then ofFile environment tree current path parse
      else .error (.notFound path)
  | none =>
    match discover? tree current with
    | some path => ofFile environment tree current path parse
    | none => .ok {}

/-- The configuration with what a caller gives over it, unless it makes no sense. -/
def load (environment : Environment) (tree : FileTree) (current : FileTree.Place)
    (named : Option String) (overrides : ConfigOverrides) (parse : Toml.Parser := Toml.parse) :
    Except ConfigError Config := do
  let c := overrides.apply (← ofTree environment tree current named parse)
  c.validate
  return c

end Mathdown.Config
