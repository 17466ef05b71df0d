import Mathdown.Config.Load

namespace Mathdown

open Toml (Decoder Value)
open Variables (Environment)

/-- The members of a record: those of a table have names of their own, an array has them in turn. -/
def Toml.Value.members (names : List String) : Value → List (String × Value)
  | .table _ entries => entries
  | .array _ items => names.zip items
  | _ => []

def Toml.Value.valuesOf (names : List String) (name : String) (v : Value) : List Value :=
  (v.members names).flatMap fun (other, w) => if other = name then [w] else []

namespace Config

/-- The settings, by the type of their values. -/
inductive Field : Type → Type where
  | cacheEnabled : Field Bool
  | cacheHighlight : Field Bool
  | cacheMath : Field Bool
  | cacheResult : Field Bool
  | cacheDir : Field (Option String)
  | gfm : Field Bool
  | math : Field Bool
  | lineNumbers : Field Bool
  | maxNesting : Field Nat
  | program : Field String
  | args : Field (List String)

namespace Field

variable {α : Type}

def get : Field α → Config → α
  | .cacheEnabled, c => c.cacheEnabled
  | .cacheHighlight, c => c.caching.highlight
  | .cacheMath, c => c.caching.math
  | .cacheResult, c => c.caching.result
  | .cacheDir, c => c.cacheDir
  | .gfm, c => c.markdown.gfm
  | .math, c => c.markdown.math
  | .lineNumbers, c => c.markdown.lineNumbers
  | .maxNesting, c => c.markdown.maxNesting
  | .program, c => c.fallback.program
  | .args, c => c.fallback.args

/-- The section of a configuration file that the setting stands in. -/
def group : Field α → String
  | .cacheEnabled | .cacheHighlight | .cacheMath | .cacheResult | .cacheDir => "cache"
  | .gfm | .math | .lineNumbers | .maxNesting => "markdown"
  | .program | .args => "math"

/-- The setting's name in its section. -/
def name : Field α → String
  | .cacheEnabled => "enabled"
  | .cacheHighlight => "highlight"
  | .cacheMath | .math => "math"
  | .cacheResult => "result"
  | .cacheDir => "dir"
  | .gfm => "gfm"
  | .lineNumbers => "line_numbers"
  | .maxNesting => "max_nesting"
  | .program => "fallback_command"
  | .args => "fallback_args"

def names : (group : String) → List String
  | "cache" => ["enabled", "highlight", "math", "result", "dir"]
  | "markdown" => ["gfm", "math", "line_numbers", "max_nesting"]
  | "math" => ["fallback_command", "fallback_args"]
  | _ => []

def decoder : Field α → Decoder α
  | .cacheEnabled | .cacheHighlight | .cacheMath | .cacheResult | .gfm | .math | .lineNumbers =>
    Decoder.boolean
  | .cacheDir => fun v => some <$> Decoder.string v
  | .maxNesting => Decoder.natural
  | .program => Decoder.string
  | .args => Decoder.list Decoder.string

/-- What is made of a value from a file that stands in a directory. -/
def settle (environment : Environment) (directory : String) : Field α → α → Except ConfigError α
  | .cacheDir, path =>
    Option.map (FileTree.join directory) <$> path.mapM (expandField environment "cache.dir")
  | .program, text => expandField environment "math.fallback_command" text
  | .args, texts => texts.mapM (expandField environment "math.fallback_args")
  | .cacheEnabled, b | .cacheHighlight, b | .cacheMath, b | .cacheResult, b | .gfm, b | .math, b
  | .lineNumbers, b => .ok b
  | .maxNesting, n => .ok n

def override? (overrides : ConfigOverrides) : Field α → Option α
  | .cacheEnabled => overrides.cacheEnabled
  | .cacheResult => overrides.resultCache
  | .lineNumbers => overrides.lineNumbers
  | .program => overrides.fallbackCommand
  | .cacheHighlight | .cacheMath | .gfm | .math | .cacheDir | .maxNesting | .args => none

/-- The values that a document gives for the setting. -/
def given (setting : Field α) (document : Value) : List Value :=
  (document.valuesOf ["cache", "markdown", "math"] setting.group).flatMap
    (·.valuesOf (names setting.group) setting.name)

/-- Whether a value is what a document in a file says last, or the default if it says nothing. -/
inductive FromFile (environment : Environment) (directory : String) (document : Value)
    (setting : Field α) : α → Prop where
  | given {v : Value} {raw a : α} (given : (setting.given document).getLast? = some v)
      (decoded : setting.decoder v = .ok raw)
      (settled : setting.settle environment directory raw = .ok a) :
      FromFile environment directory document setting a
  | default (leftOut : setting.given document = []) :
      FromFile environment directory document setting (setting.get {})

end Field

def Stands (tree : FileTree) (current : FileTree.Place) (path : String) : Prop :=
  ∃ place node, tree.resolve current path = .ok place ∧ tree.find? place = some node

def HasFile (tree : FileTree) (directory : FileTree.Place) : Prop :=
  tree.isFile (directory ++ [fileName]) = true

/-- Whether a configuration is to be read from a file, or from none. -/
inductive Source (tree : FileTree) (current : FileTree.Place) : (named file : Option String) → Prop where
  | named {path : String} (stands : Stands tree current path) :
      Source tree current (some path) (some path)
  /-- The nearest one: other directories above that have one are above it. -/
  | nearest {directory : FileTree.Place} (above : directory <+: current) (has : HasFile tree directory)
      (nearest : ∀ other, other <+: current → HasFile tree other → other <+: directory) :
      Source tree current none (some (FileTree.route (directory ++ [fileName])))
  | nowhere (lacking : ∀ directory, directory <+: current → ¬HasFile tree directory) :
      Source tree current none none

variable (parse : Toml.Parser) (environment : Environment) (tree : FileTree) (current : FileTree.Place)
  (named : Option String) (overrides : ConfigOverrides)

/-- The directory that a path is in. -/
def directoryOf (path : String) : String := (FileTree.parent? path).getD "."

def HoldsDocument (path : String) (document : Value) : Prop :=
  ∃ text, tree.readTextAt current path = .ok text ∧ parse text = .ok document

/-- Whether a configuration makes sense. -/
structure Valid (c : Config) : Prop where
  program : Text.allBlank c.fallback.program = false
  maxNesting : 0 < c.markdown.maxNesting

/-- The texts in which variables are given values, with the fields that they belong to. -/
def texts (c : Config) : List (String × String) :=
  c.cacheDir.toList.map (Prod.mk "cache.dir") ++
    ("math.fallback_command", c.fallback.program) :: c.fallback.args.map (Prod.mk "math.fallback_args")

/-- Whether a configuration has all layers, sensible or not. -/
inductive Layered (c : Config) : Prop where
  | defaults (source : Source tree current named none) (file : c.file = none)
      (settings : ∀ {α : Type} (setting : Field α),
        setting.get c = (setting.override? overrides).getD (setting.get {}))
  | ofFile {path : String} {document : Value} {raw : Config}
      (source : Source tree current named (some path)) (file : c.file = some path)
      (holds : HoldsDocument parse tree current path document) (decoded : decode document = .ok raw)
      (expanded : ∀ text ∈ raw.texts, ∃ given, expandField environment text.1 text.2 = .ok given)
      (settings : ∀ {α : Type} (setting : Field α), match setting.override? overrides with
        | some a => setting.get c = a
        | none => setting.FromFile environment (directoryOf path) document (setting.get c))

/-- The first thing that stands in the way of a configuration. -/
inductive Obstacle : ConfigError → Prop where
  | notFound {path : String} (isNamed : named = some path) (missing : ¬Stands tree current path) :
      Obstacle (.notFound path)
  | file {path : String} {e : FileError} (source : Source tree current named (some path))
      (read : tree.readTextAt current path = .error e) : Obstacle (.file e)
  | unreadable {path text : String} {e : Toml.ReadError}
      (source : Source tree current named (some path))
      (read : tree.readTextAt current path = .ok text) (parsed : parse text = .error e) :
      Obstacle (.unreadable e)
  | unfit {path : String} {document : Value} {e : Toml.DecodeError}
      (source : Source tree current named (some path))
      (holds : HoldsDocument parse tree current path document)
      (decoded : decode document = .error e) : Obstacle (.unfit e)
  /-- The texts before the one that cannot be expanded can be. -/
  | unset {path field text : String} {document : Value} {raw : Config} {e : ConfigError}
      {front back : List (String × String)} (source : Source tree current named (some path))
      (holds : HoldsDocument parse tree current path document) (decoded : decode document = .ok raw)
      (order : raw.texts = front ++ (field, text) :: back)
      (before : ∀ other ∈ front, ∃ given, expandField environment other.1 other.2 = .ok given)
      (expanded : expandField environment field text = .error e) : Obstacle e
  | blank {c : Config} (layered : Layered parse environment tree current named overrides c)
      (program : Text.allBlank c.fallback.program = true) :
      Obstacle (.invalid "math.fallback_command cannot be empty")
  | shallow {c : Config} (layered : Layered parse environment tree current named overrides c)
      (program : Text.allBlank c.fallback.program = false) (maxNesting : c.markdown.maxNesting = 0) :
      Obstacle (.invalid "markdown.max_nesting must be greater than 0")

end Config

end Mathdown
