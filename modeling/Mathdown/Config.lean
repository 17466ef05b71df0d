import Mathdown.Command
import Mathdown.FileTree
import Mathdown.Render
import Mathdown.Toml.Decode

/-!
The configuration of a renderer: its caches, its options, and the command that it falls back to.
Every setting has a default, and a configuration file gives those that differ.
-/

namespace Mathdown

/-- The settings of a renderer. -/
structure Config where
  /-- Whether anything is cached at all. -/
  cacheEnabled : Bool := true
  caching : CacheOptions := {}
  /-- The directory of a cache that stays; without one, a cache is kept in memory. -/
  cacheDir : Option String := none
  markdown : CompilerOptions := {}
  /-- The command for math that the first engine fails on. -/
  fallback : Command := ⟨"tex2svg", []⟩
  /-- The file that the settings come from. -/
  file : Option String := none

/-- Why there is no configuration. -/
inductive ConfigError where
  | notFound (path : String)
  | file (e : FileError)
  | unreadable (e : Toml.ReadError)
  | unfit (e : Toml.DecodeError)
  /-- A field names a variable that is not set. -/
  | unset (field variableName : String)
  | invalid (message : String)
deriving DecidableEq, Repr

def ConfigError.message : ConfigError → String
  | .notFound path => "Configuration file not found: " ++ path
  | .file e => "I/O error: " ++ e.message
  | .unreadable e => "TOML parse error: " ++ e.message
  | .unfit e => "TOML parse error: " ++ e.message
  | .unset field name =>
    "Environment variable error in " ++ field ++ ": $\x7b" ++ name ++ "\x7d not set"
  | .invalid message => "Configuration error: " ++ message

namespace Config

open Toml (Decoder RecordField)

def cacheFields : List (RecordField Config) :=
  [.of "enabled" .boolean fun b c => { c with cacheEnabled := b },
   .of "highlight" .boolean fun b c => { c with caching.highlight := b },
   .of "math" .boolean fun b c => { c with caching.math := b },
   .of "result" .boolean fun b c => { c with caching.result := b },
   .of "dir" .string fun path c => { c with cacheDir := some path }]

def markdownFields : List (RecordField Config) :=
  [.of "gfm" .boolean fun b c => { c with markdown.gfm := b },
   .of "math" .boolean fun b c => { c with markdown.math := b },
   .of "line_numbers" .boolean fun b c => { c with markdown.lineNumbers := b },
   .of "max_nesting" .natural fun n c => { c with markdown.maxNesting := n }]

def mathFields : List (RecordField Config) :=
  [.of "fallback_command" .string fun text c => { c with fallback.program := text },
   .of "fallback_args" (.list .string) fun texts c => { c with fallback.args := texts }]

/-- A section, whose fields all belong to the same configuration. -/
def groupField (name title : String) (fields : List (RecordField Config)) : RecordField Config where
  name
  assign v c := Decoder.record title fields c v

def sections : List (RecordField Config) :=
  [groupField "cache" "CacheConfig" cacheFields,
   groupField "markdown" "MarkdownConfig" markdownFields,
   groupField "math" "MathConfig" mathFields]

/-- The configuration that a value gives. -/
def decode : Decoder Config := Decoder.record "Config" sections {}

/-- Finds the first setting that makes no sense. -/
def validate (c : Config) : Except ConfigError Unit :=
  if Text.allBlank c.fallback.program then
    .error (.invalid "math.fallback_command cannot be empty")
  else if c.markdown.maxNesting = 0 then
    .error (.invalid "markdown.max_nesting must be greater than 0")
  else .ok ()

end Config

/-- Settings that a caller gives, over those of a configuration file. -/
structure ConfigOverrides where
  cacheEnabled : Option Bool := none
  resultCache : Option Bool := none
  lineNumbers : Option Bool := none
  fallbackCommand : Option String := none
deriving DecidableEq, Repr

namespace ConfigOverrides

def isEmpty (o : ConfigOverrides) : Bool :=
  o.cacheEnabled.isNone && o.resultCache.isNone && o.lineNumbers.isNone && o.fallbackCommand.isNone

/-- A configuration with the settings that a caller gives. -/
def apply (o : ConfigOverrides) (c : Config) : Config :=
  { c with
    cacheEnabled := o.cacheEnabled.getD c.cacheEnabled
    caching.result := o.resultCache.getD c.caching.result
    markdown.lineNumbers := o.lineNumbers.getD c.markdown.lineNumbers
    fallback.program := o.fallbackCommand.getD c.fallback.program }

end ConfigOverrides

end Mathdown
