import Mathdown.Cache.Directory
import Mathdown.Config
import Mathdown.Highlight
import Mathdown.Render.Run
import Mathdown.Tex

/-!
What is built from a configuration: a renderer, and the cache that it works with. A cache in a
directory outlasts the renderer, so that the next one finds what this one has left there.
-/

namespace Mathdown

/-- What every renderer is built with, whatever its configuration. -/
structure Libraries where
  parser : Parser
  highlighter : Highlighter Unit
  math : MathEngine Unit

/-- The parser and the engines of the program. -/
def Libraries.bundled : Libraries := ⟨Markdown.events, Highlight.highlighter Grammar.table, Tex.engine⟩

/-- What comes of running a program with some arguments. -/
abbrev Runner := (program : String) → (args : List String) → ProcessOutcome

def Cache.Store.treeLeft : Cache.Store → FileTree → FileTree
  | .directory d, _ => d.tree
  | .memory _, tree | .null _, tree => tree

namespace Config

/-- The cache that a configuration asks for; `root` is the directory of one that stays. -/
def cache (c : Config) (root : Option FileTree.Place) (version : String) (tree : FileTree) :
    Cache.Store :=
  if !c.cacheEnabled then .null {}
  else
    match root with
    | some place => .directory (.openAt tree place version)
    | none => .memory {}

/-- The renderer that a configuration asks for. -/
def renderer (c : Config) (lib : Libraries) (runner : Runner) : Renderer Unit where
  engines := {
    highlighter := lib.highlighter
    math := lib.math
    fallback := c.fallback.fallback runner
    parser := lib.parser }
  caching := c.caching
  options := c.markdown

theorem parser_renderer (c : Config) (lib : Libraries) (runner : Runner) :
    (c.renderer lib runner).engines.parser = lib.parser := rfl

/-- Renders a text with a renderer of its own; gives the result and the tree that is left. -/
def render (c : Config) (lib : Libraries) (runner : Runner) (root : Option FileTree.Place)
    (version text : String) (tree : FileTree) : Except CompileError String × FileTree :=
  let (result, world) := (c.renderer lib runner).render text {} ⟨c.cache root version tree, ()⟩
  (result, world.cache.treeLeft tree)

end Config

end Mathdown
