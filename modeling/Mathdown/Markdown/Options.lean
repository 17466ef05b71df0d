namespace Mathdown.Markdown

structure Options where
  /-- Tables, strikethrough, task lists and alerts. -/
  gfm : Bool
  /-- Math between dollar signs. -/
  math : Bool
deriving DecidableEq, Repr

end Mathdown.Markdown
