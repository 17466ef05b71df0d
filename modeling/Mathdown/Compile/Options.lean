namespace Mathdown

def defaultMaxNesting : Nat := 128

structure CompilerOptions where
  /-- Tables, strikethrough, task lists and alerts. -/
  gfm : Bool := true
  /-- Math between dollar signs. -/
  math : Bool := true
  /-- A gutter with line numbers beside each code block. -/
  lineNumbers : Bool := false
  /-- The depth of elements beyond which compilation fails. -/
  maxNesting : Nat := defaultMaxNesting
deriving DecidableEq, Repr

/-- Options for one call; what is not set stays as configured. -/
structure CompilerOverrides where
  gfm : Option Bool := none
  math : Option Bool := none
  lineNumbers : Option Bool := none
  maxNesting : Option Nat := none
deriving DecidableEq, Repr

def CompilerOptions.override (options : CompilerOptions) (overrides : CompilerOverrides) :
    CompilerOptions where
  gfm := overrides.gfm.getD options.gfm
  math := overrides.math.getD options.math
  lineNumbers := overrides.lineNumbers.getD options.lineNumbers
  maxNesting := overrides.maxNesting.getD options.maxNesting

end Mathdown
