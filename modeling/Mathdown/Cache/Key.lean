namespace Mathdown.Cache

/-- What is rendered under a key. -/
inductive Key where
  /-- Code in a language, or in none. -/
  | highlight (language : Option String) (code : String)
  | math (expression : String) (display : Bool)
  /-- A whole document. -/
  | result (input : String)
deriving DecidableEq, Repr

/-- The key as it is written. -/
def Key.text : Key → String
  | .highlight language code => "H_" ++ language.getD "" ++ "\n" ++ code
  | .math expression display => "M_" ++ (if display then "1" else "0") ++ expression
  | .result input => "RES_" ++ input

end Mathdown.Cache
