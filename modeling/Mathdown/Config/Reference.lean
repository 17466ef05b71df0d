import Mathdown.Config.Variables

/-!
What a text with dollar signs in it consists of. Read by its braces alone, a text is made of characters
and of variables in braces. Read by its dollar signs, it may also name a variable without braces or
double a dollar sign.
-/

namespace Mathdown.Variables

/-- A part of a text. -/
inductive Part where
  | char (c : Char)
  /-- What stands in braces behind a dollar sign: a name, and perhaps a text for want of a value. -/
  | braced (body : List Char)
  /-- A name right behind a dollar sign. -/
  | bare (name : List Char)
  /-- Two dollar signs. -/
  | doubled
deriving DecidableEq, Repr

namespace Part

/-- The part as it is written. -/
def source : Part → List Char
  | .char c => [c]
  | .braced body => '$' :: '\x7b' :: body ++ ['\x7d']
  | .bare name => '$' :: name
  | .doubled => ['$', '$']

/-- Whether the part is not put down as it is written, although it has no braces. -/
def isUnbraced : Part → Bool
  | .bare _ | .doubled => true
  | .char _ | .braced _ => false

def name? : Part → Option (List Char)
  | .braced body => some (((splitDefault? [] body).map Prod.fst).getD body)
  | .bare name => some name
  | .char _ | .doubled => none

/-- The variable that the part cannot do without. -/
def required? : Part → Option (List Char)
  | .braced body => if (splitDefault? [] body).isSome then none else some body
  | .bare name => some name
  | .char _ | .doubled => none

variable (environment : Environment)

/-- What is put for the part, or the name of the variable that it lacks. -/
def value : Part → Except String (List Char)
  | .char c => .ok [c]
  | .braced body => valueInBraces environment body
  | .bare name => valueOf environment name
  | .doubled => .ok ['$']

/-- Whether the part cannot do without a variable that is not set. -/
def Lacks (part : Part) (name : List Char) : Prop :=
  part.required? = some name ∧ environment.lookup (String.ofList name) = none

end Part

/-- The parts of a text by its braces. -/
def references (cs : List Char) : List Part :=
  match cs with
  | [] => []
  | '$' :: '\x7b' :: cs =>
    let body := cs.takeWhile (· != '\x7d')
    if body.length = cs.length then .char '$' :: .char '\x7b' :: references cs
    else .braced body :: references (cs.drop (body.length + 1))
  | c :: cs => .char c :: references cs
termination_by cs.length

/-- The parts of a text by its dollar signs. -/
def dollars (cs : List Char) : List Part :=
  match cs with
  | [] => []
  | '$' :: '\x7b' :: cs =>
    let body := cs.takeWhile (· != '\x7d')
    if body.length = cs.length then .char '$' :: .char '\x7b' :: dollars cs
    else .braced body :: dollars (cs.drop (body.length + 1))
  | '$' :: '$' :: cs => .doubled :: dollars cs
  | '$' :: cs =>
    let name := cs.takeWhile isNameChar
    if name.isEmpty then .char '$' :: dollars cs else .bare name :: dollars (cs.drop name.length)
  | c :: cs => .char c :: dollars cs
termination_by cs.length

/-- Puts values for parts. -/
def fill (environment : Environment) (parts : List Part) : Except String (List Char) :=
  List.flatten <$> parts.mapM (Part.value environment)

/-- Puts values for what stands in braces, and leaves the rest of a text alone. -/
def expandBraces (environment : Environment) (text : String) : Except String String :=
  String.ofList <$> fill environment (references text.toList)

end Mathdown.Variables
