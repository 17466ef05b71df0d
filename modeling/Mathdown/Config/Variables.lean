import Mathdown.Unicode.Alphanumeric

namespace Mathdown.Variables

/-- The values of variables by their names. -/
abbrev Environment := List (String × String)

def isNameChar (c : Char) : Bool := Unicode.isAlphanumeric c || c == '_'

/-- The parts before and after the first `:-`, unless there is none or it is at the front. -/
def splitDefault? : (before : List Char) → List Char → Option (List Char × List Char)
  | before, ':' :: '-' :: cs => if before.isEmpty then none else some (before.reverse, cs)
  | before, c :: cs => splitDefault? (c :: before) cs
  | _, [] => none

/-- The value of what stands in braces, or the name of the variable that it lacks. -/
def valueInBraces (environment : Environment) (body : List Char) : Except String (List Char) :=
  match splitDefault? [] body with
  | some (name, otherwise) =>
    .ok (((environment.lookup (String.ofList name)).map String.toList).getD otherwise)
  | none =>
    match environment.lookup (String.ofList body) with
    | some value => .ok value.toList
    | none => .error (String.ofList body)

def valueOf (environment : Environment) (name : List Char) : Except String (List Char) :=
  match environment.lookup (String.ofList name) with
  | some value => .ok value.toList
  | none => .error (String.ofList name)

def expandChars (environment : Environment) (cs : List Char) : Except String (List Char) :=
  match cs with
  | [] => .ok []
  | '$' :: '\x7b' :: cs => do
    let body := cs.takeWhile (· != '\x7d')
    if body.length = cs.length then
      return '$' :: '\x7b' :: (← expandChars environment cs)
    else
      let value ← valueInBraces environment body
      return value ++ (← expandChars environment (cs.drop (body.length + 1)))
  | '$' :: '$' :: cs => return '$' :: (← expandChars environment cs)
  | '$' :: cs => do
    let name := cs.takeWhile isNameChar
    if name.isEmpty then return '$' :: (← expandChars environment cs)
    else
      let value ← valueOf environment name
      return value ++ (← expandChars environment (cs.drop name.length))
  | c :: cs => return c :: (← expandChars environment cs)
termination_by cs.length

/-- Whether a text names a variable in braces. -/
def hasBraces : List Char → Bool
  | '$' :: '\x7b' :: _ => true
  | _ :: cs => hasBraces cs
  | [] => false

/-- Puts values for variables, in texts that name one in braces. -/
def expand (environment : Environment) (text : String) : Except String String :=
  if hasBraces text.toList then String.ofList <$> expandChars environment text.toList else .ok text

end Mathdown.Variables
