namespace Mathdown.Tex

inductive Token where
  | blank
  | char (c : Char)
  | command (name : String)
  /-- Text that is taken as it is written. -/
  | verbatim (text : String)
deriving Repr, DecidableEq

/-- Why math is not understood. -/
inductive TexError where
  /-- A character that no token begins with. -/
  | badCharacter (c : Char)
  | undefined (name : String)
  /-- What stands here does not belong here. -/
  | unexpected (token : Token)
  /-- The end comes where something must still follow. -/
  | incomplete (name : String)
  | doubleScript
  | doubleFraction
  | badDelimiter
  | badSize
  | badColor
  /-- A command that may not stand where it does. -/
  | misplaced (name : String)
deriving Repr, DecidableEq

def Token.text : Token → String
  | .blank => " "
  | .char c => c.toString
  | .command name => "\\" ++ name
  | .verbatim text => text

def TexError.message : TexError → String
  | .badCharacter c => "unexpected character " ++ c.toString
  | .undefined name => "undefined control sequence \\" ++ name
  | .unexpected token => "unexpected " ++ token.text
  | .incomplete name => "something is missing after " ++ name
  | .doubleScript => "double script"
  | .doubleFraction => "only one fraction bar is allowed in a group"
  | .badDelimiter => "invalid delimiter"
  | .badSize => "invalid size"
  | .badColor => "invalid color"
  | .misplaced name => "\\" ++ name ++ " cannot be used here"

def isBlank (c : Char) : Bool := c == ' ' || c == '\t' || c == '\n' || c == '\r'

def isNameChar (c : Char) : Bool := c.isAlpha || c == '@'

def isPlain (c : Char) : Bool :=
  0x20 < c.toNat && c != '\\' && c.toNat != 0x2028 && c.toNat != 0x2029 &&
    !(0xE000 ≤ c.toNat && c.toNat < 0xF900)

/-- What follows the name `verb`: a star perhaps, and a text between two equal characters. -/
def verbatim? (cs : List Char) : Option (List Char × List Char) :=
  let cs := if cs.head? == some '*' then cs.drop 1 else cs
  match cs with
  | [] => none
  | bound :: cs =>
    let text := cs.takeWhile fun c => c != bound && c != '\n'
    if !bound.isAlpha && (cs.drop text.length).head? == some bound
    then some (text, cs.drop (text.length + 1)) else none

def tokensFrom : (fuel : Nat) → List Char → Except TexError (List Token)
  | 0, _ => .ok []
  | _, [] => .ok []
  | fuel + 1, c :: cs =>
    if isBlank c then return .blank :: (← tokensFrom fuel (cs.dropWhile isBlank))
    else if c = '%' then tokensFrom fuel ((cs.dropWhile (· != '\n')).drop 1)
    else if c = '\\' then
      match cs with
      | [] => .error (.badCharacter '\\')
      | d :: ds =>
        if isBlank d then return .command " " :: (← tokensFrom fuel (ds.dropWhile isBlank))
        else if isNameChar d then
          let name := cs.takeWhile isNameChar
          let rest := cs.drop name.length
          if name = "verb".toList then
            match verbatim? rest with
            | some (text, rest) =>
              return .verbatim (String.ofList text) :: (← tokensFrom fuel rest)
            | none => .error (.incomplete "\\verb")
          else
            return .command (String.ofList name) :: (← tokensFrom fuel (rest.dropWhile isBlank))
        else return .command d.toString :: (← tokensFrom fuel ds)
    else if isPlain c then return .char c :: (← tokensFrom fuel cs)
    else .error (.badCharacter c)

def tokens (text : String) : Except TexError (List Token) :=
  tokensFrom text.toList.length text.toList

end Mathdown.Tex
