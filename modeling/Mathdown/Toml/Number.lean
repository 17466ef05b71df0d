import Mathdown.Toml.Text

namespace Mathdown.Toml

/-- The digits of a word in a base, without the `_` that may stand between two of them. -/
def digits? (base : Nat) (word : List Char) : Option (List Nat) :=
  let groups := (String.ofList word).splitOn "_"
  if groups.contains "" then none
  else (groups.flatMap String.toList).mapM fun c => (digitValue? c).filter (· < base)

def valueOf (base : Nat) (digits : List Nat) : Nat :=
  digits.foldl (fun n d => base * n + d) 0

def sign? : List Char → Option Bool × List Char
  | '+' :: cs => (some false, cs)
  | '-' :: cs => (some true, cs)
  | cs => (none, cs)

/-- Decimal digits that do not begin with a zero, unless it is the only one. -/
def whole? (word : List Char) : Option (List Nat) :=
  match digits? 10 word with
  | some (0 :: _ :: _) => none
  | digits => digits

/-- A whole number: decimal with or without a sign, or in another base after its prefix. -/
def integer? (word : List Char) : Option Int :=
  match word with
  | '0' :: 'x' :: rest => (digits? 16 rest).map fun ds => valueOf 16 ds
  | '0' :: 'o' :: rest => (digits? 8 rest).map fun ds => valueOf 8 ds
  | '0' :: 'b' :: rest => (digits? 2 rest).map fun ds => valueOf 2 ds
  | _ =>
    let (sign, rest) := sign? word
    (whole? rest).map fun ds =>
      if sign = some true then -(valueOf 10 ds : Int) else valueOf 10 ds

def power? (word : List Char) : Option Int :=
  let (sign, rest) := sign? word
  (digits? 10 rest).map fun ds => if sign = some true then -(valueOf 10 ds : Int) else valueOf 10 ds

/-- A number with a point or a power of ten, or one of the words for what is no number. -/
def float? (word : List Char) : Option Value :=
  let (sign, rest) := sign? word
  let negative := sign = some true
  if rest = "inf".toList then some (.float (.infinite negative))
  else if rest = "nan".toList then some (.float .nan)
  else
    let isMark (c : Char) : Bool := c == 'e' || c == 'E'
    let mantissa := rest.takeWhile (!isMark ·)
    let front := mantissa.takeWhile (· != '.')
    let point := mantissa.drop front.length
    let mark := rest.drop mantissa.length
    if point.isEmpty && mark.isEmpty then none
    else do
      let whole ← whole? front
      let places ← if point.isEmpty then some [] else digits? 10 (point.drop 1)
      let power ← if mark.isEmpty then some 0 else power? (mark.drop 1)
      let number := Double.ofDecimal negative (valueOf 10 (whole ++ places)) (power - places.length)
      return if number.isInfinite then .overflow else .float number

/-- A number of exactly so many digits between two bounds, and the rest. -/
def field? (count low high : Nat) (cs : List Char) : Option (Nat × List Char) := do
  let ds := cs.take count
  if ds.length = count && ds.all Char.isDigit then
    let n := valueOf 10 (ds.map fun c => c.toNat - '0'.toNat)
    if low ≤ n && n ≤ high then some (n, cs.drop count) else none
  else none

def after? (c : Char) : List Char → Option (List Char)
  | d :: cs => if c = d then some cs else none
  | [] => none

def daysIn (year month : Nat) : Nat :=
  if month = 2 then
    if year % 4 = 0 && (year % 100 ≠ 0 || year % 400 = 0) then 29 else 28
  else if month = 4 || month = 6 || month = 9 || month = 11 then 30
  else 31

def day? (cs : List Char) : Option (List Char) := do
  let (year, cs) ← field? 4 0 9999 cs
  let (month, cs) ← after? '-' cs >>= field? 2 1 12
  let (_, cs) ← after? '-' cs >>= field? 2 1 (daysIn year month)
  return cs

def time? (cs : List Char) : Option (List Char) := do
  let (_, cs) ← field? 2 0 23 cs
  let (_, cs) ← after? ':' cs >>= field? 2 0 59
  match after? ':' cs with
  | none => return cs
  | some cs =>
    let (_, cs) ← field? 2 0 60 cs
    match after? '.' cs with
    | none => return cs
    | some cs =>
      let fraction := cs.takeWhile Char.isDigit
      if fraction.isEmpty then none else return cs.drop fraction.length

/-- Whether this is how far a time is from the common one. -/
def isOffset (cs : List Char) : Bool :=
  match cs with
  | ['Z'] | ['z'] => true
  | sign :: cs =>
    (sign == '+' || sign == '-') &&
      match (do let (_, cs) ← field? 2 0 24 cs; after? ':' cs >>= field? 2 0 59) with
      | some (_, rest) => rest.isEmpty
      | none => false
  | [] => false

def isDate (word : List Char) : Bool :=
  match day? word with
  | none => time? word == some []
  | some [] => true
  | some (separator :: cs) =>
    (separator == 'T' || separator == 't' || separator == ' ') &&
      match time? cs with
      | some [] => true
      | some rest => isOffset rest
      | none => false

def word? (word : List Char) : Option Value :=
  if word = "true".toList then some (.boolean true)
  else if word = "false".toList then some (.boolean false)
  else
    match integer? word with
    | some n => some (.integer n)
    | none =>
      match float? word with
      | some value => some value
      | none => if isDate word then some (.date (String.ofList word)) else none

def isWordChar (c : Char) : Bool := !(" \t\r\n,[]\x7b\x7d#=\"'".toList.contains c)

/-- A value that is a single word, or a day and a time with a space between. -/
def word : Reader Value := fun cs =>
  let first := cs.takeWhile isWordChar
  let rest := cs.drop first.length
  let (text, rest) :=
    match rest with
    | ' ' :: next =>
      let second := next.takeWhile isWordChar
      if day? first == some [] && (second.head?.map Char.isDigit).getD false
      then (first ++ ' ' :: second, next.drop second.length)
      else (first, rest)
    | _ => (first, rest)
  match word? text with
  | some value => .ok (value, rest)
  | none => .error .malformed

end Mathdown.Toml
