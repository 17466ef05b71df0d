import Mathdown.Text.Utf8

namespace Mathdown.Shell

private def isOctal (c : Char) : Bool := '0' ≤ c && c ≤ '7'

private def ofOctal (digits : List Char) : UInt8 :=
  (digits.foldl (fun n d => 8 * n + (d.toNat - '0'.toNat)) 0).toUInt8

/-- What stands behind a backslash: its byte, and the rest. A letter without meaning has none. -/
def escape? (cs : List Char) : Option (UInt8 × List Char) :=
  match cs with
  | 'a' :: rest => some (7, rest)
  | 'b' :: rest => some (8, rest)
  | 'f' :: rest => some (12, rest)
  | 'n' :: rest => some (10, rest)
  | 'r' :: rest => some (13, rest)
  | 't' :: rest => some (9, rest)
  | 'v' :: rest => some (11, rest)
  | '\\' :: rest => some (92, rest)
  | _ =>
    let digits := (cs.take 3).takeWhile isOctal
    if digits.isEmpty then none else some (ofOctal digits, cs.drop digits.length)

/-- Text with escapes resolved; `\c` ends it, which the answer tells. Each step takes fuel. -/
def unescape : (fuel : Nat) → List Char → List UInt8 × Bool
  | 0, _ => ([], false)
  | _, [] => ([], false)
  | fuel + 1, '\\' :: cs =>
    match cs with
    | 'c' :: _ => ([], true)
    | _ =>
      -- A zero in front of octal digits does not count as one of them.
      let digits := match cs with
        | '0' :: d :: rest => if isOctal d then d :: rest else cs
        | _ => cs
      match escape? digits with
      | some (byte, rest) =>
        let (more, ended) := unescape fuel rest
        (byte :: more, ended)
      | none =>
        let (more, ended) := unescape fuel cs
        (92 :: more, ended)
  | fuel + 1, c :: cs =>
    let (more, ended) := unescape fuel cs
    (Text.Utf8.encode [c] ++ more, ended)

def echoBytes (words : List String) : List UInt8 :=
  let (newline, words) := match words with
    | "-n" :: rest => (false, rest)
    | _ => (true, words)
  let text := (" ".intercalate words).toList
  let (bytes, ended) := unescape (text.length + 1) text
  if ended || !newline then bytes else bytes ++ [10]

def numeral (s : String) : Int := s.toInt?.getD 0

/-- One pass over a format: the bytes, and the arguments that are left. -/
def formatOnce : (fuel : Nat) → List Char → List String → List UInt8 × List String
  | 0, _, args => ([], args)
  | _, [], args => ([], args)
  | fuel + 1, '\\' :: cs, args =>
    match (match cs with
      | '"' :: rest => some (34, rest)
      | _ => escape? cs) with
    | some (byte, rest) =>
      let (more, args) := formatOnce fuel rest args
      (byte :: more, args)
    | none =>
      let (more, args) := formatOnce fuel cs args
      (92 :: more, args)
  | fuel + 1, '%' :: c :: cs, args =>
    let (first, others) := match args with
      | [] => ("", [])
      | a :: rest => (a, rest)
    let shown : Option (List UInt8 × List String) :=
      match c with
      | '%' => some ([37], args)
      | 's' => some (Text.Utf8.encode first.toList, others)
      | 'd' | 'i' => some (Text.Utf8.encode (toString (numeral first)).toList, others)
      | 'c' => some ((Text.Utf8.encode first.toList).take 1, others)
      | 'b' => some ((unescape (first.length + 1) first.toList).1, others)
      | _ => none
    match shown with
    | some (bytes, left) =>
      let (more, left) := formatOnce fuel cs left
      (bytes ++ more, left)
    | none =>
      let (more, left) := formatOnce fuel (c :: cs) args
      (37 :: more, left)
  | fuel + 1, c :: cs, args =>
    let (more, args) := formatOnce fuel cs args
    (Text.Utf8.encode [c] ++ more, args)

/-- A format over arguments; it is used again as long as it uses some of them up. -/
def formatAll (format : String) : (fuel : Nat) → List String → List UInt8
  | 0, _ => []
  | fuel + 1, args =>
    let (bytes, left) := formatOnce (format.length + 1) format.toList args
    if left.isEmpty || left.length == args.length then bytes
    else bytes ++ formatAll format fuel left

end Mathdown.Shell
