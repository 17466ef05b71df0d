import Mathdown.Markdown.Line

namespace Mathdown.Markdown.RawHtml

/-- Whether a character may stand in an attribute value without quotes. -/
def isBareValue (c : Char) : Bool :=
  !("'\" =><`\n\r".toList.contains c)

def skipBlanks (multiline : Bool) (cs : List Char) : List Char :=
  cs.dropWhile fun c => isInnerBlank c || (multiline && (c == '\n' || c == '\r'))

private def endsLine (cs : List Char) : Bool :=
  match cs with
  | '\n' :: _ | '\r' :: _ => true
  | _ => false

def value? (multiline : Bool) (cs : List Char) : Option (List Char) :=
  match cs with
  | [] => none
  | q :: rest =>
    if q == '"' || q == '\'' then
      match rest.dropWhile (fun c => c != q && (multiline || (c != '\n' && c != '\r'))) with
      | c :: after => if c == q then some after else none
      | [] => none
    else if " =><`\n\r".toList.contains q then none
    else some (cs.dropWhile isBareValue)

def attribute? (multiline : Bool) (cs : List Char) : Option (List Char) :=
  match cs with
  | [] => none
  | c :: rest =>
    if c.isAlpha || c == '_' || c == ':' then
      let after := rest.dropWhile fun d =>
        d.isAlphanum || d == '_' || d == '.' || d == ':' || d == '-'
      match skipBlanks multiline after with
      | '=' :: more => value? multiline (skipBlanks multiline more)
      | other => if endsLine other then none else some after
    else none

/-- The attributes of a tag and the blanks around them, up to its end; each takes a step of fuel. -/
def attributes? (multiline : Bool) : (fuel : Nat) → List Char → Option (List Char)
  | 0, _ => none
  | fuel + 1, cs =>
    let after := skipBlanks multiline cs
    if endsLine after then none
    else
      match after with
      | '/' :: _ | '>' :: _ => some after
      | _ =>
        if after.length == cs.length then none
        else (attribute? multiline after).bind (attributes? multiline fuel)

def tag? (multiline : Bool) (cs : List Char) : Option (List Char) :=
  match cs with
  | '<' :: '/' :: c :: rest =>
    if c.isAlpha then
      match (rest.dropWhile fun d => d.isAlphanum || d == '-').dropWhile isInnerBlank with
      | '>' :: after => some after
      | _ => none
    else none
  | '<' :: c :: rest =>
    if c.isAlpha then do
      let after ← attributes? multiline (rest.length + 1)
        (rest.dropWhile fun d => d.isAlphanum || d == '-')
      match after with
      | '/' :: '>' :: after => some after
      | '>' :: after => some after
      | _ => none
    else none
  | _ => none

/-- The text behind the first place where `stop` stands. -/
def after? (stop : List Char) : List Char → Option (List Char)
  | [] => if stop.isEmpty then some [] else none
  | c :: cs => if stop.isPrefixOf (c :: cs) then some ((c :: cs).drop stop.length) else after? stop cs

/-- A comment, processing instruction, declaration or character data section. -/
def special? (cs : List Char) : Option (List Char) :=
  match cs with
  | '<' :: '?' :: rest => after? "?>".toList rest
  | '<' :: '!' :: '-' :: '-' :: rest =>
    match rest with
    | '>' :: after => some after
    | '-' :: '>' :: after => some after
    | _ => after? "-->".toList rest
  | '<' :: '!' :: '[' :: rest =>
    if "CDATA[".toList.isPrefixOf rest then
      -- The section ends where the first run of brackets ends, if a `>` follows it.
      match ((rest.drop 6).dropWhile (· != ']')) with
      | ']' :: more =>
        match more.dropWhile (· == ']') with
        | '>' :: after => some after
        | _ => none
      | _ => none
    else none
  | '<' :: '!' :: c :: rest =>
    if c.isAlpha then
      match rest.dropWhile (· != '>') with
      | '>' :: after => some after
      | _ => none
    else none
  | _ => none

def fillsLine (cs : List Char) : Bool :=
  match tag? false cs with
  | some after => isBlankLine after
  | none => false

/-- An absolute address between angle brackets: the address and the text behind it. -/
def uri? (cs : List Char) : Option (List Char × List Char) :=
  match cs with
  | '<' :: c :: rest =>
    let scheme := rest.takeWhile fun d => d.isAlphanum || d == '.' || d == '-' || d == '+'
    match rest.drop scheme.length with
    | ':' :: more =>
      if c.isAlpha && 1 ≤ scheme.length && scheme.length ≤ 31 then
        let body := more.takeWhile fun d => d != '>' && d != '<' && 0x20 < d.toNat
        match more.drop body.length with
        | '>' :: after => some (c :: scheme ++ ':' :: body, after)
        | _ => none
      else none
    | _ => none
  | _ => none

private def isMailName (c : Char) : Bool :=
  c.isAlphanum || ".!#$%&'*+/=?^_`\x7b|\x7d~-".toList.contains c

/-- The domain of a mail address, label by label; each takes a step of fuel. -/
def domain? : (fuel : Nat) → List Char → Option (List Char)
  | 0, _ => none
  | fuel + 1, cs =>
    let label := cs.takeWhile fun c => c.isAlphanum || c == '-'
    if label.isEmpty || 63 < label.length || label.head? == some '-' || label.getLast? == some '-'
    then none
    else
      match cs.drop label.length with
      | '.' :: rest => domain? fuel rest
      | rest => some rest

/-- A mail address between angle brackets: the address and the text behind it. -/
def mail? (cs : List Char) : Option (List Char × List Char) :=
  match cs with
  | '<' :: rest =>
    match rest.dropWhile isMailName with
    | '@' :: host =>
      match domain? (host.length + 1) host with
      | some ('>' :: after) =>
        if rest.head? == some '@' then none
        else some (rest.take (rest.length - after.length - 1), after)
      | _ => none
    | _ => none
  | _ => none

/-- An autolink: its target, which is also its text, and the text behind it. -/
def autolink? (cs : List Char) : Option (List Char × List Char) := (uri? cs).orElse fun _ => mail? cs

end Mathdown.Markdown.RawHtml
