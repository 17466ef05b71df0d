import Mathdown.Text.Blank
import Mathdown.Unicode.Word

/-!
Patterns over text, with one group that can be referred to. A pattern is matched by trying every
way: `Pattern.matchAt` asks whether it matches at a place so that the rest goes well, and
`Pattern.search` whether it matches anywhere.
-/

namespace Mathdown

inductive Pattern where
  /-- One character of a class. -/
  | one (accepts : Char → Bool)
  /-- Nothing, at the start of the text. -/
  | start
  /-- Nothing, at the end of the text. -/
  | stop
  /-- Nothing, between a word character and what is none. -/
  | wordEdge
  | seq (parts : List Pattern)
  | either (choices : List Pattern)
  /-- Any number of times, also none. -/
  | many (p : Pattern)
  /-- The text that this matches is kept. -/
  | group (p : Pattern)
  /-- The text that was kept. -/
  | again

namespace Pattern

def word (text : String) : Pattern := .seq (text.toList.map fun c => .one (· == c))

def wordFold (text : String) : Pattern :=
  .seq (text.toList.map fun c => .one fun d => c.toLower == d.toLower)

def anyOf (text : String) : Pattern := .one fun c => text.toList.contains c

def noneOf (text : String) : Pattern := .one fun c => !text.toList.contains c

def any : Pattern := .one (· != '\n')

def blank : Pattern := .one Text.isBlank

def digit : Pattern := .one Unicode.isDecimal

def maybe (p : Pattern) : Pattern := .either [p, .seq []]

def atLeastOnce (p : Pattern) : Pattern := .seq [p, .many p]

/-- A place in a text, and the text kept by a group. -/
structure Place where
  /-- How many characters lie before it. -/
  index : Nat := 0
  before : Option Char := none
  rest : List Char
  kept : List Char := []

/-- Matches any number of times; every time but the last takes a character, and a step of fuel. -/
def repeated (once : Place → (Place → Bool) → Bool) : (fuel : Nat) → Place → (Place → Bool) → Bool
  | 0, s, next => next s
  | fuel + 1, s, next =>
    once s (fun t => s.index < t.index && repeated once fuel t next) || next s

def literally : List Char → Place → (Place → Bool) → Bool
  | [], s, next => next s
  | c :: cs, s, next =>
    match s.rest with
    | d :: rest =>
      c == d && literally cs { s with index := s.index + 1, before := d, rest } next
    | [] => false

private def isWordAt (c : Option Char) : Bool := (c.map Unicode.isWord).getD false

mutual
/-- Whether the pattern matches at a place in some way such that what follows it goes well. -/
def matchAt : Pattern → Place → (next : Place → Bool) → Bool
  | .one accepts, s, next =>
    match s.rest with
    | c :: rest =>
      accepts c && next { s with index := s.index + 1, before := c, rest }
    | [] => false
  | .start, s, next => s.index == 0 && next s
  | .stop, s, next => s.rest.isEmpty && next s
  | .wordEdge, s, next => isWordAt s.before != isWordAt s.rest.head? && next s
  | .seq parts, s, next => matchSeq parts s next
  | .either choices, s, next => matchAny choices s next
  | .many p, s, next => repeated (matchAt p) (s.rest.length + 1) s next
  | .group p, s, next =>
    matchAt p s fun t => next { t with kept := s.rest.take (t.index - s.index) }
  | .again, s, next => literally s.kept s next

def matchSeq : List Pattern → Place → (next : Place → Bool) → Bool
  | [], s, next => next s
  | p :: ps, s, next => matchAt p s fun t => matchSeq ps t next

def matchAny : List Pattern → Place → (next : Place → Bool) → Bool
  | [], _, _ => false
  | p :: ps, s, next => matchAt p s next || matchAny ps s next
end

/-- Whether the pattern matches somewhere behind a place. -/
def searchFrom (p : Pattern) : (rest : List Char) → (index : Nat) → (before : Option Char) → Bool
  | [], index, before => p.matchAt { index, before, rest := [] } fun _ => true
  | c :: cs, index, before =>
    p.matchAt { index, before, rest := c :: cs } (fun _ => true) ||
      searchFrom p cs (index + 1) (some c)

def search (p : Pattern) (text : String) : Bool := p.searchFrom text.toList 0 none

end Pattern

end Mathdown
