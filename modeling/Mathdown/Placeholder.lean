import Mathdown.Text.Bytes

/-!
Placeholders: the tokens that stand in compiled HTML for spans whose HTML is not known yet. A
token's place is recorded as a byte range, and `Replacements.splice?` splices the results in by
those ranges alone, whatever the text around them looks like.
-/

namespace Mathdown

/-- The kinds of span that are resolved after the compile pass. -/
inductive JobKind where
  | highlight | math
deriving DecidableEq, Repr

def JobKind.word : JobKind → String
  | .highlight => "hl"
  | .math => "math"

/-- A deferred span of one render. Each kind counts from zero. -/
structure PlaceholderId where
  kind : JobKind
  index : Nat
deriving DecidableEq, Repr

namespace PlaceholderId

/-- The id as it is written, `math-0`. -/
def text (id : PlaceholderId) : String := id.kind.word ++ "-" ++ toString id.index

/-- The inert element that stands for the span. -/
def token (id : PlaceholderId) : String := "<span id=\"" ++ id.text ++ "\"></span>"

/-- The job of the span as it is shown to a developer. -/
def debugText (id : PlaceholderId) : String :=
  let kind := match id.kind with
    | .highlight => "Highlight"
    | .math => "Math"
  "PendingJob \x7b id: PlaceholderId \x7b kind: " ++ kind ++ ", index: " ++ toString id.index ++
    " \x7d \x7d"

/-- Highlighted code comes before math, and each kind goes by number. -/
def le (a b : PlaceholderId) : Bool :=
  match a.kind, b.kind with
  | .highlight, .math => true
  | .math, .highlight => false
  | _, _ => a.index ≤ b.index

end PlaceholderId

/-- Where a token stands: the byte range from `start` to just before `stop`. -/
structure PlaceholderSpan where
  id : PlaceholderId
  start : Nat
  stop : Nat
deriving DecidableEq, Repr

def PlaceholderSpan.shift (span : PlaceholderSpan) (offset : Nat) : PlaceholderSpan :=
  { span with start := span.start + offset, stop := span.stop + offset }

/-- The results of deferred spans, the latest first. -/
structure Replacements where
  results : List (PlaceholderId × String)
deriving Repr

namespace Replacements

def empty : Replacements := ⟨[]⟩

/-- Adds a result; it counts before every earlier one of the same id. -/
def add (r : Replacements) (id : PlaceholderId) (html : String) : Replacements :=
  ⟨(id, html) :: r.results⟩

/-- The results in the order in which they were found, of which the last of an id counts. -/
def ofList (results : List (PlaceholderId × String)) : Replacements := ⟨results.reverse⟩

def find? (r : Replacements) (id : PlaceholderId) : Option String := r.results.lookup id

/-- Whether every span has a result. -/
def covers (r : Replacements) (spans : List PlaceholderSpan) : Bool :=
  spans.all fun span => (r.find? span.id).isSome

/--
The text from byte `cursor` on, with the spans replaced by their results; a span without a result
keeps its text. There is no answer if a piece that is needed starts or ends outside the text or
inside a character, or ends before it starts.
-/
def spliceFrom (r : Replacements) (html : List Char) : Nat → List PlaceholderSpan → Option (List Char)
  | cursor, [] => Text.slice cursor (Text.byteLength html) html
  | cursor, span :: spans => do
    let kept ← Text.slice cursor span.start html
    let inserted ← match r.find? span.id with
      | some result => some result.toList
      | none => Text.slice span.start span.stop html
    let tail ← spliceFrom r html span.stop spans
    return kept ++ inserted ++ tail

/-- Splices the results into the text in one pass over the spans in ascending order. -/
def splice? (r : Replacements) (html : String) (spans : List PlaceholderSpan) : Option String :=
  (r.spliceFrom html.toList 0 (spans.mergeSort fun a b => a.start ≤ b.start)).map String.ofList

end Replacements

end Mathdown
