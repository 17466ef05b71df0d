import Mathdown.Html
import Mathdown.Placeholder
import Mathdown.Text.Blank
import Mathdown.Text.Slug
import Std.Data.HashMap

namespace Mathdown.Compile

/-- A code block whose source is being collected. -/
structure CodeCapture where
  language : Option String
  source : String
deriving DecidableEq, Repr

/-- An image whose alternative text is being collected. -/
structure ImageCapture where
  url : String
  title : String
  alt : String
deriving DecidableEq, Repr

/-- A heading. Its spans count bytes of its own `html`. -/
structure HeadingCapture where
  level : Nat
  text : String
  html : String
  spans : List PlaceholderSpan
deriving DecidableEq, Repr

/-- How many bytes of blanks a heading's content starts with. -/
def HeadingCapture.lead (heading : HeadingCapture) : Nat :=
  heading.html.utf8ByteSize -
    (String.ofList (Text.trimLeft heading.html.toList)).utf8ByteSize

/-- A heading's spans where its content is written from byte `base` on, without those blanks. -/
def HeadingCapture.spansAt (heading : HeadingCapture) (base : Nat) : List PlaceholderSpan :=
  heading.spans.map fun span =>
    { span with start := base + span.start - heading.lead, stop := base + span.stop - heading.lead }

/-- Where in a table the compiler is. -/
structure TableCursor where
  inHead : Bool
  columns : List Alignment
  cell : Nat
deriving DecidableEq, Repr

/-- The alignment of the current cell; cells past the last column have none. -/
def TableCursor.alignment (table : TableCursor) : Alignment :=
  (table.columns[table.cell]?).getD .unset

structure State where
  output : String := ""
  spans : List PlaceholderSpan := []
  depth : Nat := 0
  code : Option CodeCapture := none
  image : Option ImageCapture := none
  heading : Option HeadingCapture := none
  table : TableCursor := ⟨false, [], 0⟩
  /-- The open block quotes, innermost first; none for one that is no alert. -/
  quotes : List (Option AlertKind) := []
  /-- How many headings have had each slug. -/
  slugs : Std.HashMap String Nat := ∅

namespace State

/-- The state before the first document. -/
def initial : State := {}

def write (s : State) (html : String) : State := { s with output := s.output ++ html }

/-- Writes inline markup: dropped inside an image, collected by a heading. -/
def writeInline (s : State) (html : String) : State :=
  if s.image.isSome then s
  else
    match s.heading with
    | some heading => { s with heading := some { heading with html := heading.html ++ html } }
    | none => s.write html

def tokenAt (html : String) (id : PlaceholderId) : PlaceholderSpan :=
  ⟨id, html.utf8ByteSize, html.utf8ByteSize + id.token.utf8ByteSize⟩

def writeToken (s : State) (id : PlaceholderId) : State :=
  match s.heading with
  | some heading =>
    { s with heading := some { heading with
        html := heading.html ++ id.token
        spans := heading.spans ++ [tokenAt heading.html id] } }
  | none =>
    { s with
      output := s.output ++ id.token
      spans := s.spans ++ [tokenAt s.output id] }

/-- Adds to the text that the current heading's id is made from. -/
def noteText (s : State) (text : String) : State :=
  match s.heading with
  | some heading => { s with heading := some { heading with text := heading.text ++ text } }
  | none => s

/-- Adds to the alternative text of the current image. -/
def noteAlt (s : State) (text : String) : State :=
  match s.image with
  | some image => { s with image := some { image with alt := image.alt ++ text } }
  | none => s

/-- A heading's id: its slug, with a number from the second heading of that slug on. -/
def headingId (s : State) (text : String) : String × State :=
  let slug := Text.slugify text
  let count := s.slugs.getD slug 0
  let id := if count = 0 then slug else slug ++ "-" ++ toString count
  (id, { s with slugs := s.slugs.insert slug (count + 1) })

theorem unquoted_headingId (s : State) (text : String) :
    ∀ c ∈ (s.headingId text).1.toList, c ≠ '"' := by
  have slug {c : Char} (member : c ∈ (Text.slugify text).toList) : c ≠ '"' := by
    rintro rfl
    exact absurd (Text.mem_slugify member) (by decide)
  intro c member
  simp only [State.headingId] at member
  split at member
  · exact slug member
  · simp only [String.toList_append, List.mem_append] at member
    rcases member with (member | member) | member
    · exact slug member
    · rintro rfl
      exact absurd member (by decide)
    · rintro rfl
      exact absurd (Text.isDigit_of_mem_toString member) (by decide)

/-- Writes the heading out: its content without the blanks at either end. -/
def finishHeading (s : State) : State :=
  match s.heading with
  | none => s
  | some heading =>
    let (id, s) := { s with heading := none }.headingId heading.text
    let opened := s.write (Html.headingStart heading.level id)
    let written := opened.write (Text.trim heading.html ++ Html.headingStop heading.level)
    { written with spans := written.spans ++ heading.spansAt opened.output.utf8ByteSize }

end State

end Mathdown.Compile
