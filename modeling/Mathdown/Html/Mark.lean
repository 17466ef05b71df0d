import Mathdown.Text.Blank

/-!
The tags of HTML. A reader goes over a text character by character, as a browser does: a tag has a
name and attributes, whose values may stand in quotes, and comments and declarations hold no tags.
HTML is balanced if every closing tag fits the innermost element that is open, and none stays open.
-/

namespace Mathdown.Html

/-- A tag, by the name of the element that it opens or closes. -/
inductive Mark where
  | opening (name : String)
  | closing (name : String)
deriving DecidableEq, Repr

def isSpace (c : Char) : Bool := c == ' ' || c == '\t' || c == '\n' || c == '\x0c' || c == '\r'

/-- Where in a tag a reader is, once the name has begun. -/
inductive TagPart where
  | name
  /-- Where an attribute may begin. -/
  | gap
  /-- In the name of an attribute, or behind it. -/
  | attribute
  /-- Behind the sign that a value follows. -/
  | sign
  | bareValue
  | quotedValue (quote : Char)
deriving DecidableEq, Repr

def TagPart.next? (c : Char) : TagPart → Option TagPart
  | .name | .gap =>
    if c = '>' then none else some (if isSpace c || c == '/' then .gap else .attribute)
  | .attribute =>
    if c = '>' then none
    else some (if c = '=' then .sign else if c = '/' then .gap else .attribute)
  | .sign =>
    if c = '>' then none
    else some (if isSpace c then .sign else if c = '"' || c = '\'' then .quotedValue c else .bareValue)
  | .bareValue => if c = '>' then none else some (if isSpace c then .gap else .bareValue)
  | .quotedValue quote => some (if c = quote then .gap else .quotedValue quote)

/-- Where a reader is. -/
inductive Reading where
  | text
  /-- Behind a `<`. -/
  | opened
  /-- Behind a `</`. -/
  | ended
  | tag (closes : Bool) (name : List Char) (part : TagPart)
  /-- Behind a `<!`, and perhaps a dash. -/
  | declared (dashed : Bool)
  /-- In a comment, behind so many dashes; two of them may end it. -/
  | comment (dashes : Nat)
  /-- In what is passed over up to the next `>`. -/
  | ignored
deriving DecidableEq, Repr

def isNameChar (c : Char) : Bool := !isSpace c && c != '/' && c != '>'

namespace Reading

/-- Reads a character; at the end of a tag there is its mark. -/
def step : Reading → Char → Reading × Option Mark
  | .text, c => (if c = '<' then .opened else .text, none)
  | .opened, c =>
    (if c = '<' then .opened else if c = '/' then .ended else if c = '!' then .declared false
      else if c = '?' then .ignored else if c.isAlpha then .tag false [c.toLower] .name else .text,
      none)
  | .ended, c =>
    (if c = '>' then .text else if c.isAlpha then .tag true [c.toLower] .name else .ignored, none)
  | .tag closes name part, c =>
    if part = .name && isNameChar c then (.tag closes (name ++ [c.toLower]) .name, none)
    else
      match part.next? c with
      | some part => (.tag closes name part, none)
      | none =>
        (.text, some (if closes then .closing (String.ofList name) else .opening (String.ofList name)))
  | .declared dashed, c =>
    (if c = '>' then .text else if c = '-' then if dashed then .comment 2 else .declared true
      else .ignored, none)
  | .comment dashes, c =>
    (if c = '>' && 2 ≤ dashes then .text else if c = '-' then .comment (dashes + 1) else .comment 0,
      none)
  | .ignored, c => (if c = '>' then .text else .ignored, none)

end Reading

/-- Reads on: the tags that are complete, and where the reader is then. -/
def read : Reading → List Char → List Mark × Reading
  | r, [] => ([], r)
  | r, c :: cs => ((r.step c).2.toList ++ (read (r.step c).1 cs).1, (read (r.step c).1 cs).2)

def tags (html : String) : List Mark := (read .text html.toList).1

/-- Whether an element has no content and no closing tag. -/
def isVoid (name : String) : Bool := ["img", "br", "hr", "input"].contains name

def openAfter (stack : List String) : Mark → Option (List String)
  | .opening name => some (if isVoid name then stack else name :: stack)
  | .closing name =>
    match stack with
    | inner :: outer => if inner = name then some outer else none
    | [] => none

/-- Whether every closing tag fits the innermost open element, and no element and no tag is left open. -/
def Balanced (html : String) : Prop :=
  (read .text html.toList).2 = .text ∧ (tags html).foldlM openAfter [] = some []

instance (html : String) : Decidable (Balanced html) :=
  inferInstanceAs (Decidable ((read .text html.toList).2 = .text ∧ _ = _))

example : Balanced "a<p class=\"<\">b<br></p><!-- </i> -->" := by decide

/-- Whether a text, read from some place on, has some tags, and leads to another place. -/
def Reads (start : Reading) (html : String) (marks : List Mark) (last : Reading) : Prop :=
  read start html.toList = (marks, last)

/-- Whether a text of whole tags changes the open elements from some to others. -/
def Leads (stack : List String) (html : String) (last : List String) : Prop :=
  ∃ marks, Reads .text html marks .text ∧ marks.foldlM openAfter stack = some last

variable {start middle last : Reading} {marks more : List Mark} {front back html : String}
  {stack next outer : List String}

theorem read_append (r : Reading) (front back : List Char) :
    read r (front ++ back) =
      ((read r front).1 ++ (read (read r front).2 back).1, (read (read r front).2 back).2) := by
  induction front generalizing r with
  | nil => rfl
  | cons c cs ih => rw [List.cons_append, read, read, ih, List.append_assoc]

theorem Reads.append (first : Reads start front marks middle) (second : Reads middle back more last) :
    Reads start (front ++ back) (marks ++ more) last := by
  unfold Reads at *
  rw [String.toList_append, read_append, first, second]

theorem Reads.tags_eq (reads : Reads .text html marks .text) : tags html = marks :=
  congrArg Prod.fst reads

theorem Leads.append (first : Leads stack front next) {far : List String}
    (second : Leads next back far) : Leads stack (front ++ back) far := by
  obtain ⟨marks, reads, nested⟩ := first
  obtain ⟨more, reads', nested'⟩ := second
  exact ⟨marks ++ more, reads.append reads', by rw [List.foldlM_append, nested]; exact nested'⟩

private theorem openAfter_append {mark : Mark} (opened : openAfter stack mark = some next) :
    openAfter (stack ++ outer) mark = some (next ++ outer) := by
  cases mark with
  | opening name =>
    obtain rfl : _ = next := Option.some.inj opened
    simp only [openAfter]
    split <;> rfl
  | closing name =>
    cases stack with
    | nil => cases opened
    | cons inner rest =>
      simp only [openAfter, List.cons_append] at opened ⊢
      split at opened
      · rename_i same
        cases opened
        exact if_pos same
      · cases opened

theorem Leads.within (leads : Leads stack html next) (outer : List String) :
    Leads (stack ++ outer) html (next ++ outer) := by
  obtain ⟨marks, reads, nested⟩ := leads
  refine ⟨marks, reads, ?_⟩
  clear reads
  induction marks generalizing stack with
  | nil =>
    cases nested
    rfl
  | cons mark marks ih =>
    rw [List.foldlM_cons, Option.bind_eq_bind, Option.bind_eq_some_iff] at nested ⊢
    obtain ⟨middle, opened, nested⟩ := nested
    exact ⟨middle ++ outer, openAfter_append opened, ih nested⟩

theorem balanced_iff : Balanced html ↔ Leads [] html [] := by
  constructor
  · rintro ⟨ends, nested⟩
    exact ⟨tags html, Prod.ext rfl ends, nested⟩
  · rintro ⟨marks, reads, nested⟩
    exact ⟨congrArg Prod.snd reads, by rw [reads.tags_eq, nested]⟩

theorem Balanced.leads (balanced : Balanced html) (stack : List String) : Leads stack html stack :=
  (balanced_iff.mp balanced).within stack

theorem Balanced.append (first : Balanced front) (second : Balanced back) :
    Balanced (front ++ back) :=
  balanced_iff.mpr ((balanced_iff.mp first).append (balanced_iff.mp second))

@[simp] theorem balanced_empty : Balanced "" := ⟨rfl, rfl⟩

private theorem step_of_text {r : Reading} {c : Char} (other : c ≠ '>') (text : (r.step c).1 = .text) :
    (r = .text ∨ r = .opened) ∧ (r.step c).2 = none := by
  cases r with
  | text => exact ⟨.inl rfl, rfl⟩
  | opened => exact ⟨.inr rfl, rfl⟩
  | ended =>
    simp only [Reading.step, other, if_false] at text
    split at text <;> cases text
  | tag closes name part =>
    obtain ⟨next, goesOn⟩ : ∃ next, part.next? c = some next := by
      cases part <;> simp [TagPart.next?, other]
    simp only [Reading.step, goesOn] at text
    split at text <;> cases text
  | declared dashed =>
    simp only [Reading.step, other, if_false] at text
    split at text
    · split at text <;> cases text
    · cases text
  | comment dashes =>
    simp only [Reading.step, other, decide_false, Bool.false_and, Bool.false_eq_true, if_false] at text
    split at text <;> cases text
  | ignored =>
    simp only [Reading.step, other, if_false] at text
    cases text

private theorem eq_of_step_opened {r : Reading} {c : Char} (opened : (r.step c).1 = .opened) :
    c = '<' := by
  cases r <;> grind [Reading.step]

/-- Blanks lead to the text only from there, or from behind a `<`, and have no tags. -/
theorem read_blanks {r : Reading} {blanks : List Char}
    (blank : blanks.all Text.isBlank = true) (text : (read r blanks).2 = .text) :
    (r = .text ∨ r = .opened) ∧ (read r blanks).1 = [] := by
  induction blanks generalizing r with
  | nil => exact ⟨.inl text, rfl⟩
  | cons c cs ih =>
    rw [List.all_cons, Bool.and_eq_true] at blank
    obtain ⟨place, unmarked⟩ := ih blank.2 text
    have next : (r.step c).1 = .text := by
      refine place.resolve_right fun opened => ?_
      rw [eq_of_step_opened opened] at blank
      exact absurd blank.1 (by decide)
    have other : c ≠ '>' := by
      rintro rfl
      exact absurd blank.1 (by decide)
    obtain ⟨place, silent⟩ := step_of_text other next
    exact ⟨place, by rw [read, silent, unmarked]; rfl⟩

private theorem read_blanks_append {blanks : List Char} (blank : blanks.all Text.isBlank = true)
    (rest : List Char) : read .text (blanks ++ rest) = read .text rest := by
  induction blanks with
  | nil => rfl
  | cons c cs ih =>
    rw [List.all_cons, Bool.and_eq_true] at blank
    have other : c ≠ '<' := by
      rintro rfl
      exact absurd blank.1 (by decide)
    simp [read, Reading.step, other, ih blank.2]

/-- Blanks at either end of a text play no part in how it is read on, if a tag follows. -/
theorem read_trim {marks : List Mark} (reads : Reads .text html marks .text) (rest : List Char) :
    read .text ((Text.trim html).toList ++ '<' :: rest) = read .text (html.toList ++ '<' :: rest) := by
  obtain ⟨lead, trail, before, behind, whole⟩ := Text.exists_trim_append html
  have inner : read .text ((Text.trim html).toList ++ trail) = (marks, .text) := by
    unfold Reads at reads
    rw [whole, List.append_assoc, read_blanks_append before] at reads
    exact reads
  rw [read_append, Prod.mk.injEq] at inner
  -- Up to the blanks at the end there is text, or a `<` that opens no tag.
  obtain ⟨place, silent⟩ := read_blanks behind inner.2
  have same : read (read .text (Text.trim html).toList).2 ('<' :: rest) = read .text ('<' :: rest) := by
    rcases place with atText | atBracket
    · rw [atText]
    · rw [atBracket]
      rfl
  have through : read (read .text (Text.trim html).toList).2 (trail ++ '<' :: rest) =
      read .text ('<' :: rest) := by
    rw [read_append, silent, inner.2, List.nil_append]
  calc
    read .text ((Text.trim html).toList ++ '<' :: rest)
      = read .text ((Text.trim html).toList ++ (trail ++ '<' :: rest)) := by
        rw [read_append, same, read_append, through]
    _ = read .text (lead ++ ((Text.trim html).toList ++ (trail ++ '<' :: rest))) := by
        rw [read_blanks_append before]
    _ = read .text (html.toList ++ '<' :: rest) := by
        rw [whole, List.append_assoc, List.append_assoc]

end Mathdown.Html
