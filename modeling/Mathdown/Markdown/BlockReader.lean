import Mathdown.Markdown.Block
import Mathdown.Markdown.BlockStart
import Mathdown.Markdown.RawHtml

namespace Mathdown.Markdown

/--
Passes the markers of open containers at the start of a line: how many of them, outermost first,
the line belongs to, and the cursor behind their markers.
-/
def matchContainers : List Container → Cursor → Nat × Cursor
  | [], cursor => (0, cursor)
  | .quote _ :: rest, cursor =>
    match (cursor.skip 3).2.quote? with
    | some after =>
      let (n, final) := matchContainers rest after
      (n + 1, final)
    | none => (0, cursor)
  | .list .. :: rest, cursor =>
    let (n, final) := matchContainers rest cursor
    (n + 1, final)
  | .item indent :: rest, cursor =>
    let (missing, after) := cursor.skip indent
    if missing == 0 || after.atEnd then
      let (n, final) := matchContainers rest after
      (n + 1, final)
    else (0, cursor)

namespace BlockReader

/-- What the reading of one block gives: the outline with it, and the lines behind it. -/
abbrev Step := Outline × List Line

/-- A line as it lies in the open containers. -/
structure Placed where
  /-- Whether it belongs to all of them. -/
  current : Bool
  /-- The cursor behind their markers. -/
  cursor : Cursor
  /-- The markers. -/
  margin : List Char

def place (containers : List Container) (line : Line) : Placed :=
  let (n, cursor) := matchContainers containers { rest := line.text }
  ⟨n == containers.length, cursor, line.text.take (line.text.length - cursor.rest.length)⟩

/-- Counts bars that part cells, and gives what follows the last of them. -/
def bars : List Char → (count : Nat) → (last : List Char) → Nat × List Char
  | [], count, last => (count, last)
  | '\\' :: '\\' :: '|' :: cs, count, last => bars cs count last
  | '\\' :: c :: cs, count, last =>
    if Unicode.isAsciiPunctuation c then bars cs count last else bars (c :: cs) count last
  | '|' :: cs, count, _ => bars cs (count + 1) cs
  | _ :: cs, count, last => bars cs count last

/-- The same, but every bar with a backslash in front of it is left out. -/
def plainBars : (escaped : Bool) → List Char → (count : Nat) → (last : List Char) → Nat × List Char
  | _, [], count, last => (count, last)
  | escaped, c :: cs, count, last =>
    if c == '|' && !escaped then plainBars false cs (count + 1) cs
    else plainBars (c == '\\') cs count last

/-- The columns of the table whose head is a line with so many bars, if the next line fits it. -/
def columnsBelow? (containers : List Container) (text : List Char) (count : Nat)
    (last : List Char) (following : List Line) : Option (List Alignment) :=
  match following with
  | [] => none
  | line :: _ => do
    let placed := place containers line
    if !placed.current then none
    else
      let columns ← tableColumns? placed.cursor.rest
      if columns.length == headColumns text count last then some columns else none

/-- Whether a line with a bar in front begins a table, which ends a paragraph. -/
def startsTable (containers : List Container) (text : List Char) (following : List Line) : Bool :=
  match text with
  | '|' :: _ =>
    let (count, last) := plainBars false text 0 []
    (columnsBelow? containers text count last following).isSome
  | _ => false

/-- Whether the next two lines are blank; the end of the document counts as blank. -/
private def emptyItem (rest : List Char) (following : List Line) : Bool :=
  isBlankLine rest &&
    match following with
    | [] => true
    | line :: _ => isBlankLine line.text

/--
Whether a line, behind indentation of less than four columns, ends a paragraph or the rows of a
table. An item does so in a table and if the line leaves a container; elsewhere it must be no
empty one, and an ordered list must begin with one.
-/
def endsRows (inTable current : Bool) (text : List Char) (following : List Line) : Bool :=
  text.isEmpty || isRule text || (atxLevel? text).isSome || (fence? text).isSome ||
    text.head? == some '>' ||
    (match interruptingMarker? text with
      | some (marker, rest) =>
        !current || inTable ||
          ((marker.isBullet || marker.number == 1) && !emptyItem rest following)
      | none => false) ||
    (match text with
      | '<' :: rest => (htmlUntil? rest).isSome || startsBlockElement rest
      | _ => false)

def endsParagraph (options : Options) (containers : List Container) (current : Bool)
    (text : List Char) (following : List Line) : Bool :=
  endsRows false current text following || (options.gfm && startsTable containers text following)

/-- How a paragraph ends, with the lines behind it. -/
inductive ParagraphEnd where
  | plain (rest : List Line)
  | setext (level : Nat) (rest : List Line)

def continuation (options : Options) (containers : List Container) :
    List Line → List Placed × ParagraphEnd
  | [] => ([], .plain [])
  | line :: following =>
    let placed := place containers line
    let (missing, inner) := placed.cursor.skip 4
    let level := if 0 < missing && placed.current then setextLevel? inner.rest else none
    match level with
    | some level => ([], .setext level following)
    | none =>
      if (0 < missing && endsParagraph options containers placed.current inner.rest following) ||
          inner.skipAll.atEnd then ([], .plain (line :: following))
      else
        let (more, stop) := continuation options containers following
        (placed :: more, stop)

def contentOf (first : List Char) (more : List Placed) : Content where
  source := first ++ more.flatMap fun placed => '\n' :: placed.cursor.rest
  margins := more.map Placed.margin

def cell : List Char → List Char × List Char
  | [] => ([], [])
  | '\\' :: '\\' :: '|' :: cs =>
    let (text, rest) := cell cs
    ('\\' :: '\\' :: '|' :: text, rest)
  | '\\' :: c :: cs =>
    if Unicode.isAsciiPunctuation c then
      let (text, rest) := cell cs
      ('\\' :: c :: text, rest)
    else
      let (text, rest) := cell (c :: cs)
      ('\\' :: text, rest)
  | '|' :: cs => ([], '|' :: cs)
  | c :: cs =>
    let (text, rest) := cell cs
    (c :: text, rest)

def cells : (fuel : Nat) → List Char → List (List Char)
  | 0, _ => []
  | fuel + 1, cs =>
    let inner := match cs with
      | '|' :: rest => rest
      | _ => cs
    match inner.dropWhile isInnerBlank with
    | [] => []
    | text =>
      let (first, rest) := cell text
      first :: cells fuel rest

/-- A row of the given number of cells: what is missing is empty, and what is too much is dropped. -/
def row (columns : Nat) (text : List Char) : Option (List Content) :=
  match cells (text.length + 1) text with
  | [] => none
  | all => some (((all ++ List.replicate columns []).take columns).map fun source => { source })

def rows (containers : List Container) (columns : Nat) :
    List Line → List (List Content) × List Line
  | [] => ([], [])
  | line :: following =>
    let placed := place containers line
    let text := placed.cursor.skipAll.rest
    if !placed.current || endsRows true true text following then ([], line :: following)
    else
      match row columns text with
      | none => ([], line :: following)
      | some first =>
        let (more, rest) := rows containers columns following
        (first :: more, rest)

def table? (containers : List Container) (first : List Char) (following : List Line) :
    Option (Block × List Line) := do
  let (count, last) := bars first 0 []
  if count == 0 then none
  else
    let columns ← columnsBelow? containers first count last following
    let head ← row columns.length first
    let (body, rest) := rows containers columns.length following.tail
    return (.table columns head body, rest)

def paragraph (options : Options) (o : Outline) (task : Option Bool) (first : List Char)
    (following : List Line) : Step :=
  match if options.gfm then table? o.containers first following else none with
  | some (table, rest) => (o.append table, rest)
  | none =>
    let (more, stop) := continuation options o.containers following
    let content := contentOf first more
    match stop with
    | .plain rest => (o.append (.paragraph task content), rest)
    | .setext level rest => (o.append (.heading level task content), rest)

/-- The text of a heading without number signs at its end that stand apart. -/
def headingText (text : List Char) : List Char :=
  let text := dropTrailing (· == ' ') (text.dropWhile isInnerBlank)
  let before := dropTrailing (· == '#') text
  if before.isEmpty then []
  else
    let inner := dropTrailing (· == ' ') before
    if inner.length < before.length then inner else text

def literalLine (width : Nat) (text ending : List Char) : List Char :=
  List.replicate width ' ' ++ text ++ ending

def fenced (containers : List Container) (fence : Char) (size indent : Nat) :
    List Line → List Char × List Line
  | [] => ([], [])
  | line :: following =>
    let placed := place containers line
    if !placed.current then
      -- A blank line right behind the block is passed without effect.
      ([], line :: following)
    else
      let inner := (placed.cursor.skip indent).2
      let (missing, marker) := inner.skip (4 - indent)
      if 0 < missing && closesFence fence size marker.rest then ([], following)
      else
        let (more, rest) := fenced containers fence size indent following
        (literalLine inner.spare inner.rest line.ending ++ more, rest)

/-- The lines of an indented code block behind its first, each with whether it is blank. -/
def indented (containers : List Container) : List Line → List (Bool × List Char) × List Line
  | [] => ([], [])
  | line :: following =>
    let placed := place containers line
    let (missing, inner) := placed.cursor.skip 4
    if !placed.current || !(missing == 0 || inner.atEnd) ||
        (inner.atEnd && line.ending.isEmpty) then ([], line :: following)
    else
      let (more, rest) := indented containers following
      ((isBlankLine inner.rest, literalLine inner.spare inner.rest line.ending) :: more, rest)

def isInfix (part : List Char) : List Char → Bool
  | [] => part.isEmpty
  | c :: cs => part.isPrefixOf (c :: cs) || isInfix part cs

def htmlUntil (containers : List Container) (stop : List Char) :
    (width : Nat) → (text ending : List Char) → List Line → List Char × List Line
  | width, text, ending, [] => (literalLine width text ending, [])
  | width, text, ending, line :: following =>
    let placed := place containers line
    if !placed.current || isInfix stop text then
      (literalLine width text ending, line :: following)
    else
      let (more, rest) :=
        htmlUntil containers stop placed.cursor.spare placed.cursor.rest line.ending following
      (literalLine width text ending ++ more, rest)

def htmlParagraph (containers : List Container) :
    (width : Nat) → (text ending : List Char) → List Line → List Char × List Line
  | width, text, ending, [] => (literalLine width text ending, [])
  | width, text, ending, line :: following =>
    let placed := place containers line
    if !placed.current || isBlankLine placed.cursor.rest then
      (literalLine width text ending, line :: following)
    else
      let (more, rest) :=
        htmlParagraph containers placed.cursor.spare placed.cursor.rest line.ending following
      (literalLine width text ending ++ more, rest)

/-- The text in which a definition may stand: the lines up to one that would end a paragraph. -/
def definitionText (options : Options) (containers : List Container) (first : List Char) :
    List Line → List Char
  | [] => first
  | line :: following =>
    let placed := place containers line
    let (missing, inner) := placed.cursor.skip 4
    if (0 < missing && (endsParagraph options containers placed.current inner.rest following ||
        (setextLevel? inner.rest).isSome)) || inner.skipAll.atEnd then first
    else first ++ '\n' :: definitionText options containers inner.rest following

def definition? (options : Options) (o : Outline) (first : List Char) (following : List Line) :
    Option Step := do
  if first.head? != some '[' then none
  else
    let text := definitionText options o.containers first following
    let (label, target, rest) ← Definition.read? text
    let used := ((text.take (text.length - rest.length)).filter (· == '\n')).length
    return ({ o with definitions := o.definitions.add label target }, following.drop used)

/--
Reads definitions, and the paragraph behind them. The line after a definition is read as one that
continues a paragraph, so that it needs no markers of the containers around it.
-/
def definitionsAndParagraph (options : Options) :
    (fuel : Nat) → Outline → (first : List Char) → List Line → Step
  | 0, o, first, following => paragraph options o none first following
  | fuel + 1, o, first, following =>
    match definition? options o first following with
    | none => paragraph options o none first following
    | some (o, []) => (o, [])
    | some (o, line :: rest) =>
      let placed := place o.containers line
      let (missing, inner) := placed.cursor.skip 4
      if 0 < missing && endsParagraph options o.containers placed.current inner.rest rest then
        (o, line :: rest)
      else definitionsAndParagraph options fuel o inner.skipAll.rest rest

/-- Where the opening of containers has got to. -/
inductive Opening where
  /-- The line is used up. -/
  | done (o : Outline) (rest : List Line)
  /-- The rest of the line begins or continues a block. -/
  | inside (o : Outline) (cursor : Cursor) (line : Line) (following : List Line)
  /-- The rest of the line begins the paragraph of a task list item. -/
  | task (o : Outline) (checked : Bool) (text : List Char) (following : List Line)

/-- Goes on behind the line that makes a block quote an alert, as if it began a paragraph. -/
def behindAlert (options : Options) (o : Outline) (following : List Line) : Opening :=
  match following with
  | [] => .done o []
  | line :: rest =>
    let placed := place o.containers line
    let (missing, inner) := placed.cursor.skip 4
    if 0 < missing && endsParagraph options o.containers placed.current inner.rest rest then
      .done o following
    else .inside o inner.skipAll line rest

/-- Opens the containers whose markers a line goes on with; each takes a step of fuel. -/
def openContainers (options : Options) (line : Line) (following : List Line) :
    (fuel : Nat) → Outline → Cursor → Opening
  | 0, o, cursor => .inside o cursor line following
  | fuel + 1, o, cursor =>
    let (indent, inner) := cursor.indent 4
    if 4 ≤ indent then .inside o cursor line following
    else
      match inner.listMarker? indent with
      | some (marker, width, after) =>
        let o := (o.continueList marker.char marker.number).enter (.item width)
        if isBlankLine after.rest then .done { o with freshItem := true } following
        else
          match if options.gfm then after.taskBox? else none with
          | some (checked, boxed) =>
            let spaced := match boxed.rest with
              | d :: _ => isInnerBlank d
              | [] => !line.ending.isEmpty
            if !spaced then openContainers options line following fuel o after
            else if isBlankLine boxed.rest then
              .done { o.append (.task checked) with freshItem := true } following
            else .task o checked boxed.skipAll.rest following
          | none => openContainers options line following fuel o after
      | none =>
        match inner.quote? with
        | some after =>
          let kind := if options.gfm then alertTag? after.rest else none
          let o := o.finishList.enter (.quote kind)
          if kind.isSome then behindAlert options o following
          else openContainers options line following fuel o after
        | none => .inside o cursor line following

/-- Reads a block whose first line has less than four columns of indentation. -/
def flushBlock (options : Options) (o : Outline) (width : Nat) (indent : Nat) (text : List Char)
    (line : Line) (following : List Line) : Step :=
  let html : Option (List Char × List Line) :=
    match text with
    | '<' :: rest =>
      match htmlUntil? rest with
      | some stop => some (htmlUntil o.containers stop.toList width text line.ending following)
      | none =>
        if startsBlockElement rest || RawHtml.fillsLine text then
          some (htmlParagraph o.containers width text line.ending following)
        else none
    | _ => none
  match html with
  | some (source, rest) => (o.append (.html source), rest)
  | none =>
    if isRule text then (o.append .rule, following)
    else
      match atxLevel? text with
      | some level =>
        (o.append (.heading level none { source := headingText (text.drop level) }), following)
      | none =>
        match fence? text with
        | some (fence, size) =>
          let info := dropTrailing isAsciiBlank ((text.drop size).dropWhile isInnerBlank)
          let (source, rest) := fenced o.containers fence size indent following
          (o.append (.code (some (LinkParts.plain false info)) source), rest)
        | none => definitionsAndParagraph options (following.length + 1) o text following

/-- Reads the block that a line begins, behind the markers of containers. -/
def block (options : Options) (o : Outline) (cursor : Cursor) (line : Line)
    (following : List Line) : Step :=
  if isBlankLine cursor.rest then (o.noteBlank, following)
  else
    let o := o.finishList
    match cursor.indent 4 with
    | (4, inner) =>
      let (more, rest) := indented o.containers following
      let kept := (more.reverse.dropWhile (·.1)).reverse
      let source := literalLine inner.spare inner.rest line.ending ++ kept.flatMap (·.2)
      let lastBlank := ((more.getLast?).map (·.1)).getD false
      ({ o.append (.code none source) with lastBlank }, rest)
    | (indent, inner) =>
      flushBlock options o (max cursor.spare indent) indent inner.rest line following

def step (options : Options) (o : Outline) (line : Line) (following : List Line) : Step :=
  let (n, cursor) := matchContainers o.containers { rest := line.text }
  let o := o.leaveTo n
  match openContainers options line following (line.text.length + 1) o cursor with
  | .done o rest => (o, rest)
  | .task o checked text rest => paragraph options o (some checked) text rest
  | .inside o cursor line rest => block options o cursor line rest

/-- Reads all lines; each step uses up at least one. -/
def run (options : Options) : (fuel : Nat) → Outline → List Line → Outline
  | 0, o, _ => o
  | _, o, [] => o
  | fuel + 1, o, line :: following =>
    let (o, rest) := step options o line following
    run options fuel o rest

end BlockReader

def blocksOf (options : Options) (text : List Char) : List Block × Definitions :=
  let lines := Line.ofChars text
  let outline := BlockReader.run options (lines.length + 1) {} lines
  (outline.finish, outline.definitions)

end Mathdown.Markdown
