namespace Mathdown

/-- How a table column is aligned. -/
inductive Alignment where
  | unset | left | center | right
deriving DecidableEq, Repr

/-- The kinds of block quote that are shown as an alert. -/
inductive AlertKind where
  | note | tip | important | warning | caution
deriving DecidableEq, Repr

/-- The element that an event enters, with what is known of it at that point. -/
inductive Tag where
  | paragraph
  | heading (level : Nat)
  | blockQuote (kind : Option AlertKind)
  /-- The text after the opening fence; none for an indented block. -/
  | codeBlock (info : Option String)
  | htmlBlock
  /-- The first number of an ordered list; none for a bullet list. -/
  | list (first : Option Nat)
  | item
  | footnoteDefinition (label : String)
  | definitionList
  | definitionTerm
  | definitionBody
  | table (columns : List Alignment)
  | tableHead
  | tableRow
  | tableCell
  | emphasis
  | strong
  | strikethrough
  | superscript
  | subscript
  | link (url title : String)
  | image (url title : String)
  | metadata
deriving DecidableEq, Repr

/-- The element that an event leaves. -/
inductive TagEnd where
  | paragraph
  | heading (level : Nat)
  | blockQuote
  | codeBlock
  | htmlBlock
  | list (ordered : Bool)
  | item
  | footnoteDefinition
  | definitionList
  | definitionTerm
  | definitionBody
  | table
  | tableHead
  | tableRow
  | tableCell
  | emphasis
  | strong
  | strikethrough
  | superscript
  | subscript
  | link
  | image
  | metadata
deriving DecidableEq, Repr

def Tag.toEnd : Tag → TagEnd
  | .paragraph => .paragraph
  | .heading level => .heading level
  | .blockQuote _ => .blockQuote
  | .codeBlock _ => .codeBlock
  | .htmlBlock => .htmlBlock
  | .list first => .list first.isSome
  | .item => .item
  | .footnoteDefinition _ => .footnoteDefinition
  | .definitionList => .definitionList
  | .definitionTerm => .definitionTerm
  | .definitionBody => .definitionBody
  | .table _ => .table
  | .tableHead => .tableHead
  | .tableRow => .tableRow
  | .tableCell => .tableCell
  | .emphasis => .emphasis
  | .strong => .strong
  | .strikethrough => .strikethrough
  | .superscript => .superscript
  | .subscript => .subscript
  | .link _ _ => .link
  | .image _ _ => .image
  | .metadata => .metadata

/-- One event of a document. -/
inductive Event where
  | start (tag : Tag)
  | stop (tag : TagEnd)
  | text (text : String)
  | code (text : String)
  | math (expression : String) (display : Bool)
  | html (html : String)
  | inlineHtml (html : String)
  | footnoteReference (label : String)
  | softBreak
  | hardBreak
  | rule
  | taskMarker (checked : Bool)
deriving DecidableEq, Repr

end Mathdown
