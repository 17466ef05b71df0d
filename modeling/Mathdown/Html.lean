import Mathdown.Event
import Mathdown.Text.Escape

namespace Mathdown.Html

open Text (escapeHtml)

/-- Opens a code block; the inner HTML of its `code` element follows. -/
def codeStart (language : Option String) (numbered : Bool) : String :=
  (if numbered then "<pre class=\"line-numbers\">" else "<pre>") ++
    match language with
    | some language => "<code class=\"language-" ++ escapeHtml language ++ "\">"
    | none => "<code>"

def gutter (lines : Nat) : String :=
  "<span aria-hidden=\"true\" class=\"line-numbers-rows\">" ++
    String.join (List.replicate lines "<span></span>") ++ "</span>"

/-- Closes a code block; `lines` is there if lines are numbered. -/
def codeStop (lines : Option Nat) : String :=
  "</code>" ++ (lines.map gutter).getD "" ++ "</pre>"

def codeAround (language : Option String) (lines : Option Nat) (inner : String) : String :=
  codeStart language lines.isSome ++ inner ++ codeStop lines

def codeBlock (language : Option String) (source : String) (lines : Option Nat) : String :=
  codeAround language lines (escapeHtml source)

def codeSpan (source : String) : String := "<code>" ++ escapeHtml source ++ "</code>"

/-- A math span left to the reader's browser. -/
def math (expression : String) (display : Bool) : String :=
  "<span class=\"math " ++ (if display then "math-display" else "math-inline") ++ "\">" ++
    escapeHtml expression ++ "</span>"

def quoteStart : String := "<blockquote>"

def quoteStop : String := "</blockquote>"

def alertClass : AlertKind → String
  | .note => "note"
  | .tip => "tip"
  | .important => "important"
  | .warning => "warning"
  | .caution => "caution"

def alertTitle : AlertKind → String
  | .note => "Note"
  | .tip => "Tip"
  | .important => "Important"
  | .warning => "Warning"
  | .caution => "Caution"

def alertStart (kind : AlertKind) : String :=
  "<div class=\"alert alert-" ++ alertClass kind ++ "\"><p class=\"alert-title\">" ++
    alertTitle kind ++ "</p>"

def alertStop : String := "</div>"

/-- An image. An empty title gives no attribute. -/
def image (url alt title : String) : String :=
  "<img src=\"" ++ escapeHtml url ++ "\"" ++
    (if title.isEmpty then "" else " title=\"" ++ escapeHtml title ++ "\"") ++
    " alt=\"" ++ escapeHtml alt ++ "\">"

def linkStart (url : String) : String := "<a href=\"" ++ escapeHtml url ++ "\">"

def headingStart (level : Nat) (id : String) : String :=
  "<h" ++ toString level ++ " id=\"" ++ id ++ "\">"

def headingStop (level : Nat) : String := "</h" ++ toString level ++ ">"

def listStart : Option Nat → String
  | none => "<ul>"
  | some 1 => "<ol>"
  | some n => "<ol start=\"" ++ toString n ++ "\">"

def listStop (ordered : Bool) : String := if ordered then "</ol>" else "</ul>"

/-- The attribute that aligns a table cell, with the space before it. -/
def alignment : Alignment → String
  | .unset => ""
  | .left => " style=\"text-align:left\""
  | .center => " style=\"text-align:center\""
  | .right => " style=\"text-align:right\""

def cellStart (inHead : Bool) (column : Alignment) : String :=
  (if inHead then "<th" else "<td") ++ alignment column ++ ">"

def cellStop (inHead : Bool) : String := if inHead then "</th>" else "</td>"

def hardBreak : String := "<br>"

def rule : String := "<hr>"

def taskMarker (checked : Bool) : String :=
  if checked then "<input type=\"checkbox\" checked disabled> "
  else "<input type=\"checkbox\" disabled> "

def drawing (svg : String) (display : Bool) : String :=
  if display then "<span style=\"display: block; text-align: center; \">" ++ svg ++ "</span>"
  else svg

def errorBox (messages : List String) : String :=
  "<div style=\"display: inline-block; border: 1px solid #000; \"><strong>" ++
    "<br>".intercalate (messages.map escapeHtml) ++ "</strong></div>"

end Mathdown.Html
