import Mathdown.Html
import Mathdown.Html.Mark
import Mathdown.Placeholder
import Mathdown.Text.Slug

namespace Mathdown.Html

open Text (escapeHtml)

variable {closes : Bool} {name : List Char} {front back html : String} {marks : List Mark}

theorem reads_text (plain : ∀ c ∈ html.toList, c ≠ '<') : Reads .text html [] .text := by
  unfold Reads
  generalize html.toList = cs at plain
  induction cs with
  | nil => rfl
  | cons c cs ih =>
    obtain ⟨here, others⟩ := List.forall_mem_cons.mp plain
    simp [read, Reading.step, here, ih others]

theorem reads_value (unquoted : ∀ c ∈ html.toList, c ≠ '"') :
    Reads (.tag closes name (.quotedValue '"')) html [] (.tag closes name (.quotedValue '"')) := by
  unfold Reads
  generalize html.toList = cs at unquoted
  induction cs with
  | nil => rfl
  | cons c cs ih =>
    obtain ⟨here, others⟩ := List.forall_mem_cons.mp unquoted
    simp [read, Reading.step, TagPart.next?, here, ih others]

theorem reads_escapeHtml (text : String) : Reads .text (escapeHtml text) [] .text := by
  refine reads_text fun c member => ?_
  rintro rfl
  exact absurd (Text.isInert_of_mem_escapeHtml member) (by decide)

theorem reads_escaped_value (text : String) :
    Reads (.tag closes name (.quotedValue '"')) (escapeHtml text) []
      (.tag closes name (.quotedValue '"')) := by
  refine reads_value fun c member => ?_
  rintro rfl
  exact absurd (Text.isInert_of_mem_escapeHtml member) (by decide)

theorem reads_number_value (n : Nat) :
    Reads (.tag closes name (.quotedValue '"')) (toString n) []
      (.tag closes name (.quotedValue '"')) := by
  refine reads_value fun c member => ?_
  rintro rfl
  exact absurd (Text.isDigit_of_mem_toString member) (by decide)

private theorem step_digit {c : Char} (digit : c.isDigit = true) :
    (Reading.tag closes name .name).step c = (.tag closes (name ++ [c]) .name, none) := by
  have other (d : Char) (noDigit : d.isDigit = false) : c ≠ d := by
    rintro rfl
    exact absurd (digit.symm.trans noDigit) (by decide)
  have goesOn : isNameChar c = true := by
    simp [isNameChar, isSpace, other]
  have last : c.val ≤ '9'.val := of_decide_eq_true (Bool.and_eq_true_iff.mp digit).2
  have lower : c.toLower = c := dif_neg fun upper =>
    absurd (Nat.le_trans (UInt32.le_iff_toNat_le.mp upper.1) (UInt32.le_iff_toNat_le.mp last))
      (by decide)
  simp [Reading.step, goesOn, lower]

theorem reads_number_name (n : Nat) :
    Reads (.tag closes name .name) (toString n) []
      (.tag closes (name ++ (toString n).toList) .name) := by
  have digits : ∀ c ∈ (toString n).toList, c.isDigit = true := fun c => Text.isDigit_of_mem_toString
  unfold Reads
  generalize (toString n).toList = cs at digits
  induction cs generalizing name with
  | nil => simp [read]
  | cons c cs ih =>
    obtain ⟨here, others⟩ := List.forall_mem_cons.mp digits
    rw [read, step_digit here, ih others]
    simp

def headingName (level : Nat) : String := "h" ++ toString level

private theorem toList_headingName (level : Nat) :
    String.ofList ('h' :: (toString level).toList) = headingName level := by
  simp [headingName, String.ext_iff]

theorem reads_headingStart (level : Nat) {id : String} (unquoted : ∀ c ∈ id.toList, c ≠ '"') :
    Reads .text (headingStart level id) [.opening (headingName level)] .text := by
  have opened : Reads .text "<h" [] (.tag false ['h'] .name) := rfl
  have named : Reads (.tag false ('h' :: (toString level).toList) .name) " id=\"" []
      (.tag false ('h' :: (toString level).toList) (.quotedValue '"')) := rfl
  have closed : Reads (.tag false ('h' :: (toString level).toList) (.quotedValue '"')) "\">"
      [.opening (headingName level)] .text := by
    rw [← toList_headingName]
    rfl
  exact (((opened.append (reads_number_name level)).append named).append
    (reads_value unquoted)).append closed

theorem reads_headingStop (level : Nat) :
    Reads .text (headingStop level) [.closing (headingName level)] .text := by
  have opened : Reads .text "</h" [] (.tag true ['h'] .name) := rfl
  have closed : Reads (.tag true ('h' :: (toString level).toList) .name) ">"
      [.closing (headingName level)] .text := by
    rw [← toList_headingName]
    rfl
  exact (opened.append (reads_number_name level)).append closed

/-- Content is trimmed before a heading ends, which its tags do not depend on. -/
theorem reads_trim_headingStop (level : Nat) (reads : Reads .text html marks .text) :
    Reads .text (Text.trim html ++ headingStop level) (marks ++ [.closing (headingName level)])
      .text := by
  have bracket : (headingStop level).toList = '<' :: ("/h" ++ toString level ++ ">").toList := by
    simp [headingStop]
  have whole := reads.append (reads_headingStop level)
  unfold Reads at whole ⊢
  rw [String.toList_append, bracket] at whole ⊢
  rw [read_trim reads, whole]

theorem reads_linkStart (url : String) : Reads .text (linkStart url) [.opening "a"] .text := by
  have opened : Reads .text "<a href=\"" [] (.tag false ['a'] (.quotedValue '"')) := rfl
  have closed : Reads (.tag false ['a'] (.quotedValue '"')) "\">" [.opening "a"] .text := rfl
  exact (opened.append (reads_escaped_value url)).append closed

theorem reads_image (url alt title : String) :
    Reads .text (image url alt title) [.opening "img"] .text := by
  have opened : Reads .text "<img src=\"" [] (.tag false "img".toList (.quotedValue '"')) := rfl
  have ended : Reads (.tag false "img".toList (.quotedValue '"')) "\"" []
      (.tag false "img".toList .gap) := rfl
  have entitled : Reads (.tag false "img".toList .gap)
      (if title.isEmpty then "" else " title=\"" ++ escapeHtml title ++ "\"") []
      (.tag false "img".toList .gap) := by
    split
    · rfl
    · have begun : Reads (.tag false "img".toList .gap) " title=\"" []
          (.tag false "img".toList (.quotedValue '"')) := rfl
      exact (begun.append (reads_escaped_value title)).append ended
  have begun : Reads (.tag false "img".toList .gap) " alt=\"" []
      (.tag false "img".toList (.quotedValue '"')) := rfl
  have closed : Reads (.tag false "img".toList (.quotedValue '"')) "\">" [.opening "img"] .text := rfl
  exact (((((opened.append (reads_escaped_value url)).append ended).append entitled).append
    begun).append (reads_escaped_value alt)).append closed

theorem reads_codeStart (language : Option String) (numbered : Bool) :
    Reads .text (codeStart language numbered) [.opening "pre", .opening "code"] .text := by
  have outer : Reads .text (if numbered then "<pre class=\"line-numbers\">" else "<pre>")
      [.opening "pre"] .text := by
    cases numbered <;> rfl
  cases language with
  | none =>
    have inner : Reads .text "<code>" [.opening "code"] .text := rfl
    exact outer.append inner
  | some language =>
    have opened : Reads .text "<code class=\"language-" []
        (.tag false "code".toList (.quotedValue '"')) := rfl
    have closed : Reads (.tag false "code".toList (.quotedValue '"')) "\">" [.opening "code"] .text :=
      rfl
    exact outer.append ((opened.append (reads_escaped_value language)).append closed)

theorem reads_codeBlock (language : Option String) (source : String) :
    Reads .text (codeBlock language source none)
      [.opening "pre", .opening "code", .closing "code", .closing "pre"] .text := by
  have closed : Reads .text (codeStop none) [.closing "code", .closing "pre"] .text := rfl
  exact ((reads_codeStart language false).append (reads_escapeHtml source)).append closed

theorem reads_codeSpan (source : String) :
    Reads .text (codeSpan source) [.opening "code", .closing "code"] .text := by
  have opened : Reads .text "<code>" [.opening "code"] .text := rfl
  have closed : Reads .text "</code>" [.closing "code"] .text := rfl
  exact (opened.append (reads_escapeHtml source)).append closed

theorem reads_math (expression : String) (display : Bool) :
    Reads .text (math expression display) [.opening "span", .closing "span"] .text := by
  have opened : Reads .text
      ("<span class=\"math " ++ (if display then "math-display" else "math-inline") ++ "\">")
      [.opening "span"] .text := by
    cases display <;> rfl
  have closed : Reads .text "</span>" [.closing "span"] .text := rfl
  exact (opened.append (reads_escapeHtml expression)).append closed

theorem reads_alertStart (kind : AlertKind) :
    Reads .text (alertStart kind) [.opening "div", .opening "p", .closing "p"] .text := by
  have opened : Reads .text "<div class=\"alert alert-" []
      (.tag false "div".toList (.quotedValue '"')) := rfl
  have named : Reads (.tag false "div".toList (.quotedValue '"')) (alertClass kind) []
      (.tag false "div".toList (.quotedValue '"')) := by
    cases kind <;> rfl
  have titled : Reads (.tag false "div".toList (.quotedValue '"')) "\"><p class=\"alert-title\">"
      [.opening "div", .opening "p"] .text := rfl
  have title : Reads .text (alertTitle kind) [] .text := by
    cases kind <;> rfl
  have closed : Reads .text "</p>" [.closing "p"] .text := rfl
  exact ((((opened.append named).append titled).append title).append closed)

theorem reads_listStart (first : Option Nat) :
    Reads .text (listStart first) [.opening (if first.isSome then "ol" else "ul")] .text := by
  unfold listStart
  split
  · rfl
  · rfl
  · rename_i n _
    have opened : Reads .text "<ol start=\"" [] (.tag false "ol".toList (.quotedValue '"')) := rfl
    have closed : Reads (.tag false "ol".toList (.quotedValue '"')) "\">" [.opening "ol"] .text := rfl
    exact (opened.append (reads_number_value n)).append closed

theorem reads_listStop (ordered : Bool) :
    Reads .text (listStop ordered) [.closing (if ordered then "ol" else "ul")] .text := by
  cases ordered <;> rfl

theorem reads_cellStart (inHead : Bool) (column : Alignment) :
    Reads .text (cellStart inHead column) [.opening (if inHead then "th" else "td")] .text := by
  cases inHead <;> cases column <;> rfl

theorem reads_cellStop (inHead : Bool) :
    Reads .text (cellStop inHead) [.closing (if inHead then "th" else "td")] .text := by
  cases inHead <;> rfl

theorem reads_taskMarker (checked : Bool) :
    Reads .text (taskMarker checked) [.opening "input"] .text := by
  cases checked <;> rfl

theorem reads_token (id : PlaceholderId) :
    Reads .text id.token [.opening "span", .closing "span"] .text := by
  have opened : Reads .text "<span id=\"" [] (.tag false "span".toList (.quotedValue '"')) := rfl
  have word : Reads (.tag false "span".toList (.quotedValue '"')) (id.kind.word ++ "-") []
      (.tag false "span".toList (.quotedValue '"')) := by
    cases id.kind <;> rfl
  have closed : Reads (.tag false "span".toList (.quotedValue '"')) "\"></span>"
      [.opening "span", .closing "span"] .text := rfl
  exact (opened.append (word.append (reads_number_value id.index))).append closed

theorem Reads.leads {stack last : List String} (reads : Reads .text html marks .text)
    (nested : marks.foldlM openAfter stack = some last) : Leads stack html last :=
  ⟨marks, reads, nested⟩

theorem Reads.balanced (reads : Reads .text html marks .text)
    (nested : marks.foldlM openAfter [] = some []) : Balanced html :=
  balanced_iff.mpr (reads.leads nested)

private theorem leads_of_eq (marks : List Mark) {stack last : List String}
    (reads : Reads .text html marks .text) (nested : marks.foldlM openAfter stack = some last) :
    Leads stack html last :=
  reads.leads nested

/-- Whether two texts are what opens and what closes some elements. -/
def Encloses (front back : String) : Prop :=
  ∃ inner, Leads [] front inner ∧ Leads inner back []

theorem Encloses.around (encloses : Encloses front back) (balanced : Balanced html) :
    Balanced (front ++ html ++ back) := by
  obtain ⟨inner, opens, closes⟩ := encloses
  exact balanced_iff.mpr ((opens.append (balanced.leads inner)).append closes)

theorem encloses_element (name : String) (opens : Reads .text front [.opening name] .text)
    (closes : Reads .text back [.closing name] .text) (filled : isVoid name = false) :
    Encloses front back := by
  refine ⟨[name], opens.leads ?_, closes.leads ?_⟩
  · simp [openAfter, filled]
  · simp [openAfter]

theorem encloses_alert (kind : AlertKind) : Encloses (alertStart kind) alertStop :=
  ⟨["div"], (reads_alertStart kind).leads rfl, leads_of_eq [.closing "div"] rfl rfl⟩

theorem encloses_list (first : Option Nat) : Encloses (listStart first) (listStop first.isSome) :=
  encloses_element _ (reads_listStart first) (reads_listStop first.isSome) (by cases first <;> rfl)

theorem encloses_cell (inHead : Bool) (column : Alignment) :
    Encloses (cellStart inHead column) (cellStop inHead) :=
  encloses_element _ (reads_cellStart inHead column) (reads_cellStop inHead) (by cases inHead <;> rfl)

theorem balanced_table {head body : String} (first : Balanced head) (second : Balanced body) :
    Balanced ("<table>" ++ "<thead><tr>" ++ head ++ "</tr></thead><tbody>" ++ body ++
      "</tbody></table>") := by
  have table : Leads [] "<table>" ["table"] := leads_of_eq [.opening "table"] rfl rfl
  have opened : Leads ["table"] "<thead><tr>" ["tr", "thead", "table"] :=
    leads_of_eq [.opening "thead", .opening "tr"] rfl rfl
  have between : Leads ["tr", "thead", "table"] "</tr></thead><tbody>" ["tbody", "table"] :=
    leads_of_eq [.closing "tr", .closing "thead", .opening "tbody"] rfl rfl
  have closed : Leads ["tbody", "table"] "</tbody></table>" [] :=
    leads_of_eq [.closing "tbody", .closing "table"] rfl rfl
  exact balanced_iff.mpr (((((table.append opened).append (first.leads _)).append between).append
    (second.leads _)).append closed)

theorem balanced_gutter (lines : Nat) : Balanced (gutter lines) := by
  have row : Balanced "<span></span>" := ⟨rfl, rfl⟩
  have rows : Balanced (String.join (List.replicate lines "<span></span>")) := by
    induction lines with
    | zero => exact balanced_empty
    | succ n ih =>
      rw [List.replicate_succ, String.join_cons]
      exact row.append ih
  have opened : Reads .text "<span aria-hidden=\"true\" class=\"line-numbers-rows\">"
      [.opening "span"] .text := rfl
  have closed : Reads .text "</span>" [.closing "span"] .text := rfl
  exact (encloses_element "span" opened closed rfl).around rows

theorem encloses_code (language : Option String) (lines : Option Nat) :
    Encloses (codeStart language lines.isSome) (codeStop lines) := by
  refine ⟨["code", "pre"], (reads_codeStart language lines.isSome).leads rfl, ?_⟩
  have inner : Leads ["code", "pre"] "</code>" ["pre"] := leads_of_eq [.closing "code"] rfl rfl
  have numbers : Balanced ((lines.map gutter).getD "") := by
    cases lines with
    | none => exact balanced_empty
    | some n => exact balanced_gutter n
  have outer : Leads ["pre"] "</pre>" [] := leads_of_eq [.closing "pre"] rfl rfl
  exact (inner.append (numbers.leads ["pre"])).append outer

private theorem isVoid_headingName (level : Nat) : isVoid (headingName level) = false := by
  have chars : (headingName level).toList = 'h' :: (toString level).toList := by
    rw [← toList_headingName, String.toList_ofList]
  simp only [isVoid, List.contains_eq_mem, decide_eq_false_iff_not]
  intro member
  have spelled : ∃ name ∈ ["img", "br", "hr", "input"], name.toList = 'h' :: (toString level).toList :=
    ⟨_, member, chars⟩
  simp only [List.mem_cons, List.not_mem_nil, or_false, exists_eq_or_imp, exists_eq_left] at spelled
  rcases spelled with same | same | same | same
  · cases same
  · cases same
  · have tails : ['r'] = (toString level).toList := congrArg List.tail same
    have digit : 'r' ∈ (toString level).toList := by
      rw [← tails]
      exact List.mem_singleton_self 'r'
    exact absurd (Text.isDigit_of_mem_toString digit) (by decide)
  · cases same

/-- A heading is balanced if its content is, whose blanks at either end it does without. -/
theorem balanced_heading (level : Nat) {id : String} (unquoted : ∀ c ∈ id.toList, c ≠ '"')
    (balanced : Balanced html) :
    Balanced (headingStart level id ++ Text.trim html ++ headingStop level) := by
  have opens : Leads [] (headingStart level id) [headingName level] :=
    (reads_headingStart level unquoted).leads (by simp [openAfter, isVoid_headingName])
  obtain ⟨marks, reads, nested⟩ := balanced.leads [headingName level]
  have stops : Leads [headingName level] (Text.trim html ++ headingStop level) [] := by
    refine (reads_trim_headingStop level reads).leads ?_
    rw [List.foldlM_append, nested]
    simp [openAfter]
  rw [String.append_assoc]
  exact balanced_iff.mpr (opens.append stops)

end Mathdown.Html
