import Mathdown.Html.Visible
import Mathdown.Proofs.Html.Tags

namespace Mathdown.Html

open Text (dark escapeHtml escapeHtmlChar isBlank)

variable {start middle last : Reading} {marks : List Mark} {front back html : String}
  {text more : List Char}

/-- Whether a text shows nothing, read from one place to another. -/
structure Silent (start : Reading) (html : String) (last : Reading) : Prop where
  reads : (read start html.toList).2 = last
  shows : shown start html.toList = []

theorem Silent.append (first : Silent start front middle) (second : Silent middle back last) :
    Silent start (front ++ back) last where
  reads := by rw [String.toList_append, read_append, first.reads, second.reads]
  shows := by rw [String.toList_append, shown_append, first.shows, first.reads, second.shows]; rfl

theorem Reads.silent {closes : Bool} {name : List Char} {part : TagPart}
    (reads : Reads (.tag closes name part) html [] last) : Silent (.tag closes name part) html last := by
  refine ⟨congrArg Prod.snd reads, ?_⟩
  unfold Reads at reads
  generalize html.toList = cs at reads
  induction cs generalizing name part with
  | nil => rfl
  | cons c cs ih =>
    rw [read, Prod.mk.injEq, List.append_eq_nil_iff] at reads
    obtain ⟨⟨unmarked, others⟩, ends⟩ := reads
    -- A step that leaves the tag would have its mark.
    obtain ⟨name', part', stays⟩ : ∃ name' part',
        ((Reading.tag closes name part).step c).1 = .tag closes name' part' := by
      simp only [Reading.step] at unmarked ⊢
      split
      · exact ⟨_, _, rfl⟩
      · rename_i other
        rw [if_neg other] at unmarked
        split
        · exact ⟨_, _, rfl⟩
        · rename_i ended
          rw [ended] at unmarked
          cases unmarked
    rw [shown, stays, ih (by rw [← stays]; exact Prod.ext others ends)]
    rfl

theorem silent_linkStart (url : String) : Silent .text (linkStart url) .text := by
  have opened : Silent .text "<a href=\"" (.tag false ['a'] (.quotedValue '"')) := ⟨rfl, rfl⟩
  have closed : Silent (.tag false ['a'] (.quotedValue '"')) "\">" .text := ⟨rfl, rfl⟩
  exact (opened.append (reads_escaped_value url).silent).append closed

theorem silent_codeStart (language : Option String) (numbered : Bool) :
    Silent .text (codeStart language numbered) .text := by
  have outer : Silent .text (if numbered then "<pre class=\"line-numbers\">" else "<pre>") .text := by
    cases numbered <;> exact ⟨rfl, rfl⟩
  cases language with
  | none =>
    have inner : Silent .text "<code>" .text := ⟨rfl, rfl⟩
    exact outer.append inner
  | some language =>
    have opened : Silent .text "<code class=\"language-" (.tag false "code".toList (.quotedValue '"')) :=
      ⟨rfl, rfl⟩
    have closed : Silent (.tag false "code".toList (.quotedValue '"')) "\">" .text := ⟨rfl, rfl⟩
    exact outer.append ((opened.append (reads_escaped_value language).silent).append closed)

theorem silent_gutter (lines : Nat) : Silent .text (gutter lines) .text := by
  have row : Silent .text "<span></span>" .text := ⟨rfl, rfl⟩
  have rows : Silent .text (String.join (List.replicate lines "<span></span>")) .text := by
    induction lines with
    | zero => exact ⟨rfl, rfl⟩
    | succ n ih =>
      rw [List.replicate_succ, String.join_cons]
      exact row.append ih
  have opened : Silent .text "<span aria-hidden=\"true\" class=\"line-numbers-rows\">" .text := ⟨rfl, rfl⟩
  have closed : Silent .text "</span>" .text := ⟨rfl, rfl⟩
  exact (opened.append rows).append closed

theorem silent_codeStop (lines : Option Nat) : Silent .text (codeStop lines) .text := by
  have inner : Silent .text "</code>" .text := ⟨rfl, rfl⟩
  have outer : Silent .text "</pre>" .text := ⟨rfl, rfl⟩
  have numbers : Silent .text ((lines.map gutter).getD "") .text := by
    cases lines with
    | none => exact ⟨rfl, rfl⟩
    | some n => exact silent_gutter n
  exact (inner.append numbers).append outer

theorem silent_headingStart (level : Nat) {id : String} (unquoted : ∀ c ∈ id.toList, c ≠ '"') :
    Silent .text (headingStart level id) .text := by
  have opened : Silent .text "<h" (.tag false ['h'] .name) := ⟨rfl, rfl⟩
  have named : Silent (.tag false ('h' :: (toString level).toList) .name) " id=\""
      (.tag false ('h' :: (toString level).toList) (.quotedValue '"')) := ⟨rfl, rfl⟩
  have closed : Silent (.tag false ('h' :: (toString level).toList) (.quotedValue '"')) "\">" .text :=
    ⟨rfl, rfl⟩
  exact (((opened.append (reads_number_name level).silent).append named).append
    (reads_value unquoted).silent).append closed

theorem silent_headingStop (level : Nat) : Silent .text (headingStop level) .text := by
  have opened : Silent .text "</h" (.tag true ['h'] .name) := ⟨rfl, rfl⟩
  have closed : Silent (.tag true ('h' :: (toString level).toList) .name) ">" .text := ⟨rfl, rfl⟩
  exact (opened.append (reads_number_name level).silent).append closed

theorem silent_listStart (first : Option Nat) : Silent .text (listStart first) .text := by
  unfold listStart
  split
  · exact ⟨rfl, rfl⟩
  · exact ⟨rfl, rfl⟩
  · rename_i n _
    have opened : Silent .text "<ol start=\"" (.tag false "ol".toList (.quotedValue '"')) := ⟨rfl, rfl⟩
    have closed : Silent (.tag false "ol".toList (.quotedValue '"')) "\">" .text := ⟨rfl, rfl⟩
    exact (opened.append (reads_number_value n).silent).append closed

theorem silent_listStop (ordered : Bool) : Silent .text (listStop ordered) .text := by
  cases ordered <;> exact ⟨rfl, rfl⟩

theorem References.decodeFrom_escaped (references : References) (plain rest : List Char) :
    references.decodeFrom none (plain.flatMap escapeHtmlChar ++ rest) =
      plain ++ references.decodeFrom none rest := by
  induction plain with
  | nil => rfl
  | cons c cs ih =>
    rw [List.flatMap_cons, List.append_assoc, List.cons_append, ← ih]
    generalize cs.flatMap escapeHtmlChar ++ rest = behind
    have named (name : List Char) {value : Char} (named : references.value? name = some [value]) :
        (references.value? name).getD ('&' :: name ++ [';']) ++ references.decodeFrom none behind =
          value :: references.decodeFrom none behind := by
      rw [named]
      rfl
    unfold escapeHtmlChar
    split
    · exact named "amp".toList references.amp
    · exact named "lt".toList references.lt
    · exact named "gt".toList references.gt
    · exact named "quot".toList references.quot
    · exact named "#x27".toList rfl
    · rename_i other _ _ _ _
      rw [List.singleton_append, decodeFrom, if_neg other]

theorem References.decode_escaped (references : References) (plain : List Char) :
    references.decode (plain.flatMap escapeHtmlChar) = plain := by
  have decoded := references.decodeFrom_escaped plain []
  rwa [List.append_nil, decodeFrom, List.append_nil] at decoded

private theorem escapeHtmlChar_of_blank {b c : Char} (member : b ∈ escapeHtmlChar c)
    (blank : isBlank b = true) : escapeHtmlChar c = [c] := by
  have absurd (name : List Char) (none : name.all (!isBlank ·) = true) (member : b ∈ name) : False := by
    simpa [blank] using List.all_eq_true.mp none b member
  unfold escapeHtmlChar
  split
  · exact (absurd "&amp;".toList (by decide) member).elim
  · exact (absurd "&lt;".toList (by decide) member).elim
  · exact (absurd "&gt;".toList (by decide) member).elim
  · exact (absurd "&quot;".toList (by decide) member).elim
  · exact (absurd "&#x27;".toList (by decide) member).elim
  · rfl

private theorem exists_of_blank {plain front rest : List Char} {b : Char} (blank : isBlank b = true)
    (escaped : plain.flatMap escapeHtmlChar = front ++ b :: rest) :
    ∃ inner more, plain = inner ++ b :: more ∧ inner.flatMap escapeHtmlChar = front ∧
      more.flatMap escapeHtmlChar = rest := by
  induction plain generalizing front with
  | nil => simp at escaped
  | cons c cs ih =>
    rw [List.flatMap_cons] at escaped
    rcases List.append_eq_append_iff.mp escaped with ⟨between, rfl, others⟩ | ⟨between, here, others⟩
    · obtain ⟨inner, more, rfl, rfl, behind⟩ := ih others
      exact ⟨c :: inner, more, rfl, rfl, behind⟩
    · cases between with
      | nil =>
        rw [List.nil_append] at others
        obtain ⟨inner, more, rfl, none, behind⟩ := ih (others.symm.trans (List.nil_append _).symm)
        rw [List.append_nil] at here
        exact ⟨c :: inner, more, rfl, by rw [List.flatMap_cons, none, here, List.append_nil], behind⟩
      | cons d between =>
        rw [List.cons_append, List.cons.injEq] at others
        obtain ⟨rfl, rfl⟩ := others
        have member : b ∈ escapeHtmlChar c := by
          rw [here]
          exact List.mem_append_right front List.mem_cons_self
        rw [escapeHtmlChar_of_blank member blank, eq_comm, List.append_eq_singleton_iff] at here
        rcases here with ⟨rfl, same⟩ | ⟨-, same⟩
        · obtain ⟨rfl, rfl⟩ := List.cons.inj same
          exact ⟨[], cs, rfl, rfl, rfl⟩
        · cases same

private theorem eq_nil_of_escaped {plain : List Char} (none : plain.flatMap escapeHtmlChar = []) :
    plain = [] := by
  cases plain with
  | nil => rfl
  | cons c cs =>
    rw [List.flatMap_cons, List.append_eq_nil_iff] at none
    have gone := none.1
    unfold escapeHtmlChar at gone
    split at gone <;> cases gone

private theorem exists_of_blanks {plain lead rest : List Char} (blank : lead.all isBlank = true)
    (escaped : plain.flatMap escapeHtmlChar = lead ++ rest) :
    ∃ inner, plain = lead ++ inner ∧ inner.flatMap escapeHtmlChar = rest := by
  induction lead generalizing plain with
  | nil => exact ⟨plain, rfl, escaped⟩
  | cons b lead ih =>
    rw [List.all_cons, Bool.and_eq_true] at blank
    obtain ⟨front, more, rfl, none, others⟩ :=
      exists_of_blank blank.1 (escaped.trans (List.nil_append _).symm)
    obtain rfl := eq_nil_of_escaped none
    obtain ⟨inner, rfl, behind⟩ := ih blank.2 others
    exact ⟨inner, rfl, behind⟩

private theorem exists_between_blanks {plain lead rest trail : List Char}
    (before : lead.all isBlank = true) (behind : trail.all isBlank = true)
    (escaped : plain.flatMap escapeHtmlChar = lead ++ (rest ++ trail)) :
    ∃ inner, inner.flatMap escapeHtmlChar = rest ∧ dark inner = dark plain := by
  obtain ⟨most, rfl, others⟩ := exists_of_blanks before escaped
  cases trail with
  | nil => exact ⟨most, by simpa using others, by simp [Text.dark_eq_nil before]⟩
  | cons b trail =>
    rw [List.all_cons, Bool.and_eq_true] at behind
    obtain ⟨inner, more, rfl, shown, ends⟩ := exists_of_blank behind.1 others
    have whole : more.flatMap escapeHtmlChar = trail ++ [] := by rw [ends, List.append_nil]
    obtain ⟨none, rfl, gone⟩ := exists_of_blanks behind.2 whole
    obtain rfl := eq_nil_of_escaped gone
    have blanks : (b :: (trail ++ [])).all isBlank = true := by simpa [behind.1] using behind.2
    refine ⟨inner, shown, ?_⟩
    rw [Text.dark_append, Text.dark_append, Text.dark_eq_nil before, Text.dark_eq_nil blanks,
      List.nil_append, List.append_nil]

private theorem shown_text {cs : List Char} (plain : ∀ c ∈ cs, c ≠ '<') :
    (read .text cs).2 = .text ∧ shown .text cs = cs := by
  induction cs with
  | nil => exact ⟨rfl, rfl⟩
  | cons c cs ih =>
    obtain ⟨here, others⟩ := List.forall_mem_cons.mp plain
    obtain ⟨reads, shows⟩ := ih others
    simp [read, shown, Reading.step, Reading.shows, here, reads, shows]

private theorem ne_bracket_of_escaped (plain : List Char) :
    ∀ c ∈ plain.flatMap escapeHtmlChar, c ≠ '<' := by
  intro c member
  have inert := Text.isInert_of_mem_escapeHtml (s := String.ofList plain) (c := c)
    (by simpa [escapeHtml] using member)
  rintro rfl
  exact absurd inert (by decide)

/-- Whether HTML is read to its end, and shows some text and blanks, all of it escaped. -/
def Shows (html : String) (text : List Char) : Prop :=
  (read .text html.toList).2 = .text ∧
    ∃ plain, shown .text html.toList = plain.flatMap escapeHtmlChar ∧ dark plain = text

theorem Shows.dark_decode (shows : Shows html text) (references : References) :
    dark (references.decode (textContent html)) = text := by
  obtain ⟨reads, plain, escaped, same⟩ := shows
  rw [textContent, reads, escaped, show Reading.rest .text = [] from rfl, List.append_nil,
    references.decode_escaped, same]

theorem Shows.append (first : Shows front text) (second : Shows back more) :
    Shows (front ++ back) (text ++ more) := by
  obtain ⟨reads, plain, escaped, rfl⟩ := first
  obtain ⟨reads', plain', escaped', rfl⟩ := second
  refine ⟨?_, plain ++ plain', ?_, Text.dark_append ..⟩
  · rw [String.toList_append, read_append, reads, reads']
  · rw [String.toList_append, shown_append, reads, escaped, escaped', List.flatMap_append]

theorem Silent.shows_nil (silent : Silent .text html .text) : Shows html [] :=
  ⟨silent.reads, [], silent.shows, rfl⟩

theorem Shows.around (shows : Shows html text) (opened : Silent .text front .text)
    (closed : Silent .text back .text) : Shows (front ++ html ++ back) text := by
  have whole := (opened.shows_nil.append shows).append closed.shows_nil
  rwa [List.nil_append, List.append_nil] at whole

theorem Shows.trim (shows : Shows html text) : Shows (Text.trim html) text := by
  obtain ⟨reads, plain, escaped, rfl⟩ := shows
  obtain ⟨lead, trail, before, behind, whole⟩ := Text.exists_trim_append html
  have blank : ∀ c ∈ lead, c ≠ '<' := by
    rintro c member rfl
    exact absurd (List.all_eq_true.mp before _ member) (by decide)
  obtain ⟨readsLead, showsLead⟩ := shown_text blank
  rw [whole, List.append_assoc, read_append, readsLead, read_append] at reads
  rw [whole, List.append_assoc, shown_append, readsLead, showsLead, shown_append] at escaped
  have plainTrail : ∀ c ∈ trail, c ≠ '<' := by
    rintro c member rfl
    exact absurd (List.all_eq_true.mp behind _ member) (by decide)
  -- A `<` before the blanks at the end would be seen.
  have atText : (read .text (Text.trim html).toList).2 = .text := by
    refine (read_blanks behind reads).1.resolve_right fun opened => ?_
    rw [opened] at reads escaped
    cases trail with
    | nil => cases reads
    | cons c rest =>
      rw [List.all_cons, Bool.and_eq_true] at behind
      have next := (read_blanks behind.2 (r := (Reading.step .opened c).1) reads).1
      have seen : '<' ∈ Reading.shows .opened c := by
        simp only [Reading.shows]
        rcases next with same | same <;> rw [same] <;> exact List.mem_cons_self
      refine ne_bracket_of_escaped plain '<' ?_ rfl
      rw [← escaped, shown]
      simp [seen]
  rw [atText, (shown_text plainTrail).2] at escaped
  obtain ⟨inner, shown, same⟩ := exists_between_blanks before behind escaped.symm
  exact ⟨atText, inner, shown.symm, same⟩

theorem shows_escapeHtml (source : String) : Shows (escapeHtml source) (dark source.toList) := by
  have chars : (escapeHtml source).toList = source.toList.flatMap escapeHtmlChar := by
    rw [escapeHtml, String.toList_ofList]
  obtain ⟨reads, shows⟩ := shown_text (ne_bracket_of_escaped source.toList)
  exact ⟨by rw [chars, reads], source.toList, by rw [chars, shows], rfl⟩

theorem shows_codeSpan (source : String) : Shows (codeSpan source) (dark source.toList) := by
  have opened : Silent .text "<code>" .text := ⟨rfl, rfl⟩
  exact (shows_escapeHtml source).around opened ⟨rfl, rfl⟩

theorem shows_math (expression : String) (display : Bool) :
    Shows (math expression display) (dark expression.toList) := by
  have opened : Silent .text
      ("<span class=\"math " ++ (if display then "math-display" else "math-inline") ++ "\">") .text := by
    cases display <;> exact ⟨rfl, rfl⟩
  exact (shows_escapeHtml expression).around opened ⟨rfl, rfl⟩

theorem shows_codeBlock (language : Option String) (source : String) (lines : Option Nat) :
    Shows (codeBlock language source lines) (dark source.toList) :=
  (shows_escapeHtml source).around (silent_codeStart language lines.isSome) (silent_codeStop lines)

theorem shows_alertStart (kind : AlertKind) :
    Shows (alertStart kind) (dark (alertTitle kind).toList) := by
  have opened : Silent .text
      ("<div class=\"alert alert-" ++ alertClass kind ++ "\"><p class=\"alert-title\">") .text := by
    cases kind <;> exact ⟨rfl, rfl⟩
  have title : Shows (alertTitle kind) (dark (alertTitle kind).toList) := by
    cases kind <;> exact ⟨rfl, (alertTitle _).toList, rfl, rfl⟩
  exact title.around opened ⟨rfl, rfl⟩

theorem shows_taskMarker (checked : Bool) : Shows (taskMarker checked) [] := by
  cases checked <;> exact ⟨rfl, [' '], rfl, rfl⟩

theorem shows_heading (level : Nat) {id : String} (unquoted : ∀ c ∈ id.toList, c ≠ '"')
    (shows : Shows html text) :
    Shows (headingStart level id ++ Text.trim html ++ headingStop level) text :=
  shows.trim.around (silent_headingStart level unquoted) (silent_headingStop level)

end Mathdown.Html
