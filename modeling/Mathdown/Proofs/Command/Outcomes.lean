import Mathdown.Command
import Mathdown.Proofs.Text.Utf8

namespace Mathdown

namespace Text

/-- The lines of a text that are not blank, each without the blanks at either end. -/
def darkLines (text : String) : List String :=
  ((text.toList.splitOn '\n').filter fun line => !line.all isBlank).map fun line =>
    trim (String.ofList line)

theorem splitLines_eq (cs : List Char) : splitLines cs = cs.splitOn '\n' := by
  induction cs with
  | nil => rfl
  | cons c cs ih =>
    rw [splitLines, List.splitOn_cons_eq_if_modifyHead, ih]
    by_cases ends : c = '\n'
    · rw [if_pos ends, if_pos (beq_iff_eq.mpr ends)]
    · rw [if_neg ends, if_neg (mt beq_iff_eq.mp ends)]
      obtain ⟨line, rest, cut⟩ := List.exists_cons_of_ne_nil (List.splitOn_ne_nil '\n' cs)
      rw [cut]
      rfl

theorem trim_eq_empty_iff {s : String} : trim s = "" ↔ allBlank s = true := by
  constructor
  · intro empty
    obtain ⟨lead, trail, before, behind, cut⟩ := exists_trim_append s
    rw [empty, String.toList_empty, List.append_nil] at cut
    rw [allBlank, cut, List.all_append, before, behind]
    rfl
  · intro blank
    have gone := trimLeft_append s.toList []
    rw [List.append_nil, if_pos (show s.toList.all isBlank = true from blank)] at gone
    rw [trim, gone]
    rfl

theorem trim_dropReturn (line : List Char) :
    trim (String.ofList (dropReturn line)) = trim (String.ofList line) := by
  unfold dropReturn
  split
  · rename_i ended
    obtain ⟨front, rfl⟩ := List.getLast?_eq_some_iff.mp ended
    have padded := @trim_between "" "\r" rfl (by decide) (String.ofList front)
    rw [List.dropLast_concat, ← padded, String.empty_append, String.ofList_append]
  · rfl

/-- The lines of a text are what stands between its line feeds, but for carriage returns and an empty end. -/
theorem exists_lines (text : String) :
    ∃ front last, text.toList.splitOn '\n' = front ++ [last] ∧
      lines text = (front.map dropReturn ++ if last = [] then [] else [last]).map String.ofList := by
  obtain ⟨front, last, cut⟩ :=
    (List.eq_nil_or_concat (text.toList.splitOn '\n')).resolve_left (List.splitOn_ne_nil _ _)
  rw [List.concat_eq_append] at cut
  refine ⟨front, last, cut, ?_⟩
  rw [lines, splitLines_eq, cut, List.dropLast_concat, List.getLast?_concat]
  cases last <;> rfl

theorem darkLines_eq (text : String) :
    darkLines text = ((lines text).map trim).filter (· != "") := by
  let shown (line : List Char) : String := trim (String.ofList line)
  have dark (line : List Char) : (!line.all isBlank) = (shown line != "") := by
    rw [Bool.eq_iff_iff, bne_iff_ne, ne_eq, trim_eq_empty_iff, allBlank, String.toList_ofList]
    simp
  have returns (front : List (List Char)) : (front.map dropReturn).map shown = front.map shown := by
    rw [List.map_map]
    exact List.map_congr_left fun line _ => trim_dropReturn line
  obtain ⟨front, last, cut, read⟩ := exists_lines text
  calc
    darkLines text = ((front ++ [last]).map shown).filter (· != "") := by
      rw [darkLines, cut, List.filter_map]
      exact congrArg (List.map shown) (List.filter_congr fun line _ => dark line)
    _ = ((front.map dropReturn ++ if last = [] then [] else [last]).map shown).filter (· != "") := by
      rw [List.map_append, List.map_append, returns, List.filter_append, List.filter_append]
      cases last <;> rfl
    _ = ((lines text).map trim).filter (· != "") := by rw [read, List.map_map]; rfl

theorem dark_of_mem_darkLines {text line : String} (member : line ∈ darkLines text) :
    allBlank line = false := by
  rw [darkLines_eq] at member
  obtain ⟨trimmed, some⟩ := List.mem_filter.mp member
  obtain ⟨whole, -, rfl⟩ := List.mem_map.mp trimmed
  exact (solid_trim (bne_iff_ne.mp some)).all_eq_false

end Text

namespace Command

open Text (Solid allBlank darkLines)
open Text.Utf8 (decodeLossy decodeLossy_encode encode)

variable {c : Command} {outcome : ProcessOutcome} {status : ExitStatus} {output errors : List UInt8}

theorem result_of_success :
    c.result (.ended (.code 0) output errors) =
      if allBlank (decodeLossy output) then .error ⟨[c.program ++ " produced no output"]⟩
      else .ok (Text.trim (decodeLossy output)) := by
  have success : ExitStatus.isSuccess (.code 0) = true := rfl
  have empty : (Text.trim (decodeLossy output)).isEmpty = allBlank (decodeLossy output) := by
    rw [Bool.eq_iff_iff, String.isEmpty_iff, Text.trim_eq_empty_iff]
  simp only [result, success, Bool.not_true, Bool.false_eq_true, if_false, empty]

theorem result_of_failure (failed : status ≠ .code 0) :
    c.result (.ended status output errors) =
      .error ⟨if darkLines (decodeLossy errors) = [] then [c.program ++ " exited with " ++ status.text]
        else darkLines (decodeLossy errors)⟩ := by
  have failure : status.isSuccess = false := beq_eq_false_iff_ne.mpr failed
  have read : messageLines (decodeLossy errors) = darkLines (decodeLossy errors) :=
    (Text.darkLines_eq _).symm
  simp only [result, failure, Bool.not_false, if_true, read]
  cases darkLines (decodeLossy errors) <;> rfl

/-- A drawing is what a process has written that succeeds and writes something that is not blank. -/
theorem result_eq_ok_iff {svg : String} :
    c.result outcome = .ok svg ↔ ∃ output errors, outcome = .ended (.code 0) output errors ∧
      allBlank (decodeLossy output) = false ∧ svg = Text.trim (decodeLossy output) := by
  cases outcome with
  | notFound | failed message => exact ⟨nofun, nofun⟩
  | ended status output errors =>
    by_cases success : status = .code 0
    · subst success
      rw [result_of_success]
      constructor
      · intro drawn
        split at drawn
        · cases drawn
        · rename_i dark
          exact ⟨output, errors, rfl, eq_false_of_ne_true dark, (Except.ok.inj drawn).symm⟩
      · rintro ⟨_, _, ⟨⟩, dark, rfl⟩
        rw [dark]
        rfl
    · rw [result_of_failure success]
      exact ⟨nofun, fun ⟨_, _, ended, _⟩ => absurd (ProcessOutcome.ended.inj ended).1 success⟩

/-- Any other outcome is told; a process that fails tells it itself, if it says something. -/
theorem messages_of_result {e : FallbackError} (failed : c.result outcome = .error e) :
    e.messages ≠ [] ∧ (∀ message ∈ e.messages, allBlank message = false) ∧
      ∀ status output errors, outcome = .ended status output errors → status ≠ .code 0 →
        darkLines (decodeLossy errors) ≠ [] → e.messages = darkLines (decodeLossy errors) := by
  cases outcome with
  | notFound =>
    cases failed
    have words : allBlank "math command not found: " = false := by decide
    exact ⟨List.cons_ne_nil _ _, by simp [Text.allBlank_append, words], nofun⟩
  | failed message =>
    cases failed
    have words : allBlank "failed to run " = false := by decide
    exact ⟨List.cons_ne_nil _ _, by simp [Text.allBlank_append, words], nofun⟩
  | ended status output errors =>
    by_cases success : status = .code 0
    · subst success
      rw [result_of_success] at failed
      split at failed
      · cases failed
        -- Each message names the command between words, so that it is never blank.
        have words : allBlank " produced no output" = false := by decide
        refine ⟨List.cons_ne_nil _ _, by simp [Text.allBlank_append, words], ?_⟩
        rintro _ _ _ ⟨⟩ failure
        exact absurd rfl failure
      · cases failed
    · rw [result_of_failure success] at failed
      cases failed
      have words : allBlank " exited with " = false := by decide
      dsimp only
      split
      · rename_i silent
        refine ⟨List.cons_ne_nil _ _, by simp [Text.allBlank_append, words], ?_⟩
        rintro _ _ _ ⟨⟩ - said
        exact absurd silent said
      · rename_i said
        refine ⟨said, fun _ => Text.dark_of_mem_darkLines, ?_⟩
        rintro _ _ _ ⟨⟩ - -
        rfl

/--
The command is run with its own arguments, then the flag for inline math if it is for that, then two
dashes and the expression. A drawing comes out just if the process succeeds and what it writes is not
blank: it is that without the blanks at either end, and so is neither empty nor padded. Text comes out as it
is written; bytes that are none are replaced. Anything else is an error with at least one message, none of
them blank, and these are the lines that a failing process writes to its standard error, unless they all
are blank.
-/
theorem typeset_outcome {ω : Type} (c : Command) (run : String → List String → ProcessOutcome)
    (expression : String) (format : TexFormat) (w : ω) :
    let given := c.args ++ (if format = .inline then ["--inline"] else []) ++ ["--", expression]
    ∃ result, (c.fallback run).typeset expression format w = (.ready result, w) ∧
      (∀ svg, result = .ok svg ↔ ∃ output errors,
        run c.program given = .ended (.code 0) output errors ∧
          allBlank (decodeLossy output) = false ∧ svg = Text.trim (decodeLossy output)) ∧
      (∀ svg, result = .ok svg → svg ≠ "" ∧ Solid svg.toList) ∧
      (∀ text errors, run c.program given = .ended (.code 0) (encode text.toList) errors →
        allBlank text = false → result = .ok (Text.trim text)) ∧
      ∀ e, result = .error e → e.messages ≠ [] ∧
        (∀ message ∈ e.messages, allBlank message = false) ∧
        ∀ status output errors, run c.program given = .ended status output errors →
          status ≠ .code 0 → darkLines (decodeLossy errors) ≠ [] →
            e.messages = darkLines (decodeLossy errors) := by
  intro given
  refine ⟨c.result (run c.program given), rfl, fun svg => result_eq_ok_iff, fun svg drawn => ?_,
    fun text errors ended dark => ?_, fun e failed => messages_of_result failed⟩
  · obtain ⟨output, errors, -, dark, rfl⟩ := result_eq_ok_iff.mp drawn
    have some : Text.trim (decodeLossy output) ≠ "" := by
      rw [ne_eq, Text.trim_eq_empty_iff, dark]
      exact Bool.false_ne_true
    exact ⟨some, Text.solid_trim some⟩
  · refine result_eq_ok_iff.mpr ⟨_, errors, ended, ?_, ?_⟩ <;> rw [decodeLossy_encode]
    exact dark

end Command

end Mathdown
