import Mathdown.Html.Reference
import Mathdown.Text.Escape

/-!
Text as it is written into HTML. Both ways of writing can be undone by expanding references, whatever
the text looks like, and what they write begins and ends no tag, no quotation, and no reference but
their own.
-/

namespace Mathdown.Text

/-- The references that `escapeHtml` writes, behind their ampersands. -/
def htmlReferences : List String := ["amp;", "lt;", "gt;", "quot;", "#x27;"]

theorem escapeHtmlChar_cases (c : Char) :
    (c ≠ '&' ∧ escapeHtmlChar c = [c]) ∨
      ∃ name ∈ htmlReferences, escapeHtmlChar c = '&' :: name.toList := by
  unfold escapeHtmlChar
  split
  · exact .inr ⟨"amp;", by decide, rfl⟩
  · exact .inr ⟨"lt;", by decide, rfl⟩
  · exact .inr ⟨"gt;", by decide, rfl⟩
  · exact .inr ⟨"quot;", by decide, rfl⟩
  · exact .inr ⟨"#x27;", by decide, rfl⟩
  · rename_i other _ _ _ _
    exact .inl ⟨other, rfl⟩

private theorem suffix_of_notMem {c : Char} {front back rest : List Char} (absent : c ∉ front)
    (ends : c :: rest <:+ front ++ back) : c :: rest <:+ back := by
  induction front with
  | nil => exact ends
  | cons d front ih =>
    rw [List.mem_cons, not_or] at absent
    rcases List.suffix_cons_iff.mp ends with same | later
    · exact absurd (List.cons.inj same).1 absent.1
    · exact ih absent.2 later

theorem reference_of_suffix {s : String} {back : List Char}
    (ends : '&' :: back <:+ (escapeHtml s).toList) : ∃ name ∈ htmlReferences, name.toList <+: back := by
  rw [escapeHtml, String.toList_ofList] at ends
  generalize s.toList = cs at ends
  induction cs with
  | nil => exact absurd (List.suffix_nil.mp ends) (List.cons_ne_nil _ _)
  | cons c cs ih =>
    rw [List.flatMap_cons] at ends
    rcases escapeHtmlChar_cases c with ⟨other, shown⟩ | ⟨name, listed, shown⟩
    · rw [shown] at ends
      exact ih (suffix_of_notMem (by simpa using other.symm) ends)
    · rw [shown, List.cons_append] at ends
      rcases List.suffix_cons_iff.mp ends with here | later
      · exact ⟨name, listed, _, (List.cons.inj here).2.symm⟩
      · have absent : ∀ name ∈ htmlReferences, '&' ∉ name.toList := by decide
        exact ih (suffix_of_notMem (absent name listed) later)

/-- Whether a text is a letter, a digit, a space, or a decimal reference of at most seven digits. -/
def IsCodePiece (piece : List Char) : Prop :=
  (∃ c, (c.isAlphanum = true ∨ c = ' ') ∧ piece = [c]) ∨
    ∃ digits, digits ≠ [] ∧ digits.length ≤ 7 ∧ digits.all Char.isDigit = true ∧
      piece = '&' :: '#' :: digits ++ [';']

theorem all_isDigit_toDigits (n : Nat) : (Nat.toDigits 10 n).all Char.isDigit = true :=
  List.all_eq_true.mpr fun _ member => Nat.isDigit_of_mem_toDigits (by decide) (by decide) member

theorem toNat_lt (c : Char) : c.toNat < 0x110000 := by
  have valid : c.toNat.isValidChar := c.valid
  unfold Nat.isValidChar at valid
  omega

theorem isCodePiece_escapeCodeChar (c : Char) : IsCodePiece (escapeCodeChar c) := by
  unfold escapeCodeChar
  split
  · rename_i plain
    exact .inl ⟨c, by simpa [isPlainCode] using plain, rfl⟩
  · have short : (Nat.toDigits 10 c.toNat).length ≤ 7 :=
      (Nat.length_toDigits_le_iff (by decide) (by decide)).mpr
        (Nat.lt_trans (toNat_lt c) (by decide))
    exact .inr ⟨_, Nat.toDigits_ne_nil, short, all_isDigit_toDigits _, rfl⟩

end Mathdown.Text

namespace Mathdown.Html

open Text (escapeCode escapeCodeChar escapeHtml escapeHtmlChar isPlainCode)

variable {value? : List Char → Option (List Char)}

private theorem expandFrom_part {name : List Char} (inner : name.all References.isPart = true)
    (part rest : List Char) :
    expandFrom value? (some part) (name ++ ';' :: rest) =
      (value? (part ++ name)).getD ('&' :: (part ++ name) ++ [';']) ++ expandFrom value? none rest := by
  induction name generalizing part with
  | nil => rw [List.nil_append, List.append_nil, expandFrom, if_pos rfl]
  | cons c name ih =>
    rw [List.all_cons, Bool.and_eq_true] at inner
    have within : c ≠ ';' := by rintro rfl; cases inner.1
    rw [List.cons_append, expandFrom, if_neg within, if_pos inner.1, ih inner.2, List.append_assoc]
    rfl

/-- How a character may be written: as it is, or as a reference that stands for it. -/
inductive Written (value? : List Char → Option (List Char)) (c : Char) : List Char → Prop
  | plain (other : c ≠ '&') : Written value? c [c]
  | reference (name : List Char) (inner : name.all References.isPart = true)
    (value : value? name = some [c]) : Written value? c ('&' :: name ++ [';'])

theorem Written.expandFrom {c : Char} {form : List Char} (written : Written value? c form)
    (rest : List Char) : expandFrom value? none (form ++ rest) = c :: expandFrom value? none rest := by
  cases written with
  | plain other => rw [List.singleton_append, Html.expandFrom, if_neg other]
  | reference name inner value =>
    rw [List.append_assoc, List.singleton_append, List.cons_append, Html.expandFrom, if_pos rfl,
      expandFrom_part inner, List.nil_append, value]
    rfl

theorem expandFrom_flatMap {form : Char → List Char} {read : Char → Char}
    (written : ∀ c, Written value? (read c) (form c)) (cs : List Char) :
    expandFrom value? none (cs.flatMap form) = cs.map read := by
  induction cs with
  | nil => rfl
  | cons c cs ih => rw [List.flatMap_cons, (written c).expandFrom, ih, List.map_cons]

namespace References

theorem written_escapeHtmlChar (references : References) (c : Char) :
    Written (references.valueBy? numbered?) c (escapeHtmlChar c) := by
  unfold escapeHtmlChar
  split
  · exact .reference "amp".toList (by decide) references.amp
  · exact .reference "lt".toList (by decide) references.lt
  · exact .reference "gt".toList (by decide) references.gt
  · exact .reference "quot".toList (by decide) references.quot
  · exact .reference "#x27".toList (by decide) rfl
  · rename_i other _ _ _ _
    exact .plain other

theorem valueBy?_decimal (references : References) (number? : Nat → Option (List Char)) (n : Nat) :
    references.valueBy? number? ('#' :: Nat.toDigits 10 n) = number? n := by
  have digits := Text.all_isDigit_toDigits n
  have read : Markdown.Entity.ofDecimal (Nat.toDigits 10 n) = n :=
    Nat.ofDigitChars_eq_foldl.symm.trans Nat.ofDigitChars_ten_toDigits
  obtain ⟨d, ds, same⟩ := List.exists_cons_of_ne_nil (Nat.toDigits_ne_nil (n := n) (b := 10))
  rw [same] at digits read ⊢
  unfold valueBy?
  split
  · rename_i hex
    cases hex
    cases digits
  · rename_i hex
    cases hex
    cases digits
  · rename_i decimal
    cases decimal
    rw [read, digits]
    rfl
  · rename_i other
    exact absurd rfl (other _)

/-- Where a character's number stands for some character, code is read as with that in its place. -/
theorem written_escapeCodeChar (references : References) {number? : Nat → Option (List Char)}
    {c d : Char}
    (plain : isPlainCode c = true → d = c) (value : number? c.toNat = some [d]) :
    Written (references.valueBy? number?) d (escapeCodeChar c) := by
  unfold escapeCodeChar
  split
  · rename_i kept
    obtain rfl := plain kept
    refine .plain ?_
    rintro rfl
    cases kept
  · refine .reference ('#' :: Nat.toDigits 10 c.toNat) ?_ ?_
    · refine List.all_eq_true.mpr fun d member => ?_
      rcases List.mem_cons.mp member with rfl | member
      · rfl
      · have digit := List.all_eq_true.mp (Text.all_isDigit_toDigits _) d member
        simp [isPart, Char.isAlphanum, digit]
    · rw [valueBy?_decimal, value]

theorem expand_escapeHtml (references : References) (s : String) :
    references.expand (escapeHtml s).toList = s.toList := by
  rw [escapeHtml, String.toList_ofList, expand, expandFrom_flatMap references.written_escapeHtmlChar,
    List.map_id']

theorem expand_escapeCode (references : References) (s : String) :
    references.expand (escapeCode s).toList = s.toList := by
  have numbered (c : Char) : numbered? c.toNat = some [c] := by
    have valid : c.toNat.isValidChar := c.valid
    rw [numbered?, if_pos valid, Char.ofNat_toNat]
  rw [escapeCode, String.toList_ofList, expand,
    expandFrom_flatMap fun c => references.written_escapeCodeChar (fun _ => rfl) (numbered c),
    List.map_id']

/-- A reader of HTML sees code as it is, but for characters zero, which HTML cannot show. -/
theorem decode_escapeCode (references : References) (s : String) :
    references.decode (escapeCode s).toList =
      s.toList.map fun c => if c = '\x00' then '\uFFFD' else c := by
  rw [decode_eq, value?_eq, escapeCode, String.toList_ofList]
  refine expandFrom_flatMap (fun c => references.written_escapeCodeChar (fun plain => if_neg ?_) ?_) _
  · rintro rfl
    cases plain
  · refine congrArg (fun d => some [d]) ?_
    have valid : c.toNat.isValidChar := c.valid
    rw [Markdown.Entity.ofCodePoint]
    by_cases zero : c = '\x00'
    · subst zero
      rfl
    · have some : c.toNat ≠ 0 := fun none => zero (Char.toNat_inj.mp none)
      rw [if_neg zero, if_neg (by simpa using some), dif_pos valid]
      rfl

end References

/--
Whatever a text looks like, expanding references gives it back from both ways of writing it. Numbers are
read plainly here (`References.expand`): a reference stands for the character of its number, whichever that
is, and so also for the characters that `References.decode` replaces as a browser does. Text that is written
as HTML has no brackets and no quotation marks, and each ampersand in it begins one of the five references
that are written; written as code, it consists of letters, digits, spaces and decimal references.
-/
theorem escapes_undone (references : References) (s : String) :
    let html := (escapeHtml s).toList
    let code := (escapeCode s).toList
    references.expand html = s.toList ∧ references.expand code = s.toList ∧
      (∀ c ∈ html, c ≠ '<' ∧ c ≠ '>' ∧ c ≠ '"' ∧ c ≠ '\'') ∧
      (∀ front back, html = front ++ '&' :: back → ∃ name ∈ Text.htmlReferences, name.toList <+: back) ∧
      ∃ pieces : List (List Char), code = pieces.flatten ∧ ∀ piece ∈ pieces, Text.IsCodePiece piece := by
  refine ⟨references.expand_escapeHtml s, references.expand_escapeCode s, ?_, ?_, ?_⟩
  · intro c member
    have inert := Text.isInert_of_mem_escapeHtml member
    simpa [Text.isInert, and_assoc] using inert
  · intro front back split
    exact Text.reference_of_suffix ⟨front, split.symm⟩
  · refine ⟨s.toList.map escapeCodeChar, ?_, ?_⟩
    · rw [escapeCode, String.toList_ofList, List.flatMap_def]
    · intro piece member
      obtain ⟨c, -, rfl⟩ := List.mem_map.mp member
      exact Text.isCodePiece_escapeCodeChar c

end Mathdown.Html
