import Mathdown.Text.Blank

/-!
Slugs: the identifiers that headings get from their text. One pass keeps ASCII letters and digits
in lower case, and writes one dash for each run of blanks, dashes and underscores between them.
-/

namespace Mathdown.Text

def isSeparator (c : Char) : Bool := isBlank c || c == '-' || c == '_'

/--
The pass over the text. `dashed` says that no dash may be written now: nothing has been written
yet, or a dash was the last thing written.
-/
def slugChars : (dashed : Bool) → List Char → List Char
  | _, [] => []
  | dashed, c :: cs =>
    if c.isAlphanum then c.toLower :: slugChars false cs
    else if !dashed && isSeparator c then '-' :: slugChars true cs
    else slugChars dashed cs

def dropDash (cs : List Char) : List Char :=
  if cs.getLast? = some '-' then cs.dropLast else cs

def slugify (s : String) : String :=
  String.ofList (dropDash (slugChars true (trimRight (trimLeft s.toList))))

def isSlugChar (c : Char) : Bool := c.isLower || c.isDigit

theorem isAlphanum_of_isSlugChar {c : Char} (word : isSlugChar c = true) : c.isAlphanum = true := by
  rw [isSlugChar, Bool.or_eq_true] at word
  rcases word with lower | digit
  · exact Bool.or_eq_true_iff.mpr (.inl (Bool.or_eq_true_iff.mpr (.inr lower)))
  · exact Bool.or_eq_true_iff.mpr (.inr digit)

theorem isSlugChar_toLower {c : Char} (word : c.isAlphanum = true) : isSlugChar c.toLower = true := by
  by_cases upper : c.val ≥ 'A'.val ∧ c.val ≤ 'Z'.val
  · have lower : c.toLower.val = c.val + ('a'.val - 'A'.val) := congrArg Char.val (dif_pos upper)
    rw [ge_iff_le, UInt32.le_iff_toNat_le, UInt32.le_iff_toNat_le] at upper
    change 65 ≤ _ ∧ _ ≤ 90 at upper
    have moved : c.toLower.val.toNat = c.val.toNat + 32 := by
      rw [lower, UInt32.toNat_add]
      change (_ + 32) % 4294967296 = _
      omega
    have first : 'a'.val ≤ c.toLower.val := by
      rw [UInt32.le_iff_toNat_le, moved]
      change 97 ≤ _
      omega
    have last : c.toLower.val ≤ 'z'.val := by
      rw [UInt32.le_iff_toNat_le, moved]
      change _ ≤ 122
      omega
    have small : c.toLower.isLower = true :=
      Bool.and_eq_true_iff.mpr ⟨decide_eq_true first, decide_eq_true last⟩
    exact Bool.or_eq_true_iff.mpr (.inl small)
  · have other : c.isUpper = false := decide_eq_false upper
    rwa [show c.toLower = c from dif_neg upper, isSlugChar, ← Bool.false_or c.isLower, ← other]

theorem toLower_of_isSlugChar {c : Char} (word : isSlugChar c = true) : c.toLower = c := by
  refine dif_neg fun upper => ?_
  rw [ge_iff_le, UInt32.le_iff_toNat_le, UInt32.le_iff_toNat_le] at upper
  change 65 ≤ _ ∧ _ ≤ 90 at upper
  delta isSlugChar Char.isLower Char.isDigit at word
  simp only [Bool.or_eq_true, Bool.and_eq_true, decide_eq_true_eq, ge_iff_le,
    UInt32.le_iff_toNat_le] at word
  change (97 ≤ c.val.toNat ∧ c.val.toNat ≤ 122) ∨ (48 ≤ c.val.toNat ∧ c.val.toNat ≤ 57) at word
  omega

private theorem isAlphanum_toLower {c : Char} (word : c.isAlphanum = true) :
    c.toLower.isAlphanum = true :=
  isAlphanum_of_isSlugChar (isSlugChar_toLower word)

private theorem mem_slugChars {c : Char} {dashed : Bool} {cs : List Char}
    (member : c ∈ slugChars dashed cs) : c.isAlphanum = true ∨ c = '-' := by
  induction cs generalizing dashed with
  | nil => cases member
  | cons d cs ih =>
    rw [slugChars] at member
    split at member
    · rename_i word
      rcases List.mem_cons.mp member with rfl | member
      · exact .inl (isAlphanum_toLower word)
      · exact ih member
    · split at member
      · rcases List.mem_cons.mp member with rfl | member
        · exact .inr rfl
        · exact ih member
      · exact ih member

theorem mem_slugify {c : Char} {s : String} (member : c ∈ (slugify s).toList) :
    c.isAlphanum = true ∨ c = '-' := by
  rw [slugify, String.toList_ofList] at member
  unfold dropDash at member
  split at member
  · exact mem_slugChars ((List.dropLast_sublist _).subset member)
  · exact mem_slugChars member

theorem isAlphanum_of_isBlank {c : Char} (blank : isBlank c = true) : c.isAlphanum = false := by
  rw [← Bool.not_eq_true]
  intro word
  delta Char.isAlphanum Char.isAlpha Char.isUpper Char.isLower Char.isDigit at word
  simp only [Bool.or_eq_true, Bool.and_eq_true, decide_eq_true_eq, ge_iff_le,
    UInt32.le_iff_toNat_le] at word
  simp only [isBlank, Char.toNat, Bool.or_eq_true, Bool.and_eq_true, decide_eq_true_eq, beq_iff_eq] at blank
  change ((65 ≤ c.val.toNat ∧ c.val.toNat ≤ 90) ∨ (97 ≤ c.val.toNat ∧ c.val.toNat ≤ 122)) ∨
    (48 ≤ c.val.toNat ∧ c.val.toNat ≤ 57) at word
  omega

theorem filter_isAlphanum_of_blank {cs : List Char} (blank : cs.all isBlank = true) :
    cs.filter Char.isAlphanum = [] := by
  rw [List.filter_eq_nil_iff]
  intro c member
  rw [isAlphanum_of_isBlank (List.all_eq_true.mp blank c member)]
  exact Bool.false_ne_true

private theorem filter_slugChars (dashed : Bool) (cs : List Char) :
    (slugChars dashed cs).filter Char.isAlphanum = (cs.filter Char.isAlphanum).map Char.toLower := by
  induction cs generalizing dashed with
  | nil => rfl
  | cons c cs ih =>
    rw [slugChars]
    split
    · rename_i word
      rw [List.filter_cons_of_pos (isAlphanum_toLower word), List.filter_cons_of_pos word, ih,
        List.map_cons]
    · rename_i other
      rw [List.filter_cons_of_neg other]
      split
      · rw [List.filter_cons_of_neg (by decide), ih]
      · exact ih dashed

private theorem filter_dropDash (cs : List Char) :
    (dropDash cs).filter Char.isAlphanum = cs.filter Char.isAlphanum := by
  unfold dropDash
  split
  · rename_i dash
    obtain ⟨front, rfl⟩ := List.getLast?_eq_some_iff.mp dash
    rw [List.dropLast_concat, List.filter_append]
    exact (List.append_nil _).symm
  · rfl

theorem filter_slugify (s : String) :
    (slugify s).toList.filter Char.isAlphanum = (s.toList.filter Char.isAlphanum).map Char.toLower := by
  obtain ⟨lead, trail, before, behind, cut⟩ := exists_trim_append s
  rw [trim, String.toList_ofList] at cut
  rw [slugify, String.toList_ofList, filter_dropDash, filter_slugChars]
  conv => rhs; rw [cut]
  rw [List.filter_append, List.filter_append, filter_isAlphanum_of_blank before,
    filter_isAlphanum_of_blank behind, List.nil_append, List.append_nil]

theorem isDigit_of_mem_toString {c : Char} {n : Nat} (member : c ∈ (toString n).toList) :
    c.isDigit = true := by
  rw [Nat.toString_eq_ofList_toDigits, String.toList_ofList] at member
  exact Nat.isDigit_of_mem_toDigits (by decide) (by decide) member

end Mathdown.Text
