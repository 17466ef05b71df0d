import Mathdown.Text.Slug

namespace Mathdown.Text

/-- What is kept of a character: letters and digits, in lower case, and separators. -/
def slugPart? (c : Char) : Option Char :=
  if c.isAlphanum then some c.toLower else if isSeparator c then some c else none

/-- What stands between the separators of a text; where two of them meet, nothing does. -/
def slugPieces (cs : List Char) : List (List Char) := (cs.filterMap slugPart?).splitOnP isSeparator

/-- The words of a text that go into its slug. -/
def slugWords (cs : List Char) : List (List Char) := (slugPieces cs).filter (· ≠ [])

/-- Whether a text is `[a-z0-9]+(-[a-z0-9]+)*`. -/
def SlugForm (cs : List Char) : Prop :=
  ∃ first others, (∀ word ∈ first :: others, word ≠ [] ∧ word.all isSlugChar = true) ∧
    cs = first ++ others.flatMap ('-' :: ·)

theorem isSeparator_of_isAlphanum {c : Char} (word : c.isAlphanum = true) : isSeparator c = false := by
  have dark : isBlank c = false := by
    rw [← Bool.not_eq_true]
    intro blank
    rw [isAlphanum_of_isBlank blank] at word
    cases word
  have dash : c ≠ '-' := by rintro rfl; cases word
  have score : c ≠ '_' := by rintro rfl; cases word
  simp [isSeparator, dark, dash, score]

theorem isSeparator_of_isBlank {c : Char} (blank : isBlank c = true) : isSeparator c = true := by
  simp [isSeparator, blank]

theorem isSeparator_of_isSlugChar {c : Char} (word : isSlugChar c = true) : isSeparator c = false :=
  isSeparator_of_isAlphanum (isAlphanum_of_isSlugChar word)

theorem slugPart?_of_isSeparator {c : Char} (separates : isSeparator c = true) :
    slugPart? c = some c := by
  have other : ¬ c.isAlphanum = true := fun word => by
    rw [isSeparator_of_isAlphanum word] at separates
    cases separates
  rw [slugPart?, if_neg other, if_pos separates]

theorem slugPart?_of_isSlugChar {c : Char} (word : isSlugChar c = true) : slugPart? c = some c := by
  rw [slugPart?, if_pos (isAlphanum_of_isSlugChar word), toLower_of_isSlugChar word]

theorem slugPieces_cons (c : Char) (cs : List Char) :
    slugPieces (c :: cs) =
      if c.isAlphanum then (slugPieces cs).modifyHead (c.toLower :: ·)
      else if isSeparator c then [] :: slugPieces cs
      else slugPieces cs := by
  by_cases word : c.isAlphanum = true
  · have part : slugPart? c = some c.toLower := if_pos word
    have inner := isSeparator_of_isSlugChar (isSlugChar_toLower word)
    rw [if_pos word, slugPieces, List.filterMap_cons_some part, List.splitOnP_cons_eq_if_modifyHead,
      inner, if_neg Bool.false_ne_true]
    rfl
  · rw [if_neg word]
    by_cases separates : isSeparator c = true
    · rw [if_pos separates, slugPieces, List.filterMap_cons_some (slugPart?_of_isSeparator separates),
        List.splitOnP_cons_eq_if_modifyHead, if_pos separates]
      rfl
    · have part : slugPart? c = none := (if_neg word).trans (if_neg separates)
      rw [if_neg separates, slugPieces, List.filterMap_cons_none part]
      rfl

theorem slugPieces_ne_nil (cs : List Char) : slugPieces cs ≠ [] := List.splitOnP_ne_nil _ _

theorem isSlugChar_of_mem_slugPieces {cs piece : List Char} (member : piece ∈ slugPieces cs) :
    piece.all isSlugChar = true := by
  induction cs generalizing piece with
  | nil =>
    obtain rfl := List.mem_singleton.mp member
    rfl
  | cons c cs ih =>
    rw [slugPieces_cons] at member
    split at member
    · rename_i word
      obtain ⟨first, others, pieces⟩ := List.exists_cons_of_ne_nil (slugPieces_ne_nil cs)
      rw [pieces] at member ih
      rcases List.mem_cons.mp member with rfl | member
      · rw [List.all_cons, isSlugChar_toLower word, Bool.true_and]
        exact ih (List.mem_cons_self ..)
      · exact ih (List.mem_cons_of_mem first member)
    · split at member
      · rcases List.mem_cons.mp member with rfl | member
        · rfl
        · exact ih member
      · exact ih member

/-- Pieces as the pass writes them, each with a dash behind it if there are others to come. -/
private def joinPieces : List (List Char) → List Char
  | [] => []
  | piece :: pieces =>
    (if piece = [] then [] else piece ++ if pieces = [] then [] else ['-']) ++ joinPieces pieces

private theorem slugChars_eq (cs : List Char) :
    ∃ piece pieces, slugPieces cs = piece :: pieces ∧
      slugChars true cs = joinPieces (piece :: pieces) ∧
      slugChars false cs = piece ++ (if pieces = [] then [] else ['-']) ++ joinPieces pieces := by
  induction cs with
  | nil => exact ⟨[], [], rfl, rfl, rfl⟩
  | cons c cs ih =>
    -- Within a word, its rest comes first; else the pass is at the start of a piece.
    obtain ⟨piece, pieces, cut, fresh, within⟩ := ih
    rw [slugPieces_cons, slugChars, slugChars, cut]
    split
    · refine ⟨c.toLower :: piece, pieces, rfl, ?_, ?_⟩
      · rw [joinPieces, if_neg (List.cons_ne_nil _ _), within]
        rfl
      · rw [within]
        rfl
    · split
      · rename_i separates
        refine ⟨[], piece :: pieces, rfl, ?_, ?_⟩
        · simp [joinPieces, fresh]
        · simp [separates, fresh]
      · rename_i dropped
        refine ⟨piece, pieces, rfl, ?_, ?_⟩
        · simpa using fresh
        · simpa [dropped] using within

private theorem dropDash_append (front : List Char) {back : List Char} (some : back ≠ []) :
    dropDash (front ++ back) = front ++ dropDash back := by
  unfold dropDash
  rw [List.getLast?_append, List.getLast?_eq_some_getLast some, Option.some_or]
  split
  · rw [List.dropLast_append_of_ne_nil some]
  · rfl

private theorem dropDash_of_word {word : List Char} (letters : word.all isSlugChar = true) :
    dropDash word = word := by
  unfold dropDash
  refine if_neg fun dash => ?_
  exact absurd (List.all_eq_true.mp letters _ (List.mem_of_getLast? dash)) (by decide)

private theorem joinPieces_eq_nil_iff {pieces : List (List Char)} :
    joinPieces pieces = [] ↔ pieces.filter (· ≠ []) = [] := by
  induction pieces with
  | nil => simp [joinPieces]
  | cons piece pieces ih =>
    rw [joinPieces]
    by_cases empty : piece = []
    · simpa [empty] using ih
    · simp [empty]

private theorem dropDash_joinPieces {pieces : List (List Char)}
    (letters : ∀ piece ∈ pieces, piece.all isSlugChar = true) :
    dropDash (joinPieces pieces) = List.intercalate ['-'] (pieces.filter (· ≠ [])) := by
  induction pieces with
  | nil => rfl
  | cons piece pieces ih =>
    obtain ⟨here, others⟩ := List.forall_mem_cons.mp letters
    have later := ih others
    rw [joinPieces]
    by_cases empty : piece = []
    · rw [if_pos empty, List.filter_cons_of_neg (by simpa using empty)]
      exact later
    · rw [if_neg empty, List.filter_cons_of_pos (by simpa using empty)]
      cases words : pieces.filter (· ≠ []) with
      | nil =>
        -- Nothing but separators follows, which leave at most one dash.
        rw [joinPieces_eq_nil_iff.mpr words, List.append_nil, List.intercalate_singleton]
        split
        · rw [List.append_nil, dropDash_of_word here]
        · rw [dropDash_append piece (List.cons_ne_nil _ _)]
          exact List.append_nil piece
      | cons word words' =>
        have follows : pieces ≠ [] := by rintro rfl; cases words
        have some : joinPieces pieces ≠ [] := fun none => by
          rw [joinPieces_eq_nil_iff.mp none] at words
          cases words
        rw [if_neg follows, dropDash_append _ some, later, words, List.intercalate_cons_cons]

theorem slugWords_append_cons {c : Char} (separates : isSeparator c = true) (front back : List Char) :
    slugWords (front ++ c :: back) = slugWords front ++ slugWords back := by
  rw [slugWords, slugPieces, List.filterMap_append, List.filterMap_cons,
    slugPart?_of_isSeparator separates]
  exact (congrArg _ (List.splitOnP_append_cons _ _ separates)).trans (List.filter_append ..)

theorem slugWords_cons {c : Char} (separates : isSeparator c = true) (cs : List Char) :
    slugWords (c :: cs) = slugWords cs :=
  slugWords_append_cons separates [] cs

theorem slugWords_of_blank {lead : List Char} (blank : lead.all isBlank = true) (cs : List Char) :
    slugWords (lead ++ cs) = slugWords cs := by
  induction lead with
  | nil => rfl
  | cons c lead ih =>
    rw [List.all_cons, Bool.and_eq_true] at blank
    rw [List.cons_append, slugWords_cons (isSeparator_of_isBlank blank.1), ih blank.2]

theorem slugWords_trim (s : String) : slugWords (trim s).toList = slugWords s.toList := by
  obtain ⟨lead, trail, before, behind, cut⟩ := exists_trim_append s
  rw [cut, List.append_assoc, slugWords_of_blank before]
  cases trail with
  | nil => rw [List.append_nil]
  | cons c trail =>
    rw [List.all_cons, Bool.and_eq_true] at behind
    have none := slugWords_of_blank behind.2 []
    rw [List.append_nil] at none
    rw [slugWords_append_cons (isSeparator_of_isBlank behind.1), none]
    exact (List.append_nil _).symm

theorem toList_slugify (s : String) :
    (slugify s).toList = List.intercalate ['-'] (slugWords s.toList) := by
  obtain ⟨piece, pieces, cut, fresh, -⟩ := slugChars_eq (trim s).toList
  rw [← cut] at fresh
  have chars : (slugify s).toList = dropDash (slugChars true (trim s).toList) := by
    rw [slugify, trim, String.toList_ofList, String.toList_ofList]
  rw [chars, fresh, dropDash_joinPieces fun _ => isSlugChar_of_mem_slugPieces, ← slugWords_trim]
  rfl

theorem word_of_mem_slugWords {cs word : List Char} (member : word ∈ slugWords cs) :
    word ≠ [] ∧ word.all isSlugChar = true := by
  obtain ⟨piece, some⟩ := List.mem_filter.mp member
  exact ⟨of_decide_eq_true some, isSlugChar_of_mem_slugPieces piece⟩

theorem intercalate_dash_cons (first : List Char) (others : List (List Char)) :
    List.intercalate ['-'] (first :: others) = first ++ others.flatMap ('-' :: ·) := by
  induction others generalizing first with
  | nil => rw [List.intercalate_singleton, List.flatMap_nil, List.append_nil]
  | cons second others ih =>
    rw [List.intercalate_cons_cons, ih, List.flatMap_cons, List.append_assoc, List.cons_append,
      List.nil_append, List.cons_append]

theorem slugForm_slugify (s : String) : slugify s = "" ∨ SlugForm (slugify s).toList := by
  have chars := toList_slugify s
  have proper : ∀ word ∈ slugWords s.toList, _ := fun _ => word_of_mem_slugWords
  cases words : slugWords s.toList with
  | nil =>
    rw [words] at chars
    exact .inl (String.toList_inj.mp chars)
  | cons first others =>
    rw [words] at chars proper
    exact .inr ⟨first, others, proper, chars.trans (intercalate_dash_cons first others)⟩

private theorem filterMap_slugPart? {word : List Char} (letters : word.all isSlugChar = true) :
    word.filterMap slugPart? = word := by
  induction word with
  | nil => rfl
  | cons c word ih =>
    rw [List.all_cons, Bool.and_eq_true] at letters
    rw [List.filterMap_cons_some (slugPart?_of_isSlugChar letters.1), ih letters.2]

private theorem slugWords_of_word {word : List Char} (some : word ≠ [])
    (letters : word.all isSlugChar = true) : slugWords word = [word] := by
  have whole : slugPieces word = [word] := by
    rw [slugPieces, filterMap_slugPart? letters]
    exact List.splitOnP_eq_singleton fun c member =>
      isSeparator_of_isSlugChar (List.all_eq_true.mp letters c member)
  rw [slugWords, whole]
  simp [some]

private theorem slugWords_join (others : List (List Char)) (first : List Char)
    (proper : ∀ word ∈ first :: others, word ≠ [] ∧ word.all isSlugChar = true) :
    slugWords (first ++ others.flatMap ('-' :: ·)) = first :: others := by
  induction others generalizing first with
  | nil =>
    obtain ⟨some, letters⟩ := proper first (List.mem_singleton_self _)
    rw [List.flatMap_nil, List.append_nil, slugWords_of_word some letters]
  | cons second others ih =>
    obtain ⟨⟨some, letters⟩, proper⟩ := List.forall_mem_cons.mp proper
    rw [List.flatMap_cons, List.cons_append, slugWords_append_cons (by decide),
      slugWords_of_word some letters, ih second proper]
    rfl

theorem slugify_of_slugForm {s : String} (form : SlugForm s.toList) : slugify s = s := by
  obtain ⟨first, others, proper, chars⟩ := form
  apply String.toList_inj.mp
  rw [toList_slugify, chars, slugWords_join others first proper, intercalate_dash_cons]

/--
A slug is the words of its text with dashes between them. It is empty or has the form of a slug, and its
own slug is itself.
-/
theorem slugify_words (s : String) :
    slugify s = String.ofList (List.intercalate ['-'] (slugWords s.toList)) ∧
      (slugify s = "" ∨ SlugForm (slugify s).toList) ∧ slugify (slugify s) = slugify s := by
  refine ⟨?_, slugForm_slugify s, ?_⟩
  · rw [← toList_slugify, String.ofList_toList]
  · rcases slugForm_slugify s with empty | form
    · rw [empty]
      rfl
    · exact slugify_of_slugForm form

end Mathdown.Text
