import Mathdown.Grammar

/-!
Which grammar a token chooses from a table. Texts are compared up to the case of ASCII letters, an
extension goes before a name, and of several grammars with the same one the last in the table is chosen.
-/

namespace Mathdown.Grammar

/-- Whether two characters are the same, or the capital and the small form of one ASCII letter. -/
inductive SameLetter : Char → Char → Prop
  | same (c : Char) : SameLetter c c
  | lowered {c d : Char} (capital : c.isUpper = true) (small : d.toNat = c.toNat + 32) : SameLetter c d
  | raised {c d : Char} (capital : d.isUpper = true) (small : c.toNat = d.toNat + 32) : SameLetter c d

/-- Whether two texts are equal up to ASCII case, character by character. -/
def SpelledAlike (s t : String) : Prop :=
  s.toList.length = t.toList.length ∧ ∀ pair ∈ s.toList.zip t.toList, SameLetter pair.1 pair.2

def HasExtension (token : String) (g : Grammar) : Prop :=
  ∃ extension ∈ g.extensions, SpelledAlike extension token

def HasName (token : String) (g : Grammar) : Prop := SpelledAlike g.name token

/-- Whether a grammar has a property that none behind it in the table has. -/
def IsLast (p : Grammar → Prop) (table : List Grammar) (g : Grammar) : Prop :=
  ∃ before after, table = before ++ g :: after ∧ p g ∧ ∀ other ∈ after, ¬ p other

/-- What a token chooses from a table, if it chooses any grammar. -/
inductive Chooses (table : List Grammar) (token : String) : Option Grammar → Prop
  | extension {g : Grammar} (last : IsLast (HasExtension token) table g) : Chooses table token (some g)
  | name {g : Grammar} (noExtension : ∀ other ∈ table, ¬ HasExtension token other)
    (last : IsLast (HasName token) table g) : Chooses table token (some g)
  | nothing (noExtension : ∀ other ∈ table, ¬ HasExtension token other)
    (noName : ∀ other ∈ table, ¬ HasName token other) : Chooses table token none

section

variable {fits : Grammar → Bool} {p : Grammar → Prop}

theorem findLast?_eq_some_iff (decides : ∀ g, fits g = true ↔ p g) {table : List Grammar} {g : Grammar} :
    findLast? fits table = some g ↔ IsLast p table g := by
  have others (list : List Grammar) :
      (∀ other ∈ list, (!fits other) = true) ↔ ∀ other ∈ list, ¬ p other := by
    simp [← decides]
  -- The reversed table is searched: what the search has passed stands behind what it finds.
  rw [findLast?, List.find?_eq_some_iff_append, decides]
  constructor
  · rintro ⟨fit, front, back, reversed, before⟩
    refine ⟨back.reverse, front.reverse, ?_, fit, ?_⟩
    · simpa using congrArg List.reverse reversed
    · simpa using (others front).mp before
  · rintro ⟨before, after, rfl, fit, behind⟩
    refine ⟨fit, after.reverse, before.reverse, by simp, ?_⟩
    exact (others _).mpr (by simpa using behind)

theorem findLast?_eq_none_iff (decides : ∀ g, fits g = true ↔ p g) {table : List Grammar} :
    findLast? fits table = none ↔ ∀ other ∈ table, ¬ p other := by
  simp [findLast?, ← decides]

end

end Mathdown.Grammar
