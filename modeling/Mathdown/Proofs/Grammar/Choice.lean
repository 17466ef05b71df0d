import Mathlib
import Mathdown.Grammar.Choice
import Mathdown.Grammar.Table

namespace Mathdown.Grammar

variable {table : List Grammar} {token : String} {g : Grammar}

private theorem toNat_toLower {c : Char} (capital : c.isUpper = true) : c.toLower.toNat = c.toNat + 32 := by
  have bounds : 65 ≤ c.toNat ∧ c.toNat ≤ 90 := by
    simpa [Char.isUpper, UInt32.le_iff_toNat_le, ← Char.toNat_val] using capital
  have valid : (c.toNat + 32).isValidChar := by
    unfold Nat.isValidChar
    omega
  rw [Char.toLower_eq_of_isUpper capital, Char.toNat_ofNat, if_pos valid]

private theorem toLower_eq_of_small {c d : Char} (capital : c.isUpper = true)
    (small : d.toNat = c.toNat + 32) : c.toLower = d :=
  Char.toNat_inj.mp ((toNat_toLower capital).trans small.symm)

theorem toLower_eq_iff {c d : Char} : c.toLower = d.toLower ↔ SameLetter c d := by
  constructor
  · intro equal
    -- Lower case moves capitals and nothing else, so it matters which of the two is one.
    by_cases capital : c.isUpper = true
    · by_cases capital' : d.isUpper = true
      · have codes := congrArg Char.toNat equal
        rw [toNat_toLower capital, toNat_toLower capital', Nat.add_right_cancel_iff] at codes
        obtain rfl := Char.toNat_inj.mp codes
        exact .same c
      · rw [Char.toLower_eq_of_not_isUpper capital'] at equal
        exact .lowered capital (equal ▸ toNat_toLower capital)
    · rw [Char.toLower_eq_of_not_isUpper capital] at equal
      by_cases capital' : d.isUpper = true
      · exact .raised capital' (equal ▸ toNat_toLower capital')
      · rw [Char.toLower_eq_of_not_isUpper capital'] at equal
        exact equal ▸ .same c
  · intro letter
    cases letter with
    | same => rfl
    | lowered capital small =>
      obtain rfl := toLower_eq_of_small capital small
      exact (Char.toLower_toLower_eq_toLower c).symm
    | raised capital small =>
      obtain rfl := toLower_eq_of_small capital small
      exact Char.toLower_toLower_eq_toLower d

theorem spelledAlike_iff {s t : String} : SpelledAlike s t ↔ lower s = lower t := by
  have letters : List.Forall₂ SameLetter s.toList t.toList ↔
      s.toList.map Char.toLower = t.toList.map Char.toLower := by
    rw [← List.forall₂_eq_eq_eq, List.forall₂_map_left_iff, List.forall₂_map_right_iff]
    simp only [toLower_eq_iff]
  rw [lower, lower, String.ofList_inj, ← letters, List.forall₂_iff_zip, SpelledAlike]
  simp only [Prod.forall]

theorem sameLetters_iff {s t : String} : sameLetters s t = true ↔ SpelledAlike s t := by
  rw [sameLetters, beq_iff_eq, spelledAlike_iff]

instance (s t : String) : Decidable (SpelledAlike s t) := decidable_of_iff _ sameLetters_iff

theorem lower_lower (s : String) : lower (lower s) = lower s := by
  simp [lower, Function.comp_def]

private theorem any_extension_iff (g : Grammar) :
    g.extensions.any (sameLetters · token) = true ↔ HasExtension token g := by
  simp only [HasExtension, List.any_eq_true, sameLetters_iff]

private theorem sameLetters_name_iff (g : Grammar) : sameLetters g.name token = true ↔ HasName token g :=
  sameLetters_iff

theorem byExtension?_eq_some_iff :
    byExtension? table token = some g ↔ IsLast (HasExtension token) table g :=
  findLast?_eq_some_iff any_extension_iff

theorem byExtension?_eq_none_iff :
    byExtension? table token = none ↔ ∀ other ∈ table, ¬ HasExtension token other :=
  findLast?_eq_none_iff any_extension_iff

theorem byName?_eq_none_iff : byName? table token = none ↔ ∀ other ∈ table, other.name ≠ token :=
  findLast?_eq_none_iff fun _ => beq_iff_eq

/-- Looking up by the token finds what it chooses, and a token chooses nothing else. -/
theorem byToken?_eq_iff {found : Option Grammar} :
    byToken? table token = found ↔ Chooses table token found := by
  constructor
  · rintro rfl
    rw [byToken?]
    cases first : byExtension? table token with
    | some g => exact .extension (byExtension?_eq_some_iff.mp first)
    | none =>
      have noExtension := byExtension?_eq_none_iff.mp first
      rw [Option.none_or]
      cases second : findLast? (fun g => sameLetters g.name token) table with
      | some g => exact .name noExtension ((findLast?_eq_some_iff sameLetters_name_iff).mp second)
      | none => exact .nothing noExtension ((findLast?_eq_none_iff sameLetters_name_iff).mp second)
  · intro chosen
    rw [byToken?]
    cases chosen with
    | extension last => rw [byExtension?_eq_some_iff.mpr last, Option.some_or]
    | name noExtension last =>
      rw [byExtension?_eq_none_iff.mpr noExtension, Option.none_or]
      exact (findLast?_eq_some_iff sameLetters_name_iff).mpr last
    | nothing noExtension noName =>
      rw [byExtension?_eq_none_iff.mpr noExtension, Option.none_or]
      exact (findLast?_eq_none_iff sameLetters_name_iff).mpr noName

theorem byToken?_congr {s t : String} (alike : SpelledAlike s t) : byToken? table s = byToken? table t := by
  simp only [byToken?, byExtension?, sameLetters, spelledAlike_iff.mp alike]

theorem byToken?_lower : byToken? table (lower token) = byToken? table token :=
  byToken?_congr (spelledAlike_iff.mpr (lower_lower token))

/-- Where looking up by the token finds nothing, nothing has the exact name and nothing the extension. -/
theorem others_eq_none_of_byToken? (missing : byToken? table (lower token) = none) :
    byName? table token = none ∧ byExtension? table (lower token) = none := by
  cases byToken?_eq_iff.mp missing with
  | nothing noExtension noName =>
    refine ⟨byName?_eq_none_iff.mpr ?_, byExtension?_eq_none_iff.mpr noExtension⟩
    rintro other member rfl
    exact noName other member (spelledAlike_iff.mpr (lower_lower other.name).symm)

theorem find?_eq_byToken? : find? table token = byToken? table (lower token) := by
  rw [find?]
  cases first : byToken? table (lower token) with
  | some g => rw [Option.some_or, Option.some_or]
  | none =>
    obtain ⟨second, third⟩ := others_eq_none_of_byToken? first
    rw [second, third, Option.none_or, Option.none_or]

theorem find?_eq_iff {found : Option Grammar} : find? table token = found ↔ Chooses table token found := by
  rw [find?_eq_byToken?, byToken?_lower, byToken?_eq_iff]

/--
Whatever the table and the token, looking the token up finds the last grammar that has it as an extension up
to ASCII case, or else the last that has it as its name, or else nothing. Tokens that are spelled alike find
the same, and the first step of the look-up alone finds what all three find.
-/
theorem find?_chooses (table : List Grammar) (token : String) :
    (∀ found, find? table token = found ↔ Chooses table token found) ∧
      (∀ other, SpelledAlike token other → find? table other = find? table token) ∧
      find? table token = byToken? table (lower token) := by
  refine ⟨fun _ => find?_eq_iff, ?_, find?_eq_byToken?⟩
  intro other alike
  calc find? table other
    _ = byToken? table other := by rw [find?_eq_byToken?, byToken?_lower]
    _ = byToken? table token := (byToken?_congr alike).symm
    _ = find? table token := by rw [find?_eq_byToken?, byToken?_lower]

/-- An extension goes before a name, even one that is spelled as the token is and stands further behind. -/
theorem find?_chooses_tex :
    SpelledAlike "TeX" "tEx" ∧ find? Grammar.table "tEx" = find? Grammar.table "TeX" ∧
      (byName? Grammar.table "TeX").map Grammar.name = some "TeX" ∧
      ∃ g, Chooses Grammar.table "TeX" (some g) ∧ g.name = "LaTeX" := by
  obtain ⟨chooses, same, -⟩ := find?_chooses Grammar.table "TeX"
  have alike : SpelledAlike "TeX" "tEx" := by decide +kernel
  have named : (find? Grammar.table "TeX").map Grammar.name = some "LaTeX" := by decide +kernel
  obtain ⟨g, found, name⟩ := Option.map_eq_some_iff.mp named
  exact ⟨alike, same "tEx" alike, by decide +kernel, g, (chooses _).mp found, name⟩

end Mathdown.Grammar
