import Mathdown.Config.Load
import Mathdown.Config.Reference

namespace Mathdown

theorem bind_eq_error_iff {ε β γ : Type} {x : Except ε β} {f : β → Except ε γ} {e : ε} :
    x >>= f = .error e ↔ x = .error e ∨ ∃ b, x = .ok b ∧ f b = .error e := by
  cases x with
  | error e' =>
    refine ⟨fun failed => .inl (by cases failed; rfl), ?_⟩
    rintro (⟨⟨⟩⟩ | ⟨_, ⟨⟩, -⟩)
    rfl
  | ok b =>
    refine ⟨fun failed => .inr ⟨b, rfl, failed⟩, ?_⟩
    rintro (failed | ⟨_, ⟨⟩, failed⟩)
    · cases failed
    · exact failed

theorem mapM_eq_error_iff {ε α β : Type} {f : α → Except ε β} {items : List α} {e : ε} :
    items.mapM f = .error e ↔
      ∃ front item back, items = front ++ item :: back ∧ (∀ other ∈ front, ∃ b, f other = .ok b) ∧
        f item = .error e := by
  induction items with
  | nil =>
    refine iff_of_false (fun done => by cases done) ?_
    rintro ⟨front, item, back, parts, -⟩
    exact List.append_ne_nil_of_right_ne_nil front (List.cons_ne_nil item back) parts.symm
  | cons first rest ih =>
    have added (b : β) : (do return b :: (← rest.mapM f) : Except ε (List β)) = .error e ↔
        rest.mapM f = .error e := by
      rw [bind_eq_error_iff]
      exact or_iff_left fun ⟨_, _, done⟩ => by cases done
    rw [List.mapM_cons, bind_eq_error_iff]
    simp only [added]
    constructor
    · rintro (failed | ⟨b, here, later⟩)
      · exact ⟨[], first, rest, rfl, by simp, failed⟩
      · obtain ⟨front, item, back, rfl, before, failed⟩ := ih.mp later
        refine ⟨first :: front, item, back, rfl, ?_, failed⟩
        exact List.forall_mem_cons.mpr ⟨⟨b, here⟩, before⟩
    · rintro ⟨front, item, back, parts, before, failed⟩
      cases front with
      | nil =>
        cases parts
        exact .inl failed
      | cons other front =>
        cases parts
        obtain ⟨⟨b, here⟩, before⟩ := List.forall_mem_cons.mp before
        exact .inr ⟨b, here, ih.mpr ⟨front, item, back, rfl, before, failed⟩⟩

theorem exists_mapM_eq_ok_iff {ε α β : Type} {f : α → Except ε β} {items : List α} :
    (∃ values, items.mapM f = .ok values) ↔ ∀ item ∈ items, ∃ b, f item = .ok b := by
  induction items with
  | nil => exact iff_of_true ⟨[], rfl⟩ (by simp)
  | cons item items ih =>
    rw [List.forall_mem_cons, ← ih, List.mapM_cons]
    cases f item with
    | error e => exact iff_of_false (fun ⟨_, given⟩ => by cases given) (by simp)
    | ok b =>
      cases items.mapM f with
      | error e => exact iff_of_false (fun ⟨_, given⟩ => by cases given) (by simp)
      | ok values => exact iff_of_true ⟨_, rfl⟩ ⟨⟨b, rfl⟩, values, rfl⟩

namespace Variables

variable {environment : Environment} {part : Part} {parts : List Part} {c : Char} {cs : List Char}

private theorem references_open (unclosed : (cs.takeWhile (· != '\x7d')).length = cs.length) :
    references ('$' :: '\x7b' :: cs) = .char '$' :: .char '\x7b' :: references cs := by
  rw [references]
  exact if_pos unclosed

private theorem references_closed (closed : ¬(cs.takeWhile (· != '\x7d')).length = cs.length) :
    references ('$' :: '\x7b' :: cs) = .braced (cs.takeWhile (· != '\x7d')) ::
      references (cs.drop ((cs.takeWhile (· != '\x7d')).length + 1)) := by
  rw [references]
  exact if_neg closed

private theorem references_char (plain : ∀ rest, c = '$' → cs = '\x7b' :: rest → False) :
    references (c :: cs) = .char c :: references cs := by
  rw [references]
  exact plain

private theorem body_append_drop (closed : ¬(cs.takeWhile (· != '\x7d')).length = cs.length) :
    cs.takeWhile (· != '\x7d') ++ '\x7d' :: cs.drop ((cs.takeWhile (· != '\x7d')).length + 1) = cs := by
  induction cs with
  | nil => exact absurd rfl closed
  | cons c cs ih =>
    by_cases brace : c = '\x7d'
    · subst brace
      rfl
    · have here : (c :: cs).takeWhile (· != '\x7d') = c :: cs.takeWhile (· != '\x7d') :=
        List.takeWhile_cons_of_pos (by simpa using brace)
      rw [here] at closed ⊢
      have later := ih fun same => closed (congrArg Nat.succ same)
      rw [List.cons_append, List.length_cons, List.drop_succ_cons, later]

private theorem source_braced (closed : ¬(cs.takeWhile (· != '\x7d')).length = cs.length) :
    (Part.braced (cs.takeWhile (· != '\x7d'))).source ++
        cs.drop ((cs.takeWhile (· != '\x7d')).length + 1) = '$' :: '\x7b' :: cs := by
  rw [Part.source, List.append_assoc, List.singleton_append, List.cons_append, List.cons_append,
    body_append_drop closed]

theorem source_references (cs : List Char) : (references cs).flatMap Part.source = cs := by
  fun_induction references cs with
  | case1 => rfl
  | case2 cs body unclosed ih =>
    rw [List.flatMap_cons, List.flatMap_cons, ih]
    rfl
  | case3 cs body closed ih =>
    rw [List.flatMap_cons, ih]
    exact source_braced closed
  | case4 c cs plain ih =>
    rw [List.flatMap_cons, ih]
    rfl

theorem source_dollars (cs : List Char) : (dollars cs).flatMap Part.source = cs := by
  fun_induction dollars cs with
  | case1 => rfl
  | case2 cs body unclosed ih =>
    rw [List.flatMap_cons, List.flatMap_cons, ih]
    rfl
  | case3 cs body closed ih =>
    rw [List.flatMap_cons, ih]
    exact source_braced closed
  | case4 cs ih | case5 cs _ _ name none ih | case7 c cs _ _ _ ih =>
    rw [List.flatMap_cons, ih]
    rfl
  | case6 cs noBrace noDollar name named ih =>
    rw [List.flatMap_cons, ih, Part.source, List.cons_append]
    exact congrArg _ (List.prefix_iff_eq_append.mp (List.takeWhile_prefix _))

theorem dollars_eq_references (cs : List Char)
    (braced : ∀ part ∈ dollars cs, part.isUnbraced = false) : dollars cs = references cs := by
  fun_induction dollars cs with
  | case1 => rw [references]
  | case2 cs body unclosed ih =>
    rw [references_open unclosed, ih fun part member => braced part (by simp [member])]
  | case3 cs body closed ih =>
    rw [references_closed closed, ih fun part member => braced part (by simp [member])]
  | case4 cs ih => cases braced .doubled (List.mem_cons_self ..)
  | case5 cs noBrace noDollar name none ih =>
    rw [references_char fun rest _ => noBrace rest, ih fun part member => braced part (by simp [member])]
  | case6 cs noBrace noDollar name named ih => cases braced (.bare name) (List.mem_cons_self ..)
  | case7 c cs noBrace noDollar plain ih =>
    rw [references_char noBrace, ih fun part member => braced part (by simp [member])]

/-- A text that names nothing in braces consists of characters, by its braces. -/
theorem references_of_hasBraces (none : hasBraces cs = false) : references cs = cs.map .char := by
  fun_induction references cs with
  | case1 => rfl
  | case2 cs | case3 cs => cases none
  | case4 c cs plain ih =>
    rw [hasBraces] at none
    · rw [ih none]
      rfl
    · exact plain

theorem fill_cons (environment : Environment) (part : Part) (parts : List Part) :
    fill environment (part :: parts) =
      (do return (← part.value environment) ++ (← fill environment parts)) := by
  simp only [fill, List.mapM_cons]
  cases part.value environment with
  | error e => rfl
  | ok value => cases parts.mapM (Part.value environment) <;> rfl

theorem fill_char (environment : Environment) (c : Char) (parts : List Part) :
    fill environment (.char c :: parts) = (do return c :: (← fill environment parts)) := by
  rw [fill_cons]
  rfl

theorem expandChars_eq (environment : Environment) (cs : List Char) :
    expandChars environment cs = fill environment (dollars cs) := by
  fun_induction dollars cs with
  | case1 => rw [expandChars]; rfl
  | case2 cs body whole ih =>
    rw [expandChars, if_pos whole, fill_char, fill_char, ← ih]
    cases expandChars environment cs <;> rfl
  | case3 cs body closed ih =>
    rw [expandChars, if_neg closed, fill_cons, ← ih]
    rfl
  | case4 cs ih =>
    rw [expandChars, fill_cons, ← ih]
    rfl
  | case5 cs noBrace noDollar name none ih =>
    rw [expandChars, if_pos none, fill_char, ← ih]
    · exact noBrace
    · exact noDollar
  | case6 cs noBrace noDollar name named ih =>
    rw [expandChars, if_neg named, fill_cons, ← ih]
    · rfl
    · exact noBrace
    · exact noDollar
  | case7 c cs noBrace noDollar plain ih =>
    rw [expandChars, fill_char, ← ih]
    · exact noBrace
    · exact noDollar
    · exact plain

theorem Part.value_eq_error_iff {e : String} :
    part.value environment = .error e ↔
      ∃ name, part.Lacks environment name ∧ e = String.ofList name := by
  have looked (name : List Char) : valueOf environment name = .error e ↔
      environment.lookup (String.ofList name) = none ∧ e = String.ofList name := by
    unfold valueOf
    cases environment.lookup (String.ofList name) with
    | none => simp [eq_comm]
    | some value => simp
  cases part with
  | char c | doubled => simp [value, Lacks, required?]
  | bare name =>
    simp only [value, looked, Lacks, required?, Option.some.injEq, and_assoc, exists_eq_left']
  | braced body =>
    cases split : splitDefault? [] body with
    | some parts => simp [value, valueInBraces, Lacks, required?, split]
    | none =>
      have same : valueInBraces environment body = valueOf environment body := by
        rw [valueInBraces, split]
        rfl
      simp only [value, same, looked, Lacks, required?, split, Option.isSome_none, Bool.false_eq_true,
        if_false, Option.some.injEq, and_assoc, exists_eq_left']

/-- Parts cannot be filled just if one of them lacks a variable; the first such is told. -/
theorem fill_eq_error_iff {e : String} :
    fill environment parts = .error e ↔
      ∃ front part back name, parts = front ++ part :: back ∧
        (∀ other ∈ front, ∀ absent, ¬other.Lacks environment absent) ∧ part.Lacks environment name ∧
        e = String.ofList name := by
  have failed : fill environment parts = .error e ↔ parts.mapM (Part.value environment) = .error e := by
    unfold fill
    cases parts.mapM (Part.value environment) with
    | error e' => exact ⟨fun same => by cases same; rfl, fun same => by cases same; rfl⟩
    | ok values => exact iff_of_false (fun same => by cases same) (fun same => by cases same)
  have has (other : Part) : (∃ value, other.value environment = .ok value) ↔
      ∀ absent, ¬other.Lacks environment absent := by
    cases given : other.value environment with
    | ok value =>
      refine iff_of_true ⟨value, rfl⟩ fun absent lacks => ?_
      rw [Part.value_eq_error_iff.mpr ⟨absent, lacks, rfl⟩] at given
      cases given
    | error e =>
      obtain ⟨name, lacks, -⟩ := Part.value_eq_error_iff.mp given
      exact iff_of_false (by simp) fun none => none name lacks
  rw [failed, mapM_eq_error_iff]
  simp only [Part.value_eq_error_iff, has, exists_and_left]

/-- What is put for a part if all variables have the same value. -/
def Part.filled : Part → List Char
  | .char c => [c]
  | .braced _ | .bare _ => ['x']
  | .doubled => ['$']

theorem fill_of_set
    (set : ∀ part ∈ parts, ∀ name, part.name? = some name →
      environment.lookup (String.ofList name) = some "x") :
    fill environment parts = .ok (parts.flatMap Part.filled) := by
  induction parts with
  | nil => rfl
  | cons part parts ih =>
    obtain ⟨here, others⟩ := List.forall_mem_cons.mp set
    have value : part.value environment = .ok part.filled := by
      cases part with
      | char c | doubled => rfl
      | bare name => simp [Part.value, valueOf, here name rfl, Part.filled]
      | braced body =>
        have own := here _ rfl
        rw [Part.value, valueInBraces]
        cases split : splitDefault? [] body with
        | some named =>
          rw [split, Option.map_some, Option.getD_some] at own
          simp only [own]
          rfl
        | none =>
          rw [split, Option.map_none, Option.getD_none] at own
          simp only [own]
          rfl
    rw [fill_cons, value, ih others]
    rfl

theorem expandBraces_of_hasBraces {text : String} (none : hasBraces text.toList = false) :
    expandBraces environment text = .ok text := by
  have chars : fill environment (text.toList.map .char) = .ok text.toList := by
    rw [fill_of_set (by simp [Part.name?]), List.flatMap_map]
    exact congrArg _ (List.flatMap_singleton' _)
  rw [expandBraces, references_of_hasBraces none, chars]
  exact congrArg Except.ok (String.ofList_toList)

/-- How many dollar signs a text begins with. -/
def lead (cs : List Char) : Nat := (cs.takeWhile (· == '$')).length

private theorem lead_dollar (cs : List Char) : lead ('$' :: cs) = lead cs + 1 := rfl

private theorem lead_other (other : c ≠ '$') (cs : List Char) : lead (c :: cs) = 0 := by
  simp [lead, other]

private theorem filled_behind_dollar
    (le : lead ((dollars cs).flatMap Part.filled) ≤ lead ((references cs).flatMap Part.filled)) :
    lead ((dollars cs).flatMap Part.filled) ≤ lead ((references ('$' :: cs)).flatMap Part.filled) ∧
      (dollars cs).flatMap Part.filled ≠ (references ('$' :: cs)).flatMap Part.filled := by
  by_cases brace : ∃ rest, cs = '{' :: rest
  · obtain ⟨rest, rfl⟩ := brace
    have opened : (dollars ('{' :: rest)).flatMap Part.filled =
        '{' :: (dollars rest).flatMap Part.filled := by
      rw [dollars] <;> simp [Part.filled]
    rw [opened, lead_other (by decide)]
    refine ⟨Nat.zero_le _, fun same => ?_⟩
    by_cases closed : (rest.takeWhile (· != '}')).length = rest.length
    · rw [references_open closed] at same
      cases same
    · rw [references_closed closed] at same
      cases same
  · have plain : references ('$' :: cs) = .char '$' :: references cs :=
      references_char fun rest _ same => brace ⟨rest, same⟩
    rw [plain, List.flatMap_cons, Part.filled, List.singleton_append, lead_dollar]
    refine ⟨Nat.le_succ_of_le le, fun same => ?_⟩
    rw [same, lead_dollar] at le
    omega

theorem lead_dollars_le (cs : List Char) :
    lead ((dollars cs).flatMap Part.filled) ≤ lead ((references cs).flatMap Part.filled) := by
  fun_induction dollars cs with
  | case1 => exact Nat.zero_le _
  | case2 cs body unclosed ih => rw [references_open unclosed]; exact Nat.le_refl 1
  | case3 cs body closed ih => exact Nat.zero_le _
  | case4 cs ih =>
    rw [references_char (by simp)]
    exact Nat.succ_le_succ (filled_behind_dollar ih).1
  | case5 cs noBrace noDollar name none ih =>
    rw [references_char fun rest _ => noBrace rest]
    exact Nat.succ_le_succ ih
  | case6 cs noBrace noDollar name named ih => exact Nat.zero_le _
  | case7 c cs noBrace noDollar plain ih =>
    refine Nat.le_trans (Nat.le_of_eq ?_) (Nat.zero_le _)
    exact lead_other plain _

theorem braced_of_filled_eq (cs : List Char)
    (same : (dollars cs).flatMap Part.filled = (references cs).flatMap Part.filled) :
    ∀ part ∈ dollars cs, part.isUnbraced = false := by
  fun_induction dollars cs with
  | case1 => simp
  | case2 cs body unclosed ih =>
    rw [references_open unclosed] at same
    simpa [Part.isUnbraced] using ih (by simpa [Part.filled] using same)
  | case3 cs body closed ih =>
    rw [references_closed closed] at same
    simpa [Part.isUnbraced] using ih (by simpa [Part.filled] using same)
  | case4 cs ih =>
    rw [references_char (by simp)] at same
    exact absurd (List.cons.inj same).2 (filled_behind_dollar (lead_dollars_le cs)).2
  | case5 cs noBrace noDollar name none ih =>
    rw [references_char fun rest _ => noBrace rest] at same
    simpa [Part.isUnbraced] using ih (by simpa [Part.filled] using same)
  | case6 cs noBrace noDollar name named ih =>
    rw [references_char fun rest _ => noBrace rest] at same
    cases same
  | case7 c cs noBrace noDollar plain ih =>
    rw [references_char noBrace] at same
    simpa [Part.isUnbraced] using ih (by simpa [Part.filled] using same)

theorem exists_set (parts : List Part) :
    ∃ environment : Environment, ∀ part ∈ parts, ∀ name, part.name? = some name →
      environment.lookup (String.ofList name) = some "x" := by
  let names := parts.filterMap Part.name?
  have found (names : List (List Char)) (name : List Char) (member : name ∈ names) :
      (names.map fun name => (String.ofList name, "x")).lookup (String.ofList name) = some "x" := by
    induction names with
    | nil => cases member
    | cons first rest ih =>
      rw [List.map_cons, List.lookup_cons]
      split
      · rfl
      · rename_i other
        rcases List.mem_cons.mp member with rfl | later
        · simp at other
        · exact ih later
  refine ⟨names.map fun name => (String.ofList name, "x"), fun part member name named => ?_⟩
  exact found names name (List.mem_filterMap.mpr ⟨part, member, named⟩)

end Variables

namespace Config

open Variables (Environment Part dollars expandBraces fill hasBraces references)

theorem expandField_eq (environment : Environment) (field text : String) :
    expandField environment field text =
      if hasBraces text.toList then
        (String.ofList <$> fill environment (dollars text.toList)).mapError (.unset field)
      else .ok text := by
  rw [expandField, Variables.expand, Variables.expandChars_eq]
  split <;> rfl

theorem expandField_eq_error_iff {environment : Environment} {field text : String} {e : ConfigError} :
    expandField environment field text = .error e ↔
      hasBraces text.toList = true ∧ ∃ front part back name,
        dollars text.toList = front ++ part :: back ∧
        (∀ other ∈ front, ∀ absent, ¬other.Lacks environment absent) ∧
        part.Lacks environment name ∧ e = .unset field (String.ofList name) := by
  have told (parts : List Part) :
      (String.ofList <$> fill environment parts).mapError (.unset field) = .error e ↔
        ∃ absent, fill environment parts = .error absent ∧ e = .unset field absent := by
    cases fill environment parts with
    | error absent => exact ⟨fun same => ⟨absent, rfl, (Except.error.inj same).symm⟩,
        fun ⟨_, same, named⟩ => by cases same; cases named; rfl⟩
    | ok cs => exact iff_of_false (fun same => by cases same) (by simp)
  rw [expandField_eq]
  split
  · rename_i braces
    rw [told]
    simp only [Variables.fill_eq_error_iff, braces, true_and]
    constructor
    · rintro ⟨_, ⟨front, part, back, name, parts, before, lacks, rfl⟩, rfl⟩
      exact ⟨front, part, back, name, parts, before, lacks, rfl⟩
    · rintro ⟨front, part, back, name, parts, before, lacks, rfl⟩
      exact ⟨_, ⟨front, part, back, name, parts, before, lacks, rfl⟩, rfl⟩
  · rename_i none
    exact iff_of_false (fun same => by cases same) (fun braces => none braces.1)

/--
The value of a field is the text as it is, if that names no variable in braces. Otherwise values are put
for all parts by dollar signs, and the first variable is told that is missing. This is what the braces
alone say for all values of variables, just if the text names none in braces or has no other parts that
are noticed.
-/
theorem expandField_by_braces_iff (field text : String) :
    (references text.toList).flatMap Part.source = text.toList ∧
      (dollars text.toList).flatMap Part.source = text.toList ∧
      (∀ environment, expandField environment field text =
        if hasBraces text.toList then
          (String.ofList <$> fill environment (dollars text.toList)).mapError (.unset field)
        else .ok text) ∧
      (∀ environment e, expandField environment field text = .error e ↔
        hasBraces text.toList = true ∧ ∃ front part back name,
          dollars text.toList = front ++ part :: back ∧
          (∀ other ∈ front, ∀ absent, ¬other.Lacks environment absent) ∧
          part.Lacks environment name ∧ e = .unset field (String.ofList name)) ∧
      ((∀ environment, expandField environment field text =
          (expandBraces environment text).mapError (.unset field)) ↔
        hasBraces text.toList = false ∨ ∀ part ∈ dollars text.toList, part.isUnbraced = false) := by
  refine ⟨Variables.source_references _, Variables.source_dollars _,
    fun environment => expandField_eq environment field text,
    fun environment e => expandField_eq_error_iff, fun same => ?_, ?_⟩
  · cases braces : hasBraces text.toList with
    | false => exact .inl rfl
    | true =>
      obtain ⟨environment, set⟩ :=
        Variables.exists_set (dollars text.toList ++ references text.toList)
      obtain ⟨first, second⟩ := List.forall_mem_append.mp set
      have filled := same environment
      rw [expandField_eq, if_pos braces, expandBraces, Variables.fill_of_set first,
        Variables.fill_of_set second] at filled
      have chars := String.ofList_injective (Except.ok.inj filled)
      exact .inr (Variables.braced_of_filled_eq _ chars)
  · rintro (none | braced) environment
    · rw [expandField_eq, if_neg (by simp [none]), Variables.expandBraces_of_hasBraces none]
      rfl
    · rw [expandField_eq, Variables.dollars_eq_references _ braced]
      split
      · rfl
      · rename_i none
        rw [Variables.expandBraces_of_hasBraces (Bool.eq_false_iff.mpr none)]
        rfl

/-- An argument with a macro in it, and a directory behind. -/
def macroArgument : String := "--macro=$x $\x7bHOME\x7d"

/-- The macro is taken for a variable. -/
theorem expandField_macroArgument :
    expandField [("HOME", "/h")] "math.fallback_args" macroArgument =
        .error (.unset "math.fallback_args" "x") ∧
      expandBraces [("HOME", "/h")] macroArgument = .ok "--macro=$x /h" := by
  have byDollars : dollars macroArgument.toList =
      "--macro=".toList.map .char ++ [.bare ['x'], .char ' ', .braced "HOME".toList] := by
    decide +kernel
  have byBraces : references macroArgument.toList =
      "--macro=$x ".toList.map .char ++ [.braced "HOME".toList] := by
    decide +kernel
  constructor
  · rw [expandField_eq, if_pos (by decide), byDollars]
    rfl
  · rw [expandBraces, byBraces]
    rfl

end Config

end Mathdown
