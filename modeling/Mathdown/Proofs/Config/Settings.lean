import Mathdown.Config.Layering

namespace Mathdown.Config

open Toml (Decoder DecodeError RecordField Value)

variable {α : Type} {setting : Field α} {v : Value} {c c' c'' : Config}

/-- Whether a setting has come to what the last of some values says, or stayed for want of one. -/
def Field.Follows (setting : Field α) (values : List Value) (c c' : Config) : Prop :=
  match values.getLast? with
  | some v => setting.decoder v = .ok (setting.get c')
  | none => setting.get c' = setting.get c

namespace Field.Follows

theorem refl (setting : Field α) (c : Config) : setting.Follows [] c c := rfl

theorem trans {first second : List Value} (before : setting.Follows first c c')
    (after : setting.Follows second c' c'') : setting.Follows (first ++ second) c c'' := by
  unfold Follows at before after ⊢
  rw [List.getLast?_append]
  cases last : second.getLast? with
  | some w =>
    rw [last] at after
    exact after
  | none =>
    rw [last] at after
    rw [Option.none_or, after]
    exact before

end Field.Follows

section Records

/-- Whether fields change a setting by what is read in their values, and not otherwise. -/
def Field.FollowsEach (setting : Field α) (reads : String → Value → List Value)
    (fields : List (RecordField Config)) : Prop :=
  ∀ field ∈ fields, ∀ v c c', field.assign v c = .ok c' → setting.Follows (reads field.name v) c c'

variable {fields : List (RecordField Config)} {reads : String → Value → List Value}

private theorem follows_assignMember (each : setting.FollowsEach reads fields)
    {member : String × Value} (assigned : Toml.assignMember fields c member = .ok c') :
    setting.Follows (reads member.1 member.2) c c' := by
  unfold Toml.assignMember at assigned
  split at assigned
  · rename_i field found
    have named : field.name = member.1 := by simpa using List.find?_some found
    rw [← named]
    exact each field (List.mem_of_find?_eq_some found) member.2 c c' assigned
  · cases assigned

private theorem follows_foldlM (each : setting.FollowsEach reads fields)
    {entries : List (String × Value)}
    (assigned : entries.foldlM (Toml.assignMember fields) c = .ok c') :
    setting.Follows (entries.flatMap fun (name, w) => reads name w) c c' := by
  induction entries generalizing c with
  | nil =>
    cases assigned
    exact .refl setting _
  | cons member entries ih =>
    rw [List.foldlM_cons] at assigned
    cases first : Toml.assignMember fields c member with
    | error e =>
      rw [first] at assigned
      cases assigned
    | ok middle =>
      rw [first] at assigned
      exact (follows_assignMember each first).trans (ih assigned)

private theorem follows_assignItems (each : setting.FollowsEach reads fields) {items : List Value}
    (assigned : Toml.assignItems fields items c = .ok c') :
    setting.Follows (((fields.map (·.name)).zip items).flatMap fun (name, w) => reads name w) c c' := by
  induction fields generalizing items c with
  | nil =>
    cases assigned
    exact .refl setting _
  | cons field fields ih =>
    cases items with
    | nil =>
      cases assigned
      exact .refl setting _
    | cons item items =>
      obtain ⟨here, others⟩ := List.forall_mem_cons.mp each
      rw [Toml.assignItems] at assigned
      cases first : field.assign item c with
      | error e =>
        rw [first] at assigned
        cases assigned
      | ok middle =>
        rw [first] at assigned
        exact (here item c middle first).trans (ih others assigned)

theorem follows_record (each : setting.FollowsEach reads fields) {title : String}
    (decoded : Decoder.record title fields c v = .ok c') :
    setting.Follows ((v.members (fields.map (·.name))).flatMap fun (name, w) => reads name w) c c' := by
  cases v with
  | table origin entries => exact follows_foldlM each decoded
  | array isOpen items => exact follows_assignItems each decoded
  | _ => cases decoded

end Records

private theorem exists_of_assign {β : Type} {name : String} {decode : Decoder β}
    {store : β → Config → Config} (assigned : (RecordField.of name decode store).assign v c = .ok c') :
    ∃ b, decode v = .ok b ∧ c' = store b c := by
  change (store · c) <$> decode v = .ok c' at assigned
  cases decoded : decode v with
  | error e =>
    rw [decoded] at assigned
    cases assigned
  | ok b =>
    rw [decoded] at assigned
    cases assigned
    exact ⟨b, rfl, rfl⟩

/-- What is read in a field of a section: its value, if the setting is just that field. -/
private def readsIn (group : String) (setting : Field α) (name : String) (v : Value) : List Value :=
  if group = setting.group ∧ name = setting.name then [v] else []

-- A field stores what it decodes in one setting, and leaves the others alone.
private theorem followsEach_cacheFields (setting : Field α) :
    setting.FollowsEach (readsIn "cache" setting) cacheFields := by
  intro field member v c c' assigned
  simp only [cacheFields, List.mem_cons, List.not_mem_nil, or_false] at member
  rcases member with rfl | rfl | rfl | rfl | rfl <;>
    obtain ⟨b, decoded, rfl⟩ := exists_of_assign assigned
  · cases setting with
    | cacheEnabled => exact decoded
    | _ => rfl
  · cases setting with
    | cacheHighlight => exact decoded
    | _ => rfl
  · cases setting with
    | cacheMath => exact decoded
    | _ => rfl
  · cases setting with
    | cacheResult => exact decoded
    | _ => rfl
  · cases setting with
    | cacheDir => exact congrArg (some <$> ·) decoded
    | _ => rfl

private theorem followsEach_markdownFields (setting : Field α) :
    setting.FollowsEach (readsIn "markdown" setting) markdownFields := by
  intro field member v c c' assigned
  simp only [markdownFields, List.mem_cons, List.not_mem_nil, or_false] at member
  rcases member with rfl | rfl | rfl | rfl <;>
    obtain ⟨b, decoded, rfl⟩ := exists_of_assign assigned
  · cases setting with
    | gfm => exact decoded
    | _ => rfl
  · cases setting with
    | math => exact decoded
    | _ => rfl
  · cases setting with
    | lineNumbers => exact decoded
    | _ => rfl
  · cases setting with
    | maxNesting => exact decoded
    | _ => rfl

private theorem followsEach_mathFields (setting : Field α) :
    setting.FollowsEach (readsIn "math" setting) mathFields := by
  intro field member v c c' assigned
  simp only [mathFields, List.mem_cons, List.not_mem_nil, or_false] at member
  rcases member with rfl | rfl <;>
    obtain ⟨b, decoded, rfl⟩ := exists_of_assign assigned
  · cases setting with
    | program => exact decoded
    | _ => rfl
  · cases setting with
    | args => exact decoded
    | _ => rfl

private def readsAmong (setting : Field α) (group : String) (v : Value) : List Value :=
  if group = setting.group then v.valuesOf (Field.names setting.group) setting.name else []

private theorem follows_group {group title : String} {fields : List (RecordField Config)}
    (each : setting.FollowsEach (readsIn group setting) fields)
    (listed : fields.map (·.name) = Field.names group)
    (decoded : Decoder.record title fields c v = .ok c') :
    setting.Follows (readsAmong setting group v) c c' := by
  have follows := follows_record each decoded
  rw [listed] at follows
  unfold readsAmong
  by_cases own : group = setting.group
  · subst own
    rw [if_pos rfl, Value.valuesOf]
    simpa only [readsIn, true_and] using follows
  · rw [if_neg own]
    have none : (v.members (Field.names group)).flatMap
        (fun (name, w) => readsIn group setting name w) = [] := by
      simp [readsIn, own]
    rwa [none] at follows

private theorem followsEach_sections (setting : Field α) :
    setting.FollowsEach (readsAmong setting) sections := by
  intro field member v c c' assigned
  simp only [sections, List.mem_cons, List.not_mem_nil, or_false] at member
  rcases member with rfl | rfl | rfl
  · exact follows_group (followsEach_cacheFields setting) rfl assigned
  · exact follows_group (followsEach_markdownFields setting) rfl assigned
  · exact follows_group (followsEach_mathFields setting) rfl assigned

theorem Field.follows_decode (setting : Field α) (decoded : decode v = .ok c) :
    setting.Follows (setting.given v) {} c := by
  have follows := follows_record (followsEach_sections setting) decoded
  have reads : setting.given v =
      (v.members (sections.map (·.name))).flatMap fun (group, w) => readsAmong setting group w := by
    rw [given, Value.valuesOf, List.flatMap_assoc]
    have each : (fun member : String × Value => readsAmong setting member.1 member.2) = fun member =>
        (if member.1 = setting.group then [member.2] else []).flatMap
          (·.valuesOf (names setting.group) setting.name) := by
      funext member
      simp only [readsAmong]
      split
      · exact (List.flatMap_singleton ..).symm
      · rfl
    exact congrArg (List.flatMap · (v.members ["cache", "markdown", "math"])) each.symm
  rw [reads]
  exact follows

end Mathdown.Config
