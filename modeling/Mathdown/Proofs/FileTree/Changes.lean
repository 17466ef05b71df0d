import Mathdown.FileTree

namespace Mathdown.FileTree

variable {t : FileTree}

private theorem lookup_filter (entries : List (Place × Node)) (keeps : Place → Bool) (place : Place) :
    (entries.filter fun entry => keeps entry.1).lookup place =
      if keeps place then entries.lookup place else none := by
  induction entries with
  | nil => simp
  | cons entry rest ih =>
    obtain ⟨first, node⟩ := entry
    by_cases same : place = first
    · subst same
      cases kept : keeps place with
      | true => simp [kept]
      | false => simpa [kept] using ih
    · have differ : (place == first) = false := beq_false_of_ne same
      cases kept : keeps first with
      | true => simpa [kept, List.lookup_cons, differ] using ih
      | false => simpa [kept, List.lookup_cons, differ] using ih

def FilesIn (t whole : FileTree) : Prop :=
  ∀ place bytes, t.find? place = some (.file bytes) → whole.find? place = some (.file bytes)

namespace FilesIn

variable {whole : FileTree}

theorem refl (t : FileTree) : t.FilesIn t := fun _ _ stands => stands

theorem trans {middle : FileTree} (first : t.FilesIn middle) (second : middle.FilesIn whole) :
    t.FilesIn whole :=
  fun place bytes stands => second place bytes (first place bytes stands)

theorem put_directory (inside : t.FilesIn whole) (place : Place) :
    (t.put place .directory).FilesIn whole := by
  intro other bytes stands
  by_cases same : other = place
  · subst same
    by_cases top : other = []
    · subst top
      simp at stands
    · simp [find?_put_self t .directory top] at stands
  · rw [find?_put_of_ne t .directory same] at stands
    exact inside other bytes stands

theorem erase (inside : t.FilesIn whole) (place : Place) : (t.erase place).FilesIn whole := by
  intro other bytes stands
  by_cases top : other = []
  · subst top
    simp at stands
  · unfold find? FileTree.erase at stands
    rw [if_neg top, lookup_filter _ (fun kept => !place.isPrefixOf kept)] at stands
    split at stands
    · exact inside other bytes (by rwa [find?, if_neg top])
    · cases stands

end FilesIn

theorem filesIn_createFrom {made : FileTree} {place below : Place}
    (created : t.createFrom place below = .ok made) : made.FilesIn t := by
  induction below generalizing t place with
  | nil =>
    cases created
    exact .refl made
  | cons name below ih =>
    rw [createFrom] at created
    cases stands : t.find? (place ++ [name]) with
    | none =>
      rw [stands] at created
      exact (ih created).trans (.put_directory (.refl t) _)
    | some node =>
      rw [stands] at created
      cases node with
      | directory => exact ih created
      | file bytes => cases created

theorem filesIn_removeAll {cleared : FileTree} {place : Place}
    (removed : t.removeAll place = .ok cleared) : cleared.FilesIn t := by
  unfold removeAll at removed
  split at removed
  · cases removed
  · cases removed
    exact .erase (.refl t) place
  · cases removed
  · cases removed

theorem eq_put_of_write {written : FileTree} {place : Place} {bytes : ByteArray}
    (wrote : t.write place bytes = .ok written) : written = t.put place (.file bytes) := by
  unfold write at wrote
  split at wrote
  · cases wrote
  · split at wrote
    · cases wrote
    · cases wrote
      rfl

theorem find?_of_read {place : Place} {bytes : ByteArray} (read : t.read place = .ok bytes) :
    t.find? place = some (.file bytes) := by
  unfold FileTree.read at read
  split at read
  · cases read
  · split at read
    · cases read
      assumption
    · cases read
    · cases read

theorem isDirectory_iff {place : Place} :
    t.isDirectory place = true ↔ t.find? place = some .directory := by
  unfold isDirectory
  split
  · rename_i stands
    simp [stands]
  · rename_i other
    simpa using other

/-- Whether all places on the way to a place are directories, and so is the place. -/
def Reaches (t : FileTree) (place : Place) : Prop :=
  ∀ n ≤ place.length, t.find? (place.take n) = some .directory

namespace Reaches

variable {place : Place}

theorem obstacle?_eq_none (reaches : t.Reaches place) (name : String) :
    t.obstacle? (place ++ [name]) = none := by
  unfold obstacle?
  rw [List.findSome?_eq_none_iff]
  intro n member
  have bound : n ≤ place.length := by
    rw [List.mem_range, List.length_append, List.length_singleton] at member
    omega
  rw [List.take_append_of_le_length bound]
  simp [barrier?, reaches n bound]

theorem put (reaches : t.Reaches place) {other : Place} (node : Node) (off : ¬ other <+: place) :
    (t.put other node).Reaches place := by
  intro n bound
  rw [find?_put_of_ne t node]
  · exact reaches n bound
  · rintro rfl
    exact off (List.take_prefix n place)

theorem snoc (reaches : t.Reaches place) {name : String}
    (stands : t.find? (place ++ [name]) = some .directory) : t.Reaches (place ++ [name]) := by
  intro n bound
  by_cases whole : n ≤ place.length
  · rw [List.take_append_of_le_length whole]
    exact reaches n whole
  · rw [List.length_append, List.length_singleton] at bound
    rw [List.take_of_length_le (by rw [List.length_append, List.length_singleton]; omega)]
    exact stands

theorem read_eq (reaches : t.Reaches place) {name : String} {bytes : ByteArray}
    (stands : t.find? (place ++ [name]) = some (.file bytes)) :
    t.read (place ++ [name]) = .ok bytes := by
  unfold FileTree.read
  rw [reaches.obstacle?_eq_none, stands]

theorem write_eq (reaches : t.Reaches place) {name : String}
    (free : t.find? (place ++ [name]) ≠ some .directory) (bytes : ByteArray) :
    t.write (place ++ [name]) bytes = .ok (t.put (place ++ [name]) (.file bytes)) := by
  unfold FileTree.write
  rw [reaches.obstacle?_eq_none]
  exact if_neg fun stands => free (isDirectory_iff.mp stands)

theorem read_put (reaches : t.Reaches place) (name : String) (bytes : ByteArray) :
    (t.put (place ++ [name]) (.file bytes)).read (place ++ [name]) = .ok bytes := by
  refine (reaches.put _ fun within => ?_).read_eq (find?_put_self t _ (by simp))
  have shorter := within.length_le
  rw [List.length_append, List.length_singleton] at shorter
  omega

end Reaches

private theorem createFrom_append (base way rest : Place)
    (there : ∀ n ≤ way.length, t.find? (base ++ way.take n) = some .directory) :
    t.createFrom base (way ++ rest) = t.createFrom (base ++ way) rest := by
  induction way generalizing base with
  | nil => simp
  | cons name way ih =>
    have first := there 1 (by simp)
    rw [List.take_succ_cons, List.take_zero] at first
    rw [List.cons_append, createFrom]
    simp only [first]
    rw [ih (base ++ [name]), List.append_assoc, List.singleton_append]
    intro n bound
    have next := there (n + 1) (by simpa using bound)
    rwa [List.take_succ_cons, List.append_cons] at next

theorem createAll_of_reaches {place : Place} (reaches : t.Reaches place) {name : String}
    (free : ∀ bytes, t.find? (place ++ [name]) ≠ some (.file bytes)) :
    ∃ made, t.createAll (place ++ [name]) = .ok made ∧ made.Reaches (place ++ [name]) ∧
      ∀ other ≠ place ++ [name], made.find? other = t.find? other := by
  have passed : t.createAll (place ++ [name]) = t.createFrom place [name] := by
    unfold createAll
    rw [createFrom_append [] place [name] reaches, List.nil_append]
  rw [passed, createFrom]
  cases stands : t.find? (place ++ [name]) with
  | none =>
    refine ⟨_, rfl, ?_, fun other differs => find?_put_of_ne t .directory differs⟩
    refine (reaches.put .directory fun within => ?_).snoc (find?_put_self t .directory (by simp))
    have shorter := within.length_le
    rw [List.length_append, List.length_singleton] at shorter
    omega
  | some node =>
    cases node with
    | directory => exact ⟨_, rfl, reaches.snoc stands, fun other _ => rfl⟩
    | file bytes => exact absurd stands (free bytes)

/-- Once directories have been made, the last of them is within reach; nothing else has changed. -/
theorem reaches_of_createFrom {made : FileTree} {place below : Place} (reaches : t.Reaches place)
    (created : t.createFrom place below = .ok made) :
    made.Reaches (place ++ below) ∧
      ∀ other, ¬ other <+: place ++ below → made.find? other = t.find? other := by
  induction below generalizing t place with
  | nil =>
    cases created
    rw [List.append_nil]
    exact ⟨reaches, fun _ _ => rfl⟩
  | cons name below ih =>
    rw [createFrom] at created
    rw [List.append_cons]
    cases stands : t.find? (place ++ [name]) with
    | none =>
      rw [stands] at created
      have put : (t.put (place ++ [name]) .directory).Reaches (place ++ [name]) := by
        refine (reaches.put .directory fun within => ?_).snoc (find?_put_self t .directory (by simp))
        have shorter := within.length_le
        rw [List.length_append, List.length_singleton] at shorter
        omega
      obtain ⟨reached, kept⟩ := ih put created
      refine ⟨reached, fun other off => (kept other off).trans (find?_put_of_ne t .directory ?_)⟩
      rintro rfl
      exact off (List.prefix_append _ below)
    | some node =>
      rw [stands] at created
      cases node with
      | directory => exact ih (reaches.snoc stands) created
      | file bytes => cases created

theorem reaches_of_createAll {made : FileTree} {place : Place}
    (created : t.createAll place = .ok made) :
    made.Reaches place ∧ ∀ other, ¬ other <+: place → made.find? other = t.find? other := by
  have top : t.Reaches [] := by
    intro n _
    simp
  exact reaches_of_createFrom top created

theorem find?_erase (t : FileTree) {place : Place} (below : place ≠ []) (other : Place) :
    (t.erase place).find? other = if place <+: other then none else t.find? other := by
  by_cases top : other = []
  · subst top
    rw [if_neg fun within => below (List.prefix_nil.mp within)]
    simp
  · unfold find? FileTree.erase
    rw [if_neg top, if_neg top, lookup_filter _ (fun kept => !place.isPrefixOf kept)]
    by_cases within : place <+: other
    · rw [if_pos within, if_neg (by simpa using within)]
    · rw [if_neg within, if_pos]
      rw [Bool.not_eq_true', ← Bool.not_eq_true, List.isPrefixOf_iff_prefix]
      exact within

theorem createAll_erase {place : Place} (below : place ≠ []) (reaches : t.Reaches place) :
    t.removeAll place = .ok (t.erase place) ∧
      ∃ made, (t.erase place).createAll place = .ok made ∧ made.Reaches place ∧
        ∀ other ≠ place, made.find? other = (t.erase place).find? other := by
  obtain ⟨parent, name, rfl⟩ : ∃ parent name, place = parent ++ [name] :=
    ⟨_, _, (List.dropLast_concat_getLast below).symm⟩
  have upTo : t.Reaches parent := by
    intro n bound
    have found := reaches n (by rw [List.length_append]; omega)
    rwa [List.take_append_of_le_length bound] at found
  have outside : (t.erase (parent ++ [name])).Reaches parent := by
    intro n bound
    rw [find?_erase t below, if_neg, upTo n bound]
    intro within
    have shorter := within.length_le
    rw [List.length_append, List.length_singleton, List.length_take] at shorter
    omega
  have gone (bytes : ByteArray) : (t.erase (parent ++ [name])).find? (parent ++ [name]) ≠
      some (.file bytes) := by
    rw [find?_erase t below, if_pos (List.prefix_refl _)]
    exact nofun
  refine ⟨?_, createAll_of_reaches outside gone⟩
  have stands := reaches _ (Nat.le_refl _)
  rw [List.take_length] at stands
  unfold removeAll
  rw [upTo.obstacle?_eq_none name, stands]

end Mathdown.FileTree
