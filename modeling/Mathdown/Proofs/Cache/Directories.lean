import Mathdown.Cache.Directory
import Mathdown.Proofs.Cache.Entries
import Mathdown.Proofs.FileTree.Changes

namespace Mathdown

def FileTree.Vacant (t : FileTree) (root : FileTree.Place) : Prop :=
  ∀ name below, t.find? (root ++ name :: below) = none

namespace Cache

/-- Whether all entries of the cache in a directory are right. -/
def HoldsOnly (right : String → String → Prop) (root : FileTree.Place) (t : FileTree) : Prop :=
  ∀ shelf name bytes, t.find? (root ++ [shelf, name]) = some (.file bytes) →
    ∀ key html, Entry.decode? key bytes = some html → right key html

namespace HoldsOnly

variable {right : String → String → Prop} {root : FileTree.Place} {t : FileTree}

theorem ofVacant (vacant : t.Vacant root) : HoldsOnly right root t := by
  intro shelf name bytes stands
  cases (vacant shelf [name]).symm.trans stands

theorem mono {whole : FileTree} (holds : HoldsOnly right root whole) (inside : t.FilesIn whole) :
    HoldsOnly right root t :=
  fun shelf name bytes stands => holds shelf name bytes (inside _ bytes stands)

/-- A file in the place of an entry must be right, and any other file does no harm. -/
theorem write (holds : HoldsOnly right root t) {place : FileTree.Place} {bytes : ByteArray}
    (new : ∀ shelf name, place = root ++ [shelf, name] →
      ∀ key html, Entry.decode? key bytes = some html → right key html) :
    HoldsOnly right root ((t.write place bytes).toOption.getD t) := by
  cases wrote : t.write place bytes with
  | error e => exact holds
  | ok written =>
    obtain rfl := FileTree.eq_put_of_write wrote
    intro shelf name held stands key html found
    by_cases same : root ++ [shelf, name] = place
    · have below : place ≠ [] := by simp [← same]
      rw [same, Except.toOption, Option.getD_some, FileTree.find?_put_self t _ below] at stands
      cases stands
      exact new shelf name same.symm key html found
    · have kept : t.find? (root ++ [shelf, name]) = some (.file held) := by
        rwa [Except.toOption, Option.getD_some, FileTree.find?_put_of_ne t _ same] at stands
      exact holds shelf name held kept key html found

end HoldsOnly

namespace Directory

variable {right : String → String → Prop} {d : Directory} {key html version : String}

theorem place_eq (d : Directory) (key : String) :
    d.place key = d.root ++ [String.ofList ((d.nameOf key).toList.take 2), d.nameOf key] := by
  unfold place shelf
  rw [List.append_assoc]
  rfl

theorem length_place (d : Directory) (key : String) : (d.place key).length = d.root.length + 2 := by
  rw [place_eq, List.length_append]
  rfl

theorem place_ne_top (d : Directory) (key : String) : d.place key ≠ [] := by
  intro top
  have lengths := congrArg List.length top
  rw [length_place] at lengths
  cases lengths

theorem length_shelf (d : Directory) (key : String) : (d.shelf key).length = d.root.length + 1 := by
  rw [shelf, List.length_append]
  rfl

theorem length_versionPlace (root : FileTree.Place) :
    (versionPlace root).length = root.length + 1 := by
  rw [versionPlace, List.length_append]
  rfl

theorem right_of_get? (holds : HoldsOnly right d.root d.tree) (found : d.get? key = some html) :
    Entry.Fits key ∧ right key html := by
  unfold get? at found
  split at found
  · rename_i bytes read
    have stands := FileTree.find?_of_read read
    rw [place_eq] at stands
    exact ⟨(Entry.decode?_eq_some_iff.mp found).1, holds _ _ bytes stands key html found⟩
  · cases found

theorem holdsOnly_set (holds : HoldsOnly right d.root d.tree)
    (new : Entry.Fits key → right key html) : HoldsOnly right d.root (d.set key html).tree := by
  change HoldsOnly right d.root (d.treeAfter key html)
  unfold treeAfter
  split
  · exact holds
  · rename_i made created
    have kept := holds.mono (FileTree.filesIn_createFrom created)
    split
    · rename_i fits
      refine kept.write fun shelf name _ other html' found => ?_
      obtain ⟨rfl, rfl⟩ := Entry.eq_of_decode?_encode fits found
      exact new fits
    · exact kept

private theorem versionPlace_ne (root : FileTree.Place) (shelf name : String) :
    versionPlace root ≠ root ++ [shelf, name] := by
  intro same
  have lengths := congrArg List.length same
  rw [length_versionPlace, List.length_append] at lengths
  simp at lengths

theorem holdsOnly_openAt {root : FileTree.Place} {t : FileTree} (holds : HoldsOnly right root t)
    (version : String) : HoldsOnly right root (openAt t root version).tree := by
  have renewed : HoldsOnly right root (renew t root version) := by
    have cleared : HoldsOnly right root ((t.removeAll root).toOption.getD t) := by
      cases removed : t.removeAll root with
      | error e => exact holds
      | ok cleared => exact holds.mono (FileTree.filesIn_removeAll removed)
    simp only [renew]
    split
    · exact cleared
    · rename_i made created
      refine (cleared.mono (FileTree.filesIn_createFrom created)).write fun shelf name same => ?_
      exact absurd same (versionPlace_ne root shelf name)
  unfold openAt
  split
  · split
    · exact holds
    · exact renewed
  · exact renewed

theorem root_openAt (t : FileTree) (root : FileTree.Place) (version : String) :
    (openAt t root version).root = root := by
  unfold openAt
  split
  · split <;> rfl
  · rfl

theorem get?_eq_none (holds : HoldsOnly right d.root d.tree) (wrong : ∀ html, ¬ right key html) :
    d.get? key = none := by
  cases found : d.get? key with
  | none => rfl
  | some html => exact absurd (right_of_get? holds found).2 (wrong html)

/-- Whether a directory has been opened with a version, and nothing is in the way of its entries. -/
structure Open (version : String) (d : Directory) : Prop where
  reaches : d.tree.Reaches d.root
  version : d.tree.find? (versionPlace d.root) = some (.file version.toUTF8)
  shelves : ∀ key bytes, d.tree.find? (d.shelf key) ≠ some (.file bytes)
  places : ∀ key, d.tree.find? (d.place key) ≠ some .directory
  named : d.nameOf = Sha256.hex

/-- The same, however its entries are named. -/
structure Writable (version : String) (d : Directory) : Prop where
  reaches : d.tree.Reaches d.root
  version : d.tree.find? (versionPlace d.root) = some (.file version.toUTF8)
  shelves : ∀ key bytes, d.tree.find? (d.shelf key) ≠ some (.file bytes)
  places : ∀ key, d.tree.find? (d.place key) ≠ some .directory

theorem Open.writable (opened : d.Open version) : d.Writable version :=
  { opened with }

private theorem shelf_ne_versionPlace (d : Directory) (key : String) :
    d.shelf key ≠ versionPlace d.root := by
  intro same
  have name := List.append_cancel_left same
  have short := congrArg (fun names : List String => names.map String.length) name
  simp only [List.map_cons, List.map_nil, List.cons.injEq, and_true] at short
  have two := List.length_take_le 2 (d.nameOf key).toList
  rw [← String.length_ofList, short] at two
  exact absurd two (by decide)

theorem place_ne_shelf (d : Directory) (key other : String) : d.place key ≠ d.shelf other := by
  intro same
  have lengths := congrArg List.length same
  rw [length_place, length_shelf] at lengths
  omega

namespace Writable

/-- What stands in a directory once an entry has been stored: its shelf, and the entry if it fits. -/
theorem set_cases (writable : d.Writable version) (key html : String) :
    (d.set key html).tree.Reaches (d.shelf key) ∧
      ∀ other ≠ d.shelf key, (d.set key html).tree.find? other =
        if other = d.place key ∧ Entry.Fits key then some (.file (Entry.encode key html))
        else d.tree.find? other := by
  obtain ⟨made, created, reaches, kept⟩ : ∃ made, d.tree.createAll (d.shelf key) = .ok made ∧
      made.Reaches (d.shelf key) ∧ ∀ other ≠ d.shelf key, made.find? other = d.tree.find? other :=
    FileTree.createAll_of_reaches writable.reaches (writable.shelves key)
  change (d.treeAfter key html).Reaches (d.shelf key) ∧ ∀ other ≠ d.shelf key,
    (d.treeAfter key html).find? other = _
  simp only [treeAfter, created]
  split
  · rename_i fits
    have free : made.find? (d.place key) ≠ some .directory := by
      rw [kept _ (d.place_ne_shelf key key)]
      exact writable.places key
    have wrote : made.write (d.place key) (Entry.encode key html) =
        .ok (made.put (d.place key) (.file (Entry.encode key html))) := reaches.write_eq free _
    rw [wrote]
    refine ⟨reaches.put _ fun within => ?_, fun other off => ?_⟩
    · have shorter := within.length_le
      rw [length_place, length_shelf] at shorter
      omega
    · change (made.put (d.place key) _).find? other = _
      by_cases same : other = d.place key
      · rw [if_pos ⟨same, fits⟩, same, FileTree.find?_put_self _ _ (d.place_ne_top key)]
      · rw [if_neg fun both => same both.1, FileTree.find?_put_of_ne _ _ same, kept other off]
  · rename_i long
    refine ⟨reaches, fun other off => ?_⟩
    rw [if_neg fun both => long both.2, kept other off]

/-- Storing leaves all as it was that is not as deep down as the shelf of the key. -/
theorem find?_set_of_length_le (writable : d.Writable version) (key html : String)
    {other : FileTree.Place} (above : other.length ≤ d.root.length) :
    (d.set key html).tree.find? other = d.tree.find? other := by
  rw [(writable.set_cases key html).2, if_neg]
  · rintro ⟨rfl, -⟩
    rw [length_place] at above
    omega
  · rintro rfl
    rw [length_shelf] at above
    omega

theorem set (writable : d.Writable version) (key html : String) :
    (d.set key html).Writable version := by
  obtain ⟨reaches, stands⟩ := writable.set_cases key html
  refine ⟨fun n bound => ?_, ?_, fun other bytes held => ?_, fun other held => ?_⟩
  · rw [writable.find?_set_of_length_le]
    · exact writable.reaches n bound
    · exact List.length_take_le' n d.root
  · change (d.set key html).tree.find? (versionPlace d.root) = _
    rw [stands _ (shelf_ne_versionPlace d key).symm, if_neg]
    · exact writable.version
    · rintro ⟨same, -⟩
      have lengths := congrArg List.length same
      rw [length_place, length_versionPlace] at lengths
      omega
  · change (d.set key html).tree.find? (d.shelf other) = _ at held
    by_cases same : d.shelf other = d.shelf key
    · have shelf := reaches (d.shelf key).length (Nat.le_refl _)
      rw [List.take_length, ← same] at shelf
      cases shelf.symm.trans held
    · rw [stands _ same, if_neg fun both => d.place_ne_shelf key other both.1.symm] at held
      exact writable.shelves other bytes held
  · change (d.set key html).tree.find? (d.place other) = _ at held
    rw [stands _ (d.place_ne_shelf other key)] at held
    split at held
    · cases held
    · exact writable.places other held

theorem read_place (writable : d.Writable version) {key : String} {bytes : ByteArray}
    (shelf : d.tree.find? (d.shelf key) = some .directory)
    (stands : d.tree.find? (d.place key) = some (.file bytes)) :
    d.tree.read (d.place key) = .ok bytes :=
  (writable.reaches.snoc shelf).read_eq stands

theorem read_set (writable : d.Writable version) {key : String} (fits : Entry.Fits key)
    (html : String) : (d.set key html).tree.read (d.place key) = .ok (Entry.encode key html) := by
  obtain ⟨reaches, stands⟩ := writable.set_cases key html
  refine reaches.read_eq ((stands (d.place key) (d.place_ne_shelf key key)).trans ?_)
  exact if_pos ⟨rfl, fits⟩

theorem get?_set_self (writable : d.Writable version) {key : String} (fits : Entry.Fits key)
    (html : String) : (d.set key html).get? key = some html := by
  unfold get?
  rw [show (d.set key html).place key = d.place key from rfl, writable.read_set fits]
  exact Entry.decode?_eq_some_iff.mpr ⟨fits, rfl⟩

theorem overwrite (writable : d.Writable version) (key html : String) (bytes : ByteArray) :
    ∃ tree, (d.set key html).tree.write (d.place key) bytes = .ok tree ∧
      tree.read (d.place key) = .ok bytes := by
  obtain ⟨reaches, -⟩ := writable.set_cases key html
  have free : (d.set key html).tree.find? (d.place key) ≠ some .directory :=
    (writable.set key html).places key
  exact ⟨_, reaches.write_eq free bytes, reaches.read_put _ bytes⟩

theorem readText_versionPlace (writable : d.Writable version) :
    d.tree.readText (versionPlace d.root) = .ok version := by
  have bytes : d.tree.read (versionPlace d.root) = .ok version.toUTF8 :=
    writable.reaches.read_eq writable.version
  have text : String.fromUTF8? version.toUTF8 = some version := dif_pos version.isValidUTF8
  simp only [FileTree.readText, bytes, bind, Except.bind, text]

end Writable

theorem Open.set (opened : d.Open version) (key html : String) : (d.set key html).Open version :=
  { opened.writable.set key html with named := opened.named }

theorem Open.get?_set_self (opened : d.Open version) {key : String} (fits : Entry.Fits key)
    (html : String) : (d.set key html).get? key = some html :=
  opened.writable.get?_set_self fits html

theorem Open.openAt (opened : d.Open version) : openAt d.tree d.root version = d := by
  have read := opened.writable.readText_versionPlace
  obtain ⟨tree, root, nameOf⟩ := d
  obtain rfl : nameOf = Sha256.hex := opened.named
  simp only [Directory.openAt, read, if_true]

/-- A directory that has been made anew can be written, and holds no entries. -/
theorem writable_renew {t cleared made : FileTree} {root : FileTree.Place}
    (clear : (t.removeAll root).toOption.getD t = cleared)
    (empty : ∀ below, cleared.find? (root ++ below) = none)
    (created : cleared.createAll root = .ok made) (version : String) (nameOf : String → String) :
    let d : Directory := ⟨renew t root version, root, nameOf⟩
    d.Writable version ∧ ∀ key, d.tree.find? (d.place key) = none := by
  intro d
  obtain ⟨reaches, kept⟩ := FileTree.reaches_of_createAll created
  have inside (name : String) (below : FileTree.Place) : made.find? (root ++ name :: below) = none := by
    rw [kept, empty]
    intro within
    have shorter := within.length_le
    simp only [List.length_append, List.length_cons] at shorter
    omega
  have tree : d.tree = made.put (versionPlace root) (.file version.toUTF8) := by
    have wrote : made.write (versionPlace root) version.toUTF8 =
        .ok (made.put (versionPlace root) (.file version.toUTF8)) := by
      refine reaches.write_eq (fun stands => ?_) _
      cases (inside "VERSION" []).symm.trans stands
    simp only [d, renew, clear, created, wrote]
    rfl
  -- But for the version file there is nothing below the root.
  have free (name : String) (below : FileTree.Place) (off : root ++ name :: below ≠ versionPlace root) :
      d.tree.find? (root ++ name :: below) = none := by
    rw [tree, FileTree.find?_put_of_ne _ _ off, inside]
  have vacant (key : String) : d.tree.find? (d.place key) = none := by
    rw [place_eq]
    refine free _ _ fun same => ?_
    have lengths := congrArg List.length same
    rw [length_versionPlace, List.length_append] at lengths
    simp at lengths
  refine ⟨⟨?_, ?_, fun key bytes stands => ?_, fun key stands => ?_⟩, vacant⟩
  · rw [tree]
    refine reaches.put _ fun within => ?_
    have shorter := within.length_le
    rw [length_versionPlace] at shorter
    change root.length + 1 ≤ root.length at shorter
    omega
  · rw [tree]
    exact FileTree.find?_put_self _ _ (by simp [versionPlace])
  · rw [shelf, free _ _ (shelf_ne_versionPlace d key)] at stands
    cases stands
  · cases (vacant key).symm.trans stands

theorem open_openAt (name version : String) : (openAt {} [name] version).Open version := by
  have nothing (below : FileTree.Place) : ({} : FileTree).find? ([name] ++ below) = none := by
    simp [FileTree.find?]
  have absent : ({} : FileTree).removeAll [name] = .error .notFound := by
    simp [FileTree.removeAll, FileTree.obstacle?, FileTree.barrier?, FileTree.find?]
  have renewed := writable_renew (by rw [absent]; rfl) nothing rfl version Sha256.hex
  have unread : ({} : FileTree).readText (versionPlace [name]) = .error .notFound := rfl
  have opened : openAt {} [name] version = ⟨renew {} [name] version, [name], Sha256.hex⟩ := by
    simp only [openAt, unread]
  rw [opened]
  exact { renewed.1 with named := rfl }

end Directory

end Cache

end Mathdown
