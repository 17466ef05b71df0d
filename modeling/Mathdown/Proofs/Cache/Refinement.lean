import Mathdown.Proofs.Cache.Apart
import Mathdown.Proofs.Cache.Directories

/-!
A cache in a directory is a map that may forget. Keys of one name share a file, the file says whose
entry it is, and a version that differs empties the directory. So whatever names the entries have, and
however the directory is used and opened, a key is answered with what was stored last under it, or with
nothing.
-/

namespace Mathdown.Cache.Directory

/-- One use of a directory, which may be opened anew at any time. -/
inductive Use where
  | opening (version : String)
  | access (use : Access)
deriving DecidableEq, Repr

def openNamed (nameOf : String → String) (t : FileTree) (root : FileTree.Place) (version : String) :
    Directory :=
  { openAt t root version with nameOf }

theorem openNamed_hex (t : FileTree) (root : FileTree.Place) (version : String) :
    openNamed Sha256.hex t root version = openAt t root version := by
  unfold openNamed openAt
  split
  · split <;> rfl
  · rfl

def Use.apply (d : Directory) : Use → Directory
  | .opening version => openNamed d.nameOf d.tree d.root version
  | .access use => use.apply d

/-- The version that a directory has, and its uses since it was empty. -/
structure History where
  version : String
  uses : List Access := []
deriving DecidableEq, Repr

/-- The history after a use; opening with the version that is there changes nothing. -/
def History.after (h : History) : Use → History
  | .opening version => if version = h.version then h else { version }
  | .access use => { h with uses := h.uses ++ [use] }

def entryOf? (nameOf : String → String) (name : String) : Access → Option (String × String)
  | .get _ => none
  | .set key html => if nameOf key = name ∧ Entry.Fits key then some (key, html) else none

def entryAt? (nameOf : String → String) (name : String) (uses : List Access) :
    Option (String × String) :=
  uses.reverse.findSome? (entryOf? nameOf name)

variable {nameOf : String → String} {name key html : String} {uses : List Access}

theorem entryAt?_append (nameOf : String → String) (name : String) (front back : List Access) :
    entryAt? nameOf name (front ++ back) =
      (entryAt? nameOf name back).or (entryAt? nameOf name front) := by
  rw [entryAt?, List.reverse_append, List.findSome?_append]
  rfl

/-- The entry that is there for a key is the last that was stored under the key. -/
theorem lastStored?_of_entryAt? (fits : Entry.Fits key)
    (found : entryAt? nameOf (nameOf key) uses = some (key, html)) :
    lastStored? key uses = some html := by
  unfold entryAt? at found
  unfold lastStored?
  generalize uses.reverse = latest at found ⊢
  induction latest with
  | nil => cases found
  | cons use rest ih =>
    rw [List.findSome?_cons] at found ⊢
    cases use with
    | get other => exact ih found
    | set other html' =>
      by_cases same : other = key
      · subst same
        simpa [entryOf?, fits, Access.stored?] using found
      · simp only [Access.stored?, if_neg same]
        simp only [entryOf?] at found
        split at found
        · rename_i entry written
          split at written
          · cases written
            cases found
            exact absurd rfl same
          · cases written
        · exact ih found

theorem fits_of_entryAt? {entry : String × String} (found : entryAt? nameOf name uses = some entry) :
    Entry.Fits entry.1 := by
  obtain ⟨use, -, written⟩ := List.exists_of_findSome?_eq_some found
  cases use with
  | get key => cases written
  | set key html =>
    simp only [entryOf?] at written
    split at written
    · rename_i both
      cases written
      exact both.2
    · cases written

theorem entryAt?_eq_none (apart : ∀ key html, .set key html ∈ uses → nameOf key ≠ name) :
    entryAt? nameOf name uses = none := by
  unfold entryAt?
  rw [List.findSome?_eq_none_iff]
  intro use member
  cases use with
  | get key => rfl
  | set key html => exact if_neg fun both => apart key html (List.mem_reverse.mp member) both.1

/-- Whether a directory holds what its history says. -/
structure Reflects (h : History) (d : Directory) : Prop where
  writable : d.Writable h.version
  below : d.root ≠ []
  entries : ∀ key, d.tree.find? (d.place key) =
    (entryAt? d.nameOf (d.nameOf key) h.uses).map fun entry => .file (Entry.encode entry.1 entry.2)
  shelves : ∀ key bytes, d.tree.find? (d.place key) = some (.file bytes) →
    d.tree.find? (d.shelf key) = some .directory

namespace Reflects

variable {h : History} {d : Directory}

theorem place_eq_iff (d : Directory) (key other : String) :
    d.place key = d.place other ↔ d.nameOf key = d.nameOf other := by
  constructor
  · intro same
    have last := congrArg List.getLast? same
    simpa [place] using last
  · intro same
    rw [place_eq, place_eq, same]

theorem shelf_of_name {key other : String} (same : d.nameOf key = d.nameOf other) :
    d.shelf key = d.shelf other := by
  rw [shelf, shelf, same]

theorem set (reflects : d.Reflects h) (key html : String) :
    (d.set key html).Reflects (h.after (.access (.set key html))) := by
  obtain ⟨reaches, stands⟩ := reflects.writable.set_cases key html
  refine ⟨reflects.writable.set key html, reflects.below, fun other => ?_, fun other bytes held => ?_⟩
  · change (d.set key html).tree.find? (d.place other) =
      (entryAt? d.nameOf (d.nameOf other) (h.uses ++ [.set key html])).map _
    rw [stands _ (d.place_ne_shelf other key), entryAt?_append, reflects.entries]
    have last : entryAt? d.nameOf (d.nameOf other) [.set key html] =
        if d.nameOf key = d.nameOf other ∧ Entry.Fits key then some (key, html) else none := by
      simp [entryAt?, entryOf?]
    rw [last]
    by_cases written : d.nameOf key = d.nameOf other ∧ Entry.Fits key
    · rw [if_pos written, if_pos ⟨(place_eq_iff d other key).mpr written.1.symm, written.2⟩]
      rfl
    · rw [if_neg written, if_neg fun both =>
        written ⟨((place_eq_iff d other key).mp both.1).symm, both.2⟩]
      rfl
  · change (d.set key html).tree.find? (d.place other) = _ at held
    change (d.set key html).tree.find? (d.shelf other) = _
    have shelf := reaches (d.shelf key).length (Nat.le_refl _)
    rw [List.take_length] at shelf
    by_cases same : d.shelf other = d.shelf key
    · rw [same, shelf]
    · rw [stands _ (d.place_ne_shelf other key), if_neg] at held
      · rw [stands _ same, if_neg fun both => d.place_ne_shelf key other both.1.symm]
        exact reflects.shelves other bytes held
      · rintro ⟨place, -⟩
        exact same (shelf_of_name ((place_eq_iff d other key).mp place))

theorem get (reflects : d.Reflects h) (key : String) :
    d.Reflects (h.after (.access (.get key))) := by
  refine { reflects with entries := fun other => ?_ }
  change _ = (entryAt? d.nameOf (d.nameOf other) (h.uses ++ [.get key])).map _
  rw [entryAt?_append, reflects.entries]
  rfl

theorem renew {t cleared made : FileTree} {root : FileTree.Place} (below : root ≠ [])
    (clear : (t.removeAll root).toOption.getD t = cleared)
    (empty : ∀ below, cleared.find? (root ++ below) = none)
    (created : cleared.createAll root = .ok made) (version : String) (nameOf : String → String) :
    Reflects { version } ⟨Directory.renew t root version, root, nameOf⟩ := by
  obtain ⟨writable, vacant⟩ := writable_renew clear empty created version nameOf
  refine ⟨writable, below, fun key => vacant key, fun key bytes held => ?_⟩
  cases (vacant key).symm.trans held

theorem opening (reflects : d.Reflects h) (version : String) :
    (openNamed d.nameOf d.tree d.root version).Reflects (h.after (.opening version)) := by
  have read := reflects.writable.readText_versionPlace
  by_cases same : version = h.version
  · have opened : openNamed d.nameOf d.tree d.root version = d := by
      simp only [openNamed, openAt, read, if_pos same.symm]
    rwa [opened, History.after, if_pos same]
  · have opened : openNamed d.nameOf d.tree d.root version =
        ⟨Directory.renew d.tree d.root version, d.root, d.nameOf⟩ := by
      simp only [openNamed, openAt, read, if_neg (Ne.symm same)]
    obtain ⟨removed, made, created, -⟩ :=
      FileTree.createAll_erase reflects.below reflects.writable.reaches
    rw [opened, History.after, if_neg same]
    refine renew reflects.below (by rw [removed]; rfl) (fun below => ?_) created version d.nameOf
    rw [FileTree.find?_erase _ reflects.below, if_pos (List.prefix_append ..)]

theorem apply (reflects : d.Reflects h) (use : Use) : (use.apply d).Reflects (h.after use) := by
  cases use with
  | opening version => exact reflects.opening version
  | access use =>
    cases use with
    | get key => exact reflects.get key
    | set key html => exact reflects.set key html

theorem applyAll (reflects : d.Reflects h) (uses : List Use) :
    (uses.foldl Use.apply d).Reflects (uses.foldl History.after h) := by
  induction uses generalizing d h with
  | nil => exact reflects
  | cons use rest ih => exact ih (reflects.apply use)

/-- What is found under a key is the entry that was written last under its name. -/
theorem get?_eq_some_iff (reflects : d.Reflects h) {key html : String} :
    d.get? key = some html ↔ Entry.Fits key ∧
      entryAt? d.nameOf (d.nameOf key) h.uses = some (key, html) := by
  unfold get?
  constructor
  · intro found
    split at found
    · rename_i bytes read
      have stands := FileTree.find?_of_read read
      rw [reflects.entries, Option.map_eq_some_iff] at stands
      obtain ⟨⟨other, html'⟩, entry, file⟩ := stands
      obtain rfl := FileTree.Node.file.inj file
      obtain ⟨rfl, rfl⟩ := Entry.eq_of_decode?_encode (fits_of_entryAt? entry) found
      exact ⟨fits_of_entryAt? entry, entry⟩
    · cases found
  · rintro ⟨fits, entry⟩
    have stands := reflects.entries key
    rw [entry, Option.map_some] at stands
    rw [reflects.writable.read_place (reflects.shelves key _ stands) stands]
    exact Entry.decode?_eq_some_iff.mpr ⟨fits, rfl⟩

end Reflects

theorem nameOf_applyAll (d : Directory) (uses : List Use) :
    (uses.foldl Use.apply d).nameOf = d.nameOf := by
  induction uses generalizing d with
  | nil => rfl
  | cons use rest ih =>
    rw [List.foldl_cons, ih]
    rcases use with version | ⟨key⟩ | ⟨key, html⟩ <;> rfl

theorem reflects_openNamed (nameOf : String → String) {t made : FileTree} {root : FileTree.Place}
    (absent : ∀ below, t.find? (root ++ below) = none) (created : t.createAll root = .ok made)
    (version : String) : (openNamed nameOf t root version).Reflects { version } := by
  have below : root ≠ [] := by
    rintro rfl
    cases (absent []).symm.trans (FileTree.find?_top t)
  obtain ⟨e, unread⟩ : ∃ e, t.readText (versionPlace root) = .error e := by
    have bytes : ∃ e, t.read (versionPlace root) = .error e := by
      unfold FileTree.read
      rw [versionPlace, absent]
      split
      · exact ⟨_, rfl⟩
      · exact ⟨_, rfl⟩
    obtain ⟨e, bytes⟩ := bytes
    exact ⟨e, by simp only [FileTree.readText, bytes, bind, Except.bind]⟩
  have clear : (t.removeAll root).toOption.getD t = t := by
    have nothing := absent []
    rw [List.append_nil] at nothing
    unfold FileTree.removeAll
    rw [nothing]
    split <;> first | rfl | contradiction
  have opened : openNamed nameOf t root version = ⟨renew t root version, root, nameOf⟩ := by
    simp only [openNamed, openAt, unread]
  rw [opened]
  exact .renew below clear absent created version nameOf

/--
Whatever is done with a directory that is absent at first: a key is answered with what was stored last
under it since the directory was opened with another version than it had, or with nothing; and with just
that if the key is short enough and nothing has been stored since under a key of the same name.
-/
theorem refines_map (nameOf : String → String) {t made : FileTree} {root : FileTree.Place}
    (absent : ∀ below, t.find? (root ++ below) = none) (created : t.createAll root = .ok made)
    (version : String) (uses : List Use) (key : String) :
    let d := uses.foldl Use.apply (openNamed nameOf t root version)
    let past := (uses.foldl History.after { version }).uses
    (∀ html, d.get? key = some html → lastStored? key past = some html ∧ .set key html ∈ past) ∧
      ∀ before html later, past = before ++ .set key html :: later → key.utf8ByteSize < 4294967296 →
        (∀ other html', .set other html' ∈ later → nameOf other ≠ nameOf key) →
          d.get? key = some html := by
  intro d past
  have reflects : d.Reflects (uses.foldl History.after { version }) :=
    (reflects_openNamed nameOf absent created version).applyAll uses
  have named : d.nameOf = nameOf := nameOf_applyAll _ uses
  have found_iff (html : String) : d.get? key = some html ↔
      Entry.Fits key ∧ entryAt? nameOf (nameOf key) past = some (key, html) := by
    rw [reflects.get?_eq_some_iff, named]
  refine ⟨fun html found => ?_, fun before html later split short apart => ?_⟩
  · obtain ⟨fits, entry⟩ := (found_iff html).mp found
    have last := lastStored?_of_entryAt? fits entry
    exact ⟨last, mem_of_lastStored? last⟩
  · have fits : Entry.Fits key := short
    refine (found_iff html).mpr ⟨fits, ?_⟩
    have written : entryAt? nameOf (nameOf key) [.set key html] = some (key, html) := by
      simp [entryAt?, entryOf?, fits]
    rw [split, List.append_cons, entryAt?_append, entryAt?_eq_none apart, Option.none_or, entryAt?_append,
      written, Option.some_or]

/-- All keys share a name, and the version changes between two entries, the first of which is lost. -/
theorem refines_map_renewed :
    let nameOf := fun _ : String => String.ofList (List.replicate 64 'a')
    let uses : List Use := [.access (.set "a" "x"), .opening "2", .access (.set "b" "y"), .opening "2",
      .access (.get "a")]
    let d := uses.foldl Use.apply (openNamed nameOf {} ["cache"] "1")
    d.get? "b" = some "y" ∧ d.get? "a" = none := by
  intro nameOf uses d
  have absent (below : FileTree.Place) : ({} : FileTree).find? (["cache"] ++ below) = none := by
    simp [FileTree.find?]
  have created : ({} : FileTree).createAll ["cache"] = .ok ⟨[(["cache"], .directory)]⟩ := rfl
  have answers := refines_map nameOf absent created "1" uses
  constructor
  · refine (answers "b").2 [] "y" [.get "a"] rfl (by decide) fun other html' member => ?_
    simp at member
  · cases found : d.get? "a" with
    | none => rfl
    | some html => cases ((answers "a").1 html found).1

end Mathdown.Cache.Directory
