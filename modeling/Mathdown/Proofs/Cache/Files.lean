import Mathdown.Proofs.Cache.Directories

namespace Mathdown.Cache.Directory

variable {d : Directory} {key html : String} {bytes : ByteArray}

theorem get?_of_read (held : d.tree.read (d.place key) = .ok bytes) :
    d.get? key = Entry.decode? key bytes := by
  rw [get?, held]

/--
The file of a key gives some HTML if and only if the key is short enough and the file is the length of
the key in four bytes, the key and the HTML. This is what storing the HTML writes.
-/
theorem get?_eq_some_iff_of_read (held : d.tree.read (d.place key) = .ok bytes) (html : String) :
    (d.get? key = some html ↔ key.utf8ByteSize < 4294967296 ∧
      bytes = Entry.lengthBytes key.utf8ByteSize ++ key.toUTF8 ++ html.toUTF8) ∧
    ∀ version, d.Writable version → key.utf8ByteSize < 4294967296 →
      (d.set key html).tree.read (d.place key) =
        .ok (Entry.lengthBytes key.utf8ByteSize ++ key.toUTF8 ++ html.toUTF8) := by
  refine ⟨?_, fun version writable short => writable.read_set short html⟩
  rw [get?_of_read held]
  exact Entry.decode?_eq_some_iff

/-- An entry is found, and nothing where it is replaced by one of another key of the same length. -/
theorem get?_eq_some_iff_of_read_forged :
    let d := (openAt {} ["cache"] "1").set "real-key" "value"
    d.get? "real-key" = some "value" ∧
      ∃ forged, d.tree.write (d.place "real-key") (Entry.encode "fake-key" "value") = .ok forged ∧
        Directory.get? ⟨forged, d.root, d.nameOf⟩ "real-key" = none := by
  have opened := (open_openAt "cache" "1").writable
  generalize openAt {} ["cache"] "1" = d at opened
  have fits : Entry.Fits "real-key" := by decide
  have held := opened.read_set fits "value"
  obtain ⟨forged, wrote, replaced⟩ :=
    opened.overwrite "real-key" "value" (Entry.encode "fake-key" "value")
  refine ⟨(get?_eq_some_iff_of_read (d := d.set "real-key" "value") held "value").1.mpr ⟨fits, rfl⟩,
    forged, wrote, Option.eq_none_iff_forall_ne_some.mpr fun html found => ?_⟩
  obtain ⟨-, same⟩ :=
    (get?_eq_some_iff_of_read (d := ⟨forged, d.root, d.nameOf⟩) replaced html).1.mp found
  have keys := (Entry.header_injective (by decide) fits same).1
  exact absurd keys (by decide)

/--
The first bytes of an entry give some HTML if and only if they hold the whole header, and behind it just
that HTML: an entry that is cut off in its header or inside a character is not found, and one that is cut
off between two characters of its HTML, or in front of the first, is found as what is left.
-/
theorem get?_eq_some_iff_of_cut {n : Nat} (fits : Entry.Fits key)
    (short : n < (Entry.encode key html).size)
    (held : d.tree.read (d.place key) = .ok ((Entry.encode key html).extract 0 n)) (found : String) :
    d.get? key = some found ↔
      ∃ rest, rest ≠ "" ∧ html = found ++ rest ∧ n = 4 + key.utf8ByteSize + found.utf8ByteSize := by
  rw [get?_of_read held, Entry.decode?_extract_encode fits (Nat.le_of_lt short), Entry.size_header]
  constructor
  · rintro ⟨rest, rfl, place⟩
    refine ⟨rest, ?_, rfl, place⟩
    rintro rfl
    rw [String.append_empty, Entry.encode, ByteArray.size_append, Entry.size_header] at short
    exact absurd place (Nat.ne_of_lt short)
  · rintro ⟨rest, -, shown, place⟩
    exact ⟨rest, shown, place⟩

/-- An entry that ends inside a character, and one that ends behind it. -/
theorem get?_eq_some_iff_of_cut_accent :
    let d := (openAt {} ["cache"] "1").set "M_0x" "é!"
    ∃ inside behind,
      d.tree.write (d.place "M_0x") ((Entry.encode "M_0x" "é!").extract 0 9) = .ok inside ∧
      Directory.get? ⟨inside, d.root, d.nameOf⟩ "M_0x" = none ∧
      d.tree.write (d.place "M_0x") ((Entry.encode "M_0x" "é!").extract 0 10) = .ok behind ∧
      Directory.get? ⟨behind, d.root, d.nameOf⟩ "M_0x" = some "é" := by
  have opened := (open_openAt "cache" "1").writable
  generalize openAt {} ["cache"] "1" = d at opened
  have fits : Entry.Fits "M_0x" := by decide
  have size : (Entry.encode "M_0x" "é!").size = 11 := by decide +kernel
  obtain ⟨inside, wrote, held⟩ :=
    opened.overwrite "M_0x" "é!" ((Entry.encode "M_0x" "é!").extract 0 9)
  obtain ⟨behind, wrote', held'⟩ :=
    opened.overwrite "M_0x" "é!" ((Entry.encode "M_0x" "é!").extract 0 10)
  have served := get?_eq_some_iff_of_cut (d := ⟨inside, d.root, d.nameOf⟩) fits
    (by rw [size]; decide) held
  have kept := get?_eq_some_iff_of_cut (d := ⟨behind, d.root, d.nameOf⟩) fits
    (by rw [size]; decide) held'
  refine ⟨inside, behind, wrote, ?_, wrote', (kept "é").mpr ⟨"!", by decide, by decide, by decide⟩⟩
  refine Option.eq_none_iff_forall_ne_some.mpr fun found is => ?_
  obtain ⟨rest, -, shown, place⟩ := (served found).mp is
  have one : found.utf8ByteSize = 1 := by
    have key : "M_0x".utf8ByteSize = 4 := by decide
    omega
  have boundary : String.Pos.Raw.IsValid "é!" ⟨1⟩ :=
    String.Pos.Raw.isValid_iff_exists_append.mpr ⟨found, rest, shown, by rw [← one]; rfl⟩
  exact absurd boundary (by decide)

/-- A tag without its element is found where the file of an entry ends behind the tag. -/
theorem get?_of_cut_tag :
    let d := (openAt {} ["cache"] "1").set "M_0x" "<b>x</b>"
    ∃ cut, d.tree.write (d.place "M_0x") ((Entry.encode "M_0x" "<b>x</b>").extract 0 11) = .ok cut ∧
      11 < (Entry.encode "M_0x" "<b>x</b>").size ∧
      Directory.get? ⟨cut, d.root, d.nameOf⟩ "M_0x" = some "<b>" := by
  have opened := (open_openAt "cache" "1").writable
  generalize openAt {} ["cache"] "1" = d at opened
  have fits : Entry.Fits "M_0x" := by decide
  obtain ⟨cut, wrote, held⟩ :=
    opened.overwrite "M_0x" "<b>x</b>" ((Entry.encode "M_0x" "<b>x</b>").extract 0 11)
  refine ⟨cut, wrote, by decide +kernel, ?_⟩
  refine (get?_of_read (d := ⟨cut, d.root, d.nameOf⟩) held).trans ?_
  exact (Entry.decode?_extract_encode fits (by decide +kernel)).mpr
    ⟨"x</b>", by decide, by decide +kernel⟩

end Mathdown.Cache.Directory
