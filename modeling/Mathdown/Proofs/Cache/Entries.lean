import Mathdown.Cache.Entry

/-!
Entries are read as they are written: an entry gives its HTML for its own key and for no other. What
tells two headers apart is the length in front, so that no key is taken for the beginning of another.
Nothing says how long the HTML is: an entry that is cut off inside of it gives what is left.
-/

namespace Mathdown.Cache.Entry

/-- Whether a key is short enough for an entry. -/
def Fits (key : String) : Prop := key.utf8ByteSize < maxKey

instance (key : String) : Decidable (Fits key) := inferInstanceAs (Decidable (_ < _))

private theorem beq_iff (a b : ByteArray) : (a == b) = true ↔ a = b := by
  have fields : (a == b) = (a.data == b.data) := rfl
  rw [ByteArray.ext_iff, fields, beq_iff_eq]

private theorem fromUTF8?_eq_some_iff {bytes : ByteArray} {text : String} :
    String.fromUTF8? bytes = some text ↔ bytes = text.toUTF8 := by
  unfold String.fromUTF8?
  constructor
  · intro found
    split at found
    · cases found
      rfl
    · cases found
  · rintro rfl
    exact dif_pos text.isValidUTF8

theorem size_lengthBytes (n : Nat) : (lengthBytes n).size = 4 := rfl

theorem size_header (key : String) : (header key).size = 4 + key.utf8ByteSize := by
  rw [header, ByteArray.size_append, size_lengthBytes]
  rfl

theorem lengthOf_lengthBytes {n : Nat} (bounded : n < maxKey) : lengthOf (lengthBytes n) = n := by
  simp only [lengthOf, lengthBytes, List.foldr_cons, List.foldr_nil, Nat.toUInt8,
    UInt8.toNat_ofNat', Nat.shiftRight_eq_div_pow, Nat.reducePow]
  simp only [maxKey, Nat.reduceShiftLeft] at bounded
  omega

/-- Four bytes are the bytes of the number that they make, which is one that a length can be. -/
theorem lengthBytes_lengthOf {bytes : ByteArray} (four : bytes.size = 4) :
    lengthOf bytes < maxKey ∧ lengthBytes (lengthOf bytes) = bytes := by
  obtain ⟨⟨listed⟩⟩ := bytes
  obtain ⟨a, b, c, d, rfl⟩ : ∃ a b c d, listed = [a, b, c, d] := by
    match listed, four with
    | [a, b, c, d], _ => exact ⟨a, b, c, d, rfl⟩
  have number : lengthOf ⟨⟨[a, b, c, d]⟩⟩ =
      a.toNat + 256 * (b.toNat + 256 * (c.toNat + 256 * d.toNat)) := rfl
  have := a.toNat_lt
  have := b.toNat_lt
  have := c.toNat_lt
  have := d.toNat_lt
  rw [number]
  refine ⟨by simp only [maxKey, Nat.reduceShiftLeft]; omega, ?_⟩
  simp only [lengthBytes, ByteArray.mk.injEq, Array.mk.injEq, List.cons.injEq, and_true,
    ← UInt8.toNat_inj, Nat.toUInt8, UInt8.toNat_ofNat', Nat.shiftRight_eq_div_pow, Nat.reducePow]
  omega

theorem lengthOf_eq_iff {bytes : ByteArray} (four : bytes.size = 4) {n : Nat} :
    lengthOf bytes = n ↔ n < maxKey ∧ bytes = lengthBytes n := by
  constructor
  · rintro rfl
    obtain ⟨bounded, written⟩ := lengthBytes_lengthOf four
    exact ⟨bounded, written.symm⟩
  · rintro ⟨bounded, rfl⟩
    exact lengthOf_lengthBytes bounded

theorem take?_eq_some_iff {count : Nat} {bytes front back : ByteArray} :
    take? count bytes = some (front, back) ↔ front.size = count ∧ bytes = front ++ back := by
  unfold take?
  rw [Option.ite_none_right_eq_some, Option.some.injEq, Prod.mk.injEq]
  constructor
  · rintro ⟨enough, rfl, rfl⟩
    refine ⟨by rw [ByteArray.size_extract]; omega, ?_⟩
    rw [← ByteArray.extract_eq_extract_append_extract _ (Nat.zero_le _) enough,
      ByteArray.extract_zero_size]
  · rintro ⟨rfl, rfl⟩
    refine ⟨by rw [ByteArray.size_append]; omega, ByteArray.extract_append_eq_left rfl, ?_⟩
    exact ByteArray.extract_append_eq_right rfl ByteArray.size_append

theorem header_injective {key other : String} {back back' : ByteArray} (fits : Fits key)
    (fits' : Fits other) (same : header key ++ back = header other ++ back') :
    key = other ∧ back = back' := by
  unfold header at same
  rw [ByteArray.append_assoc, ByteArray.append_assoc,
    ByteArray.append_eq_append_iff_of_size_eq_left
      (by rw [size_lengthBytes, size_lengthBytes])] at same
  obtain ⟨lengths, rest⟩ := same
  have length : key.utf8ByteSize = other.utf8ByteSize := by
    rw [← lengthOf_lengthBytes fits, lengths, lengthOf_lengthBytes fits']
  have keys : key.toUTF8.size = other.toUTF8.size := length
  rw [ByteArray.append_eq_append_iff_of_size_eq_left keys] at rest
  exact ⟨String.toByteArray_inj.mp rest.1, rest.2⟩

/-- What is found in a file is what the file was written with. -/
theorem decode?_eq_some_iff {key html : String} {bytes : ByteArray} :
    decode? key bytes = some html ↔ Fits key ∧ bytes = encode key html := by
  unfold decode?
  simp only [Option.bind_eq_bind, Option.bind_eq_some_iff, Prod.exists, take?_eq_some_iff,
    Option.ite_none_right_eq_some, beq_iff, fromUTF8?_eq_some_iff]
  constructor
  · rintro ⟨length, keyed, ⟨four, rfl⟩, said, stored, back, ⟨-, rfl⟩, rfl, rfl⟩
    obtain ⟨fits, rfl⟩ := (lengthOf_eq_iff four).mp said
    exact ⟨fits, ByteArray.append_assoc.symm⟩
  · rintro ⟨fits, rfl⟩
    exact ⟨lengthBytes key.utf8ByteSize, key.toUTF8 ++ html.toUTF8, ⟨rfl, ByteArray.append_assoc⟩,
      lengthOf_lengthBytes fits, key.toUTF8, html.toUTF8, ⟨rfl, rfl⟩, rfl, rfl⟩

/-- An entry gives nothing for another key, and nothing but what it was written with. -/
theorem eq_of_decode?_encode {key other html html' : String} (fits : Fits key)
    (found : decode? other (encode key html) = some html') : other = key ∧ html' = html := by
  obtain ⟨fits', bytes⟩ := decode?_eq_some_iff.mp found
  obtain ⟨same, back⟩ := header_injective fits fits' bytes
  exact ⟨same.symm, (String.toByteArray_inj.mp back).symm⟩

/-- What is left of an entry is read as one if it ends behind the header, where a character does. -/
theorem decode?_extract_encode {key html found : String} {n : Nat} (fits : Fits key)
    (within : n ≤ (encode key html).size) :
    decode? key ((encode key html).extract 0 n) = some found ↔
      ∃ rest, html = found ++ rest ∧ n = (header key).size + found.utf8ByteSize := by
  rw [decode?_eq_some_iff, and_iff_right fits]
  constructor
  · intro left
    have parts : encode key html =
        encode key found ++ (encode key html).extract n (encode key html).size := by
      rw [← left, ← ByteArray.extract_eq_extract_append_extract _ (Nat.zero_le _) within,
        ByteArray.extract_zero_size]
    have length : n = (header key).size + found.utf8ByteSize := by
      have sizes := congrArg ByteArray.size left
      rw [ByteArray.size_extract, Nat.sub_zero, Nat.min_eq_left within, encode,
        ByteArray.size_append] at sizes
      exact sizes
    generalize (encode key html).extract n (encode key html).size = back at parts
    rw [encode, encode, ByteArray.append_assoc, ByteArray.append_right_inj] at parts
    -- A text begins with the bytes of another only if a character of it ends where the other does.
    have boundary : String.Pos.Raw.IsValid html ⟨found.utf8ByteSize⟩ := by
      rw [String.Pos.Raw.isValid_iff_isValidUTF8_extract_zero]
      have front : html.toUTF8.extract 0 found.utf8ByteSize = found.toUTF8 := by
        rw [parts]
        exact ByteArray.extract_append_eq_left rfl
      refine ⟨?_, front ▸ found.isValidUTF8⟩
      have sizes := congrArg ByteArray.size parts
      rw [ByteArray.size_append] at sizes
      exact Nat.le.intro sizes.symm
    obtain ⟨front, rest, rfl, place⟩ := String.Pos.Raw.isValid_iff_exists_append.mp boundary
    have bytes : found.toUTF8 ++ back = front.toUTF8 ++ rest.toUTF8 :=
      parts.symm.trans String.toByteArray_append
    have same := ByteArray.append_inj_left bytes (congrArg String.Pos.Raw.byteIdx place)
    rw [String.toByteArray_inj.mp same] at length ⊢
    exact ⟨rest, rfl, length⟩
  · rintro ⟨rest, rfl, rfl⟩
    have whole : encode key (found ++ rest) = encode key found ++ rest.toUTF8 := by
      rw [encode, encode, ByteArray.append_assoc]
      exact congrArg (header key ++ ·) String.toByteArray_append
    rw [whole]
    exact ByteArray.extract_append_eq_left ByteArray.size_append.symm

end Mathdown.Cache.Entry
