import Mathdown.Text.Utf8

namespace Mathdown.Text.Utf8

private theorem lead?_of_two : ∀ k < 32, 2 ≤ k →
    lead? (UInt8.ofNat (k + 192)) = some (1, 0x80, 0xBF) ∧
      leadBits (UInt8.ofNat (k + 192)) 1 = k ∧ ¬ UInt8.ofNat (k + 192) < 0x80 := by
  decide

private theorem lead?_of_three : ∀ k < 16,
    lead? (UInt8.ofNat (k + 224)) =
        some (2, if k = 0 then 0xA0 else 0x80, if k = 13 then 0x9F else 0xBF) ∧
      leadBits (UInt8.ofNat (k + 224)) 2 = k ∧ ¬ UInt8.ofNat (k + 224) < 0x80 := by
  decide

private theorem lead?_of_four : ∀ k < 5,
    lead? (UInt8.ofNat (k + 240)) =
        some (3, if k = 0 then 0x90 else 0x80, if k = 4 then 0x8F else 0xBF) ∧
      leadBits (UInt8.ofNat (k + 240)) 3 = k ∧ ¬ UInt8.ofNat (k + 240) < 0x80 := by
  decide

private theorem toNat_byte {n : Nat} (small : n < 256) : (UInt8.ofNat n).toNat = n :=
  UInt8.toNat_ofNat_of_lt' small

private theorem decodeFrom_further {k : Nat} (six : k < 64) (bs : List UInt8) (missing value : Nat)
    {low high : UInt8} (above : low.toNat ≤ k + 128) (below : k + 128 ≤ high.toNat) :
    decodeFrom (UInt8.ofNat (k + 128) :: bs) (missing + 1) value low high =
      if missing = 0 then Char.ofNat (value * 64 + k) :: decodeFrom bs 0 0 0 0
      else decodeFrom bs missing (value * 64 + k) 0x80 0xBF := by
  have byte := toNat_byte (show k + 128 < 256 by omega)
  have within : (decide (low ≤ UInt8.ofNat (k + 128)) && decide (UInt8.ofNat (k + 128) ≤ high)) = true := by
    simp only [UInt8.le_iff_toNat_le, byte, above, below, decide_true, Bool.and_self]
  have bits : (k + 128) % 64 = k := by omega
  rw [decodeFrom, if_pos within, byte, bits]
  simp

private theorem decodeFrom_any {k : Nat} (six : k < 64) (bs : List UInt8) (missing value : Nat) :
    decodeFrom (UInt8.ofNat (k + 128) :: bs) (missing + 1) value 0x80 0xBF =
      if missing = 0 then Char.ofNat (value * 64 + k) :: decodeFrom bs 0 0 0 0
      else decodeFrom bs missing (value * 64 + k) 0x80 0xBF :=
  decodeFrom_further six bs missing value (by change 128 ≤ _; omega) (by change _ ≤ 191; omega)

theorem decodeFrom_utf8EncodeChar (c : Char) (rest : List UInt8) :
    decodeFrom (String.utf8EncodeChar c ++ rest) 0 0 0 0 = c :: decodeFrom rest 0 0 0 0 := by
  have valid : c.val.toNat.isValidChar := c.valid
  have same : Char.ofNat c.val.toNat = c := Char.ofNat_toNat c
  unfold Nat.isValidChar at valid
  unfold String.utf8EncodeChar
  generalize c.val.toNat = v at valid same
  dsimp only
  split
  · rename_i one
    -- As many bytes as the number needs; only the first of them tells how many.
    have byte := toNat_byte (show v < 256 by omega)
    have small : UInt8.ofNat v < 0x80 := by
      rw [UInt8.lt_iff_toNat_lt, byte]
      change v < 128
      omega
    rw [List.singleton_append, decodeFrom, decodeFrom.fromLead, if_pos small, byte, same]
  split
  · rename_i two
    obtain ⟨lead, bits, large⟩ := lead?_of_two (v / 64 % 32) (by omega) (by omega)
    have whole : v / 64 % 32 * 64 + v % 64 = v := by omega
    rw [List.cons_append, decodeFrom, decodeFrom.fromLead, if_neg large, lead]
    dsimp only
    rw [bits, List.singleton_append, decodeFrom_any (by omega), if_pos rfl, whole, same]
  split
  · rename_i three
    obtain ⟨lead, bits, large⟩ := lead?_of_three (v / 4096 % 16) (by omega)
    have whole : (v / 4096 % 16 * 64 + v / 64 % 64) * 64 + v % 64 = v := by omega
    rw [List.cons_append, decodeFrom, decodeFrom.fromLead, if_neg large, lead]
    dsimp only
    rw [bits, List.cons_append, decodeFrom_further (by omega), if_neg (by decide),
      List.singleton_append, decodeFrom_any (by omega), if_pos rfl, whole, same]
    all_goals split <;> (simp only [UInt8.reduceToNat]; omega)
  · rename_i four
    obtain ⟨lead, bits, large⟩ := lead?_of_four (v / 262144 % 8) (by omega)
    have whole : ((v / 262144 % 8 * 64 + v / 4096 % 64) * 64 + v / 64 % 64) * 64 + v % 64 = v := by omega
    rw [List.cons_append, decodeFrom, decodeFrom.fromLead, if_neg large, lead]
    dsimp only
    rw [bits, List.cons_append, decodeFrom_further (by omega), if_neg (by decide),
      List.cons_append, decodeFrom_any (by omega), if_neg (by decide),
      List.singleton_append, decodeFrom_any (by omega), if_pos rfl, whole, same]
    all_goals split <;> (simp only [UInt8.reduceToNat]; omega)

theorem decodeLossy_encode (s : String) : decodeLossy (encode s.toList) = s := by
  have bytes : encode s.toList = s.toList.flatMap String.utf8EncodeChar := by
    rw [encode, String.toUTF8_eq_toByteArray, String.toByteArray_ofList, List.utf8Encode,
      List.toList_data_toByteArray]
  have chars (cs : List Char) : decodeFrom (cs.flatMap String.utf8EncodeChar) 0 0 0 0 = cs := by
    induction cs with
    | nil => rw [List.flatMap_nil, decodeFrom]
    | cons c cs ih => rw [List.flatMap_cons, decodeFrom_utf8EncodeChar, ih]
  rw [decodeLossy, bytes, chars, String.ofList_toList]

end Mathdown.Text.Utf8
