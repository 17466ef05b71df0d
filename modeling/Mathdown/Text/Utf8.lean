namespace Mathdown.Text.Utf8

def encode (cs : List Char) : List UInt8 := (String.ofList cs).toUTF8.data.toList

/-- How a character of several bytes begins: how many bytes follow, and the range of the second. -/
def lead? (b : UInt8) : Option (Nat × UInt8 × UInt8) :=
  if 0xC2 ≤ b && b ≤ 0xDF then some (1, 0x80, 0xBF)
  else if b == 0xE0 then some (2, 0xA0, 0xBF)
  else if b == 0xED then some (2, 0x80, 0x9F)
  else if 0xE1 ≤ b && b ≤ 0xEF then some (2, 0x80, 0xBF)
  else if b == 0xF0 then some (3, 0x90, 0xBF)
  else if b == 0xF4 then some (3, 0x80, 0x8F)
  else if 0xF1 ≤ b && b ≤ 0xF3 then some (3, 0x80, 0xBF)
  else none

/-- The bits that the first byte of a character of `more + 1` bytes gives. -/
def leadBits (b : UInt8) (more : Nat) : Nat :=
  match more with
  | 1 => b.toNat % 0x20
  | 2 => b.toNat % 0x10
  | _ => b.toNat % 8

/--
Reads bytes. `missing` bytes still belong to the character that is being read, the next of them
between `low` and `high`, and `value` holds the bits so far.
-/
def decodeFrom : List UInt8 → (missing value : Nat) → (low high : UInt8) → List Char
  | [], 0, _, _, _ => []
  | [], _ + 1, _, _, _ => ['\uFFFD']
  | b :: bs, 0, _, _, _ => fromLead b bs
  | b :: bs, missing + 1, value, low, high =>
    if low ≤ b && b ≤ high then
      let value := value * 0x40 + b.toNat % 0x40
      if missing == 0 then Char.ofNat value :: decodeFrom bs 0 0 0 0
      else decodeFrom bs missing value 0x80 0xBF
    else '\uFFFD' :: fromLead b bs
where
  /-- Reads bytes of which the first begins a character. -/
  fromLead (b : UInt8) (bs : List UInt8) : List Char :=
    if b < 0x80 then Char.ofNat b.toNat :: decodeFrom bs 0 0 0 0
    else
      match lead? b with
      | some (more, low, high) => decodeFrom bs more (leadBits b more) low high
      | none => '\uFFFD' :: decodeFrom bs 0 0 0 0

/-- Bytes as text, with the replacement character for what is none. -/
def decodeLossy (bytes : List UInt8) : String := String.ofList (decodeFrom bytes 0 0 0 0)

end Mathdown.Text.Utf8
