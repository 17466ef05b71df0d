namespace Mathdown.Cache.Entry

def maxKey : Nat := 1 <<< 32

/-- A number below `maxKey` as four bytes, the lowest first. -/
def lengthBytes (n : Nat) : ByteArray :=
  ⟨#[n.toUInt8, (n >>> 8).toUInt8, (n >>> 16).toUInt8, (n >>> 24).toUInt8]⟩

/-- The number that bytes make, the lowest first. -/
def lengthOf (bytes : ByteArray) : Nat :=
  bytes.data.toList.foldr (fun byte higher => byte.toNat + 256 * higher) 0

def header (key : String) : ByteArray := lengthBytes key.utf8ByteSize ++ key.toUTF8

/-- The bytes of an entry. -/
def encode (key html : String) : ByteArray := header key ++ html.toUTF8

/-- The first bytes and what is behind them, if there are so many. -/
def take? (count : Nat) (bytes : ByteArray) : Option (ByteArray × ByteArray) :=
  if count ≤ bytes.size then some (bytes.extract 0 count, bytes.extract count bytes.size) else none

/--
The HTML of an entry under the key: what follows its header, if it is text. A key of another length
is not looked at.
-/
def decode? (key : String) (bytes : ByteArray) : Option String := do
  let (length, keyed) ← take? 4 bytes
  if lengthOf length = key.utf8ByteSize then
    let (stored, html) ← take? key.utf8ByteSize keyed
    if stored == key.toUTF8 then String.fromUTF8? html else none
  else none

end Mathdown.Cache.Entry
