import Std.Data.HashMap

/-!
Caches of rendered HTML by key. A cache may forget at any time, but never makes anything up.
-/

namespace Mathdown

/-- A type whose values hold HTML under keys. -/
class Cache (γ : Type) where
  get? : γ → (key : String) → Option String
  set : γ → (key html : String) → γ
  /-- What a look-up leaves behind. -/
  afterGet : γ → (key : String) → γ := fun c _ => c

namespace Cache

/-- A cache that keeps everything. -/
structure Memory where
  entries : Std.HashMap String String := ∅

instance : Cache Memory where
  get? m key := m.entries[key]?
  set m key html := ⟨m.entries.insert key html⟩

/-- The number of keys. -/
def Memory.size (m : Memory) : Nat := m.entries.size

@[simp] theorem Memory.get?_set_self (m : Memory) (key html : String) :
    get? (set m key html) key = some html := by
  simp [get?, set]

theorem Memory.get?_set_of_ne (m : Memory) {key other : String} (html : String)
    (h : key ≠ other) : get? (set m key html) other = get? m other := by
  simp [get?, set, Std.HashMap.getElem?_insert, h]

/-- A cache that keeps nothing. -/
structure Null where

instance : Cache Null where
  get? _ _ := none
  set n _ _ := n

end Cache

end Mathdown
