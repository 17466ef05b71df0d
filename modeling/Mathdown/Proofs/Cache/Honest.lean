import Mathlib.Data.List.Induction
import Mathdown.Cache

/-!
Honest caches. Whatever has been looked up and stored, an honest cache answers for a key with the
last HTML that has been stored under it, or with nothing. So if all that is ever stored is right in
some sense, then all that is ever found is.
-/

namespace Mathdown.Cache

variable {γ : Type} [Cache γ]

/-- One use of a cache. -/
inductive Access where
  | get (key : String)
  | set (key html : String)
deriving DecidableEq, Repr

def Access.apply (c : γ) : Access → γ
  | .get key => Cache.afterGet c key
  | .set key html => Cache.set c key html

def Access.stored? (key : String) : Access → Option String
  | .get _ => none
  | .set stored html => if stored = key then some html else none

/-- What is left of a cache after some uses. -/
def after (c : γ) (uses : List Access) : γ := uses.foldl Access.apply c

def lastStored? (key : String) (uses : List Access) : Option String :=
  uses.reverse.findSome? (Access.stored? key)

/-- Whether a cache, empty to begin with, only ever answers with what was stored last. -/
def Honest (c : γ) : Prop :=
  ∀ uses key html, Cache.get? (after c uses) key = some html → lastStored? key uses = some html

/-- Whether all that a cache can answer is right, now and as long as only right HTML is stored. -/
def Keeps (right : String → String → Prop) (c : γ) : Prop :=
  ∀ uses, (∀ key html, .set key html ∈ uses → right key html) →
    ∀ key html, Cache.get? (after c uses) key = some html → right key html

variable {right : String → String → Prop} {c : γ}

@[simp] theorem after_concat (c : γ) (uses : List Access) (use : Access) :
    after c (uses ++ [use]) = use.apply (after c uses) := by
  simp [after]

theorem mem_of_lastStored? {uses : List Access} {key html : String}
    (last : lastStored? key uses = some html) : .set key html ∈ uses := by
  obtain ⟨use, member, last⟩ := List.exists_of_findSome?_eq_some last
  cases use with
  | get other => cases last
  | set other html' =>
    simp only [Access.stored?] at last
    split at last
    · rename_i same
      cases last
      exact same ▸ List.mem_reverse.mp member
    · cases last

theorem Honest.keeps (honest : Honest c) (right : String → String → Prop) : Keeps right c :=
  fun uses stored key html found => stored key html (mem_of_lastStored? (honest uses key html found))

namespace Keeps

theorem found (keeps : Keeps right c) {key html : String} (answered : Cache.get? c key = some html) :
    right key html :=
  keeps [] (by simp) key html answered

theorem get (keeps : Keeps right c) (key : String) : Keeps right (Cache.afterGet c key) := by
  intro uses stored
  refine keeps (.get key :: uses) fun other html member => ?_
  rcases List.mem_cons.mp member with same | member
  · cases same
  · exact stored other html member

theorem set (keeps : Keeps right c) {key html : String} (new : right key html) :
    Keeps right (Cache.set c key html) := by
  intro uses stored
  refine keeps (.set key html :: uses) fun other html' member => ?_
  rcases List.mem_cons.mp member with same | member
  · cases same
    exact new
  · exact stored other html' member

end Keeps

/-- Whether a cache is what is left of another one after only what is right has been stored. -/
def Built (right : String → String → Prop) (start c : γ) : Prop :=
  ∃ uses, c = after start uses ∧ ∀ key html, .set key html ∈ uses → right key html

namespace Built

variable {start : γ}

theorem refl (right : String → String → Prop) (c : γ) : Built right c c := ⟨[], rfl, by simp⟩

theorem mono {more : String → String → Prop} (built : Built right start c)
    (weaker : ∀ key html, right key html → more key html) : Built more start c := by
  obtain ⟨uses, left, stored⟩ := built
  exact ⟨uses, left, fun key html member => weaker key html (stored key html member)⟩

theorem get (built : Built right start c) (key : String) :
    Built right start (Cache.afterGet c key) := by
  obtain ⟨uses, rfl, stored⟩ := built
  refine ⟨uses ++ [.get key], by simp [Access.apply], fun other html member => ?_⟩
  exact stored other html (by simpa using member)

theorem set (built : Built right start c) {key html : String} (new : right key html) :
    Built right start (Cache.set c key html) := by
  obtain ⟨uses, rfl, stored⟩ := built
  refine ⟨uses ++ [.set key html], by simp [Access.apply], fun other html' member => ?_⟩
  rcases List.mem_append.mp member with old | last
  · exact stored other html' old
  · cases List.mem_singleton.mp last
    exact new

/-- An honest cache answers only with what is right. -/
theorem found (built : Built right start c) (honest : Honest start) {key html : String}
    (answered : Cache.get? c key = some html) : right key html := by
  obtain ⟨uses, rfl, stored⟩ := built
  exact honest.keeps right uses stored key html answered

end Built

theorem Null.honest (n : Null) : Honest n := by
  intro uses key html found
  simp at found

theorem lastStored?_append (key : String) (uses : List Access) (use : Access) :
    lastStored? key (uses ++ [use]) = (use.stored? key).or (lastStored? key uses) := by
  simp only [lastStored?, List.reverse_append, List.reverse_singleton, List.singleton_append,
    List.findSome?_cons]
  cases use.stored? key <;> rfl

theorem Memory.get?_after (key : String) (uses : List Access) :
    Cache.get? (after ({} : Memory) uses) key = lastStored? key uses := by
  induction uses using List.reverseRecOn with
  | nil => simp [after, lastStored?, Cache.get?]
  | append_singleton uses use ih =>
    rw [lastStored?_append, ← ih, after_concat]
    cases use with
    | get other => rfl
    | set other html =>
      by_cases same : other = key
      · subst same
        simp [Access.apply, Access.stored?]
      · simp [Access.apply, Access.stored?, same, Memory.get?_set_of_ne _ _ same]

theorem Memory.honest : Honest ({} : Memory) :=
  fun uses key _ found => (Memory.get?_after key uses).symm.trans found

end Mathdown.Cache
