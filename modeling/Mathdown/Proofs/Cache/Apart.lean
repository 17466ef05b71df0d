import Mathdown.Cache.Key
import Mathdown.Proofs.Cache.Honest

namespace Mathdown.Cache

/-- The entries of one kind. -/
inductive Layer where
  | highlight | math | result
deriving DecidableEq, Repr

def Layer.word : Layer → String
  | .highlight => "H_"
  | .math => "M_"
  | .result => "RES_"

def Key.layer : Key → Layer
  | .highlight .. => .highlight
  | .math .. => .math
  | .result _ => .result

/-- Whether a written key belongs to one of the layers. -/
def Within (layers : List Layer) (text : String) : Prop :=
  ∃ layer ∈ layers, layer.word.toList <+: text.toList

instance (layers : List Layer) (text : String) : Decidable (Within layers text) :=
  inferInstanceAs (Decidable (∃ layer ∈ layers, layer.word.toList <+: text.toList))

theorem Key.within_text_iff {layers : List Layer} {key : Key} :
    Within layers key.text ↔ key.layer ∈ layers := by
  have word (layer : Layer) : layer.word.toList <+: key.text.toList ↔ layer = key.layer := by
    cases key <;> cases layer <;> simp [Key.text, Key.layer, Layer.word, List.cons_prefix_cons]
  simp [Within, word]

theorem Key.layer_eq_of_text {a b : Key} (same : a.text = b.text) : a.layer = b.layer := by
  have within : Within [b.layer] a.text := same ▸ Key.within_text_iff.mpr (List.mem_singleton_self _)
  exact List.mem_singleton.mp (Key.within_text_iff.mp within)

example : Within [.highlight, .result] "RES_a" ∧ ¬Within [.highlight, .result] "M_1a" := by decide

variable {γ γ' : Type} [Cache γ] [Cache γ']

/-- Whether caches that are kin answer alike for the keys that are in use, and stay kin. -/
structure Simulation (uses : Key → Prop) (kin : γ → γ' → Prop) : Prop where
  get? : ∀ {c c' key}, uses key → kin c c' → Cache.get? c key.text = Cache.get? c' key.text
  afterGet : ∀ {c c' key}, uses key → kin c c' →
    kin (Cache.afterGet c key.text) (Cache.afterGet c' key.text)
  set : ∀ {c c' key} html, uses key → kin c c' →
    kin (Cache.set c key.text html) (Cache.set c' key.text html)

theorem Simulation.eq : Simulation (fun _ => True) (fun c c' : γ => c = c') where
  get? _ same := same ▸ rfl
  afterGet _ same := same ▸ rfl
  set _ _ same := same ▸ rfl

/-- The key that is looked up or stored under. -/
def Access.key : Access → String
  | .get key => key
  | .set key _ => key

variable {layers : List Layer}

/-- Whether no uses of keys outside the layers tell two caches apart. -/
def AgreeBut (layers : List Layer) (c c' : γ) : Prop :=
  ∀ uses : List Access, (∀ use ∈ uses, ¬Within layers use.key) → ∀ key, ¬Within layers key →
    Cache.get? (after c uses) key = Cache.get? (after c' uses) key

theorem AgreeBut.apply {c c' : γ} (agree : AgreeBut layers c c') (use : Access)
    (outside : ¬Within layers use.key) : AgreeBut layers (use.apply c) (use.apply c') := by
  intro uses others
  refine agree (use :: uses) fun other member => ?_
  rcases List.mem_cons.mp member with rfl | member
  · exact outside
  · exact others other member

theorem AgreeBut.simulation (layers : List Layer) :
    Simulation (fun key => key.layer ∉ layers) (AgreeBut layers : γ → γ → Prop) where
  get? outside agree := agree [] (by simp) _ (Key.within_text_iff.not.mpr outside)
  afterGet outside agree :=
    agree.apply (.get _) (Key.within_text_iff.not.mpr outside)
  set _ outside agree := agree.apply (.set _ _) (Key.within_text_iff.not.mpr outside)

/-- Whether the entry of a key stays what it is, whatever is done under other keys. -/
def Undisturbed (c : γ) (key : String) : Prop :=
  ∀ uses : List Access, (∀ use ∈ uses, use.key ≠ key) →
    Cache.get? (after c uses) key = Cache.get? c key

theorem Memory.undisturbed (m : Memory) (key : String) : Undisturbed m key := by
  intro uses
  induction uses using List.reverseRecOn with
  | nil => exact fun _ => rfl
  | append_singleton uses use ih =>
    intro others
    rw [after_concat, ← ih fun use member => others use (List.mem_append_left _ member)]
    cases use with
    | get other => rfl
    | set other html =>
      exact Memory.get?_set_of_ne _ html (others (.set other html) (by simp))

/-- Caches in memory agree but for the layers if the same stands under all other keys. -/
theorem Memory.agreeBut_iff {m m' : Memory} :
    AgreeBut layers m m' ↔ ∀ key, ¬Within layers key → Cache.get? m key = Cache.get? m' key := by
  refine ⟨fun agree => agree [] (by simp), fun same uses => ?_⟩
  induction uses using List.reverseRecOn with
  | nil => exact fun _ => same
  | append_singleton uses use ih =>
    intro others key outside
    have before := ih (fun use member => others use (List.mem_append_left _ member)) key outside
    rw [after_concat, after_concat]
    cases use with
    | get other => exact before
    | set other html =>
      by_cases same : other = key
      · subst same
        simp [Access.apply]
      · simpa [Access.apply, Memory.get?_set_of_ne _ html same] using before

/-- A cache with a list of its uses so far. -/
structure Watched (γ : Type) where
  cache : γ
  uses : List Access := []

instance : Cache (Watched γ) where
  get? v key := Cache.get? v.cache key
  set v key html := ⟨Cache.set v.cache key html, v.uses ++ [.set key html]⟩
  afterGet v key := ⟨Cache.afterGet v.cache key, v.uses ++ [.get key]⟩

/-- Whether a cache has come from another one by the uses that are watched, all of keys in use. -/
structure Watches (uses : Key → Prop) (start c : γ) (v : Watched γ) : Prop where
  same : v.cache = c
  after : c = after start v.uses
  used : ∀ use ∈ v.uses, ∃ key, uses key ∧ use.key = key.text

theorem Watches.start (uses : Key → Prop) (c : γ) : Watches uses c c ⟨c, []⟩ :=
  ⟨rfl, rfl, by simp⟩

private theorem Watches.apply {uses : Key → Prop} {start c : γ} {v : Watched γ}
    (watches : Watches uses start c v) {key : Key} (used : uses key) (use : Access)
    (named : use.key = key.text) :
    Watches uses start (use.apply c) ⟨use.apply v.cache, v.uses ++ [use]⟩ where
  same := congrArg (Access.apply · use) watches.same
  after := by
    exact (congrArg (Access.apply · use) watches.after).trans (after_concat start v.uses use).symm
  used other member := by
    rcases List.mem_append.mp member with old | last
    · exact watches.used other old
    · exact List.mem_singleton.mp last ▸ ⟨key, used, named⟩

theorem Watches.simulation (uses : Key → Prop) (start : γ) :
    Simulation uses (Watches uses start) where
  get? _ watches := watches.same ▸ rfl
  afterGet used watches := watches.apply used (.get _) rfl
  set _ used watches := watches.apply used (.set _ _) rfl

end Mathdown.Cache
