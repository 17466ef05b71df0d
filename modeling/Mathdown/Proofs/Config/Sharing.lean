import Mathdown.Proofs.Cache.Directories
import Mathdown.Proofs.Config.Rendering
import Mathdown.Proofs.Render.Transparency

/-!
Configurations that share a directory for their caches. The keys in it name what was rendered, but not
how: whoever finds an entry must have made the same of it. If that is so for any two of the
configurations, then what one of them finds is what it would have rendered itself.
-/

namespace Mathdown.Config

open Cache (HoldsOnly Key Store)

variable {a b c : Config} {lib : Libraries} {configs : Set Config} {runner : Runner}

def cachesMath (c : Config) : Bool := c.cacheEnabled && (c.caching.math && c.markdown.math)

def cachesResults (c : Config) : Bool := c.cacheEnabled && c.caching.result

/-- Whether two configurations make the same of all that both of them cache. -/
structure SharesWith (lib : Libraries) (a b : Config) : Prop where
  math : a.cachesMath = true → b.cachesMath = true → a.fallback = b.fallback
  results : a.cachesResults = true → b.cachesResults = true → RendersLike lib a b

theorem SharesWith.refl (c : Config) : SharesWith lib c c :=
  ⟨fun _ _ => rfl, fun _ _ => .refl c⟩

/-- Whether HTML is right for all of some configurations that use a key with a text. -/
def SharedRight (lib : Libraries) (configs : Set Config) (runner : Runner) (text html : String) : Prop :=
  ∀ c ∈ configs, c.cacheEnabled = true → ∀ key : Key, (c.renderer lib runner).sparing.Uses key →
    key.text = text → (c.renderer lib runner).sparing.Means (c.functions lib runner) key html

private theorem means_of_sharesWith (heeds : lib.parser.HeedsMath) (shares : SharesWith lib a b)
    (on : a.cacheEnabled = true)
    (on' : b.cacheEnabled = true) {key : Key} (uses : (a.renderer lib runner).sparing.Uses key)
    (uses' : (b.renderer lib runner).sparing.Uses key) (fits : Cache.Entry.Fits key.text) {html : String}
    (means : (a.renderer lib runner).sparing.Means (a.functions lib runner) key html) :
    (b.renderer lib runner).sparing.Means (b.functions lib runner) key html := by
  cases key with
  | highlight language source => exact means
  | math expression display =>
    have caches : a.cachesMath = true := Bool.and_eq_true_iff.mpr ⟨on, uses.cached⟩
    have caches' : b.cachesMath = true := Bool.and_eq_true_iff.mpr ⟨on', uses'.cached⟩
    have span : (a.functions lib runner).span expression display =
        (b.functions lib runner).span expression display := by
      simp only [EngineFunctions.span, EngineFunctions.drawn, functions, shares.math caches caches']
    exact means.trans span
  | result text =>
    have caches : a.cachesResults = true := Bool.and_eq_true_iff.mpr ⟨on, uses.cached⟩
    have caches' : b.cachesResults = true := Bool.and_eq_true_iff.mpr ⟨on', uses'.cached⟩
    exact html_of_rendersLike heeds (shares.results caches caches') runner fits means

/-- Whether there is nothing wrong in a cache that a configuration works with. -/
def Holds (c : Config) (lib : Libraries) (configs : Set Config) (runner : Runner)
    (root : Option FileTree.Place) :
    Store → Prop
  | .memory m => Cache.Keeps ((c.renderer lib runner).sparing.Right (c.functions lib runner)) m
  | .null _ => True
  | .directory d => c.cacheEnabled = true ∧ root = some d.root ∧
      HoldsOnly (SharedRight lib configs runner) d.root d.tree

theorem trusts_holds (heeds : lib.parser.HeedsMath)
    (shared : ∀ a ∈ configs, ∀ b ∈ configs, SharesWith lib a b)
    (member : c ∈ configs) (runner : Runner) (root : Option FileTree.Place) :
    (c.renderer lib runner).sparing.Trusts (c.functions lib runner) (c.Holds lib configs runner root) where
  found {store key html} held uses answered := by
    cases store with
    | memory m => exact ((c.renderer lib runner).sparing.trusts_keeps _).found held uses answered
    | null n => cases answered
    | directory d =>
      obtain ⟨on, -, holds⟩ := held
      obtain ⟨-, right⟩ := Cache.Directory.right_of_get? holds answered
      exact right c member on key uses rfl
  get {store} key held := held
  set {store key html} held uses means := by
    cases store with
    | memory m => exact ((c.renderer lib runner).sparing.trusts_keeps _).set held uses means
    | null n => exact trivial
    | directory d =>
      obtain ⟨on, rooted, holds⟩ := held
      refine ⟨on, rooted, Cache.Directory.holdsOnly_set holds ?_⟩
      intro fits b member' on' other uses' same
      obtain rfl := Key.text_injective uses'.clean uses.clean same
      exact means_of_sharesWith heeds (shared c member b member') on on' uses uses' fits means

/-- Whether there is nothing wrong in the directory of a cache. -/
def RightBelow (lib : Libraries) (configs : Set Config) (runner : Runner) (root : Option FileTree.Place)
    (tree : FileTree) : Prop :=
  ∀ place ∈ root, HoldsOnly (SharedRight lib configs runner) place tree

theorem holds_cache {root : Option FileTree.Place} {tree : FileTree}
    (right : RightBelow lib configs runner root tree) (c : Config) (version : String) :
    c.Holds lib configs runner root (c.cache root version tree) := by
  unfold Config.cache
  cases on : c.cacheEnabled with
  | false => exact trivial
  | true =>
    cases root with
    | none => exact Cache.Memory.honest.keeps _
    | some place =>
      have rooted := Cache.Directory.root_openAt tree place version
      refine ⟨on, congrArg some rooted.symm, ?_⟩
      rw [rooted]
      exact Cache.Directory.holdsOnly_openAt (right place rfl) version

theorem serves_sparing (c : Config) (lib : Libraries) (runner : Runner) :
    (c.renderer lib runner).sparing.Serves (c.functions lib runner) {} (c.functions lib runner) :=
  ⟨c.compute_functions lib runner, fun _ => rfl, fun _ => rfl, rfl⟩

/-- A text is rendered as it is without a cache, and nothing wrong is left in the directory. -/
theorem render_of_rightBelow (orderly : lib.parser.Orderly)
    (shared : ∀ a ∈ configs, ∀ b ∈ configs, SharesWith lib a b)
    (member : c ∈ configs) {root : Option FileTree.Place} (version text : String) {tree : FileTree}
    (right : RightBelow lib configs runner root tree) :
    (c.render lib runner root version text tree).1 = c.html lib runner text ∧
      RightBelow lib configs runner root (c.render lib runner root version text tree).2 := by
  obtain ⟨result, kept⟩ := Renderer.render_right (w := ⟨c.cache root version tree, ()⟩)
    orderly.nests (trusts_holds orderly.heedsMath shared member runner root)
    (c.serves_sparing lib runner) (c.firm_functions lib runner) text
    (holds_cache right c version)
  rw [Renderer.render_sparing orderly.heedsMath] at result kept
  refine ⟨result, fun place rooted => ?_⟩
  unfold Config.render
  dsimp only
  cases left : ((c.renderer lib runner).render text {} ⟨c.cache root version tree, ()⟩).2.cache with
  | memory m => exact right place rooted
  | null n => exact right place rooted
  | directory d =>
    rw [left] at kept
    obtain ⟨-, rooted', holds⟩ := kept
    cases Option.mem_def.mp rooted |>.symm.trans rooted'
    exact holds

/-- Renders texts in turn, each with a configuration, in the tree that the one before leaves. -/
def renderAll (lib : Libraries) (runner : Runner) (root : Option FileTree.Place) (version : String) :
    List (Config × String) → FileTree → List (Except CompileError String)
  | [], _ => []
  | (c, text) :: rest, tree =>
    let (result, tree) := c.render lib runner root version text tree
    result :: renderAll lib runner root version rest tree

theorem renderAll_of_rightBelow (orderly : lib.parser.Orderly)
    (shared : ∀ a ∈ configs, ∀ b ∈ configs, SharesWith lib a b)
    {root : Option FileTree.Place} (version : String) {visits : List (Config × String)}
    (members : ∀ visit ∈ visits, visit.1 ∈ configs) {tree : FileTree}
    (right : RightBelow lib configs runner root tree) :
    renderAll lib runner root version visits tree =
      visits.map fun visit => visit.1.html lib runner visit.2 := by
  induction visits generalizing tree with
  | nil => rfl
  | cons visit rest ih =>
    obtain ⟨member, members⟩ := List.forall_mem_cons.mp members
    obtain ⟨result, kept⟩ := render_of_rightBelow orderly shared member version visit.2 right
    have others := ih members kept
    rw [List.map_cons, ← result, ← others]
    rfl

/-- Whether the directory of a cache, if there is one, is empty or not yet there. -/
def EmptyAt (root : Option FileTree.Place) (tree : FileTree) : Prop :=
  ∀ place ∈ root, tree.Vacant place

theorem EmptyAt.rightBelow {root : Option FileTree.Place} {tree : FileTree}
    (empty : EmptyAt root tree) : RightBelow lib configs runner root tree :=
  fun place rooted => .ofVacant (empty place rooted)

/-- In an empty directory a text is rendered as it is without a cache. -/
theorem render_of_empty (orderly : lib.parser.Orderly) (c : Config) (runner : Runner)
    {root : Option FileTree.Place}
    (version text : String) {tree : FileTree} (empty : EmptyAt root tree) :
    (c.render lib runner root version text tree).1 = c.html lib runner text := by
  have shared : ∀ a ∈ ({c} : Set Config), ∀ b ∈ ({c} : Set Config), SharesWith lib a b := by
    rintro a rfl b rfl
    exact .refl _
  exact (render_of_rightBelow orderly shared rfl version text empty.rightBelow).1

/--
Whether configurations may share a directory: whatever programs do, each of any texts that are
rendered in turn becomes what it becomes in an empty directory.
-/
def ShareSafely (lib : Libraries) (configs : Set Config) : Prop :=
  ∀ (runner : Runner) (root : Option FileTree.Place) (version : String) (tree fresh : FileTree),
    EmptyAt root tree → EmptyAt root fresh →
      ∀ visits : List (Config × String), (∀ visit ∈ visits, visit.1 ∈ configs) →
        renderAll lib runner root version visits tree =
          visits.map fun visit => (visit.1.render lib runner root version visit.2 fresh).1

theorem shareSafely_of_sharesWith (orderly : lib.parser.Orderly)
    (shared : ∀ a ∈ configs, ∀ b ∈ configs, SharesWith lib a b) :
    ShareSafely lib configs := by
  intro runner root version tree fresh empty empty' visits members
  rw [renderAll_of_rightBelow orderly shared version members empty.rightBelow]
  exact List.map_congr_left fun visit _ =>
    (render_of_empty orderly visit.1 runner version visit.2 empty').symm

end Mathdown.Config
