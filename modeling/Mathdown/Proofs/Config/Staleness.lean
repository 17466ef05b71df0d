import Mathdown.Proofs.Config.Sharing

namespace Mathdown

open Cache (Key)
open Render

namespace Renderer

variable {γ ω : Type} [Cache γ] {r : Renderer ω} {f : EngineFunctions} {holds also : γ → Prop}

theorem Trusts.and (trusts : r.Trusts f holds) (get : ∀ {c} key, also c → also (Cache.afterGet c key))
    (set : ∀ {c} key html, also c → also (Cache.set c key html)) :
    r.Trusts f fun c => holds c ∧ also c where
  found held uses answered := trusts.found held.1 uses answered
  get key held := ⟨trusts.get key held.1, get key held.2⟩
  set held uses means := ⟨trusts.set held.1 uses means, set _ _ held.2⟩

/-- A document whose jobs are done as soon as they are started is not waited for. -/
theorem render_of_started {text html : String} {w begun started : World γ ω} {compiled : Compiled ω}
    {slots : List (Slot (Running ω))} (begin : r.begin text {} w = (.inr compiled, begun))
    (start : Slot.startAll (Job.startAndPoll r.engines.fallback) compiled.jobs begun =
      (slots, started))
    (complete : assemble? compiled.document slots = some html) :
    r.render text {} w = (.ok html, started.store compiled.key html) := by
  have concluded : conclude compiled.document slots compiled.key started =
      (.done (.ok html), started.store compiled.key html) := by
    unfold conclude
    rw [complete]
  unfold render
  rw [Renderer.run]
  simp only [poll, begin, start, concluded]
  rw [Renderer.run]

end Renderer

namespace Config

open Cache (Directory HoldsOnly Store)

variable {a b c : Config} {lib : Libraries} {configs : Set Config} {runner : Runner}
  {version text html : String}

private def IsOpen (version : String) (store : Store) : Prop :=
  ∃ d : Directory, store = .directory d ∧ d.root = ["cache"] ∧ d.Open version

private theorem IsOpen.set {store : Store} (opened : IsOpen version store) (key html : String) :
    IsOpen version (Cache.set store key html) := by
  obtain ⟨d, rfl, root, opened⟩ := opened
  exact ⟨d.set key html, rfl, root, opened.set key html⟩

theorem cache_of_open (on : c.cacheEnabled = true) {d : Directory}
    (root : d.root = ["cache"]) (opened : d.Open version) :
    c.cache (some ["cache"]) version d.tree = .directory d := by
  have same := opened.openAt
  rw [root] at same
  simp [Config.cache, on, same]

theorem emptyAt_nil (root : Option FileTree.Place) : EmptyAt root {} := by
  intro place _ name below
  simp [FileTree.find?]

theorem exists_cache (on : c.cacheEnabled = true) (version : String) :
    ∃ d : Directory, c.cache (some ["cache"]) version {} = .directory d ∧ d.root = ["cache"] ∧
      d.Open version ∧ HoldsOnly (fun _ _ => False) d.root d.tree := by
  have rooted := Directory.root_openAt {} ["cache"] version
  refine ⟨.openAt {} ["cache"] version, ?_, rooted, Directory.open_openAt _ _, ?_⟩
  · simp [Config.cache, on]
  · rw [rooted]
    exact Directory.holdsOnly_openAt (.ofVacant (emptyAt_nil (some ["cache"]) _ rfl)) version

private theorem exists_stored (orderly : lib.parser.Orderly) (caches : a.cachesResults = true)
    (dark : Text.allBlank text = false) (fits : Cache.Entry.Fits (Key.result text).text)
    (rendered : a.html lib runner text = .ok html) (version : String) :
    ∃ d : Directory, (a.render lib runner (some ["cache"]) version text {}).2 = d.tree ∧
      d.root = ["cache"] ∧ d.Open version ∧ d.get? (Key.result text).text = some html := by
  obtain ⟨on, results⟩ := Bool.and_eq_true_iff.mp caches
  have keyed : (a.renderer lib runner).sparing.resultKey text {} = some (.result text) := by
    simp [Renderer.resultKey, Renderer.sparing, renderer, results, Overrides.isEmpty]
  have alone : ∀ b ∈ ({a} : Set Config), ∀ c ∈ ({a} : Set Config), SharesWith lib b c := by
    rintro b rfl c rfl
    exact .refl _
  have trusts :=
    (trusts_holds orderly.heedsMath alone rfl runner (some ["cache"])).and (fun _ opened => opened)
    (fun {store} key html (opened : IsOpen version store) => opened.set key html)
  have held : a.Holds lib {a} runner (some ["cache"]) (a.cache (some ["cache"]) version {}) :=
    holds_cache (emptyAt_nil _).rightBelow a version
  obtain ⟨d, new, root, opened, empty⟩ := exists_cache on version
  have missed : d.get? (Key.result text).text = none :=
    Directory.get?_eq_none empty fun _ => not_false
  unfold Config.render
  rw [new] at held ⊢
  obtain ⟨store, ⟨-, d, rfl, root, opened⟩, left⟩ := Renderer.render_stores (w := ⟨.directory d, ()⟩)
    orderly.nests trusts (a.serves_sparing lib runner) (a.firm_functions lib runner)
    ⟨held, d, rfl, root, opened⟩ keyed dark missed rendered
  rw [Renderer.render_sparing orderly.heedsMath] at left
  refine ⟨d.set (Key.result text).text html, ?_, root, opened.set _ _, opened.get?_set_self fits html⟩
  dsimp only
  rw [left]
  rfl

/-- A configuration that looks a document up shows what another one has left of it. -/
theorem render_after_render (orderly : lib.parser.Orderly) (caches : a.cachesResults = true)
    (caches' : b.cachesResults = true)
    (dark : Text.allBlank text = false) (fits : Cache.Entry.Fits (Key.result text).text)
    (rendered : a.html lib runner text = .ok html) (version : String) :
    (b.render lib runner (some ["cache"]) version text
      (a.render lib runner (some ["cache"]) version text {}).2).1 = .ok html := by
  obtain ⟨d, left, root, opened, found⟩ := exists_stored orderly caches dark fits rendered version
  obtain ⟨on, results⟩ := Bool.and_eq_true_iff.mp caches'
  have keyed : (b.renderer lib runner).resultKey text {} = some (.result text) := by
    simp [Renderer.resultKey, renderer, results, Overrides.isEmpty]
  rw [left]
  unfold Config.render
  rw [cache_of_open on root opened]
  exact Renderer.render_of_found dark keyed found

/-- After another configuration, a safe one renders a text as it does by itself. -/
theorem render_after_of_shareSafely (orderly : lib.parser.Orderly) (safe : ShareSafely lib configs)
    (member : a ∈ configs)
    (member' : b ∈ configs) (runner : Runner) (text : String) :
    (b.render lib runner (some ["cache"]) "" text (a.render lib runner (some ["cache"]) "" text {}).2).1 =
      b.html lib runner text := by
  have both := safe runner (some ["cache"]) "" {} {} (emptyAt_nil _) (emptyAt_nil _)
    [(a, text), (b, text)] (by simp [member, member'])
  have second := (List.cons.inj (List.cons.inj both).2).1
  rw [← render_of_empty orderly b runner "" text (emptyAt_nil _)]
  exact second

/-- What one configuration renders a text to, another one renders it to, if they are safe. -/
theorem html_of_shareSafely (orderly : lib.parser.Orderly) (safe : ShareSafely lib configs)
    (member : a ∈ configs)
    (member' : b ∈ configs) (caches : a.cachesResults = true) (caches' : b.cachesResults = true)
    (fits : Cache.Entry.Fits (Key.result text).text) (rendered : a.html lib runner text = .ok html) :
    b.html lib runner text = .ok html := by
  cases blank : Text.allBlank text with
  | true =>
    rw [← rendered]
    simp [Config.html, Renderer.inlined, blank]
  | false =>
    rw [← render_after_of_shareSafely orderly safe member member',
      render_after_render orderly caches caches' blank fits rendered]

end Config

end Mathdown
