import Mathdown.Proofs.Render.Simulation

namespace Mathdown

namespace Render

open Cache (Key Memory)

variable {ω : Type}

theorem World.find?_memory (w : World Memory ω) (key : Option Key) : (w.find? key).2 = w := by
  cases key <;> rfl

theorem World.get?_store_of_ne {key : Option Key} {text : String}
    (other : ∀ own ∈ key, own.text ≠ text) (w : World Memory ω) (html : String) :
    Cache.get? (w.store key html).cache text = Cache.get? w.cache text := by
  cases key with
  | none => rfl
  | some own => exact Memory.get?_set_of_ne w.cache html (other own rfl)

theorem World.get?_store_congr {ω' : Type} {w : World Memory ω} {w' : World Memory ω'}
    (same : ∀ text, Cache.get? w.cache text = Cache.get? w'.cache text) (key : Option Key)
    (html text : String) :
    Cache.get? (w.store key html).cache text = Cache.get? (w'.store key html).cache text := by
  cases key with
  | none => exact same text
  | some own =>
    by_cases mine : own.text = text
    · subst mine
      exact (Memory.get?_set_self ..).trans (Memory.get?_set_self ..).symm
    · have others := fun own' (member : own' ∈ some own) => Option.mem_some.mp member ▸ mine
      rw [get?_store_of_ne others, get?_store_of_ne others, same]

theorem Setting.code_memory (s : Setting ω) (p : Pass Memory ω) (language : Option String)
    (source : String) :
    let named := language.filter (· != "")
    let said := s.engines.highlighter.highlight source named p.world.engines
    (∃ html, s.code p language source = (.inline html, p)) ∨
      (p.world.find? (s.codeKey named source)).1 = none ∧ s.code p language source =
        Pass.settleCode { p with world := { p.world with engines := said.2 } } source
          (s.codeKey named source) said.1 := by
  have answered := s.code_cases p language source
  simp only [World.find?_memory] at answered
  exact answered.imp_left fun ⟨html, _, same⟩ => ⟨html, same⟩

theorem Setting.math_memory (s : Setting ω) (p : Pass Memory ω) (expression : String)
    (display : Bool) :
    let said := s.engines.math.render expression display p.world.engines
    (∃ html, (p.world.find? (s.mathKey expression display)).1 = some html ∧
        s.math p expression display = (.inline html, p)) ∨
      (p.world.find? (s.mathKey expression display)).1 = none ∧ s.math p expression display =
        Pass.settleMath { p with world := { p.world with engines := said.2 } } expression display
          (s.mathKey expression display) said.1 := by
  have answered := s.math_cases p expression display
  simpa only [World.find?_memory] using answered

end Render

namespace Renderer

open Cache (Memory)
open Render

variable {ω : Type}

theorem begin_keeps {r : Renderer ω} {o : Overrides ω} {holds : Memory → Prop}
    (keeps : ∀ (p : Pass Memory ω) question, holds p.world.cache →
      holds ((r.compiler Memory o).answer p question).2.world.cache)
    (input : String) {w : World Memory ω} (before : holds w.cache) :
    holds (r.begin input o w).2.cache := by
  have start : holds (w.find? (r.resultKey input o)).2.cache := by rwa [World.find?_memory]
  rcases r.begin_cases input o w with ⟨-, begun⟩ | ⟨html, -, -, begun⟩ |
    ⟨result, s, pass, -, ran, begun⟩
  · rwa [begun]
  · rwa [begun]
  · have kept := Compiler.compile_keeps (c := r.compiler Memory o)
      (fun p question held => keeps p question held) (r.events input o) .initial
      (w := { world := (w.find? (r.resultKey input o)).2 }) start
    rw [ran] at kept
    rwa [begun]

end Renderer

end Mathdown
