import Mathdown.Proofs.Render.Determinism
import Mathdown.Render.Run

namespace Mathdown

open Compile (Question)
open Render

namespace Renderer

variable {γ ω : Type} {r s : Renderer ω} {f g : EngineFunctions}

/-- What a call compiles and its engines are asked for decides what its HTML is. -/
theorem inlined_congr (parser : r.engines.parser = s.engines.parser) (same : r.options = s.options)
    (highlight : f.highlight = g.highlight) {input : String}
    (math : ∀ expression display, .math expression display ∈ r.events input {} →
      f.span expression display = g.span expression display) :
    r.inlined f input {} = s.inlined g input {} := by
  have read : s.events input {} = r.events input {} := by
    unfold events
    rw [parser, same]
  unfold inlined
  rw [read, same]
  split
  · rfl
  · congr 2
    apply Compiler.compile_congr
    · rfl
    · intro event member state question asked w
      rw [Compiler.answer_inlining, Compiler.answer_inlining]
      rcases Question.ofEvent_cases asked with rfl | ⟨expression, display, rfl, -, rfl⟩
      · cases asked
        simp only [EngineFunctions.value, EngineFunctions.code, highlight]
      · simp only [EngineFunctions.value, math expression display member]

/-- The renderer, which caches no math if it knows of none. -/
def sparing (r : Renderer ω) : Renderer ω :=
  { r with caching.math := r.caching.math && r.options.math }

variable [Cache γ]

private theorem begin_sparing (heeds : r.engines.parser.HeedsMath) (input : String)
    (w : World γ ω) :
    r.sparing.begin input {} w = r.begin input {} w := by
  cases math : r.options.math with
  | true =>
    have same : r.sparing = r := by
      unfold sparing
      rw [math, Bool.and_true]
    rw [same]
  | false =>
    have compiled (w : World γ ω) : r.sparing.compile input {} w = r.compile input {} w := by
      have alike : (r.sparing.compiler γ {}).compile (r.events input {}) .initial { world := w } =
          (r.compiler γ {}).compile (r.events input {}) .initial { world := w } := by
        apply Compiler.compile_congr
        · rfl
        · intro event member state question asked p
          rcases Question.ofEvent_cases asked with rfl | ⟨expression, display, rfl, -, rfl⟩
          · cases asked
            rfl
          · exact absurd member (heeds _ input math expression display)
      unfold compile
      rw [show r.sparing.events input {} = r.events input {} from rfl, alike]
    unfold begin
    simp only [compiled]
    rfl

private theorem run_of_started {s : Renderer ω} (call : Call ω) (w : World γ ω)
    (started : call.isUnstarted = false) : s.run call w = r.run call w := by
  fun_induction Renderer.run r call w with
  | case1 w result => rw [Renderer.run]
  | case2 w input overrides next ih => cases started
  | case3 w document slots key next ih =>
    rw [Renderer.run]
    exact ih (isUnstarted_poll r (.awaiting document slots key) w)

/-- A renderer that knows of no math makes no use of what a cache has of it. -/
theorem render_sparing (heeds : r.engines.parser.HeedsMath) (input : String) (w : World γ ω) :
    r.sparing.render input {} w = r.render input {} w := by
  have polled : r.sparing.poll (.unstarted input {}) w = r.poll (.unstarted input {}) w := by
    simp only [poll, begin_sparing heeds]
    rfl
  unfold render
  rw [Renderer.run, Renderer.run, polled]
  exact run_of_started _ _ (isUnstarted_poll r _ w)

end Renderer

end Mathdown
