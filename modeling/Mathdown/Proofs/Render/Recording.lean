import Mathdown.Proofs.Render.Simulation
import Mathdown.Render.Record

namespace Mathdown

open Render

variable {ω α : Type}

/-- What a highlighter says that keeps a record, and what it has recorded by then. -/
theorem Highlighter.noting_cases (h : Highlighter ω)
    (note : Option String → String → String → List Record) (source : String)
    (language : Option String) (state : ω × List Record) :
    let said := (h.noting note).highlight source language state
    state.2 ⊆ said.2.2 ∧
      ((∃ html, said.1 = .ok (.ready html) ∧ note language source html ⊆ said.2.2) ∨
        (∃ work : Deferred ω (Except HighlightError String),
          said.1 = .ok (.pending (work.notingSuccess (note language source)))) ∨
        ∃ e, said.1 = .error e) := by
  obtain ⟨w, log⟩ := state
  simp only [noting]
  rcases h.highlight source language w with ⟨e | html | work, w'⟩
  · exact ⟨List.Subset.refl _, .inr (.inr ⟨e, rfl⟩)⟩
  · exact ⟨List.subset_append_left _ _, .inl ⟨html, rfl, List.subset_append_right _ _⟩⟩
  · exact ⟨List.Subset.refl _, .inr (.inl ⟨work, rfl⟩)⟩

/-- What a math engine says that keeps a record, and what it has recorded by then. -/
theorem MathEngine.noting_cases (m : MathEngine ω) (note : String → Bool → String → List Record)
    (expression : String) (display : Bool) (state : ω × List Record) :
    let said := (m.noting note).render expression display state
    state.2 ⊆ said.2.2 ∧
      ((∃ html, said.1 = .ok html ∧ note expression display html ⊆ said.2.2) ∨
        ∃ e, said.1 = .error e) := by
  obtain ⟨w, log⟩ := state
  simp only [noting]
  rcases m.render expression display w with ⟨e | html, w'⟩
  · exact ⟨List.Subset.refl _, .inr ⟨e, rfl⟩⟩
  · exact ⟨List.subset_append_left _ _, .inl ⟨html, rfl, List.subset_append_right _ _⟩⟩

/-- Whether a state is another one with a record beside it. -/
abbrev Record.Beside (w : ω) (w' : ω × List Record) : Prop := w'.1 = w

theorem Deferred.alike_noting (d : Deferred ω α) (note : α → List Record) :
    d.Alike Record.Beside (d.noting note) where
  delay := rfl
  finish := by
    rintro _ ⟨w, log⟩ rfl
    exact ⟨rfl, rfl⟩

theorem Highlighter.alike_noting (h : Highlighter ω)
    (note : Option String → String → String → List Record) :
    h.Alike Record.Beside (h.noting note) := by
  rintro source language _ ⟨w, log⟩ rfl
  simp only [noting]
  rcases h.highlight source language w with ⟨e | html | work, w'⟩
  · exact ⟨.error e, rfl⟩
  · exact ⟨.ready html, rfl⟩
  · exact ⟨.pending (work.alike_noting _), rfl⟩

theorem MathEngine.alike_noting (m : MathEngine ω) (note : String → Bool → String → List Record) :
    m.Alike Record.Beside (m.noting note) := by
  rintro expression display _ ⟨w, log⟩ rfl
  simp only [noting]
  rcases m.render expression display w with ⟨e | html, w'⟩
  · exact ⟨rfl, rfl⟩
  · exact ⟨rfl, rfl⟩

theorem FallbackEngine.alike_recording (f : FallbackEngine ω) :
    f.Alike Record.Beside f.recording := by
  rintro expression format _ ⟨w, log⟩ rfl
  exact ⟨Deferred.alike_noting _ fun result => [.drawing expression format result], rfl⟩

theorem Renderer.alike_recording (r : Renderer ω) : r.Alike Record.Beside r.recording where
  engines := ⟨Highlighter.alike_noting _ _, MathEngine.alike_noting _ _,
    FallbackEngine.alike_recording _, rfl⟩
  caching := rfl
  options := rfl

theorem Overrides.alike_unrecorded (o : Overrides ω) : o.Alike Record.Beside o.unrecorded :=
  o.alike_map (fun h => h.alike_noting _) fun m => m.alike_noting _

end Mathdown
