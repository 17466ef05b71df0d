import Mathdown.Compile.Moment

namespace Mathdown.Compile

/-- Whether a language is one that a word can name. -/
def CodeCapture.Clean (block : CodeCapture) : Prop :=
  ∀ word, block.language = some word → word ≠ "" ∧ '\n' ∉ word.toList

/-- Whether a question is one that a state with a clean language can ask. -/
def Question.Clean : Question → Prop
  | .code language source => CodeCapture.Clean ⟨language, source⟩
  | .math _ _ => True

/-- A language that a clean question names is not empty, so that it is not taken for none. -/
theorem Question.Clean.filter_language {language : Option String} {source : String}
    (clean : Question.Clean (.code language source)) : language.filter (· != "") = language := by
  cases language with
  | none => rfl
  | some word => simp [(clean word rfl).1]

variable {s : State}

/-- Whether the code block that is being collected has a clean language. -/
def State.CleanCode (s : State) : Prop := ∀ block, s.code = some block → block.Clean

theorem State.CleanCode.perform (clean : s.CleanCode) {act : Act}
    (new : ∀ block, act = .setCode (some block) → block.Clean) : (act.perform s).CleanCode := by
  intro block held
  by_cases sets : ∃ code, act = .setCode code
  · obtain ⟨code, rfl⟩ := sets
    exact new block (congrArg Act.setCode held)
  · rw [(Act.leaves_perform act s).code fun code same => sets ⟨code, same⟩] at held
    exact clean block held

theorem State.CleanCode.performAll (clean : s.CleanCode) {acts : List Act}
    (new : ∀ block, .setCode (some block) ∈ acts → block.Clean) :
    (Act.performAll acts s).CleanCode :=
  Act.performAll_keeps State.CleanCode
    (fun _ member _ clean => clean.perform fun block same => new block (same ▸ member)) clean

theorem clean_of_mem_ofEvent (clean : s.CleanCode) (options : CompilerOptions) (answer : Answer)
    (event : Event) {block : CodeCapture}
    (member : .setCode (some block) ∈ Act.ofEvent options s answer event) : block.Clean := by
  cases Act.due_of_mem_ofEvent member with
  | plain event plain => cases plain
  | beginCode info =>
    intro word named
    obtain ⟨text, -, first⟩ := Option.bind_eq_some_iff.mp named
    obtain ⟨nonempty, dark⟩ := Text.firstWord_dark first
    exact ⟨nonempty, fun member => absurd (dark _ member) (by decide)⟩
  | noteCode text held =>
    have named := clean _ held
    exact named

theorem State.CleanCode.question (clean : s.CleanCode) {event : Event} {question : Question}
    (asked : Question.ofEvent s event = some question) : question.Clean := by
  cases event with
  | stop tag =>
    cases tag with
    | codeBlock =>
      cases asked
      change CodeCapture.Clean (Act.block s)
      cases held : s.code with
      | none => simp [Act.block, held, CodeCapture.Clean]
      | some block => simpa [Act.block, held] using clean block held
    | _ => cases asked
  | math expression display =>
    simp only [Question.ofEvent] at asked
    split at asked
    · cases asked
    · cases asked
      exact trivial
  | _ => cases asked

end Mathdown.Compile

namespace Mathdown.Compiler

open Compile (Act Question State clean_of_mem_ofEvent)

variable {σ : Type}

/-- What every answer to a clean question keeps true of the processors' state, each event meets. -/
theorem moments_keep {c : Compiler σ} {holds : σ → Prop}
    (keeps : ∀ w question, question.Clean → holds w → holds (c.answer w question).2)
    (events : List Event) {s : State} (clean : s.CleanCode) {w : σ} (before : holds w) :
    (∀ m ∈ c.moments events s w, holds m.world) ∧ holds (c.run events s w).2.2 := by
  induction events generalizing s w with
  | nil => exact ⟨by simp [moments], before⟩
  | cons event events ih =>
    rw [moments, run_cons]
    split
    · exact ⟨by simp, before⟩
    · have deeper : (moment event s w).state.CleanCode := clean
      have answered : holds (c.next (moment event s w)).2 := by
        rw [next, step_eq]
        cases asked : Question.ofEvent (moment event s w).state (moment event s w).event with
        | none => exact before
        | some question => exact keeps w question (deeper.question asked) before
      have cleaner : (c.next (moment event s w)).1.CleanCode := by
        rw [next, step_eq]
        exact deeper.performAll fun block member => clean_of_mem_ofEvent deeper _ _ _ member
      obtain ⟨later, last⟩ := ih cleaner answered
      refine ⟨fun m member => ?_, last⟩
      rcases List.mem_cons.mp member with rfl | member
      · exact before
      · exact later m member

end Mathdown.Compiler
