import Mathdown.Compile.Moment

namespace Mathdown.Compile

variable {s : State}

theorem Act.exists_output_perform (act : Act) (s : State) :
    ∃ html, (act.perform s).output = s.output ++ html := by
  have none : ∃ html, s.output = s.output ++ html := ⟨"", String.append_empty.symm⟩
  cases act with
  | write html => exact ⟨html, rfl⟩
  | inline html =>
    simp only [perform, State.writeInline]
    split
    · exact none
    · split
      · exact none
      · exact ⟨html, rfl⟩
  | token id =>
    simp only [perform, State.writeToken]
    split
    · exact none
    · exact ⟨id.token, rfl⟩
  | noteText text =>
    simp only [perform, State.noteText]
    split <;> exact none
  | noteAlt text =>
    simp only [perform, State.noteAlt]
    split <;> exact none
  | endHeading =>
    simp only [perform, State.finishHeading]
    split
    · exact none
    · exact ⟨_, String.append_assoc ..⟩
  | _ => exact none

theorem Act.exists_output_performAll (acts : List Act) (s : State) :
    ∃ html, (performAll acts s).output = s.output ++ html := by
  refine performAll_keeps (fun t => ∃ html, t.output = s.output ++ html) ?_ ⟨"", String.append_empty.symm⟩
  rintro act - t ⟨front, written⟩
  obtain ⟨back, further⟩ := act.exists_output_perform t
  exact ⟨front ++ back, by rw [further, written, String.append_assoc]⟩

end Mathdown.Compile

namespace Mathdown.Compiler

open Compile (Moment State)

variable {σ : Type} (c : Compiler σ)

def written (m : Moment σ) : String :=
  String.ofList ((c.next m).1.output.toList.drop m.state.output.toList.length)

theorem written_eq {m : Moment σ} {html : String} (adds : (c.next m).1.output = m.state.output ++ html) :
    c.written m = html := by
  rw [written, adds, String.toList_append, List.drop_left, String.ofList_toList]

theorem output_next_eq (m : Moment σ) : (c.next m).1.output = m.state.output ++ c.written m := by
  obtain ⟨html, adds⟩ : ∃ html, (c.next m).1.output = m.state.output ++ html := by
    rw [state_next]
    exact Compile.Act.exists_output_performAll _ _
  rw [c.written_eq adds, adds]

/-- The events of a run, each with what it adds to the document. -/
def writings (events : List Event) (s : State) (w : σ) : List (Event × String) :=
  (c.moments events s w).map fun m => (m.event, c.written m)

theorem writings_cons (event : Event) (events : List Event) (s : State) (w : σ) :
    c.writings (event :: events) s w =
      if tooDeep c.options.maxNesting s.depth event then []
      else (event, c.written (moment event s w)) ::
        c.writings events (c.next (moment event s w)).1 (c.next (moment event s w)).2 := by
  rw [writings, moments]
  split <;> rfl

theorem output_run (events : List Event) (s : State) (w : σ) :
    (c.run events s w).2.1.output =
      s.output ++ String.join ((c.writings events s w).map Prod.snd) := by
  induction events generalizing s w with
  | nil => exact String.append_empty.symm
  | cons event events ih =>
    rw [run_cons, writings_cons]
    split
    · exact String.append_empty.symm
    · rw [ih, output_next_eq, List.map_cons, String.join_cons, String.append_assoc]
      rfl

theorem events_writings (events : List Event) (s : State) (w : σ) :
    (c.writings events s w).map Prod.fst <+: events ∧
      ((c.run events s w).1 = none → (c.writings events s w).map Prod.fst = events) := by
  induction events generalizing s w with
  | nil => exact ⟨List.prefix_refl _, fun _ => rfl⟩
  | cons event events ih =>
    rw [run_cons, writings_cons]
    split
    · exact ⟨List.nil_prefix, nofun⟩
    · obtain ⟨begins, whole⟩ := ih (c.next (moment event s w)).1 (c.next (moment event s w)).2
      exact ⟨(List.prefix_cons_inj event).mpr begins, fun ran => congrArg (event :: ·) (whole ran)⟩

end Mathdown.Compiler
