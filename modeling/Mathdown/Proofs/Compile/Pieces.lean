import Mathdown.Compile.Moment

namespace Mathdown

namespace Text

theorem escapeHtml_append (front back : String) :
    escapeHtml (front ++ back) = escapeHtml front ++ escapeHtml back := by
  simp [escapeHtml, List.flatMap_append]

end Text

namespace Event

/-- The kinds of event that hand over a piece of the document as it stands there. -/
inductive Verbatim where
  | text | html | inlineHtml
deriving DecidableEq, Repr

/-- The event that hands over a piece. -/
def Verbatim.event : Verbatim → String → Event
  | .text => .text
  | .html => .html
  | .inlineHtml => .inlineHtml

/-- Whether events are others in which some pieces are cut into smaller ones, of which any may be empty. -/
inductive CutInto : List Event → List Event → Prop
  | nil : CutInto [] []
  | keep (event : Event) {whole cut : List Event} (others : CutInto whole cut) :
      CutInto (event :: whole) (event :: cut)
  | pieces (kind : Verbatim) (pieces : List String) {whole cut : List Event}
      (others : CutInto whole cut) :
      CutInto (kind.event (String.join pieces) :: whole) (pieces.map kind.event ++ cut)

end Event

namespace Compile

open Event (Verbatim)

/-- What a piece is written or collected as. -/
def State.take (s : State) : Verbatim → String → State
  | .text, piece => Compiler.text piece s
  | .html, piece | .inlineHtml, piece => s.writeInline piece

theorem State.writeInline_empty (s : State) : s.writeInline "" = s := by
  obtain ⟨output, spans, depth, code, image, heading, table, quotes, slugs⟩ := s
  cases image <;> cases heading <;> simp [writeInline, write]

theorem State.writeInline_append (s : State) (front back : String) :
    (s.writeInline front).writeInline back = s.writeInline (front ++ back) := by
  obtain ⟨output, spans, depth, code, image, heading, table, quotes, slugs⟩ := s
  cases image <;> cases heading <;> simp [writeInline, write, String.append_assoc]

theorem State.take_empty (s : State) (kind : Verbatim) : s.take kind "" = s := by
  cases kind with
  | text =>
    obtain ⟨output, spans, depth, code, image, heading, table, quotes, slugs⟩ := s
    cases code with
    | some block => simp [take, Compiler.text]
    | none =>
      cases image with
      | some image => simp [take, Compiler.text, noteAlt]
      | none =>
        have shown : Text.escapeHtml "" = "" := rfl
        cases heading <;> simp [take, Compiler.text, noteText, shown, writeInline_empty]
  | html | inlineHtml => exact s.writeInline_empty

/-- Two pieces are taken as one: text that has gone to one place goes on to the same. -/
theorem State.take_append (s : State) (kind : Verbatim) (front back : String) :
    (s.take kind front).take kind back = s.take kind (front ++ back) := by
  cases kind with
  | text =>
    obtain ⟨output, spans, depth, code, image, heading, table, quotes, slugs⟩ := s
    cases code with
    | some block => simp [take, Compiler.text, String.append_assoc]
    | none =>
      cases image with
      | some image => simp [take, Compiler.text, noteAlt, String.append_assoc]
      | none =>
        cases heading <;>
          simp [take, Compiler.text, noteText, writeInline, write, Text.escapeHtml_append,
            String.append_assoc]
  | html | inlineHtml => exact s.writeInline_append front back

end Compile

namespace Compiler

open Compile (State)
open Event (CutInto Verbatim)

variable {σ : Type} (c : Compiler σ)

theorem seen_piece (kind : Verbatim) (piece : String) (events : List Event) (s : State) (w : σ) :
    c.seen (kind.event piece :: events) s w = c.seen events (s.take kind piece) w := by
  have taken : c.next (moment (kind.event piece) s w) = (s.take kind piece, w) := by
    cases kind <;> rfl
  have silent : (moment (kind.event piece) s w).question? = none := by
    cases kind <;> rfl
  have shallow : ¬ tooDeep c.options.maxNesting s.depth (kind.event piece) = true := by
    cases kind <;> exact Bool.false_ne_true
  rw [seen_cons, if_neg shallow, taken, silent]
  rfl

theorem seen_pieces (kind : Verbatim) (pieces : List String) (events : List Event) (s : State)
    (w : σ) :
    c.seen (pieces.map kind.event ++ events) s w =
      c.seen events (s.take kind (String.join pieces)) w := by
  induction pieces generalizing s with
  | nil => rw [String.join_nil, s.take_empty, List.map_nil, List.nil_append]
  | cons piece pieces ih =>
    rw [List.map_cons, List.cons_append, seen_piece, ih, s.take_append, String.join_cons]

theorem seen_cutInto {whole cut : List Event} (pieces : CutInto whole cut) (s : State) (w : σ) :
    c.seen cut s w = c.seen whole s w := by
  induction pieces generalizing s w with
  | nil => rfl
  | keep event _ ih => simp only [seen_cons, ih]
  | pieces kind pieces _ ih => rw [seen_pieces, seen_piece, ih]

/--
However texts and HTML are cut into pieces, from whatever state they are compiled: the document is the
same, or the error, the compiler and its processors are left in the same states, and the processors are
asked and answer the same.
-/
theorem compile_cutInto {whole cut : List Event} (pieces : CutInto whole cut) (s : State) (w : σ) :
    c.compile cut s w = c.compile whole s w ∧ c.questions cut s w = c.questions whole s w ∧
      c.answers cut s w = c.answers whole s w :=
  compile_of_seen (c.seen_cutInto pieces s w)

/-- Pieces of a heading, of the alternative text of an image in it, of HTML, and of a code block. -/
theorem compile_cutInto_heading :
    let c : Compiler Nat := {
      options := { lineNumbers := true }
      processors := { code := some fun n _ _ => (.deferred ⟨.highlight, n⟩, n + 1) } }
    let whole : List Event := [.start (.heading 1), .text "a & b", .start (.image "u" ""), .text "x<y",
      .stop .image, .inlineHtml "<i></i>", .stop (.heading 1), .start (.codeBlock (some "c")),
      .text "f\ng", .stop .codeBlock]
    let cut : List Event := [.start (.heading 1), .text "a &", .text "", .text " b",
      .start (.image "u" ""), .text "x", .text "<y", .stop .image, .inlineHtml "<i", .inlineHtml "></i>",
      .stop (.heading 1), .start (.codeBlock (some "c")), .text "f", .text "\ng", .stop .codeBlock]
    CutInto whole cut ∧ c.compile cut .initial 0 = c.compile whole .initial 0 ∧
      c.questions cut .initial 0 = c.questions whole .initial 0 ∧
      c.answers cut .initial 0 = c.answers whole .initial 0 := by
  intro c whole cut
  have pieces : CutInto whole cut :=
    .keep _ (.pieces .text ["a &", "", " b"] (.keep _ (.pieces .text ["x", "<y"] (.keep _
      (.pieces .inlineHtml ["<i", "></i>"] (.keep _ (.keep _
        (.pieces .text ["f", "\ng"] (.keep _ .nil)))))))))
  exact ⟨pieces, c.compile_cutInto pieces .initial 0⟩

end Compiler

end Mathdown
