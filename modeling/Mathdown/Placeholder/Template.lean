import Mathdown.Placeholder.Layout
import Mathdown.Text.Blank

/-!
Templates: HTML with holes in it. A template says without offsets what a text with recorded spans
is, namely the same pieces with a token in each hole, and what splicing is, namely the same pieces
with a result in each hole.
-/

namespace Mathdown

/-- A stretch of HTML, or the place of a deferred span. -/
inductive Piece where
  | html (text : String)
  | hole (id : PlaceholderId)
deriving DecidableEq, Repr

/-- HTML with holes. -/
abbrev Template := List Piece

namespace Template

/-- The text with something in each hole. -/
def fill (content : PlaceholderId → String) : Template → String
  | [] => ""
  | .html text :: rest => text ++ fill content rest
  | .hole id :: rest => content id ++ fill content rest

/-- The text with each hole's token in it. -/
def text (t : Template) : String := t.fill PlaceholderId.token

/-- Where the tokens are if the text starts at a byte. -/
def spansFrom : (start : Nat) → Template → List PlaceholderSpan
  | _, [] => []
  | start, .html text :: rest => spansFrom (start + text.utf8ByteSize) rest
  | start, .hole id :: rest =>
    ⟨id, start, start + id.token.utf8ByteSize⟩ :: spansFrom (start + id.token.utf8ByteSize) rest

def spans (t : Template) : List PlaceholderSpan := t.spansFrom 0

def holes : Template → List PlaceholderId
  | [] => []
  | .html _ :: rest => holes rest
  | .hole id :: rest => id :: holes rest

variable {content : PlaceholderId → String}

@[simp] theorem fill_append (front back : Template) :
    fill content (front ++ back) = fill content front ++ fill content back := by
  induction front with
  | nil => simp [fill]
  | cons piece rest ih => cases piece <;> simp [fill, ih, String.append_assoc]

@[simp] theorem text_append (front back : Template) :
    text (front ++ back) = text front ++ text back := fill_append front back

@[simp] theorem holes_append (front back : Template) :
    holes (front ++ back) = holes front ++ holes back := by
  induction front with
  | nil => rfl
  | cons piece rest ih => cases piece <;> simp [holes, ih]

theorem spansFrom_append (start : Nat) (front back : Template) :
    spansFrom start (front ++ back) =
      spansFrom start front ++ spansFrom (start + front.text.utf8ByteSize) back := by
  induction front generalizing start with
  | nil => simp [spansFrom, text, fill]
  | cons piece rest ih =>
    cases piece <;>
      simp [spansFrom, ih, text, fill, String.utf8ByteSize_append, Nat.add_assoc]

@[simp] theorem map_id_spansFrom (start : Nat) (t : Template) :
    (t.spansFrom start).map PlaceholderSpan.id = t.holes := by
  induction t generalizing start with
  | nil => rfl
  | cons piece rest ih => cases piece <;> simp [spansFrom, holes, ih]

/-- Only what is in the holes of a template matters to the text that it is filled to. -/
theorem fill_congr {other : PlaceholderId → String} {t : Template}
    (same : ∀ id ∈ t.holes, content id = other id) : t.fill content = t.fill other := by
  induction t with
  | nil => rfl
  | cons piece rest ih =>
    cases piece with
    | html text => exact congrArg (text ++ ·) (ih same)
    | hole id =>
      simp only [holes, List.mem_cons] at same
      simp only [fill, same id (.inl rfl), ih fun id member => same id (.inr member)]

theorem spansFrom_add (start offset : Nat) (t : Template) :
    t.spansFrom (start + offset) = (t.spansFrom start).map fun span => span.shift offset := by
  induction t generalizing start with
  | nil => rfl
  | cons piece rest ih =>
    cases piece with
    | html text => rw [spansFrom, Nat.add_right_comm, ih]; rfl
    | hole id =>
      simp only [spansFrom, List.map_cons, Nat.add_right_comm start offset, ih]
      rfl

/-- The template as a layout: each hole is a stretch that its token covers. -/
def layout (t : Template) : Layout :=
  t.map fun
    | .html text => .kept text
    | .hole id => .covered id id.token

@[simp] theorem text_layout (t : Template) : t.layout.text = t.text := by
  induction t with
  | nil => rfl
  | cons piece rest ih => cases piece <;> exact congrArg (_ ++ ·) ih

@[simp] theorem spansFrom_layout (start : Nat) (t : Template) :
    t.layout.spansFrom start = t.spansFrom start := by
  induction t generalizing start with
  | nil => rfl
  | cons piece rest ih =>
    cases piece with
    | html text => exact ih _
    | hole id => exact congrArg (_ :: ·) (ih _)

theorem le_start_of_mem {start : Nat} {t : Template} {span : PlaceholderSpan}
    (member : span ∈ t.spansFrom start) : start ≤ span.start :=
  Layout.le_start_of_mem (t.spansFrom_layout start ▸ member)

theorem pairwise_spansFrom (start : Nat) (t : Template) :
    (t.spansFrom start).Pairwise fun a b => a.stop ≤ b.start :=
  t.spansFrom_layout start ▸ t.layout.pairwise_spansFrom start

theorem mem_spansFrom {start : Nat} {t : Template} {span : PlaceholderSpan}
    (member : span ∈ t.spansFrom start) :
    ∃ before after, t.text = before ++ span.id.token ++ after ∧
      span.start = start + before.utf8ByteSize ∧
      span.stop = span.start + span.id.token.utf8ByteSize := by
  induction t generalizing start with
  | nil => simp [spansFrom] at member
  | cons piece rest ih =>
    cases piece with
    | html text =>
      obtain ⟨before, after, shown, place, stop⟩ := ih member
      refine ⟨text ++ before, after, ?_, ?_, stop⟩
      · change text ++ Template.text rest = _
        simp only [shown, String.append_assoc]
      · simp only [place, String.utf8ByteSize_append]
        omega
    | hole id =>
      rcases List.mem_cons.mp member with rfl | member
      · exact ⟨"", Template.text rest, by simp [text, fill], by simp, rfl⟩
      · obtain ⟨before, after, shown, place, stop⟩ := ih member
        refine ⟨id.token ++ before, after, ?_, ?_, stop⟩
        · change id.token ++ Template.text rest = _
          simp only [shown, String.append_assoc]
        · simp only [place, String.utf8ByteSize_append]
          omega

/-- The template without the blanks in front of its first hole or other character. -/
def trimLeft : Template → Template
  | [] => []
  | .hole id :: rest => .hole id :: rest
  | .html text :: rest =>
    if Text.allBlank text then trimLeft rest
    else .html (String.ofList (Text.trimLeft text.toList)) :: rest

/-- The template without the blanks behind its last hole or other character. -/
def trimRight : Template → Template
  | [] => []
  | .hole id :: rest => .hole id :: trimRight rest
  | .html text :: rest =>
    match trimRight rest with
    | [] => if Text.allBlank text then [] else [.html (String.ofList (Text.trimRight text.toList))]
    | kept => .html text :: kept

/-- The template without the blanks at either end. -/
def trim (t : Template) : Template := trimRight (trimLeft t)

@[simp] theorem holes_trimLeft (t : Template) : (trimLeft t).holes = t.holes := by
  induction t with
  | nil => rfl
  | cons piece rest ih =>
    cases piece with
    | hole id => rfl
    | html text =>
      simp only [trimLeft]
      split
      · exact ih
      · rfl

@[simp] theorem holes_trimRight (t : Template) : (trimRight t).holes = t.holes := by
  induction t with
  | nil => rfl
  | cons piece rest ih =>
    cases piece with
    | hole id => simp [trimRight, holes, ih]
    | html text =>
      simp only [trimRight, holes, ← ih]
      split
      · rename_i none
        split <;> simp [holes, none]
      · rfl

@[simp] theorem holes_trim (t : Template) : t.trim.holes = t.holes := by simp [trim]

theorem spansFrom_trimRight (start : Nat) (t : Template) :
    (trimRight t).spansFrom start = t.spansFrom start := by
  induction t generalizing start with
  | nil => rfl
  | cons piece rest ih =>
    cases piece with
    | hole id => simp [trimRight, spansFrom, ih]
    | html text =>
      simp only [trimRight, spansFrom, ← ih]
      split
      · rename_i none
        split <;> simp [spansFrom, none]
      · rfl

/-- Whether each hole is filled with something that trimming leaves alone. -/
def SolidIn (content : PlaceholderId → String) (t : Template) : Prop :=
  ∀ id ∈ t.holes, Text.Solid (content id).toList

theorem toList_fill_trimLeft {t : Template} (solid : SolidIn content t) :
    (fill content (trimLeft t)).toList = Text.trimLeft (fill content t).toList := by
  induction t with
  | nil => rfl
  | cons piece rest ih =>
    cases piece with
    | hole id =>
      -- What fills a hole ends in no blank, so that trimming stops there.
      have filled := solid id (by simp [holes])
      simp [trimLeft, fill, filled.trimLeft_append]
    | html text =>
      simp only [trimLeft, fill, String.toList_append, Text.trimLeft_append]
      cases void : text.toList.all Text.isBlank with
      | true => simpa only [Text.allBlank, void, if_true] using ih solid
      | false => simp only [Text.allBlank, void, Bool.false_eq_true, if_false, fill,
          String.toList_append, String.toList_ofList]

private theorem all_blank_iff_trimRight_eq_nil {t : Template} (solid : SolidIn content t) :
    (fill content t).toList.all Text.isBlank = true ↔ trimRight t = [] := by
  induction t with
  | nil => simp [fill, trimRight]
  | cons piece rest ih =>
    cases piece with
    | hole id =>
      have filled := solid id (by simp [holes])
      simp [trimRight, fill, filled.all_eq_false]
    | html text =>
      have inner := ih solid
      simp only [trimRight, fill, String.toList_append, List.all_append, Bool.and_eq_true, inner]
      split
      · rename_i none
        simp [none, Text.allBlank]
      · rename_i kept
        simp only [reduceCtorEq, iff_false, not_and]
        exact fun _ => kept

theorem toList_fill_trimRight {t : Template} (solid : SolidIn content t) :
    (fill content (trimRight t)).toList = Text.trimRight (fill content t).toList := by
  induction t with
  | nil => rfl
  | cons piece rest ih =>
    cases piece with
    | hole id =>
      have filled := solid id (by simp [holes])
      have inner : SolidIn content rest := fun id member => solid id (List.mem_cons_of_mem _ member)
      simp only [trimRight, fill, String.toList_append, ih inner, Text.trimRight_append]
      split
      · rename_i blank
        have none := (all_blank_iff_trimRight_eq_nil inner).mp blank
        rw [← ih inner, none]
        have alone := filled.trimRight_append []
        simp only [List.nil_append] at alone
        simp [fill, alone]
      · rfl
    | html text =>
      have blank := all_blank_iff_trimRight_eq_nil (t := rest) solid
      have inner := ih solid
      simp only [trimRight, fill, String.toList_append, Text.trimRight_append]
      split
      · rename_i none
        rw [if_pos (blank.mpr none)]
        split
        · rename_i void
          have gone := Text.trimRight_append [] text.toList
          rw [if_pos (show text.toList.all Text.isBlank = true from void), List.nil_append] at gone
          simp [gone, fill, show Text.trimRight [] = [] from rfl]
        · simp [fill]
      · rename_i kept
        rw [if_neg (fun void => kept (blank.mp void)), ← inner]
        simp [fill]

/-- What trimming takes from the front of a template is blank, and moves what is behind it. -/
theorem exists_lead (t : Template) :
    ∃ lead : String, Text.allBlank lead = true ∧
      (∀ content, t.fill content = lead ++ (trimLeft t).fill content) ∧
      ∀ start, t.spansFrom start = (trimLeft t).spansFrom (start + lead.utf8ByteSize) := by
  induction t with
  | nil => exact ⟨"", rfl, fun content => rfl, fun start => rfl⟩
  | cons piece rest ih =>
    cases piece with
    | hole id => exact ⟨"", rfl, by simp [trimLeft], fun start => by simp [trimLeft]⟩
    | html text =>
      obtain ⟨lead, blank, shown, moved⟩ := ih
      cases void : Text.allBlank text with
      | true =>
        refine ⟨text ++ lead, ?_, fun content => ?_, fun start => ?_⟩
        · rw [Text.allBlank_append, void, blank, Bool.and_self]
        · rw [fill, shown, trimLeft, if_pos void, String.append_assoc]
        · simp only [spansFrom, trimLeft, void, if_true, moved, String.utf8ByteSize_append,
            Nat.add_assoc]
      | false =>
        have parts : text = String.ofList (text.toList.takeWhile Text.isBlank) ++
            String.ofList (Text.trimLeft text.toList) := by
          rw [← String.ofList_append, Text.trimLeft, List.takeWhile_append_dropWhile,
            String.ofList_toList]
        refine ⟨String.ofList (text.toList.takeWhile Text.isBlank), ?_, fun content => ?_,
          fun start => ?_⟩
        · rw [Text.allBlank, String.toList_ofList, List.all_takeWhile]
        · simp only [trimLeft, void, Bool.false_eq_true, if_false, fill, ← String.append_assoc,
            ← parts]
        · simp only [spansFrom, trimLeft, void, Bool.false_eq_true, if_false, Nat.add_assoc,
            ← String.utf8ByteSize_append, ← parts]

theorem exists_trail (t : Template) :
    ∃ trail : String, Text.allBlank trail = true ∧
      ∀ content, t.fill content = (trimRight t).fill content ++ trail := by
  induction t with
  | nil => exact ⟨"", rfl, fun content => rfl⟩
  | cons piece rest ih =>
    obtain ⟨trail, blank, shown⟩ := ih
    cases piece with
    | hole id => exact ⟨trail, blank, fun content => by rw [fill, shown, trimRight, fill,
        String.append_assoc]⟩
    | html text =>
      cases kept : trimRight rest with
      | nil =>
        simp only [kept, fill, String.empty_append] at shown
        cases void : Text.allBlank text with
        | true =>
          refine ⟨text ++ trail, ?_, fun content => ?_⟩
          · rw [Text.allBlank_append, void, blank, Bool.and_self]
          · simp [fill, shown, trimRight, kept, void]
        | false =>
          obtain ⟨back, blanks, parts⟩ := Text.exists_trimRight_append text.toList
          refine ⟨String.ofList back ++ trail, ?_, fun content => ?_⟩
          · rw [Text.allBlank_append, blank, Bool.and_true, Text.allBlank, String.toList_ofList, blanks]
          · have whole : String.ofList (Text.trimRight text.toList) ++ String.ofList back = text := by
              rw [← String.ofList_append, ← parts, String.ofList_toList]
            simp [fill, shown, trimRight, kept, void, ← String.append_assoc, whole]
      | cons first others =>
        refine ⟨trail, blank, fun content => ?_⟩
        rw [fill, shown, trimRight, kept]
        simp only [fill, String.append_assoc]

/-- A template may be trimmed before it is filled, if what comes out is trimmed. -/
theorem trim_fill_trim (t : Template) (content : PlaceholderId → String) :
    Text.trim (t.trim.fill content) = Text.trim (t.fill content) := by
  obtain ⟨lead, front, shown, -⟩ := t.exists_lead
  obtain ⟨trail, back, kept⟩ := (trimLeft t).exists_trail
  rw [shown, kept, ← String.append_assoc, Text.trim_between front back]
  rfl

/-- Trimming commutes with filling where nothing in a hole would be trimmed. -/
theorem fill_trim {t : Template} (solid : SolidIn content t) :
    t.trim.fill content = Text.trim (t.fill content) := by
  have left : SolidIn content (trimLeft t) := by simpa [SolidIn] using solid
  rw [Text.trim, ← toList_fill_trimLeft solid, ← toList_fill_trimRight left, String.ofList_toList]
  rfl

end Template

end Mathdown
