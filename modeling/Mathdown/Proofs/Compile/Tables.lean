import Mathdown.Compile.Table
import Mathdown.Compile.Writing
import Mathdown.Proofs.Compile.Limits
import Mathdown.Proofs.Compile.Succession

namespace Mathdown

open Compile (Act TableCursor)

namespace Compile

def tableAfter (table : TableCursor) : Event → TableCursor
  | .start (.table columns) => ⟨false, columns, 0⟩
  | .start .tableHead => { table with inHead := true, cell := 0 }
  | .start .tableRow => { table with cell := 0 }
  | .stop .tableHead => { table with inHead := false }
  | .stop .tableCell => { table with cell := table.cell + 1 }
  | _ => table

/-- What a part of a table is written as where the compiler is. -/
def partHtml (table : TableCursor) : Event → String
  | .start (.table _) => "<table>"
  | .start .tableHead => "<thead><tr>"
  | .start .tableRow => "<tr>"
  | .start .tableCell => Html.cellStart table.inHead table.alignment
  | .stop .tableCell => Html.cellStop table.inHead
  | .stop .tableRow => "</tr>"
  | .stop .tableHead => "</tr></thead><tbody>"
  | .stop .table => "</tbody></table>"
  | _ => ""

theorem table_ofEvent (options : CompilerOptions) (s : State) (answer : Answer) (event : Event) :
    (Act.performAll (Act.ofEvent options s answer event) s).table = tableAfter s.table event := by
  refine (congrArg Prod.fst (Act.around_performAll _ s)).trans ?_
  cases event with
  | start tag => cases tag <;> rfl
  | stop tag =>
    cases tag with
    | codeBlock => cases answer <;> rfl
    | blockQuote =>
      simp only [Act.ofEvent, Act.leaving]
      split <;> rfl
    | image =>
      simp only [Act.ofEvent, Act.leaving]
      split <;> rfl
    | _ => rfl
  | text text =>
    simp only [Act.ofEvent, Act.showing]
    split <;> try split
    all_goals rfl
  | code source =>
    simp only [Act.ofEvent, Act.showing]
    split <;> rfl
  | math expression display =>
    simp only [Act.ofEvent]
    split
    · rfl
    · cases answer <;> rfl
  | softBreak =>
    simp only [Act.ofEvent]
    split <;> rfl
  | _ => rfl

/-- The parts of tables among events, each with what it is written as, and where in a table the compiler is
behind them. -/
def tagsFrom : TableCursor → List Event → List (Event × String) × TableCursor
  | table, [] => ([], table)
  | table, event :: events =>
    let later := tagsFrom (tableAfter table event) events
    ((if event.ofTable then [(event, partHtml table event)] else []) ++ later.1, later.2)

section Tags

variable {table middle last : TableCursor} {event : Event} {front back : List Event}
  {tags others : List (Event × String)}

theorem tagsFrom_append (first : tagsFrom table front = (tags, middle))
    (second : tagsFrom middle back = (others, last)) :
    tagsFrom table (front ++ back) = (tags ++ others, last) := by
  induction front generalizing table tags with
  | nil => cases first; exact second
  | cons event front ih =>
    cases first
    rw [List.cons_append, tagsFrom, ih rfl, List.append_assoc]

theorem tagsFrom_around (table : TableCursor) (opening closing : Event) {content : List Event}
    (opens : opening.ofTable = true) (closes : closing.ofTable = true)
    (within : tagsFrom (tableAfter table opening) content = (tags, middle)) :
    tagsFrom table (opening :: content ++ [closing]) =
      ((opening, partHtml table opening) :: tags ++ [(closing, partHtml middle closing)],
        tableAfter middle closing) := by
  have alone {at' : TableCursor} {part : Event} (isPart : part.ofTable = true) :
      tagsFrom at' [part] = ([(part, partHtml at' part)], tableAfter at' part) := by
    rw [tagsFrom, if_pos isPart]
    rfl
  exact tagsFrom_append (tagsFrom_append (alone opens) within) (alone closes)

theorem tableAfter_of_outside (outside : event.ofTable = false) : tableAfter table event = table := by
  cases event with
  | start tag => cases tag <;> first | rfl | cases outside
  | stop closing => cases closing <;> first | rfl | cases outside
  | _ => rfl

/-- What stands in a cell is no part of the table, and leaves the compiler where it is. -/
theorem tagsFrom_content {content : List Event} (outside : ∀ event ∈ content, event.ofTable = false) :
    tagsFrom table content = ([], table) := by
  induction content with
  | nil => rfl
  | cons event content ih =>
    obtain ⟨here, others⟩ := List.forall_mem_cons.mp outside
    rw [tagsFrom, tableAfter_of_outside here, ih others, here]
    rfl

theorem cellStart_eq (inHead : Bool) (column : Option Alignment) :
    Html.cellStart inHead (column.getD .unset) =
      "<" ++ (if inHead then "th" else "td") ++ Table.style column ++ ">" := by
  cases inHead <;> rcases column with _ | column <;> first | rfl | cases column <;> rfl

theorem cellStop_eq (inHead : Bool) :
    Html.cellStop inHead = "</" ++ (if inHead then "th" else "td") ++ ">" := by
  cases inHead <;> rfl

variable {columns : List Alignment}

theorem tagsFrom_cells {cells : List (List Event)}
    (flat : ∀ content ∈ cells, ∀ event ∈ content, event.ofTable = false) (inHead : Bool) (n : Nat) :
    tagsFrom ⟨inHead, columns, n⟩ (cells.flatMap Table.cell) =
      ((List.range' n cells.length).flatMap (Table.cellMarkup columns (if inHead then "th" else "td")),
        ⟨inHead, columns, n + cells.length⟩) := by
  induction cells generalizing n with
  | nil => rfl
  | cons content cells ih =>
    obtain ⟨outside, others⟩ := List.forall_mem_cons.mp flat
    have cell : tagsFrom ⟨inHead, columns, n⟩ (Table.cell content) =
        (Table.cellMarkup columns (if inHead then "th" else "td") n, ⟨inHead, columns, n + 1⟩) := by
      rw [Table.cellMarkup, ← cellStart_eq, ← cellStop_eq]
      exact tagsFrom_around _ (.start .tableCell) (.stop .tableCell) rfl rfl (tagsFrom_content outside)
    rw [List.flatMap_cons, tagsFrom_append cell (ih others (n + 1)), List.length_cons, List.range'_succ,
      List.flatMap_cons, Nat.add_right_comm, Nat.add_assoc]

/-- The rows of a table. Each starts at the first column, wherever the one before has stopped. -/
theorem tagsFrom_rows {rows : List (List (List Event))}
    (flat : ∀ content ∈ rows.flatten, ∀ event ∈ content, event.ofTable = false) (n : Nat) :
    ∃ last, tagsFrom ⟨false, columns, n⟩ (rows.flatMap Table.row) =
      (rows.flatMap (Table.rowMarkup columns), last) := by
  induction rows generalizing n with
  | nil => exact ⟨_, rfl⟩
  | cons cells rows ih =>
    rw [List.flatten_cons] at flat
    obtain ⟨here, others⟩ := List.forall_mem_append.mp flat
    have row : tagsFrom ⟨false, columns, n⟩ (Table.row cells) =
        (Table.rowMarkup columns cells, ⟨false, columns, 0 + cells.length⟩) := by
      rw [Table.rowMarkup, Table.cellsMarkup, List.range_eq_range']
      exact tagsFrom_around _ (.start .tableRow) (.stop .tableRow) rfl rfl (tagsFrom_cells here false 0)
    obtain ⟨last, behind⟩ := ih others (0 + cells.length)
    exact ⟨last, tagsFrom_append row behind⟩

theorem tagsFrom_table {t : Table} (flat : t.Flat) (table : TableCursor) :
    (tagsFrom table t.events).1 = t.markup := by
  obtain ⟨inHead, inRows⟩ := List.forall_mem_append.mp flat
  have head : tagsFrom ⟨false, t.columns, 0⟩
      (.start .tableHead :: t.head.flatMap Table.cell ++ [.stop .tableHead]) =
        ((.start .tableHead, "<thead><tr>") :: Table.cellsMarkup t.columns "th" t.head.length ++
          [(.stop .tableHead, "</tr></thead><tbody>")], ⟨false, t.columns, 0 + t.head.length⟩) := by
    rw [Table.cellsMarkup, List.range_eq_range']
    exact tagsFrom_around _ (.start .tableHead) (.stop .tableHead) rfl rfl (tagsFrom_cells inHead true 0)
  obtain ⟨last, rows⟩ := tagsFrom_rows (n := 0 + t.head.length) inRows
  have whole := tagsFrom_around table (.start (.table t.columns)) (.stop .table) rfl rfl
    (tagsFrom_append head rows)
  simpa only [Table.events, Table.markup, partHtml, List.cons_append, List.append_assoc, List.nil_append]
    using congrArg Prod.fst whole

end Tags

end Compile

namespace Compiler

open Compile (Moment State)

variable {σ : Type} (c : Compiler σ)

/-- What an event does to where in a table the compiler is does not depend on anything else. -/
theorem table_next (m : Moment σ) : (c.next m).1.table = Compile.tableAfter m.state.table m.event := by
  rw [state_next, Compile.table_ofEvent]

/-- A part of a table is written as it is, also within a heading or an image. -/
theorem written_of_ofTable {m : Moment σ} (part : m.event.ofTable = true) :
    c.written m = Compile.partHtml m.state.table m.event := by
  refine c.written_eq ?_
  obtain ⟨event, s, w⟩ := m
  rw [state_next]
  cases event with
  | start tag => cases tag <;> first | rfl | cases part
  | stop closing => cases closing <;> first | rfl | cases part
  | _ => cases part

/-- The parts of tables are written as where in the tables they are makes them. -/
theorem tags_run (events : List Event) (s : State) (w : σ) :
    (c.writings events s w).filter (·.1.ofTable) <+: (Compile.tagsFrom s.table events).1 ∧
      ((c.run events s w).1 = none →
        (c.writings events s w).filter (·.1.ofTable) = (Compile.tagsFrom s.table events).1) := by
  induction events generalizing s w with
  | nil => exact ⟨List.prefix_refl _, fun _ => rfl⟩
  | cons event events ih =>
    rw [run_cons, writings_cons]
    split
    · exact ⟨List.nil_prefix, nofun⟩
    · obtain ⟨begins, whole⟩ := ih (c.next (moment event s w)).1 (c.next (moment event s w)).2
      rw [table_next] at begins whole
      rw [Compile.tagsFrom, List.filter_cons]
      dsimp only
      split
      · rename_i part
        rw [written_of_ofTable c part]
        exact ⟨(List.prefix_cons_inj _).mpr begins, fun ran => congrArg (_ :: ·) (whole ran)⟩
      · exact ⟨begins, whole⟩

/--
A table is written with the tags of its parts, whatever comes before it and whatever stands in its cells: each
cell of the head or of a row has the alignment of its own column, and those behind the last column have none.
The output grows by what its events write, in order. A table that leads no deeper than the limit is written
whole, and any other up to where it does.
-/
theorem table_written {t : Table} (flat : t.Flat) (s : State) (w : σ) :
    (c.run t.events s w).2.1.output =
        s.output ++ String.join ((c.writings t.events s w).map Prod.snd) ∧
      (c.writings t.events s w).map Prod.fst <+: t.events ∧
      (c.writings t.events s w).filter (·.1.ofTable) <+: t.markup ∧
      ((∀ front, front <+: t.events → front.foldl depthAfter s.depth ≤ c.options.maxNesting) →
        (c.run t.events s w).1 = none) ∧
      ((c.run t.events s w).1 = none →
        (c.writings t.events s w).map Prod.fst = t.events ∧
          (c.writings t.events s w).filter (·.1.ofTable) = t.markup) := by
  obtain ⟨begins, whole⟩ := c.events_writings t.events s w
  obtain ⟨tags, allTags⟩ := c.tags_run t.events s w
  rw [Compile.tagsFrom_table flat] at tags allTags
  refine ⟨c.output_run t.events s w, begins, tags, fun room => ?_, fun ran => ⟨whole ran, allTags ran⟩⟩
  have shallow : s.depth ≤ c.options.maxNesting := room [] List.nil_prefix
  rw [run_error, ← Option.not_isSome_iff_eq_none, nestingError_isSome_iff shallow]
  intro ⟨front, starts, deep⟩
  exact absurd (room front starts) (Nat.not_le.mpr deep)

/-- A table of one column behind a table of three, with a row that is longer than its head. -/
theorem table_written_behind_wider :
    let c : Compiler Nat :=
      { processors :=
          { math := some fun n expression _ => (.inline ("<i>" ++ expression ++ "</i>"), n + 1) } }
    let wider := Markdown.events ⟨true, true⟩ "|a|b|c|\n|:-|:-|:-:|\n|d|e|f|\n"
    let t : Table :=
      ⟨[.right], [[.text "x"]], [[[.start .emphasis, .math "k" false, .stop .emphasis], [.code "y"]]]⟩
    let s := (c.run wider .initial 0).2.1
    t.Flat ∧ s.table = ⟨false, [.left, .left, .center], 3⟩ ∧
      (c.writings t.events s 0).filter (·.1.ofTable) =
        [(.start (.table [.right]), "<table>"), (.start .tableHead, "<thead><tr>"),
          (.start .tableCell, "<th style=\"text-align:right\">"), (.stop .tableCell, "</th>"),
          (.stop .tableHead, "</tr></thead><tbody>"), (.start .tableRow, "<tr>"),
          (.start .tableCell, "<td style=\"text-align:right\">"), (.stop .tableCell, "</td>"),
          (.start .tableCell, "<td>"), (.stop .tableCell, "</td>"), (.stop .tableRow, "</tr>"),
          (.stop .table, "</tbody></table>")] := by
  intro c wider t s
  have flat : t.Flat := by
    unfold Table.Flat
    decide
  have read : wider = [.start (.table [.left, .left, .center]),
      .start .tableHead, .start .tableCell, .text "a", .stop .tableCell, .start .tableCell, .text "b",
      .stop .tableCell, .start .tableCell, .text "c", .stop .tableCell, .stop .tableHead,
      .start .tableRow, .start .tableCell, .text "d", .stop .tableCell, .start .tableCell, .text "e",
      .stop .tableCell, .start .tableCell, .text "f", .stop .tableCell, .stop .tableRow,
      .stop .table] := by
    decide +kernel
  have ran : (c.run t.events s 0).1 = none := by
    unfold s
    rw [read]
    decide +kernel
  obtain ⟨-, -, -, -, whole⟩ := c.table_written flat s 0
  refine ⟨flat, ?_, (whole ran).2.trans (by decide +kernel)⟩
  unfold s
  rw [read]
  decide +kernel

end Compiler

end Mathdown
