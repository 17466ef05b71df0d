import Mathdown.Event.Shape
import Mathdown.Html

namespace Mathdown

/-- Whether an event enters or leaves a table or a part of one. -/
def Event.ofTable : Event → Bool
  | .start (.table _) | .start .tableHead | .start .tableRow | .start .tableCell => true
  | .stop .table | .stop .tableHead | .stop .tableRow | .stop .tableCell => true
  | _ => false

/-- A table: how its columns are aligned, and what stands in the cells of its head and of each row. -/
structure Table where
  columns : List Alignment
  head : List (List Event)
  rows : List (List (List Event))
deriving DecidableEq, Repr

namespace Table

def cell (content : List Event) : List Event := .start .tableCell :: content ++ [.stop .tableCell]

def row (cells : List (List Event)) : List Event :=
  .start .tableRow :: cells.flatMap cell ++ [.stop .tableRow]

/-- The events of a table: its head, and the rows behind it. -/
def events (t : Table) : List Event :=
  .start (.table t.columns) ::
    (.start .tableHead :: t.head.flatMap cell ++ .stop .tableHead :: t.rows.flatMap row) ++
      [.stop .table]

def contents (t : Table) : List (List Event) := t.head ++ t.rows.flatten

/-- Whether no cell of a table holds another table, or a part of one. The cells of a document's tables hold
nothing but lines, so that these tables are flat (`Event.Shaped.exists_table`). -/
def Flat (t : Table) : Prop := ∀ content ∈ t.contents, ∀ event ∈ content, event.ofTable = false

/-- The attribute that aligns what stands in a column, with the space before it; behind the last column
there is none. -/
def style : Option Alignment → String
  | some .left => " style=\"text-align:left\""
  | some .center => " style=\"text-align:center\""
  | some .right => " style=\"text-align:right\""
  | some .unset | none => ""

def cellMarkup (columns : List Alignment) (name : String) (i : Nat) : List (Event × String) :=
  [(.start .tableCell, "<" ++ name ++ style columns[i]? ++ ">"), (.stop .tableCell, "</" ++ name ++ ">")]

def cellsMarkup (columns : List Alignment) (name : String) (count : Nat) : List (Event × String) :=
  (List.range count).flatMap (cellMarkup columns name)

def rowMarkup (columns : List Alignment) (cells : List (List Event)) : List (Event × String) :=
  (.start .tableRow, "<tr>") :: cellsMarkup columns "td" cells.length ++ [(.stop .tableRow, "</tr>")]

/-- The tags of a table. -/
def markup (t : Table) : List (Event × String) :=
  (.start (.table t.columns), "<table>") ::
    ((.start .tableHead, "<thead><tr>") :: cellsMarkup t.columns "th" t.head.length ++
      (.stop .tableHead, "</tr></thead><tbody>") :: t.rows.flatMap (rowMarkup t.columns)) ++
        [(.stop .table, "</tbody></table>")]

end Table

namespace Event

variable {events : List Event}

theorem Shaped.exists_cells (shaped : Shaped .cells events) :
    ∃ cells : List (List Event), events = cells.flatMap Table.cell ∧ ∀ content ∈ cells, Shaped .line content := by
  generalize atCells : Place.cells = place at shaped
  induction shaped with
  | nil place => exact ⟨[], rfl, nofun⟩
  | @leaf place event rest held _ _ =>
    subst atCells
    cases event <;> cases held
  | @element place inner tag content rest opens within _ _ ih =>
    subst atCells
    obtain ⟨cells, rfl, lines⟩ := ih rfl
    cases tag with
    | tableCell =>
      cases opens
      refine ⟨content :: cells, ?_, List.forall_mem_cons.mpr ⟨within, lines⟩⟩
      simp [Table.cell, Tag.toEnd]
    | _ => cases opens
  | table => cases atCells

theorem Shaped.exists_rows (shaped : Shaped .rows events) :
    ∃ rows : List (List (List Event)), events = rows.flatMap Table.row ∧
      ∀ content ∈ rows.flatten, Shaped .line content := by
  generalize atRows : Place.rows = place at shaped
  induction shaped with
  | nil place => exact ⟨[], rfl, nofun⟩
  | @leaf place event rest held _ _ =>
    subst atRows
    cases event <;> cases held
  | @element place inner tag content rest opens within _ _ ih =>
    subst atRows
    obtain ⟨rows, rfl, lines⟩ := ih rfl
    cases tag with
    | tableRow =>
      cases opens
      obtain ⟨cells, rfl, lines'⟩ := within.exists_cells
      refine ⟨cells :: rows, by simp [Table.row, Tag.toEnd], ?_⟩
      rw [List.flatten_cons]
      exact List.forall_mem_append.mpr ⟨lines', lines⟩
    | _ => cases opens
  | table => cases atRows

theorem Shaped.ofTable_eq_false (shaped : Shaped .line events) :
    ∀ event ∈ events, event.ofTable = false := by
  generalize atLine : Place.line = place at shaped
  induction shaped with
  | nil place => exact nofun
  | @leaf place event rest held _ ih =>
    subst atLine
    refine List.forall_mem_cons.mpr ⟨?_, ih rfl⟩
    cases event <;> first | rfl | cases held
  | @element place inner tag content rest opens within _ ihWithin ih =>
    subst atLine
    obtain ⟨inline, rfl⟩ : tag.isInline = true ∧ .line = inner := by simpa [Place.inside] using opens
    have apart : (Event.start tag).ofTable = false ∧ (Event.stop tag.toEnd).ofTable = false := by
      cases tag <;> first | exact ⟨rfl, rfl⟩ | cases inline
    exact List.forall_mem_append.mpr ⟨List.forall_mem_cons.mpr ⟨apart.1, ihWithin rfl⟩,
      List.forall_mem_cons.mpr ⟨apart.2, ih rfl⟩⟩
  | table => cases atLine

/-- The tables of a document are tables, with nothing but lines in their cells. -/
theorem Shaped.exists_table {head rows : List Event} (columns : List Alignment)
    (headCells : Shaped .cells head) (body : Shaped .rows rows) :
    ∃ t : Table, t.columns = columns ∧ t.Flat ∧
      .start (.table columns) :: (.start .tableHead :: head ++ .stop .tableHead :: rows) ++
        [.stop .table] = t.events := by
  obtain ⟨cells, rfl, lines⟩ := headCells.exists_cells
  obtain ⟨others, rfl, lines'⟩ := body.exists_rows
  refine ⟨⟨columns, cells, others⟩, rfl, fun content member => ?_, rfl⟩
  exact (List.forall_mem_append.mpr ⟨lines, lines'⟩ content member).ofTable_eq_false

end Event

end Mathdown
