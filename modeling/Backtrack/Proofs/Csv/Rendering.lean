import Backtrack.Csv.Table
import Backtrack.Proofs.Csv.Reading

/-!
# Backtrack.Proofs.Csv.Rendering

**Writing tables.** Almost every table can be written so that it reads back as it is, and
mostly in many ways: a field in quotes or plain, with any white space behind a comma. What
is allowed for a field depends on its place. White space in front of a plain field counts
as part of it only in the first field of a row, and an empty plain field must not be the
last thing of the text, nor of a row with other fields.

`Cell` is a field together with such choices, and `RowsFit` says that they are admissible.
Then the text reads as the table that was written (`read_tableText`): no field, row or
repetition stops early or late, whatever comes before and after it.
-/

namespace Backtrack.Csv

open Backtrack.Parser

/-! ### Choices -/

/-- A field and how it is written. -/
structure Cell where
  /-- The field. -/
  content : String
  /-- Whether it stands in quotes. -/
  quoted : Bool
  /-- What stands between the comma before it, if there is one, and the field. -/
  gap : List Char
  deriving DecidableEq, Repr

/-- Where a cell stands. -/
structure Place where
  /-- Whether it is the first one of its row. -/
  first : Bool
  /-- Whether it is the last one of its row. -/
  last : Bool
  /-- Whether its row is the last one. -/
  lastRow : Bool
  deriving DecidableEq, Repr

/-- The field as it is written. -/
def Cell.text (cell : Cell) : List Char :=
  if cell.quoted then '"' :: (cell.content.toList ++ ['"']) else cell.content.toList

/-- The cells behind the first one of a row. -/
def cellsText (cells : List Cell) : List Char :=
  cells.flatMap fun cell => ',' :: (cell.gap ++ cell.text)

/-- A row. -/
def rowText : List Cell → List Char
  | [] => []
  | cell :: cells => cell.text ++ cellsText cells

/-- The rows behind the first one. -/
def rowsText (rows : List (List Cell)) : List Char := rows.flatMap fun row => '\n' :: rowText row

/-- A table. -/
def tableText : List (List Cell) → String
  | [] => ""
  | row :: rows => String.ofList (rowText row ++ rowsText rows)

/-- What is written. -/
def contents (row : List Cell) : List String := row.map Cell.content

/-! ### Admissible choices -/

/-- When a field can be written without quotes. -/
structure Cell.PlainAt (cell : Cell) (place : Place) : Prop where
  /-- There is no comma and no line feed in it. -/
  plain : cell.content.toList.all isPlain = true
  /-- It does not look like a quoted one. -/
  unquoted : cell.content.toList.head? ≠ some '"'
  /-- Behind a comma, it does not start with white space. -/
  unblank : place.first = false → cell.content.toList.head?.any Text.isBlank = false
  /-- Some delimiter shows that it is there: a comma behind it, or, if it is alone in its
  row, a line feed. -/
  shown : cell.content = "" → place.last = false ∨ place.first = true ∧ place.lastRow = false

/-- When a cell can be written as chosen: in quotes, if there is no quote in the field. -/
def Cell.Fits (cell : Cell) (place : Place) : Prop :=
  if cell.quoted then '"' ∉ cell.content.toList else cell.PlainAt place

/-- When the cells behind the first one of a row can be written as chosen. -/
def CellsFit (lastRow : Bool) : List Cell → Prop
  | [] => True
  | cell :: cells => cell.Fits ⟨false, cells.isEmpty, lastRow⟩ ∧
    cell.gap.all Text.isBlank = true ∧ CellsFit lastRow cells

/-- When a row can be written as chosen. Only the last one may be empty. -/
def RowFits (lastRow : Bool) : List Cell → Prop
  | [] => lastRow = true
  | cell :: cells => cell.Fits ⟨true, cells.isEmpty, lastRow⟩ ∧ CellsFit lastRow cells

/-- When rows can be written as chosen. -/
def RowsFit : List (List Cell) → Prop
  | [] => True
  | row :: rows => RowFits rows.isEmpty row ∧ RowsFit rows

instance (cell : Cell) (place : Place) : Decidable (cell.PlainAt place) :=
  decidable_of_iff
    (cell.content.toList.all isPlain = true ∧ cell.content.toList.head? ≠ some '"' ∧
      (place.first = false → cell.content.toList.head?.any Text.isBlank = false) ∧
      (cell.content = "" → place.last = false ∨ place.first = true ∧ place.lastRow = false))
    ⟨fun ⟨plain, unquoted, unblank, shown⟩ => ⟨plain, unquoted, unblank, shown⟩,
      fun h => ⟨h.plain, h.unquoted, h.unblank, h.shown⟩⟩

instance (cell : Cell) (place : Place) : Decidable (cell.Fits place) :=
  inferInstanceAs (Decidable
    (if cell.quoted then '"' ∉ cell.content.toList else cell.PlainAt place))

instance decidableCellsFit (lastRow : Bool) : ∀ cells, Decidable (CellsFit lastRow cells)
  | [] => isTrue trivial
  | _ :: cells =>
    have := decidableCellsFit lastRow cells
    inferInstanceAs (Decidable (_ ∧ _ ∧ _))

instance (lastRow : Bool) : ∀ row, Decidable (RowFits lastRow row)
  | [] => inferInstanceAs (Decidable (lastRow = true))
  | _ :: _ => inferInstanceAs (Decidable (_ ∧ _))

instance decidableRowsFit : ∀ rows, Decidable (RowsFit rows)
  | [] => isTrue trivial
  | _ :: rows =>
    have := decidableRowsFit rows
    inferInstanceAs (Decidable (_ ∧ _))

/-! ### What comes next -/

/-- The scalar behind a row, if any. -/
def rowEnd (lastRow : Bool) : Option Char := if lastRow then none else some '\n'

/-- The scalar behind a cell, if any. -/
def Place.next (place : Place) : Option Char :=
  if place.last then rowEnd place.lastRow else some ','

variable {cell : Cell} {place : Place} {lastRow : Bool} {rest : List Char}

theorem head?_rowsText (rows : List (List Cell)) : (rowsText rows).head? = rowEnd rows.isEmpty := by
  cases rows <;> rfl

theorem head?_cellsText (cells : List Cell) (first : Bool) (hrest : rest.head? = rowEnd lastRow) :
    (cellsText cells ++ rest).head? = (Place.mk first cells.isEmpty lastRow).next := by
  cases cells with
  | nil => exact hrest
  | cons cell cells => rfl

/-- Nothing that comes behind a cell can be taken for a part of it. -/
theorem isPlain_next (ch : Char) (hch : ch ∈ place.next) : isPlain ch = false := by
  obtain ⟨first, last, lastRow⟩ := place
  cases last with
  | false =>
      obtain rfl : ',' = ch := Option.some.inj hch
      rfl
  | true =>
      cases lastRow with
      | false =>
          obtain rfl : '\n' = ch := Option.some.inj hch
          rfl
      | true => cases hch

/-- An empty plain cell has something behind it. -/
theorem Cell.PlainAt.next_ne_none (h : cell.PlainAt place) (hempty : cell.content = "") :
    place.next ≠ none := by
  rcases h.shown hempty with hlast | ⟨-, hrow⟩
  · simp [Place.next, hlast]
  · cases hlast : place.last <;> simp [Place.next, rowEnd, hlast, hrow]

/-! ### Reading back -/

/-- The two ways to write a cell. -/
theorem Cell.Fits.quoted_or_plain (h : cell.Fits place) :
    cell.text = '"' :: (cell.content.toList ++ ['"']) ∧ '"' ∉ cell.content.toList ∨
      cell.text = cell.content.toList ∧ cell.PlainAt place := by
  unfold Cell.Fits at h
  unfold Cell.text
  cases hquoted : cell.quoted with
  | true => exact .inl ⟨rfl, by simpa [hquoted] using h⟩
  | false => exact .inr ⟨rfl, by simpa [hquoted] using h⟩

/-- A plain cell with what follows never starts like a quoted one. -/
theorem Cell.PlainAt.head?_ne_quote (h : cell.PlainAt place) (hrest : rest.head? = place.next) :
    (cell.content.toList ++ rest).head? ≠ some '"' := by
  cases hcontent : cell.content.toList with
  | nil =>
      -- then it is what follows that starts, and that is a delimiter
      intro hquote
      have hplain := isPlain_next '"' (hrest ▸ hquote)
      cases hplain
  | cons ch tail =>
      have hunquoted := h.unquoted
      rwa [hcontent] at hunquoted

theorem Cell.Fits.reads (h : cell.Fits place) (hrest : rest.head? = place.next) :
    field.Reads cell.text cell.content rest := by
  rcases h.quoted_or_plain with ⟨htext, hquote⟩ | ⟨htext, h⟩
  · have hreads := reads_field_quoted hquote rest
    rwa [String.ofList_toList, ← htext] at hreads
  · have hend : ∀ ch ∈ rest.head?, isPlain ch = false := by
      rw [hrest]
      exact isPlain_next
    have hsome : cell.content.toList ++ rest ≠ [] := by
      intro hnil
      obtain ⟨hempty, hrestnil⟩ := List.append_eq_nil_iff.mp hnil
      refine h.next_ne_none (String.toList_eq_nil_iff.mp hempty) ?_
      rw [← hrest, hrestnil, List.head?_nil]
    have hquoted := refuses_quotedField_of_head (h.head?_ne_quote hrest)
    have hreads := reads_field_plain hquoted (List.all_eq_true.mp h.plain) hend hsome
    rwa [String.ofList_toList, ← htext] at hreads

/-- Behind a comma, the white space ends where the cell begins. -/
theorem Cell.Fits.head?_not_blank (h : cell.Fits place) (hfirst : place.first = false)
    (hrest : rest.head? = place.next) :
    ∀ ch ∈ (cell.text ++ rest).head?, Text.isBlank ch = false := by
  rcases h.quoted_or_plain with ⟨htext, -⟩ | ⟨htext, h⟩
  · intro ch hch
    rw [htext] at hch
    obtain rfl : '"' = ch := Option.some.inj hch
    decide
  · rw [htext]
    cases hcontent : cell.content.toList with
    | nil =>
        -- an empty cell behind a comma is followed by another one
        have hlast : place.last = false := by
          have hshown := h.shown (String.toList_eq_nil_iff.mp hcontent)
          simpa [hfirst] using hshown
        intro ch hch
        rw [List.nil_append, hrest, Place.next, hlast] at hch
        obtain rfl : ',' = ch := Option.some.inj hch
        decide
    | cons ch tail =>
        have hunblank := h.unblank hfirst
        rw [hcontent] at hunblank
        intro ch' hch
        obtain rfl : ch = ch' := Option.some.inj hch
        exact hunblank

theorem cells_repeat {cells : List Cell} (h : CellsFit lastRow cells)
    (hrest : rest.head? = rowEnd lastRow) :
    Repeats field comma (cellsText cells) (contents cells) rest := by
  induction cells with
  | nil =>
      refine .noDelimiter (refuses_comma ?_)
      rw [hrest]
      cases lastRow <;> simp [rowEnd]
  | cons cell cells ih =>
      obtain ⟨hcell, hgap, hcells⟩ := h
      have hnext := head?_cellsText cells false hrest
      have hcomma := reads_comma (List.all_eq_true.mp hgap) (hcell.head?_not_blank rfl hnext)
      have hround := (ih hcells).round hcomma (List.cons_ne_nil _ _) (hcell.reads hnext)
      simpa [cellsText, contents] using hround

theorem RowFits.reads {row : List Cell} (h : RowFits lastRow row)
    (hrest : rest.head? = rowEnd lastRow) : line.Reads (rowText row) (contents row) rest := by
  cases row with
  | nil =>
      have hlast : lastRow = true := h
      rw [hlast] at hrest
      rw [List.head?_eq_none_iff.mp hrest]
      exact reads_line_nil
  | cons cell cells =>
      obtain ⟨hcell, hcells⟩ := h
      exact (cells_repeat hcells hrest).reads_many (hcell.reads (head?_cellsText cells true hrest))

theorem RowFits.reads_before {row : List Cell} {rows : List (List Cell)}
    (h : RowFits rows.isEmpty row) :
    line.Reads (rowText row) (contents row) (rowsText rows ++ []) := by
  refine h.reads ?_
  rw [List.append_nil, head?_rowsText]

theorem rows_repeat {rows : List (List Cell)} (h : RowsFit rows) :
    Repeats line (literal "\n") (rowsText rows) (rows.map contents) [] := by
  induction rows with
  | nil => exact .atEnd
  | cons row rows ih =>
      obtain ⟨hrow, hrows⟩ := h
      have hnewline := reads_scalar "\n" '\n' rfl
      have hround := (ih hrows).round (hnewline _) (List.cons_ne_nil _ _) hrow.reads_before
      simpa [rowsText] using hround

/-- **Tables read back as they were written.** However the fields of a table are written,
if each choice is admissible at its place, then the text is a table and it is this one,
wherever the text is kept. -/
theorem read_tableText {table : List (List Cell)} (hsome : table ≠ []) (h : RowsFit table)
    (address : Nat) :
    (Parsable.read ⟨tableText table, address⟩ : Silent (Option Table)) =
      .ok (some ⟨table.map contents⟩) := by
  cases table with
  | nil => exact absurd rfl hsome
  | cons row rows =>
      obtain ⟨hrow, hrows⟩ := h
      have htext : Source.toList ⟨tableText (row :: rows), address⟩ =
          rowText row ++ rowsText rows ++ [] := by
        simp [Source.toList, tableText]
      have hreads := (rows_repeat hrows).reads_many hrow.reads_before
      exact hreads.map.run_eq htext

/-- White space inside and around fields, delimiters in quotes, fields and rows that are
empty. -/
def mixedTable : List (List Cell) :=
  [[⟨" é", false, []⟩, ⟨"", false, ['\n', ' ']⟩, ⟨"a,\n", true, []⟩], [⟨"", false, []⟩], []]

theorem read_tableText_mixedTable :
    tableText mixedTable = " é,\n ,\"a,\n\"\n\n" ∧
    (Parsable.read ⟨tableText mixedTable, 7⟩ : Silent (Option Table)) =
      .ok (some ⟨[[" é", "", "a,\n"], [""], []]⟩) :=
  ⟨by decide, read_tableText (List.cons_ne_nil _ _) (by decide) 7⟩

end Backtrack.Csv
