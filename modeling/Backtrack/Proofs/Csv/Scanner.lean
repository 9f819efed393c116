import Backtrack.Csv.Table
import Backtrack.Proofs.Csv.Reading
import Mathlib.Data.List.TakeWhile

/-!
# Backtrack.Proofs.Csv.Scanner

**Tables in one pass.** The table grammar tries a quoted field before a plain one, undoes
a delimiter that nothing follows, and repeats fields inside a repetition of rows. None of
that is needed to know what it finds: `scanRow` goes over the scalars once, from left to
right, and never takes anything back but a comma before the end of the text.

`document_eq_scan` says that the two agree on every text, in what they find and in where
they stop. The proof follows the recursion of the scanner, with two invariants that say
what the grammar does in the same situation: `Scan.AtRow` at the start of a row and
`Scan.Behind` behind a field.

The recursion is packaged as `scan_induction`, with a case for each thing that can come
next. Together with `read_eq_whole?`, it turns a statement about tables into one about the
steps of the scanner.
-/

namespace Backtrack.Csv

open Backtrack.Parser

/-! ### The scanner -/

/-- What a scan finds from some place on. -/
structure Scan where
  /-- The fields of the row in which it starts. -/
  row : List String
  /-- The rows after that. -/
  rows : List (List String)
  /-- The scalars from the place on where it stops. -/
  rest : List Char
  deriving DecidableEq, Repr

/-- A plain field and what follows it: the longest run without a comma or line feed. -/
def scanPlain (cs : List Char) : String × List Char :=
  (String.ofList (cs.takeWhile isPlain), cs.dropWhile isPlain)

/-- A field and what follows it. A quote opens a quoted field if there is another quote
anywhere later in the text. -/
def scanField (cs : List Char) : String × List Char :=
  match cs with
  | '"' :: inside =>
    if '"' ∈ inside then
      (String.ofList (inside.takeWhile (· ≠ '"')), (inside.dropWhile (· ≠ '"')).tail)
    else
      scanPlain cs
  | _ => scanPlain cs

theorem scanField_length_le (cs : List Char) : (scanField cs).2.length ≤ cs.length := by
  have hplain : (scanPlain cs).2.length ≤ cs.length := (List.dropWhile_suffix isPlain).length_le
  unfold scanField
  split
  case h_1 inside =>
    split
    · have hle := (List.dropWhile_suffix (· ≠ '"') (l := inside)).length_le
      simp only [List.length_tail, List.length_cons]
      omega
    · exact hplain
  case h_2 => exact hplain

mutual

/-- Scans on from the start of a row. -/
def scanRow (cs : List Char) : Scan :=
  if cs = [] then ⟨[], [], []⟩ else scanBehind (scanField cs).1 (scanField cs).2
termination_by 2 * cs.length + 1
decreasing_by
  have hle := scanField_length_le cs
  omega

/-- Scans on behind the field `name`. -/
def scanBehind (name : String) : List Char → Scan
  | [] => ⟨[name], [], []⟩
  | ch :: after =>
    if ch = ',' then
      let next := after.dropWhile Text.isBlank
      if next = [] then
        ⟨[name], [], ch :: after⟩
      else
        let scan := scanBehind (scanField next).1 (scanField next).2
        { scan with row := name :: scan.row }
    else if ch = '\n' then
      let scan := scanRow after
      ⟨[name], scan.row :: scan.rows, scan.rest⟩
    else
      ⟨[name], [], ch :: after⟩
termination_by rest => 2 * rest.length
decreasing_by
  · have hnext := (List.dropWhile_suffix Text.isBlank (l := after)).length_le
    have hle := scanField_length_le (after.dropWhile Text.isBlank)
    simp only [List.length_cons]
    omega
  · simp only [List.length_cons]
    omega

end

/-- Scans a whole text. -/
def scan (text : Source) : Scan := scanRow text.toList

/-- The rows, if the scan went through to the end. -/
def Scan.whole? (s : Scan) : Option (List (List String)) :=
  if s.rest = [] then some (s.row :: s.rows) else none

/-! ### Steps of the scanner -/

/-- Another field in front of the row. -/
def Scan.addField (name : String) (s : Scan) : Scan := { s with row := name :: s.row }

/-- Another row in front, of a single field. -/
def Scan.addRow (name : String) (s : Scan) : Scan := ⟨[name], s.row :: s.rows, s.rest⟩

theorem Scan.whole?_addField (name : String) (s : Scan) :
    (s.addField name).whole? = s.whole?.map (List.modifyHead (name :: ·)) := by
  unfold Scan.whole? Scan.addField
  split <;> rfl

theorem Scan.whole?_addRow (name : String) (s : Scan) :
    (s.addRow name).whole? = s.whole?.map ([name] :: ·) := by
  unfold Scan.whole? Scan.addRow
  split <;> rfl

variable {cs : List Char}

theorem scanRow_of_ne (h : cs ≠ []) :
    scanRow cs = scanBehind (scanField cs).1 (scanField cs).2 := by
  rw [scanRow, if_neg h]

theorem scanBehind_comma {name : String} {after : List Char}
    (h : after.dropWhile Text.isBlank ≠ []) :
    scanBehind name (',' :: after) =
      (scanBehind (scanField (after.dropWhile Text.isBlank)).1
        (scanField (after.dropWhile Text.isBlank)).2).addField name := by
  rw [scanBehind, if_pos rfl, if_neg h]
  rfl

theorem scanBehind_newline (name : String) (after : List Char) :
    scanBehind name ('\n' :: after) = (scanRow after).addRow name := by
  rw [scanBehind, if_neg (by decide), if_pos rfl]
  rfl

/-- What holds of each step of the scanner holds of a whole scan: `P cs s` says it of the
scan `s` from the start of a row on, `Q name rest s` of the one from behind a field on. -/
theorem scan_induction (P : List Char → Scan → Prop) (Q : String → List Char → Scan → Prop)
    (atEnd : P [] ⟨[], [], []⟩)
    (field : ∀ cs s, cs ≠ [] → Q (scanField cs).1 (scanField cs).2 s → P cs s)
    (behindEnd : ∀ name, Q name [] ⟨[name], [], []⟩)
    (lastComma : ∀ name after, after.dropWhile Text.isBlank = [] →
      Q name (',' :: after) ⟨[name], [], ',' :: after⟩)
    (comma : ∀ name after s, after.dropWhile Text.isBlank ≠ [] →
      Q (scanField (after.dropWhile Text.isBlank)).1
        (scanField (after.dropWhile Text.isBlank)).2 s → Q name (',' :: after) (s.addField name))
    (newline : ∀ name after s, P after s → Q name ('\n' :: after) (s.addRow name))
    (other : ∀ name ch after, ch ≠ ',' → ch ≠ '\n' →
      Q name (ch :: after) ⟨[name], [], ch :: after⟩) :
    (∀ cs, P cs (scanRow cs)) ∧ ∀ name rest, Q name rest (scanBehind name rest) := by
  refine scanRow.mutual_induct _ _ ?_ ?_ ?_ ?_ ?_ ?_ ?_
  · rw [scanRow, if_pos rfl]
    exact atEnd
  · intro cs hsome ih
    rw [scanRow_of_ne hsome]
    exact field cs _ hsome ih
  · intro name
    rw [scanBehind]
    exact behindEnd name
  · intro name after _ (hnext : after.dropWhile Text.isBlank = [])
    rw [scanBehind, if_pos rfl, if_pos hnext]
    exact lastComma name after hnext
  · intro name after _ (hnext : after.dropWhile Text.isBlank ≠ []) ih
    rw [scanBehind_comma hnext]
    exact comma name after _ hnext ih
  · intro name after _ ih
    rw [scanBehind_newline]
    exact newline name after _ ih
  · intro name ch after hcomma hnewline
    rw [scanBehind, if_neg hcomma, if_neg hnewline]
    exact other name ch after hcomma hnewline

/-! ### Fields -/

theorem scanPlain_reads (hquoted : quotedField.Refuses cs) (hsome : cs ≠ []) :
    ∃ run, cs = run ++ (scanPlain cs).2 ∧
      field.Reads run (scanPlain cs).1 (scanPlain cs).2 := by
  have hsplit : cs = cs.takeWhile isPlain ++ cs.dropWhile isPlain :=
    List.takeWhile_append_dropWhile.symm
  refine ⟨cs.takeWhile isPlain, hsplit, ?_⟩
  have hrun : ∀ ch ∈ cs.takeWhile isPlain, isPlain ch = true :=
    fun ch hch => List.mem_takeWhile_imp hch
  have hrest := head?_dropWhile_eq_false isPlain cs
  rw [hsplit] at hquoted hsome
  exact reads_field_plain hquoted hrun hrest hsome

/-- A text with a quote in it goes on with one behind the run before. -/
theorem dropWhile_quote {inside : List Char} (h : '"' ∈ inside) :
    inside.dropWhile (· ≠ '"') = '"' :: (inside.dropWhile (· ≠ '"')).tail := by
  cases hdrop : inside.dropWhile (· ≠ '"') with
  | nil =>
      have hquote := List.dropWhile_eq_nil_iff.mp hdrop '"' h
      simp at hquote
  | cons ch tail =>
      have hhead := head?_dropWhile_eq_false (· ≠ '"') inside ch (by rw [hdrop]; rfl)
      have hch : ch = '"' := by simpa using hhead
      rw [hch, List.tail_cons]

/-- The scanner and the grammar agree on the field that comes next. -/
theorem scanField_reads (hsome : cs ≠ []) :
    ∃ run, cs = run ++ (scanField cs).2 ∧
      field.Reads run (scanField cs).1 (scanField cs).2 := by
  unfold scanField
  split
  case h_1 inside =>
    by_cases hquote : '"' ∈ inside
    · have hinside : '"' ∉ inside.takeWhile (· ≠ '"') := by
        intro hmem
        have hne := List.mem_takeWhile_imp hmem
        simp at hne
      have hsplit : inside = inside.takeWhile (· ≠ '"') ++ inside.dropWhile (· ≠ '"') :=
        List.takeWhile_append_dropWhile.symm
      rw [dropWhile_quote hquote] at hsplit
      rw [if_pos hquote]
      refine ⟨'"' :: (inside.takeWhile (· ≠ '"') ++ ['"']), ?_, reads_field_quoted hinside _⟩
      simpa using hsplit
    · rw [if_neg hquote]
      exact scanPlain_reads (refuses_quotedField_of_unclosed hquote) hsome
  case h_2 hhead =>
    refine scanPlain_reads (refuses_quotedField_of_head ?_) hsome
    cases cs with
    | nil => simp
    | cons ch tail =>
        rw [List.head?_cons, ne_eq, Option.some.injEq]
        rintro rfl
        exact hhead tail rfl

/-- A comma is read with all the white space behind it. -/
theorem comma_reads (after : List Char) :
    comma.Reads (',' :: after.takeWhile Text.isBlank) () (after.dropWhile Text.isBlank) :=
  reads_comma (fun _ hch => List.mem_takeWhile_imp hch) (head?_dropWhile_eq_false _ after)

/-! ### Rows -/

/-- At the start of a row, the grammar finds what the scan finds. -/
inductive Scan.AtRow : List Char → Scan → Prop
  | mk {run after rest : List Char} {row : List String} {rows : List (List String)}
    (hrow : line.Reads run row (after ++ rest))
    (hrows : Repeats line (literal "\n") after rows rest) :
    AtRow (run ++ (after ++ rest)) ⟨row, rows, rest⟩

/-- Behind the field `name`, the grammar finds what the scan finds. -/
inductive Scan.Behind (name : String) : List Char → Scan → Prop
  | mk {more after rest : List Char} {names : List String} {rows : List (List String)}
    (hfields : Repeats field comma more names (after ++ rest))
    (hrows : Repeats line (literal "\n") after rows rest) :
    Behind name (more ++ (after ++ rest)) ⟨name :: names, rows, rest⟩

variable {name : String} {rest : List Char} {s : Scan}

/-- A row starts with a field. -/
theorem Scan.Behind.atRow {run : List Char} (h : s.Behind name rest)
    (hfield : field.Reads run name rest) : s.AtRow (run ++ rest) := by
  obtain ⟨hfields, hrows⟩ := h
  have hrow := hfields.reads_many hfield
  rw [← List.append_assoc]
  exact .mk hrow hrows

/-- A comma and a field go on with the row. -/
theorem Scan.Behind.cons {next : String} {gap run : List Char} (h : s.Behind next rest)
    (hcomma : comma.Reads gap () (run ++ rest)) (hgap : gap ≠ [])
    (hfield : field.Reads run next rest) :
    Scan.Behind name (gap ++ (run ++ rest)) (s.addField name) := by
  obtain ⟨hfields, hrows⟩ := h
  have hround := hfields.round hcomma hgap hfield
  have hbehind : Scan.Behind name _ _ := .mk hround hrows
  simpa only [List.append_assoc, Scan.addField] using hbehind

/-- Without a comma or a line feed, nothing of the table follows. -/
theorem Scan.behind_stop (hfields : Repeats field comma [] [] rest)
    (hrows : Repeats line (literal "\n") [] [] rest) :
    Scan.Behind name rest ⟨[name], [], rest⟩ :=
  .mk hfields hrows

/-- A line feed starts a new row. -/
theorem Scan.AtRow.behind (h : s.AtRow rest) :
    Scan.Behind name ('\n' :: rest) (s.addRow name) := by
  obtain @⟨run, after, rest, row, rows, hrow, hrows⟩ := h
  have hround := hrows.round (reads_scalar "\n" '\n' rfl _) (List.cons_ne_nil _ _) hrow
  have hstop : comma.Refuses (['\n'] ++ (run ++ after) ++ rest) := refuses_comma (by simp)
  have hbehind : Scan.Behind name _ _ := .mk (.noDelimiter hstop) hround
  simpa only [List.append_assoc, List.singleton_append, List.nil_append, List.cons_append,
    Scan.addRow] using hbehind

/-- From everywhere on, the grammar finds what the scan finds. -/
theorem scan_reads :
    (∀ cs, (scanRow cs).AtRow cs) ∧ ∀ name rest, (scanBehind name rest).Behind name rest := by
  refine scan_induction (fun cs s => s.AtRow cs) (fun name rest s => s.Behind name rest)
    ?_ ?_ ?_ ?_ ?_ ?_ ?_
  -- the start of a row, at the end of the text and before it
  · exact .mk reads_line_nil .atEnd
  · intro cs s hsome hbehind
    obtain ⟨run, hcs, hfield⟩ := scanField_reads hsome
    have hrow := hbehind.atRow hfield
    rwa [← hcs] at hrow
  -- behind a field: the end, a comma without and with a field, a line feed, anything else
  · intro name
    exact Scan.behind_stop .atEnd .atEnd
  · intro name after hnext
    have hcomma := comma_reads after
    rw [hnext] at hcomma
    have hblank : after.takeWhile Text.isBlank = after :=
      List.takeWhile_eq_self_iff.mpr (List.dropWhile_eq_nil_iff.mp hnext)
    refine Scan.behind_stop ?_ (.noDelimiter (refuses_scalar "\n" '\n' rfl (by simp)))
    simpa [hblank] using Repeats.noElement hcomma refuses_field
  · intro name after s hnext hbehind
    obtain ⟨run, hrun, hfield⟩ := scanField_reads hnext
    have hcomma := comma_reads after
    rw [hrun] at hcomma
    have hlonger : Scan.Behind name _ _ := hbehind.cons hcomma (List.cons_ne_nil _ _) hfield
    rwa [← hrun, List.cons_append, List.takeWhile_append_dropWhile] at hlonger
  · intro name after s hrow
    exact hrow.behind
  · intro name ch after hcomma hnewline
    refine Scan.behind_stop (.noDelimiter (refuses_comma (by simpa using hcomma))) (.noDelimiter ?_)
    exact refuses_scalar "\n" '\n' rfl (by simpa using hnewline)

/-! ### Whole texts -/

theorem Scan.AtRow.document_reads (h : s.AtRow cs) :
    ∃ run, cs = run ++ s.rest ∧ document.Reads run (s.row :: s.rows) s.rest := by
  obtain ⟨hrow, hrows⟩ := h
  exact ⟨_, (List.append_assoc _ _ _).symm, hrows.reads_many hrow⟩

/-- A text is a table if its scan goes through to the end. -/
theorem read_eq_whole? (text : Source) :
    (Parsable.read text : Silent (Option Table)) = .ok ((scan text).whole?.map Table.mk) := by
  obtain ⟨run, htext, hreads⟩ := Scan.AtRow.document_reads (scan_reads.1 text.toList)
  rw [Scan.whole?, apply_ite (Option.map Table.mk)]
  exact hreads.map.run_eq htext

theorem read_eq_some_iff {text : Source} {table : Table} :
    (Parsable.read text : Silent (Option Table)) = .ok (some table) ↔
      (scan text).rest = [] ∧ table.rows = (scan text).row :: (scan text).rows := by
  obtain ⟨rows⟩ := table
  rw [read_eq_whole?, Scan.whole?]
  by_cases hrest : (scan text).rest = []
  · simp only [hrest, if_true, Option.map_some, Except.ok.injEq, Option.some.injEq, Table.mk.injEq,
      true_and]
    exact eq_comm
  · simp [hrest]

/-- **Tables are found in one pass.** On every text the grammar matches, finds the rows of
the scan and stops where the scan stops. So a text is a table if its scan goes through to
the end, and then it is the table of these rows. -/
theorem document_eq_scan (text : Source) :
    (∃ stop, document.parse (Cursor.start text) =
        (.ok (.done ((scan text).row :: (scan text).rows) stop) : Silent _) ∧
      stop.Valid text ∧ stop.rest = (scan text).rest ∧
      stop.position + (scan text).rest.length = text.length) ∧
    (document.run text : Silent _) = .ok (scan text).whole? ∧
    (Parsable.read text : Silent (Option Table)) = .ok ((scan text).whole?.map Table.mk) ∧
    (Table.ofText text : Silent _) =
      .ok (match (scan text).whole? with
        | some rows => .ok ⟨rows⟩
        | none => .error .noMatch) := by
  have hscan : (scan text).AtRow text.toList := scan_reads.1 text.toList
  obtain ⟨run, htext, hreads⟩ := hscan.document_reads
  have hread : (Parsable.read text : Silent (Option Table)) =
      .ok ((scan text).whole?.map Table.mk) := by
    rw [Scan.whole?, apply_ite (Option.map Table.mk)]
    exact hreads.map.run_eq htext
  have hvalid : ((Cursor.start text).advance run).Valid text := by
    refine (Cursor.valid_start text).of_reaches (Cursor.reaches_advance ?_)
    exact ⟨_, htext.symm⟩
  have hstop : ((Cursor.start text).advance run).rest = (scan text).rest := rest_advance htext
  refine ⟨⟨_, hreads _ htext, hvalid, hstop, ?_⟩, hreads.run_eq htext, hread, ?_⟩
  · have hle := hvalid.position_le
    rw [← hstop, hvalid.length_rest]
    omega
  · rw [Table.ofText, hread]
    cases (scan text).whole? <;> rfl

-- the comma before the end is given back, with the line feed that was skipped behind it
example : scan "a, b,\n" = ⟨["a", "b"], [], [',', '\n']⟩ := by decide +kernel

end Backtrack.Csv
