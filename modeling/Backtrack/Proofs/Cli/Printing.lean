import Backtrack.Cli.Run
import Backtrack.Proofs.Csv.Logging
import Backtrack.Proofs.Quoting

/-!
# Backtrack.Proofs.Cli.Printing

**The printed table tells the table.** What the command prints for a text that is a table is
known from the table alone (`run_csv`): a line for each row, with its number and its quoted
fields. It does not depend on the flags, on the filter or on what is logged.

Quoted lists hold no line feed, so the line feeds of the output are those behind the rows, and
it has one line for each of them (`oneLineEach_outputText`). They are also self-delimiting, and
since rows are numbered in the order in which they come, the number before a row says nothing
new. So two outputs that are equal have the same rows (`rowLines_injective`).
-/

namespace Backtrack.Cli

variable {text : String} {table : Csv.Table} {rows rows' : List (List String)}

/-! ### What is printed for a table -/

/-- A text that is a table is read as that table, whatever is logged on the way. -/
theorem exists_readTable_eq
    (h : (Parsable.read text : Silent (Option Csv.Table)) = .ok (some table)) :
    ∃ events, readTable text = (some table, .report events) := by
  have hread : (Csv.Table.ofText text : Silent (Except Csv.NoMatch Csv.Table)) =
      .ok (.ok table) := by
    rw [Csv.Table.ofText, h]
    rfl
  have houtcome := Csv.outcome_ofText text
  rw [hread] at houtcome
  rcases hrun : (Csv.Table.ofText text : Logged (Except Csv.NoMatch Csv.Table)).outcome with
    ⟨result, events⟩
  rw [hrun] at houtcome
  obtain rfl : result = .ok (.ok table) := houtcome
  refine ⟨events, ?_⟩
  unfold readTable
  rw [hrun]

/-- The output made of some lines. -/
def outputText (lines : List String) : String := String.join (lines.map (· ++ "\n"))

/-- What is printed for a table depends on nothing but its rows. -/
theorem run_csv {args : List String} {verbosity : Nat}
    (hargs : Options.read? args = some ⟨verbosity, .csv text⟩)
    (htable : (Parsable.read text : Silent (Option Csv.Table)) = .ok (some table))
    (environment : Option String) :
    ∃ stderr, run args environment =
      some ⟨0, outputText (rowLines 0 table.rows), stderr⟩ := by
  obtain ⟨events, hread⟩ := exists_readTable_eq htable
  have hprint : Command.run (.csv text) =
      (0, .report events ++
        { output := rowLines 0 table.rows, notices := [.record (parsedRecord table)] }) := by
    rw [Command.run, printTable, hread]
  unfold run
  rw [hargs]
  simp only [Option.bind_eq_bind, Option.bind_some, hprint]
  exact ⟨_, rfl⟩

/-! ### Lines -/

theorem toList_outputText (lines : List String) :
    (outputText lines).toList = lines.flatMap fun line => line.toList ++ ['\n'] := by
  induction lines with
  | nil => rfl
  | cons line lines ih =>
      rw [outputText, List.map_cons, String.join_cons, String.toList_append, ← outputText, ih]
      simp

/-- Where no line holds a line feed, the line feeds of an output are those that end its lines. -/
theorem splitOn_outputText {lines : List String} (h : ∀ line ∈ lines, '\n' ∉ line.toList) :
    (outputText lines).toList.splitOn '\n' = lines.map String.toList ++ [[]] := by
  rw [toList_outputText]
  induction lines with
  | nil => rfl
  | cons line lines ih =>
      obtain ⟨hline, hlines⟩ := List.forall_mem_cons.mp h
      rw [List.flatMap_cons, List.append_assoc, List.singleton_append,
        List.splitOn_append_cons_self_of_not_mem hline, ih hlines, List.map_cons,
        List.cons_append]

/-- The line of a row. -/
def rowLine (index : Nat) (row : List String) : String :=
  toString index ++ ": " ++ Text.quoteList row

theorem newline_not_mem_rowLine (index : Nat) (row : List String) :
    '\n' ∉ (rowLine index row).toList := by
  have hindex : '\n' ∉ (toString index).toList := by
    rw [Nat.toString_eq_repr, Nat.repr_eq_ofList_toDigits, String.toList_ofList]
    exact Text.not_mem_toDigits (by decide) (fun _ => Nat.digitChar_ne _ (by decide)) index
  simpa [rowLine, Text.newline_not_mem_quoteList] using hindex

theorem rowLines_eq_mapIdx (index : Nat) (rows : List (List String)) :
    rowLines index rows = rows.mapIdx fun i row => rowLine (index + i) row := by
  induction rows generalizing index with
  | nil => rfl
  | cons row rows ih =>
      rw [rowLines, ih, List.mapIdx_cons]
      simp [rowLine, Nat.add_assoc, Nat.add_comm 1]

/-- The rows are told by their lines, one after the other. -/
theorem rowLines_injective {index : Nat}
    (h : outputText (rowLines index rows) = outputText (rowLines index rows')) : rows = rows' := by
  rw [← String.toList_inj, toList_outputText, toList_outputText] at h
  induction rows generalizing index rows' with
  | nil =>
      cases rows' with
      | nil => rfl
      | cons row' rows' => simp [rowLines] at h
  | cons row rows ih =>
      cases rows' with
      | nil => simp [rowLines] at h
      | cons row' rows' =>
          -- both rows have the same number, and behind it their fields
          simp only [rowLines, List.flatMap_cons, String.toList_append, List.append_assoc,
            List.append_cancel_left_eq] at h
          obtain ⟨rfl, hrest⟩ := Text.selfDelimiting_quoteList h
          rw [ih (List.append_cancel_left hrest)]

/-! ### The command -/

/-- `output` is a line for each of the rows, numbered from zero, and nothing behind the last. -/
def OneLineEach (rows : List (List String)) (output : String) : Prop :=
  output.toList.splitOn '\n' = (rows.mapIdx rowLine).map String.toList ++ [[]]

theorem oneLineEach_outputText (rows : List (List String)) :
    OneLineEach rows (outputText (rowLines 0 rows)) := by
  have hlines : rowLines 0 rows = rows.mapIdx rowLine := by simp [rowLines_eq_mapIdx]
  have hclean : ∀ line ∈ rows.mapIdx rowLine, '\n' ∉ line.toList := by
    intro line hmem
    obtain ⟨i, hi, rfl⟩ := List.mem_mapIdx.mp hmem
    exact newline_not_mem_rowLine i _
  rw [OneLineEach, hlines, splitOn_outputText hclean]

/-- The command can be called for every text, also for one that begins with a dash. -/
theorem read?_csv (text : String) :
    Options.read? ["csv", "--", text] = some ⟨0, .csv text⟩ := by
  rfl

/-- **The printed output tells the table.** The command can be called for every text. However it
is called for one that is a table, it succeeds and prints exactly one line for each row. For two
such texts it prints the same if and only if they are the same table, whatever the fields hold. -/
theorem output_determines_table {args args' : List String} {verbosity verbosity' : Nat}
    {text text' : String} {table table' : Csv.Table}
    (hargs : Options.read? args = some ⟨verbosity, .csv text⟩)
    (hargs' : Options.read? args' = some ⟨verbosity', .csv text'⟩)
    (htable : (Parsable.read text : Silent (Option Csv.Table)) = .ok (some table))
    (htable' : (Parsable.read text' : Silent (Option Csv.Table)) = .ok (some table'))
    (environment environment' : Option String) :
    (∀ text : String, Options.read? ["csv", "--", text] = some ⟨0, .csv text⟩) ∧
    ∃ result result', run args environment = some result ∧ run args' environment' = some result' ∧
      result.exit = 0 ∧ result'.exit = 0 ∧
      OneLineEach table.rows result.stdout ∧ OneLineEach table'.rows result'.stdout ∧
      (result.stdout = result'.stdout ↔ table = table') := by
  obtain ⟨stderr, hrun⟩ := run_csv hargs htable environment
  obtain ⟨stderr', hrun'⟩ := run_csv hargs' htable' environment'
  refine ⟨read?_csv, _, _, hrun, hrun', rfl, rfl, oneLineEach_outputText table.rows,
    oneLineEach_outputText table'.rows, fun hsame => ?_, fun hsame => by rw [hsame]⟩
  have hrows : table.rows = table'.rows := rowLines_injective hsame
  cases table
  cases table'
  exact congrArg Csv.Table.mk hrows

/-- Fields that look like the output itself, and one that looks like the escape which the other
table has in its place. -/
theorem output_determines_table_imitation :
    ∃ result result',
      run ["csv", "a\\n,\"b\n1: [\""] none = some result ∧
      run ["-v", "csv", "\"a\n\",\"b\n1: [\""] (some "debug") = some result' ∧
      result.exit = 0 ∧ OneLineEach [["a\\n", "b\n1: ["]] result.stdout ∧
      result.stdout ≠ result'.stdout := by
  have hread : (Parsable.read "a\\n,\"b\n1: [\"" : Silent (Option Csv.Table)) =
      .ok (some ⟨[["a\\n", "b\n1: ["]]⟩) := by decide +kernel
  have hread' : (Parsable.read "\"a\n\",\"b\n1: [\"" : Silent (Option Csv.Table)) =
      .ok (some ⟨[["a\n", "b\n1: ["]]⟩) := by decide +kernel
  have hargs : Options.read? ["csv", "a\\n,\"b\n1: [\""] =
      some ⟨0, .csv "a\\n,\"b\n1: [\""⟩ := by decide +kernel
  have hargs' : Options.read? ["-v", "csv", "\"a\n\",\"b\n1: [\""] =
      some ⟨1, .csv "\"a\n\",\"b\n1: [\""⟩ := by decide +kernel
  obtain ⟨-, result, result', hrun, hrun', hexit, -, hlines, -, hsame⟩ :=
    output_determines_table hargs hargs' hread hread' none (some "debug")
  exact ⟨result, result', hrun, hrun', hexit, hlines, fun h => absurd (hsame.mp h) (by decide)⟩

end Backtrack.Cli
