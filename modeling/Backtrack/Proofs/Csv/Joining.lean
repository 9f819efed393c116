import Backtrack.Proofs.Csv.Scanner

/-!
# Backtrack.Proofs.Csv.Joining

**Tables one below the other.** Write one table, a line feed and another table. Then the
rows of the whole are those of the first and those of the second, with one change: at the
end of a text there is a row without fields, but before a line feed there is one with an
empty field (`closeRows`).

What comes behind a text can change how its beginning is read. White space behind a comma
may go on, but in a table every comma has a field behind it. A quote without a partner may
find one, but it opens a quoted field only if it is the first scalar of a field, and
`read_append_newline` asks that no field starts with a quote. The proof follows the scan of
the first text, which goes on into the second one where it used to end.
-/

namespace Backtrack.Csv

/-! ### Rows before a line feed -/

/-- The rows of a text with a line feed behind it. -/
def closeRows (rows : List (List String)) : List (List String) :=
  if rows.getLast? = some [] then rows.dropLast ++ [[""]] else rows

theorem closeRows_cons (row : List String) (rows : List (List String)) :
    closeRows (row :: rows) =
      (if row = [] ∧ rows = [] then [""] else row) :: closeRows rows := by
  cases rows with
  | nil => cases row <;> simp [closeRows]
  | cons next rows =>
      simp only [closeRows, List.getLast?_cons_cons, List.dropLast_cons_cons, List.cons_append,
        reduceCtorEq, and_false, if_false]
      split <;> rfl

/-- The scan `s` of a text, and behind it a line feed and the text of the scan `t`. -/
def Scan.above (s t : Scan) : Scan where
  row := if s.row = [] ∧ s.rows = [] then [""] else s.row
  rows := closeRows s.rows ++ t.row :: t.rows
  rest := t.rest

theorem Scan.above_addField {s : Scan} (h : s.row ≠ []) (name : String) (t : Scan) :
    (s.addField name).above t = (s.above t).addField name := by
  simp [Scan.above, Scan.addField, h]

theorem Scan.above_addRow (s : Scan) (name : String) (t : Scan) :
    (s.addRow name).above t = (s.above t).addRow name := by
  simp [Scan.above, Scan.addRow, closeRows_cons]

/-- No field starts with a quote. -/
def Unquoted (rows : List (List String)) : Prop :=
  ∀ row ∈ rows, ∀ name ∈ row, name.toList.head? ≠ some '"'

instance (rows : List (List String)) : Decidable (Unquoted rows) :=
  inferInstanceAs (Decidable (∀ row ∈ rows, ∀ name ∈ row, name.toList.head? ≠ some '"'))

theorem Unquoted.of_addField {s : Scan} {name : String}
    (h : Unquoted ((s.addField name).row :: (s.addField name).rows)) :
    Unquoted (s.row :: s.rows) := by
  obtain ⟨hrow, hrows⟩ := List.forall_mem_cons.mp h
  exact List.forall_mem_cons.mpr ⟨fun other hmem => hrow other (List.mem_cons_of_mem name hmem),
    hrows⟩

theorem Unquoted.of_addRow {s : Scan} {name : String}
    (h : Unquoted ((s.addRow name).row :: (s.addRow name).rows)) :
    Unquoted (s.row :: s.rows) :=
  fun row hrow => h row (List.mem_cons_of_mem [name] hrow)

/-! ### Fields before a line feed -/

variable {cs : List Char}

/-- What does not start with a quote is plain. -/
theorem scanField_of_head (h : cs.head? ≠ some '"') : scanField cs = scanPlain cs := by
  unfold scanField
  split
  case h_1 inside => exact absurd (List.head?_cons) h
  case h_2 => rfl

/-- A quoted field ends at the first quote inside it. -/
theorem scanField_quoted {content : List Char} (h : '"' ∉ content) (after : List Char) :
    scanField ('"' :: (content ++ '"' :: after)) = (String.ofList content, after) := by
  have hcontent : ∀ ch ∈ content, decide (ch ≠ '"') = true := by
    intro ch hch
    rw [decide_eq_true_eq]
    rintro rfl
    exact h hch
  have hquote : '"' ∈ content ++ '"' :: after := by simp
  rw [scanField, if_pos hquote, List.takeWhile_append_of_pos hcontent,
    List.dropWhile_append_of_pos hcontent]
  simp

/-- A plain field before a line feed ends there. -/
theorem scanPlain_append (cs bs : List Char) :
    scanPlain (cs ++ '\n' :: bs) = ((scanPlain cs).1, (scanPlain cs).2 ++ '\n' :: bs) := by
  have hsplit : (cs ++ '\n' :: bs).takeWhile isPlain = cs.takeWhile isPlain ∧
      (cs ++ '\n' :: bs).dropWhile isPlain = cs.dropWhile isPlain ++ '\n' :: bs := by
    induction cs with
    | nil => simp [isPlain]
    | cons ch cs ih =>
        by_cases hch : isPlain ch = true
        · simp [hch, ih]
        · simp [hch]
  rw [scanPlain, hsplit.1, hsplit.2, scanPlain]

/-- A quote without a partner is part of its field. -/
theorem scanField_unclosed {inside : List Char} (h : '"' ∉ inside) :
    (scanField ('"' :: inside)).1.toList.head? = some '"' := by
  rw [scanField, if_neg h, scanPlain, List.takeWhile_cons_of_pos rfl, String.toList_ofList,
    List.head?_cons]

/-- What comes behind a line feed does not change the field before it, unless that starts
with a quote. -/
theorem scanField_append (h : (scanField cs).1.toList.head? ≠ some '"') (bs : List Char) :
    scanField (cs ++ '\n' :: bs) = ((scanField cs).1, (scanField cs).2 ++ '\n' :: bs) := by
  by_cases hhead : cs.head? = some '"'
  · obtain ⟨inside, rfl⟩ : ∃ inside, cs = '"' :: inside := List.head?_eq_some_iff.mp hhead
    by_cases hquote : '"' ∈ inside
    · -- the partner is there already, and the field ends with it
      obtain ⟨content, after, rfl, hcontent⟩ := List.eq_append_cons_of_mem hquote
      have hlong := scanField_quoted hcontent (after ++ '\n' :: bs)
      rw [scanField_quoted hcontent]
      simpa only [List.cons_append, List.append_assoc] using hlong
    · exact absurd (scanField_unclosed hquote) h
  · have hlong : (cs ++ '\n' :: bs).head? ≠ some '"' := by
      cases cs with
      | nil => simp
      | cons ch cs => exact hhead
    rw [scanField_of_head hlong, scanField_of_head hhead, scanPlain_append]

/-! ### Tables before a line feed -/

/-- If a scan goes through to the end and finds no field that starts with a quote, then with
a line feed and more text behind it, it finds the same up to there and goes on. -/
theorem scanRow_append (hrest : (scanRow cs).rest = [])
    (hfields : Unquoted ((scanRow cs).row :: (scanRow cs).rows)) (bs : List Char) :
    scanRow (cs ++ '\n' :: bs) = (scanRow cs).above (scanRow bs) := by
  have hscan := scan_induction
    (fun cs s => s.rest = [] → Unquoted (s.row :: s.rows) →
      scanRow (cs ++ '\n' :: bs) = s.above (scanRow bs))
    (fun name rest s => name ∈ s.row ∧ (s.rest = [] → Unquoted (s.row :: s.rows) →
      scanBehind name (rest ++ '\n' :: bs) = s.above (scanRow bs)))
    ?_ ?_ ?_ ?_ ?_ ?_ ?_
  · exact hscan.1 cs hrest hfields
  -- the start of a row, at the end of the text and before it
  · intro _ _
    have hfield : scanField ('\n' :: bs) = ("", '\n' :: bs) := by
      rw [scanField_of_head (by simp), scanPlain]
      simp [isPlain]
    rw [List.nil_append, scanRow_of_ne (List.cons_ne_nil _ _), hfield, scanBehind_newline]
    rfl
  · rintro cs s hsome ⟨hmem, hbehind⟩ hrest hfields
    have hname := hfields _ List.mem_cons_self _ hmem
    have hlong : cs ++ '\n' :: bs ≠ [] := by simp
    rw [scanRow_of_ne hlong, scanField_append hname, hbehind hrest hfields]
  -- behind a field: the end, a comma without and with a field, a line feed, anything else
  · intro name
    refine ⟨List.mem_singleton_self name, fun _ _ => ?_⟩
    rw [List.nil_append, scanBehind_newline]
    rfl
  · intro name after _
    refine ⟨List.mem_singleton_self name, fun hrest => ?_⟩
    exact absurd hrest (List.cons_ne_nil _ _)
  · rintro name after s hnext ⟨hmem, hbehind⟩
    refine ⟨List.mem_cons_self, fun hrest hfields => ?_⟩
    have hname := hfields.of_addField _ List.mem_cons_self _ hmem
    -- the white space behind the comma ends before the field, so it does not go on
    have hlong : (after ++ '\n' :: bs).dropWhile Text.isBlank =
        after.dropWhile Text.isBlank ++ '\n' :: bs := by
      simp [List.dropWhile_append, hnext]
    have hnext' : (after ++ '\n' :: bs).dropWhile Text.isBlank ≠ [] := by simp [hlong]
    rw [List.cons_append, scanBehind_comma hnext', hlong, scanField_append hname,
      hbehind hrest hfields.of_addField, Scan.above_addField (List.ne_nil_of_mem hmem)]
  · intro name after s hrow
    refine ⟨List.mem_singleton_self name, fun hrest hfields => ?_⟩
    rw [List.cons_append, scanBehind_newline, hrow hrest hfields.of_addRow, Scan.above_addRow]
  · intro name ch after _ _
    refine ⟨List.mem_singleton_self name, fun hrest => ?_⟩
    exact absurd hrest (List.cons_ne_nil _ _)

/-- **Tables one below the other.** If a text is a table without fields that start with a
quote, and another text is a table, then with a line feed between them they are the table
of the rows of both, wherever that text is kept; only an empty row at the end of the first
one gets an empty field. -/
theorem read_append_newline {upper lower : Source} {above below : Table}
    (hupper : (Parsable.read upper : Silent (Option Table)) = .ok (some above))
    (hfields : Unquoted above.rows)
    (hlower : (Parsable.read lower : Silent (Option Table)) = .ok (some below))
    (address : Nat) :
    (Parsable.read ⟨upper.contents ++ "\n" ++ lower.contents, address⟩ : Silent (Option Table)) =
      .ok (some ⟨closeRows above.rows ++ below.rows⟩) := by
  rw [read_eq_some_iff] at hupper hlower ⊢
  obtain ⟨hrest, hrows⟩ := hupper
  obtain ⟨hrest', hrows'⟩ := hlower
  rw [hrows] at hfields
  have hscan : scan ⟨upper.contents ++ "\n" ++ lower.contents, address⟩ =
      (scan upper).above (scan lower) := by
    have happend := scanRow_append hrest hfields lower.toList
    simpa [scan, Source.toList] using happend
  rw [hscan, hrows, hrows', closeRows_cons]
  exact ⟨hrest', rfl⟩

/-- A quoted line feed, a quote inside a field, white space behind a comma and an empty row,
above quotes that could be taken for partners. -/
theorem read_append_newline_quotes :
    (Parsable.read ("\"a\n\",\n b\"\n" ++ "\n" ++ "\"c\"") : Silent (Option Table)) =
      .ok (some ⟨closeRows [["a\n", "b\""], []] ++ [["c"]]⟩) ∧
    closeRows [["a\n", "b\""], []] = [["a\n", "b\""], [""]] := by
  have hupper : (Parsable.read "\"a\n\",\n b\"\n" : Silent (Option Table)) =
      .ok (some ⟨[["a\n", "b\""], []]⟩) := by decide +kernel
  have hlower : (Parsable.read "\"c\"" : Silent (Option Table)) = .ok (some ⟨[["c"]]⟩) := by
    decide +kernel
  have hfields : Unquoted [["a\n", "b\""], []] := by decide
  exact ⟨read_append_newline hupper hfields hlower 0, by decide⟩

end Backtrack.Csv
