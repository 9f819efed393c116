import Backtrack.Proofs.Csv.Splitting
import Mathlib.Data.List.Forall2

/-!
# Backtrack.Proofs.Csv.Lines

**Rows and lines.** In a text without quotes, a row ends with its line, with one exception.
The white space behind a comma is skipped, and line feeds are white space. So a line that
ends with a comma, or with a comma and white space, has no end for the grammar: it is joined
with the next line to one row (`joinLines`).

`read_follows_lines` says that this is the only exception. There is a row for each joined
line, and its fields stand in that line. In particular the rows are the lines exactly if no
line but the last ends with a comma.
-/

namespace Backtrack.Csv

open Backtrack.Parser

variable {cs line after : List Char} {lines : List (List Char)}

instance (cs : List Char) : Decidable (EndsWithComma cs) :=
  inferInstanceAs (Decidable (_ = _))

/-! ### Joining lines -/

/-- Joins each line that ends with a comma, but for white space, with the next one. -/
def joinLines : List (List Char) → List (List Char)
  | [] => []
  | [line] => [line]
  | line :: next :: lines =>
    if EndsWithComma line then joinLines ((line ++ '\n' :: next) :: lines)
    else line :: joinLines (next :: lines)
termination_by lines => lines.length

/-- No line but the last ends with a comma. -/
def Unbroken (lines : List (List Char)) : Prop := ∀ line ∈ lines.dropLast, ¬ EndsWithComma line

theorem joinLines_of_ends {next : List Char} (h : EndsWithComma line) :
    joinLines (line :: next :: lines) = joinLines ((line ++ '\n' :: next) :: lines) := by
  rw [joinLines, if_pos h]

theorem joinLines_of_not_ends {next : List Char} (h : ¬ EndsWithComma line) :
    joinLines (line :: next :: lines) = line :: joinLines (next :: lines) := by
  rw [joinLines, if_neg h]

theorem length_joinLines_le (lines : List (List Char)) :
    (joinLines lines).length ≤ lines.length := by
  fun_induction joinLines lines with
  | case1 => exact Nat.le_refl _
  | case2 line => exact Nat.le_refl _
  | case3 line next lines _ ih => exact Nat.le_succ_of_le ih
  | case4 line next lines _ ih => exact Nat.succ_le_succ ih

theorem unbroken_cons {next : List Char} :
    Unbroken (line :: next :: lines) ↔ ¬ EndsWithComma line ∧ Unbroken (next :: lines) := by
  rw [Unbroken, List.dropLast_cons_cons, List.forall_mem_cons, Unbroken]

theorem Unbroken.joinLines_eq (h : Unbroken lines) : joinLines lines = lines := by
  fun_induction joinLines lines with
  | case1 => rfl
  | case2 line => rfl
  | case3 line next lines hends _ => exact absurd hends (unbroken_cons.mp h).1
  | case4 line next lines _ ih => rw [ih (unbroken_cons.mp h).2]

/-- A line that is joined with the next one is missing in the number of lines. -/
theorem length_joinLines_eq_iff (lines : List (List Char)) :
    (joinLines lines).length = lines.length ↔ Unbroken lines := by
  refine ⟨fun h => ?_, fun h => by rw [h.joinLines_eq]⟩
  fun_induction joinLines lines with
  | case1 => simp [Unbroken]
  | case2 line => simp [Unbroken]
  | case3 line next lines _ _ =>
      have hle := length_joinLines_le ((line ++ '\n' :: next) :: lines)
      simp only [List.length_cons] at h hle
      omega
  | case4 line next lines hends ih => exact unbroken_cons.mpr ⟨hends, ih (Nat.succ.inj h)⟩

/-! ### Text without gaps, line by line -/

/-- White space goes on behind a line only if the line ends with a comma. -/
theorem withoutGaps_append_of_ends (line after : List Char) :
    withoutGaps (line ++ after) = withoutGaps line ++
      withoutGaps (if EndsWithComma line then after.dropWhile Text.isBlank else after) := by
  fun_induction withoutGaps line with
  | case1 => simp [EndsWithComma]
  | case2 cs ih =>
      rw [List.cons_append, withoutGaps_comma, List.dropWhile_append]
      by_cases hblank : cs.dropWhile Text.isBlank = []
      · -- the gap reaches the end of the line, and goes on behind it
        have hends : EndsWithComma (',' :: cs) := endsWithComma_comma.mpr (.inl hblank)
        simp [hblank, hends, withoutGaps]
      · have hends : EndsWithComma (cs.dropWhile Text.isBlank) ↔ EndsWithComma (',' :: cs) := by
          rw [endsWithComma_dropWhile, endsWithComma_comma, or_iff_right hblank]
        simp only [hends] at ih
        simp [hblank, ih]
  | case3 ch cs hch ih =>
      rw [List.cons_append, withoutGaps_cons hch, ih, List.cons_append]
      simp only [endsWithComma_cons hch]

theorem withoutGaps_subset (cs : List Char) : withoutGaps cs ⊆ cs := by
  fun_induction withoutGaps cs with
  | case1 => exact List.Subset.refl _
  | case2 cs ih =>
      exact List.cons_subset_cons _ (List.Subset.trans ih (List.dropWhile_suffix _).subset)
  | case3 ch cs _ ih => exact List.cons_subset_cons ch ih

/-- The line feeds that are left in a text without gaps are those between joined lines. -/
theorem splitOn_withoutGaps_intercalate (hline : '\n' ∉ withoutGaps line)
    (hlines : ∀ next ∈ lines, '\n' ∉ next) :
    (withoutGaps (['\n'].intercalate (line :: lines))).splitOn '\n' =
      (joinLines (line :: lines)).map withoutGaps := by
  induction lines generalizing line with
  | nil => simp [joinLines, List.splitOn_eq_singleton hline]
  | cons next lines ih =>
      obtain ⟨hnext, hlines⟩ := List.forall_mem_cons.mp hlines
      by_cases hends : EndsWithComma line
      · have hgap : next.dropWhile Text.isBlank ⊆ next := (List.dropWhile_suffix _).subset
        have hjoined : '\n' ∉ withoutGaps (line ++ '\n' :: next) := by
          have hblank : Text.isBlank '\n' = true := by decide
          rw [withoutGaps_append_of_ends, if_pos hends, List.dropWhile_cons_of_pos hblank,
            List.mem_append, not_or]
          exact ⟨hline, fun h => hnext (hgap (withoutGaps_subset _ h))⟩
        have htail := ih hjoined hlines
        rw [joinLines_of_ends hends, ← htail]
        congr 2
        cases lines <;> simp [List.intercalate_cons_cons]
      · rw [joinLines_of_not_ends hends, List.intercalate_cons_cons, List.append_assoc,
          withoutGaps_append_of_ends, if_neg hends, List.singleton_append,
          withoutGaps_cons (by decide), List.splitOn_append_cons_self_of_not_mem hline,
          ih (fun h => hnext (withoutGaps_subset _ h)) hlines, List.map_cons]

theorem length_splitOn (sep : Char) (cs : List Char) :
    (cs.splitOn sep).length = cs.count sep + 1 := by
  induction cs with
  | nil => rfl
  | cons ch cs ih =>
      rw [List.splitOn_cons_eq_if_modifyHead, List.count_cons]
      by_cases h : ch = sep
      · simp [h, ih]
      · simp [h, ih]

theorem not_mem_of_mem_splitOn (sep : Char) (cs : List Char) :
    ∀ piece ∈ cs.splitOn sep, sep ∉ piece := by
  induction cs with
  | nil => simp
  | cons ch cs ih =>
      rw [List.splitOn_cons_eq_if_modifyHead]
      split
      case isTrue => exact List.forall_mem_cons.mpr ⟨List.not_mem_nil, ih⟩
      case isFalse hch =>
        cases hpieces : cs.splitOn sep with
        | nil => simp
        | cons piece pieces =>
            rw [hpieces] at ih
            obtain ⟨hpiece, hrest⟩ := List.forall_mem_cons.mp ih
            have hne : sep ≠ ch := by
              rintro rfl
              exact hch (beq_self_eq_true _)
            refine List.forall_mem_cons.mpr ⟨?_, hrest⟩
            exact List.not_mem_cons_of_ne_of_not_mem hne hpiece

/-- The line feeds that are left in a text without gaps stand between its joined lines. -/
theorem splitOn_withoutGaps (cs : List Char) :
    (withoutGaps cs).splitOn '\n' = (joinLines (cs.splitOn '\n')).map withoutGaps := by
  have hjoin : ['\n'].intercalate (cs.splitOn '\n') = cs := List.intercalate_splitOn '\n'
  have hlines := not_mem_of_mem_splitOn '\n' cs
  cases hsplit : cs.splitOn '\n' with
  | nil => exact absurd hsplit (List.splitOn_ne_nil _ _)
  | cons line lines =>
      rw [hsplit] at hjoin hlines
      obtain ⟨hline, hlines⟩ := List.forall_mem_cons.mp hlines
      have hfirst : '\n' ∉ withoutGaps line := fun h => hline (withoutGaps_subset _ h)
      rw [← splitOn_withoutGaps_intercalate hfirst hlines, hjoin]

/-! ### Fields in their lines -/

/-- The pieces of a text without gaps stand in the text, the first one at its start. -/
theorem splitOn_withoutGaps_isInfix (cs : List Char) :
    (∀ piece ∈ ((withoutGaps cs).splitOn ',').head?, piece <+: cs) ∧
    ∀ piece ∈ (withoutGaps cs).splitOn ',', piece <:+: cs := by
  fun_induction withoutGaps cs with
  | case1 => simp
  | case2 cs ih =>
      have hsuffix : cs.dropWhile Text.isBlank <:+ ',' :: cs :=
        (List.dropWhile_suffix _).trans (List.suffix_cons _ _)
      rw [List.splitOn_cons_eq_if_modifyHead, if_pos (beq_self_eq_true _)]
      refine ⟨by simp, List.forall_mem_cons.mpr ⟨List.nil_prefix.isInfix, fun piece hpiece => ?_⟩⟩
      exact (ih.2 piece hpiece).trans hsuffix.isInfix
  | case3 ch cs hch ih =>
      rw [List.splitOn_cons_eq_if_modifyHead, if_neg (by simpa using hch)]
      cases hpieces : (withoutGaps cs).splitOn ',' with
      | nil => exact absurd hpieces (List.splitOn_ne_nil _ _)
      | cons piece pieces =>
          rw [hpieces] at ih
          have hhead : ch :: piece <+: ch :: cs := List.cons_prefix_cons.mpr ⟨rfl, ih.1 piece rfl⟩
          refine ⟨by simpa using hhead, List.forall_mem_cons.mpr ⟨hhead.isInfix, ?_⟩⟩
          intro other hother
          exact (ih.2 other (List.mem_cons_of_mem _ hother)).trans (List.suffix_cons _ _).isInfix

/-- The fields of `row` stand in `line`. -/
def StandsIn (row : List String) (line : List Char) : Prop := ∀ name ∈ row, name.toList <:+: line

theorem standsIn_splitFields (line : List Char) :
    StandsIn (splitFields (withoutGaps line)) line := by
  intro name hname
  obtain ⟨piece, hpiece, rfl⟩ := List.mem_map.mp hname
  rw [String.toList_ofList]
  exact (splitOn_withoutGaps_isInfix line).2 piece hpiece

theorem standsIn_splitRows (lines : List (List Char)) :
    List.Forall₂ StandsIn (splitRows (lines.map withoutGaps)) lines := by
  induction lines with
  | nil => exact .nil
  | cons line lines ih =>
      rw [List.map_cons, splitRows]
      refine .cons ?_ ih
      split
      case isTrue => simp [StandsIn]
      case isFalse => exact standsIn_splitFields line

/-! ### Whole texts -/

/-- **Rows follow lines, but for the commas at their ends.** Let a table be read from a text
without quotes. There is a row for each joined line, and its fields stand in that line. So
there are as many rows as lines exactly if no line but the last ends with a comma, but for
white space, and then the fields of each row stand in the line of that row. -/
theorem read_follows_lines {text : Source} {table : Table} (hquote : '"' ∉ text.toList)
    (hread : (Parsable.read text : Silent (Option Table)) = .ok (some table)) :
    table.rows = splitRows ((joinLines (text.toList.splitOn '\n')).map withoutGaps) ∧
    List.Forall₂ StandsIn table.rows (joinLines (text.toList.splitOn '\n')) ∧
    (table.rows.length = text.toList.count '\n' + 1 ↔ Unbroken (text.toList.splitOn '\n')) ∧
    (Unbroken (text.toList.splitOn '\n') →
      List.Forall₂ StandsIn table.rows (text.toList.splitOn '\n')) := by
  have hfew : text.toList.count '"' ≤ 1 := by
    rw [List.count_eq_zero.mpr hquote]
    exact Nat.zero_le 1
  have hsplits : (scan text).Splits (withoutGaps text.toList) := scan_splits.1 text.toList hfew
  have hrows : table.rows =
      splitRows ((joinLines (text.toList.splitOn '\n')).map withoutGaps) := by
    rw [read_eq_whole?, hsplits] at hread
    split at hread
    · simp at hread
    · cases hread
      rw [splitTable, splitOn_withoutGaps]
  have hstand : List.Forall₂ StandsIn table.rows (joinLines (text.toList.splitOn '\n')) := by
    rw [hrows]
    exact standsIn_splitRows _
  refine ⟨hrows, hstand, ?_, fun hlines => ?_⟩
  · rw [hstand.length_eq, ← length_splitOn, length_joinLines_eq_iff]
  · rwa [hlines.joinLines_eq] at hstand

/-- The comma takes the line feed behind it, also with white space in between. The empty line
at the end has a row without fields. -/
theorem read_follows_lines_joined :
    (Parsable.read "a, \nb\nc d\n" : Silent (Option Table)) =
      .ok (some ⟨[["a", "b"], ["c d"], []]⟩) ∧
    joinLines ("a, \nb\nc d\n".toList.splitOn '\n') = ["a, \nb".toList, "c d".toList, []] ∧
    List.Forall₂ StandsIn [["a", "b"], ["c d"], []]
      (joinLines ("a, \nb\nc d\n".toList.splitOn '\n')) := by
  have hread : (Parsable.read "a, \nb\nc d\n" : Silent (Option Table)) =
      .ok (some ⟨[["a", "b"], ["c d"], []]⟩) := by decide +kernel
  exact ⟨hread, by decide +kernel, (read_follows_lines (by decide) hread).2.1⟩

/-- So rows are not lines: the field behind the line feed stands in the next line. -/
theorem not_read_every_line :
    ¬ ∀ (text : Source) (table : Table), '"' ∉ text.toList →
      (Parsable.read text : Silent (Option Table)) = .ok (some table) →
      table.rows.length = text.toList.count '\n' + 1 ∧
        List.Forall₂ StandsIn table.rows (text.toList.splitOn '\n') := by
  intro h
  have hread : (Parsable.read "a,\nb" : Silent (Option Table)) = .ok (some ⟨[["a", "b"]]⟩) := by
    decide +kernel
  have hlength : [["a", "b"]].length = "a,\nb".toList.count '\n' + 1 :=
    (h "a,\nb" _ (by decide) hread).1
  exact absurd hlength (by decide)

end Backtrack.Csv
