import Backtrack.Proofs.Csv.Scanner
import Mathlib.Data.List.DropRight

/-!
# Backtrack.Proofs.Csv.Splitting

**Tables without quoted fields.** A quoted field takes two quotes. In a text with fewer of
them, every comma ends a field and every line feed ends a row, unless it belongs to the
white space behind a comma. So the table can be had by plain splitting: take out that white
space (`withoutGaps`), cut at line feeds, and cut the pieces at commas (`splitTable`).

Two places differ from splitting. The piece behind the last line feed is a row without
fields if it is empty, and a text that ends with a comma, whatever white space may follow,
is no table at all. `read_eq_splitTable` says that there are no other differences.
-/

namespace Backtrack.Csv

/-! ### Splitting -/

/-- Takes out the white space directly behind commas. -/
def withoutGaps : List Char → List Char
  | [] => []
  | ch :: cs =>
    if ch = ',' then ch :: withoutGaps (cs.dropWhile Text.isBlank) else ch :: withoutGaps cs
termination_by cs => cs.length
decreasing_by
  · have hle := (List.dropWhile_suffix Text.isBlank (l := cs)).length_le
    simp only [List.length_cons]
    omega
  · simp only [List.length_cons]
    omega

/-- Cuts a row at its commas. -/
def splitFields (piece : List Char) : List String := (piece.splitOn ',').map String.ofList

/-- Cuts rows at their commas. If the last one is empty, it has no fields. -/
def splitRows : List (List Char) → List (List String)
  | [] => []
  | piece :: pieces =>
    (if piece = [] ∧ pieces = [] then [] else splitFields piece) :: splitRows pieces

/-- Cuts a text at its line feeds, and the pieces at their commas. -/
def splitTable (cs : List Char) : List (List String) := splitRows (cs.splitOn '\n')

variable {run cs : List Char}

/-! ### Text without gaps -/

theorem withoutGaps_comma (cs : List Char) :
    withoutGaps (',' :: cs) = ',' :: withoutGaps (cs.dropWhile Text.isBlank) := by
  rw [withoutGaps, if_pos rfl]

theorem withoutGaps_cons {ch : Char} (h : ch ≠ ',') (cs : List Char) :
    withoutGaps (ch :: cs) = ch :: withoutGaps cs := by
  rw [withoutGaps, if_neg h]

theorem withoutGaps_eq_nil_iff : withoutGaps cs = [] ↔ cs = [] := by
  cases cs with
  | nil => simp [withoutGaps]
  | cons ch cs =>
      rw [withoutGaps]
      split <;> simp

theorem ne_of_isPlain {ch : Char} (h : isPlain ch = true) : ch ≠ ',' ∧ ch ≠ '\n' := by
  simpa [isPlain] using h

theorem withoutGaps_append (hrun : ∀ ch ∈ run, isPlain ch = true) (cs : List Char) :
    withoutGaps (run ++ cs) = run ++ withoutGaps cs := by
  induction run with
  | nil => rfl
  | cons ch run ih =>
      have hch := (ne_of_isPlain (hrun ch List.mem_cons_self)).1
      rw [List.cons_append, withoutGaps_cons hch,
        ih fun ch' hch' => hrun ch' (List.mem_cons_of_mem ch hch'), List.cons_append]

/-! ### What splitting finds -/

theorem splitOn_append_of_not_mem {sep : Char} (h : sep ∉ run) (cs : List Char) :
    (run ++ cs).splitOn sep = (cs.splitOn sep).modifyHead (run ++ ·) := by
  induction run with
  | nil => cases hpieces : cs.splitOn sep <;> simp [hpieces]
  | cons ch run ih =>
      obtain ⟨hch, hrun⟩ := not_or.mp (mt List.mem_cons.mpr h)
      have hne : (ch == sep) = false := beq_eq_false_iff_ne.mpr (Ne.symm hch)
      rw [List.cons_append, List.splitOn_cons_eq_if_modifyHead, hne, ih hrun]
      simp [Function.comp_def]

section Pieces

variable (hrun : ∀ ch ∈ run, isPlain ch = true)

include hrun

theorem comma_not_mem : ',' ∉ run := fun h => (ne_of_isPlain (hrun _ h)).1 rfl

theorem newline_not_mem : '\n' ∉ run := fun h => (ne_of_isPlain (hrun _ h)).2 rfl

theorem splitFields_plain : splitFields run = [String.ofList run] := by
  rw [splitFields, List.splitOn_eq_singleton (comma_not_mem hrun), List.map_singleton]

/-- A field alone. -/
theorem splitTable_plain (hsome : run ≠ []) : splitTable run = [[String.ofList run]] := by
  rw [splitTable, List.splitOn_eq_singleton (newline_not_mem hrun)]
  simp [splitRows, hsome, splitFields_plain hrun]

/-- A field alone in its row. -/
theorem splitTable_newline (cs : List Char) :
    splitTable (run ++ '\n' :: cs) = [String.ofList run] :: splitTable cs := by
  rw [splitTable, List.splitOn_append_cons_self_of_not_mem (newline_not_mem hrun)]
  simp [splitRows, splitFields_plain hrun, splitTable]

/-- A field with others behind it. -/
theorem splitTable_comma (hsome : cs ≠ []) :
    splitTable (run ++ ',' :: cs) = (splitTable cs).modifyHead (String.ofList run :: ·) := by
  have hnewline : '\n' ∉ run ++ [','] := by simp [newline_not_mem hrun]
  have hsplit := splitOn_append_of_not_mem hnewline cs
  rw [List.append_assoc, List.singleton_append] at hsplit
  rw [splitTable, hsplit, splitTable]
  cases hpieces : cs.splitOn '\n' with
  | nil => exact absurd hpieces (List.splitOn_ne_nil _ _)
  | cons piece pieces =>
      -- what follows the comma is not empty, so it is not the row without fields
      have hlast : ¬ (piece = [] ∧ pieces = []) := by
        rintro ⟨rfl, rfl⟩
        have hjoin : ['\n'].intercalate (cs.splitOn '\n') = cs := List.intercalate_splitOn '\n'
        rw [hpieces] at hjoin
        exact hsome (by simpa using hjoin.symm)
      have hfields : splitFields (run ++ ',' :: piece) =
          String.ofList run :: splitFields piece := by
        rw [splitFields, List.splitOn_append_cons_self_of_not_mem (comma_not_mem hrun),
          List.map_cons, splitFields]
      simp [splitRows, hlast, hfields]

end Pieces

/-! ### What a scan finds -/

/-- The scan finds the table of `cs` by splitting, if there is one. -/
def Scan.Splits (s : Scan) (cs : List Char) : Prop :=
  s.whole? = if cs.getLast? = some ',' then none else some (splitTable cs)

theorem getLast?_cons_eq_comma {ch : Char} (h : ch ≠ ',') :
    (ch :: cs).getLast? = some ',' ↔ cs.getLast? = some ',' := by
  rw [List.getLast?_cons]
  cases cs.getLast? <;> simp [h]

theorem scanField_eq_scanPlain (h : cs.count '"' ≤ 1) : scanField cs = scanPlain cs := by
  unfold scanField
  split
  case h_1 inside =>
    have hcount : ¬ 0 < inside.count '"' := by
      rw [List.count_cons_self] at h
      omega
    rw [if_neg (mt List.count_pos_iff.mpr hcount)]
  case h_2 => rfl

section Steps

variable {s : Scan} (hrun : ∀ ch ∈ run, isPlain ch = true)

include hrun

theorem Scan.splits_field (hsome : run ≠ []) :
    Scan.Splits ⟨[String.ofList run], [], []⟩ run := by
  have hlast : run.getLast? ≠ some ',' := fun h =>
    comma_not_mem hrun (List.mem_of_getLast? h)
  rw [Scan.Splits, if_neg hlast, splitTable_plain hrun hsome, Scan.whole?, if_pos rfl]

theorem Scan.Splits.comma (h : s.Splits cs) (hsome : cs ≠ []) :
    (s.addField (String.ofList run)).Splits (run ++ ',' :: cs) := by
  have hlast : (run ++ ',' :: cs).getLast? = cs.getLast? := by
    rw [List.getLast?_append_cons, List.getLast?_cons_of_ne_nil hsome]
  rw [Scan.Splits, Scan.whole?_addField, h, hlast, splitTable_comma hrun hsome]
  split <;> rfl

theorem Scan.Splits.newline (h : s.Splits cs) :
    (s.addRow (String.ofList run)).Splits (run ++ '\n' :: cs) := by
  have hlast : (run ++ '\n' :: cs).getLast? = some ',' ↔ cs.getLast? = some ',' := by
    rw [List.getLast?_append_cons, getLast?_cons_eq_comma (by decide)]
  rw [Scan.Splits, Scan.whole?_addRow, h, splitTable_newline hrun]
  simp only [hlast]
  split <;> rfl

end Steps

/-- A plain field `run` and the text `rest` behind it, with at most one quote left. -/
structure PlainField (run rest : List Char) : Prop where
  plain : ∀ ch ∈ run, isPlain ch = true
  ends : ∀ ch ∈ rest.head?, isPlain ch = false
  some : run ++ rest ≠ []
  few : rest.count '"' ≤ 1

/-- With few quotes, the field that comes next is plain. -/
theorem scanField_plain (hsome : cs ≠ []) (hfew : cs.count '"' ≤ 1) :
    ∃ run, cs = run ++ (scanField cs).2 ∧ (scanField cs).1 = String.ofList run ∧
      PlainField run (scanField cs).2 := by
  have hsplit : cs.takeWhile isPlain ++ cs.dropWhile isPlain = cs :=
    List.takeWhile_append_dropWhile
  have hle := (List.dropWhile_suffix isPlain (l := cs)).sublist.count_le '"'
  rw [scanField_eq_scanPlain hfew]
  refine ⟨cs.takeWhile isPlain, hsplit.symm, rfl, ?_⟩
  exact
    { plain := fun ch hch => List.mem_takeWhile_imp hch
      ends := head?_dropWhile_eq_false isPlain cs
      some := by rwa [scanPlain, hsplit]
      few := Nat.le_trans hle hfew }

/-- With few quotes, the scan of a text finds what splitting finds, from the start of a row
on and from behind a field on. -/
theorem scan_splits :
    (∀ cs, cs.count '"' ≤ 1 → (scanRow cs).Splits (withoutGaps cs)) ∧
    ∀ name rest run, name = String.ofList run → PlainField run rest →
      (scanBehind name rest).Splits (run ++ withoutGaps rest) := by
  refine scan_induction (fun cs s => cs.count '"' ≤ 1 → s.Splits (withoutGaps cs))
    (fun name rest s => ∀ run, name = String.ofList run → PlainField run rest →
      s.Splits (run ++ withoutGaps rest)) ?_ ?_ ?_ ?_ ?_ ?_ ?_
  -- the start of a row, at the end of the text and before it
  · intro _
    rw [withoutGaps]
    rfl
  · intro cs s hsome hbehind hfew
    obtain ⟨run, hcs, hname, hfield⟩ := scanField_plain hsome hfew
    have hsplits := hbehind run hname hfield
    rwa [← withoutGaps_append hfield.plain, ← hcs] at hsplits
  -- behind a field: the end, a comma without and with a field, a line feed, anything else
  · rintro name run rfl hfield
    rw [withoutGaps, List.append_nil]
    exact Scan.splits_field hfield.plain (by simpa using hfield.some)
  · rintro name after hnext run rfl hfield
    rw [withoutGaps_comma, hnext, withoutGaps]
    simp [Scan.Splits, Scan.whole?]
  · rintro name after s hnext hbehind run rfl hfield
    have hle := (List.dropWhile_suffix Text.isBlank (l := after)).sublist.count_le '"'
    have hfew := hfield.few
    rw [List.count_cons_of_ne (by decide)] at hfew
    obtain ⟨run', hafter, hname', hfield'⟩ := scanField_plain hnext (Nat.le_trans hle hfew)
    have hsplits := hbehind run' hname' hfield'
    rw [← withoutGaps_append hfield'.plain, ← hafter] at hsplits
    rw [withoutGaps_comma]
    exact hsplits.comma hfield.plain (mt withoutGaps_eq_nil_iff.mp hnext)
  · rintro name after s hrow run rfl hfield
    have hfew := hfield.few
    rw [List.count_cons_of_ne (by decide)] at hfew
    rw [withoutGaps_cons (by decide)]
    exact (hrow hfew).newline hfield.plain
  · intro name ch after hcomma hnewline run _ hfield
    have hplain := hfield.ends ch rfl
    simp [isPlain, hcomma, hnewline] at hplain

/-! ### A comma at the end -/

/-- Ends with a comma, but for white space. -/
def EndsWithComma (cs : List Char) : Prop :=
  (cs.rdropWhile Text.isBlank).getLast? = some ','

theorem rdropWhile_cons (accept : Char → Bool) (ch : Char) (cs : List Char) :
    (ch :: cs).rdropWhile accept =
      if cs.rdropWhile accept = [] then [ch].rdropWhile accept
      else ch :: cs.rdropWhile accept := by
  simp only [List.rdropWhile, List.reverse_cons, List.dropWhile_append, List.isEmpty_iff,
    List.reverse_eq_nil_iff, List.reverse_nil, List.nil_append]
  split
  · rfl
  · simp

theorem endsWithComma_cons {ch : Char} (h : ch ≠ ',') :
    EndsWithComma (ch :: cs) ↔ EndsWithComma cs := by
  unfold EndsWithComma
  rw [rdropWhile_cons]
  split
  case isTrue hnil =>
    rw [hnil, List.rdropWhile_singleton]
    split <;> simp [h]
  case isFalse => exact getLast?_cons_eq_comma h

/-- White space in front makes no difference, since there is no comma in it. -/
theorem endsWithComma_dropWhile :
    EndsWithComma (cs.dropWhile Text.isBlank) ↔ EndsWithComma cs := by
  induction cs with
  | nil => rfl
  | cons ch cs ih =>
      by_cases hblank : Text.isBlank ch = true
      · have hch : ch ≠ ',' := by
          rintro rfl
          exact absurd hblank (by decide)
        rw [List.dropWhile_cons_of_pos hblank, ih, endsWithComma_cons hch]
      · rw [List.dropWhile_cons_of_neg hblank]

theorem endsWithComma_comma :
    EndsWithComma (',' :: cs) ↔ cs.dropWhile Text.isBlank = [] ∨ EndsWithComma cs := by
  have hnil : cs.rdropWhile Text.isBlank = [] ↔ cs.dropWhile Text.isBlank = [] := by
    rw [List.rdropWhile_eq_nil_iff, List.dropWhile_eq_nil_iff]
  by_cases hblank : cs.dropWhile Text.isBlank = []
  · have hcomma : EndsWithComma (',' :: cs) := by
      rw [EndsWithComma, rdropWhile_cons, if_pos (hnil.mpr hblank)]
      decide
    simp [hcomma, hblank]
  · have hsome := mt hnil.mp hblank
    rw [or_iff_right hblank, EndsWithComma, rdropWhile_cons, if_neg hsome,
      List.getLast?_cons_of_ne_nil hsome, EndsWithComma]

/-- White space behind commas is all that stands between a comma and the end. -/
theorem getLast?_withoutGaps :
    (withoutGaps cs).getLast? = some ',' ↔ EndsWithComma cs := by
  fun_induction withoutGaps cs with
  | case1 => simp [EndsWithComma]
  | case2 cs ih =>
      rw [endsWithComma_comma, ← endsWithComma_dropWhile, ← ih]
      by_cases hnext : cs.dropWhile Text.isBlank = []
      · simp [hnext, withoutGaps]
      · have hsome := mt withoutGaps_eq_nil_iff.mp hnext
        rw [or_iff_right hnext, List.getLast?_cons_of_ne_nil hsome]
  | case3 ch cs hch ih => rw [endsWithComma_cons hch, ← ih, getLast?_cons_eq_comma hch]

/-! ### Whole texts -/

/-- **Tables without quoted fields are split.** A text with at most one quote is no table
if it ends with a comma and white space, which is to say that it ends with a comma when the
white space behind commas is taken out; otherwise it is the table that splitting finds. -/
theorem read_eq_splitTable {text : Source} (h : text.toList.count '"' ≤ 1) :
    (Parsable.read text : Silent (Option Table)) =
      .ok (if (withoutGaps text.toList).getLast? = some ',' then none
        else some ⟨splitTable (withoutGaps text.toList)⟩) ∧
    ((withoutGaps text.toList).getLast? = some ',' ↔
      (text.toList.rdropWhile Text.isBlank).getLast? = some ',') := by
  have hsplits : (scan text).Splits (withoutGaps text.toList) := scan_splits.1 text.toList h
  refine ⟨?_, getLast?_withoutGaps⟩
  rw [read_eq_whole?, hsplits, apply_ite (Option.map Table.mk)]
  rfl

/-- A quote that is not closed, commas at the start and doubled, and line feeds of both
kinds, between rows and behind a comma. -/
theorem read_eq_splitTable_unclosed :
    (Parsable.read ",\n\"a b,, \n\né\n" : Silent (Option Table)) =
      .ok (some ⟨[["", "\"a b", "", "é"], []]⟩) := by
  rw [(read_eq_splitTable (by decide)).1]
  decide +kernel

end Backtrack.Csv
