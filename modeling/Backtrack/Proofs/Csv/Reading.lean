import Backtrack.Csv.Grammar
import Backtrack.Proofs.Reading

/-!
# Backtrack.Proofs.Csv.Reading

**What the table grammar reads off a text**, from fields to rows. A field in quotes ends
with its closing quote and a plain one before a comma, a line feed or the end of the text.
A quote that is never closed opens no quoted field, and what starts with it is plain.
-/

namespace Backtrack.Csv

open Backtrack.Parser

variable {run rest cs : List Char}

/-! ### Fields in quotes -/

theorem refuses_quote_of_mem (h : '"' ∉ run) (ch : Char) (hch : ch ∈ run) (after : List Char) :
    (literal "\"").Refuses (ch :: after) := by
  refine refuses_scalar "\"" '"' rfl ?_
  rw [List.head?_cons, ne_eq, Option.some.injEq]
  rintro rfl
  exact h hch

theorem reads_quotedField (h : '"' ∉ run) (rest : List Char) :
    quotedField.Reads ('"' :: (run ++ ['"'])) (String.ofList run) rest := by
  have hclosing : (literal "\"").Reads ['"'] () rest := reads_scalar "\"" '"' rfl rest
  have hcontent := reads_charactersUntil_of_scalars (refuses_quote_of_mem h)
    (.inr ⟨['"'], (), rest, rfl, hclosing⟩)
  exact (reads_scalar "\"" '"' rfl _).between hcontent hclosing

theorem refuses_quotedField_of_head (h : cs.head? ≠ some '"') : quotedField.Refuses cs :=
  Refuses.between_opening (refuses_scalar "\"" '"' rfl h)

/-- A quote that is not closed is no quoted field. -/
theorem refuses_quotedField_of_unclosed (h : '"' ∉ cs) : quotedField.Refuses ('"' :: cs) := by
  have hclosing : (literal "\"").Refuses [] := refuses_scalar "\"" '"' rfl (by simp)
  -- the content goes on to the end of the text, and there the closing quote is missing
  have hcontent := reads_charactersUntil_of_scalars (refuses_quote_of_mem h) (.inl rfl)
  have hrefuses := Refuses.between_closing (reads_scalar "\"" '"' rfl _) hcontent hclosing
  rwa [List.append_nil] at hrefuses

/-! ### Plain fields -/

/-- Does not end a plain field. -/
def isPlain (ch : Char) : Bool := ch ≠ ',' && ch ≠ '\n'

theorem refuses_fieldEnd {ch : Char} (h : isPlain ch = true) (after : List Char) :
    (firstLiteral [",", "\n"] ()).Refuses (ch :: after) := by
  simp only [isPlain, ne_eq, Bool.and_eq_true, decide_eq_true_eq] at h
  refine Refuses.map (refuses_first fun p hp => ?_)
  simp only [List.map_cons, List.map_nil, List.mem_cons, List.not_mem_nil, or_false] at hp
  rcases hp with rfl | rfl
  · exact refuses_scalar "," ',' rfl (by simp [h.1])
  · exact refuses_scalar "\n" '\n' rfl (by simp [h.2])

theorem stopsAt_fieldEnd (h : ∀ ch ∈ cs.head?, isPlain ch = false) :
    (firstLiteral [",", "\n"] ()).StopsAt cs := by
  cases cs with
  | nil => exact .inl rfl
  | cons ch after =>
      have hch : ch = ',' ∨ ch = '\n' := by
        simpa [isPlain, Classical.or_iff_not_imp_left] using h ch rfl
      rcases hch with rfl | rfl
      · exact .inr ⟨[','], (), after, rfl, (reads_scalar "," ',' rfl after).first.map⟩
      · have hcomma : (literal ",").Refuses ('\n' :: after) :=
          refuses_scalar "," ',' rfl (by simp)
        have hnewline := reads_scalar "\n" '\n' rfl after
        exact .inr ⟨['\n'], (), after, rfl, (hcomma.reads_first hnewline.first).map⟩

theorem reads_plainField (hrun : ∀ ch ∈ run, isPlain ch = true)
    (hrest : ∀ ch ∈ rest.head?, isPlain ch = false) :
    plainField.Reads run (String.ofList run) rest :=
  reads_charactersUntil_of_scalars (fun ch hch => refuses_fieldEnd (hrun ch hch))
    (stopsAt_fieldEnd hrest)

/-! ### Fields of either form -/

theorem reads_field_quoted (h : '"' ∉ run) (rest : List Char) :
    field.Reads ('"' :: (run ++ ['"'])) (String.ofList run) rest := by
  have hsome : '"' :: (run ++ ['"']) ++ rest ≠ [] := List.cons_ne_nil _ _
  exact ((reads_notAtEnd hsome).pair (reads_quotedField h rest).first).map

/-- A plain field may be empty, but not at the end of the text. -/
theorem reads_field_plain (hquoted : quotedField.Refuses (run ++ rest))
    (hrun : ∀ ch ∈ run, isPlain ch = true) (hrest : ∀ ch ∈ rest.head?, isPlain ch = false)
    (hsome : run ++ rest ≠ []) : field.Reads run (String.ofList run) rest :=
  ((reads_notAtEnd hsome).pair
    (hquoted.reads_first (reads_plainField hrun hrest).first)).map

theorem refuses_field : field.Refuses [] := Refuses.map (Refuses.pair refuses_notAtEnd)

/-- At the end of the text there is an empty row. -/
theorem reads_line_nil : line.Reads [] [] [] := refuses_field.reads_many

end Backtrack.Csv
