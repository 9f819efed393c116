import Backtrack.Proofs.Csv.Joining
import Backtrack.Proofs.Csv.Splitting

/-!
# Backtrack.Proofs.Csv.Shape

**What every table looks like.** A table has a row at least, and only its last row can be
without fields; it is when the text is empty or ends with a line feed. As to the fields:

* A quote inside a field tells that it was plain, since a quoted field ends at the first
  quote. So there is no comma and no line feed in it, and behind another field no white
  space in front.
* A quote in front of a field was not closed, so it is the last quote of the text.

The facts on rows follow the steps of the scan. Those on fields do not depend on how fields
are put into rows, so they are read off the fields in the order of the text (`FieldsFrom`).
-/

namespace Backtrack.Csv

variable {cs : List Char}

/-! ### The two kinds of fields -/

/-- A field is quoted and ends at the next quote, or it is plain, and then a quote in front of
it has no partner. -/
theorem scanField_cases (cs : List Char) :
    (∃ content after, '"' ∉ content ∧ cs = '"' :: (content ++ '"' :: after) ∧
      scanField cs = (String.ofList content, after)) ∨
    (scanField cs = scanPlain cs ∧ ∀ inside, cs = '"' :: inside → '"' ∉ inside) := by
  by_cases hhead : cs.head? = some '"'
  · obtain ⟨inside, rfl⟩ : ∃ inside, cs = '"' :: inside := List.head?_eq_some_iff.mp hhead
    by_cases hquote : '"' ∈ inside
    · obtain ⟨content, after, rfl, hcontent⟩ := List.eq_append_cons_of_mem hquote
      exact .inl ⟨content, after, hcontent, rfl, scanField_quoted hcontent after⟩
    · refine .inr ⟨by rw [scanField, if_neg hquote], ?_⟩
      rintro other heq
      rwa [← List.tail_eq_of_cons_eq heq]
  · refine .inr ⟨scanField_of_head hhead, ?_⟩
    rintro inside rfl
    exact absurd List.head?_cons hhead

theorem scanField_snd_suffix (cs : List Char) : (scanField cs).2 <:+ cs := by
  rcases scanField_cases cs with ⟨content, after, -, rfl, hfield⟩ | ⟨hfield, -⟩
  · rw [hfield]
    exact ⟨'"' :: (content ++ ['"']), by simp⟩
  · rw [hfield]
    exact List.dropWhile_suffix isPlain

theorem scanField_fst_subset (cs : List Char) : (scanField cs).1.toList ⊆ cs := by
  rcases scanField_cases cs with ⟨content, after, -, rfl, hfield⟩ | ⟨hfield, -⟩
  · rw [hfield, String.toList_ofList]
    intro ch hch
    simp [hch]
  · rw [hfield, scanPlain, String.toList_ofList]
    exact (List.takeWhile_prefix isPlain).subset

/-- A field with a quote in it is plain. -/
theorem scanField_of_quote_mem (h : '"' ∈ (scanField cs).1.toList) :
    (scanField cs).1.toList = cs.takeWhile isPlain := by
  rcases scanField_cases cs with ⟨content, after, hcontent, rfl, hfield⟩ | ⟨hfield, -⟩
  · rw [hfield, String.toList_ofList] at h
    exact absurd h hcontent
  · rw [hfield, scanPlain, String.toList_ofList]

theorem isPlain_of_quote_mem (h : '"' ∈ (scanField cs).1.toList) :
    ∀ ch ∈ (scanField cs).1.toList, isPlain ch = true := by
  rw [scanField_of_quote_mem h]
  exact fun ch hch => List.mem_takeWhile_imp hch

/-- A quote in front of a field is the last one of the text. -/
theorem scanField_of_quote_head (h : (scanField cs).1.toList.head? = some '"') :
    (scanField cs).1.toList.count '"' = 1 ∧ '"' ∉ (scanField cs).2 := by
  rcases scanField_cases cs with ⟨content, after, hcontent, rfl, hfield⟩ | ⟨hfield, hclosed⟩
  · rw [hfield, String.toList_ofList] at h
    exact absurd (List.mem_of_mem_head? h) hcontent
  · simp only [hfield, scanPlain, String.toList_ofList] at h ⊢
    rw [List.head?_takeWhile, Option.filter_eq_some_iff] at h
    obtain ⟨inside, rfl⟩ : ∃ inside, cs = '"' :: inside := List.head?_eq_some_iff.mp h.1
    have hinside : '"' ∉ inside := hclosed inside rfl
    rw [List.takeWhile_cons_of_pos rfl, List.dropWhile_cons_of_pos rfl, List.count_cons_self,
      List.count_eq_zero.mpr fun hmem => hinside ((List.takeWhile_prefix _).subset hmem)]
    exact ⟨rfl, fun hmem => hinside ((List.dropWhile_suffix _).subset hmem)⟩

/-! ### Fields in the order of the text -/

/-- The fields `names` stand in `cs` one after the other, with anything in between. -/
inductive FieldsFrom : List Char → List String → Prop
  | nil (cs : List Char) : FieldsFrom cs []
  | cons {cs here : List Char} {names : List String} (hhere : here <:+ cs)
    (hnames : FieldsFrom (scanField here).2 names) : FieldsFrom cs ((scanField here).1 :: names)

variable {names : List String}

theorem FieldsFrom.subset (h : FieldsFrom cs names) : ∀ name ∈ names, name.toList ⊆ cs := by
  induction h with
  | nil => simp
  | @cons cs here names hhere _ ih =>
      have hbehind : (scanField here).2 ⊆ cs := ((scanField_snd_suffix here).trans hhere).subset
      refine List.forall_mem_cons.mpr ⟨?_, fun name hname => ?_⟩
      · exact List.Subset.trans (scanField_fst_subset here) hhere.subset
      · exact List.Subset.trans (ih name hname) hbehind

theorem FieldsFrom.of_suffix {ds : List Char} (h : FieldsFrom cs names) (hcs : cs <:+ ds) :
    FieldsFrom ds names := by
  cases h with
  | nil => exact .nil ds
  | cons hhere hnames => exact .cons (hhere.trans hcs) hnames

/-- Each of the fields is one that the scanner finds somewhere. -/
theorem FieldsFrom.exists_scanField (h : FieldsFrom cs names) :
    ∀ name ∈ names, ∃ here, name = (scanField here).1 := by
  induction h with
  | nil => simp
  | @cons cs here names _ _ ih => exact List.forall_mem_cons.mpr ⟨⟨here, rfl⟩, ih⟩

/-- Behind a field that starts with a quote, no field has one. -/
theorem FieldsFrom.pairwise (h : FieldsFrom cs names) :
    names.Pairwise fun name later => name.toList.head? = some '"' → '"' ∉ later.toList := by
  induction h with
  | nil => exact .nil
  | cons _ hnames ih =>
      refine .cons (fun later hlater hhead hmem => ?_) ih
      exact (scanField_of_quote_head hhead).2 (hnames.subset later hlater hmem)

/-- The fields of all rows, in the order of the text. -/
def Scan.fields (s : Scan) : List String := s.row ++ s.rows.flatten

theorem Scan.fields_addField (name : String) (s : Scan) :
    (s.addField name).fields = name :: s.fields := rfl

theorem Scan.fields_addRow (name : String) (s : Scan) :
    (s.addRow name).fields = name :: s.fields := rfl

/-- A scan finds its fields one after the other. -/
theorem scan_fieldsFrom :
    (∀ cs, FieldsFrom cs (scanRow cs).fields) ∧
    ∀ name rest, ∃ names, (scanBehind name rest).fields = name :: names ∧
      FieldsFrom rest names := by
  refine scan_induction (fun cs s => FieldsFrom cs s.fields)
    (fun name rest s => ∃ names, s.fields = name :: names ∧ FieldsFrom rest names)
    ?_ ?_ ?_ ?_ ?_ ?_ ?_
  -- the start of a row, at the end of the text and before it
  · exact .nil []
  · rintro cs s - ⟨names, hfields, hnames⟩
    rw [hfields]
    exact .cons List.suffix_rfl hnames
  -- behind a field: the end, a comma without and with a field, a line feed, anything else
  · exact fun name => ⟨[], rfl, .nil []⟩
  · exact fun name after _ => ⟨[], rfl, .nil _⟩
  · rintro name after s - ⟨names, hfields, hnames⟩
    refine ⟨_, Scan.fields_addField name s, ?_⟩
    rw [hfields]
    exact .cons ((List.dropWhile_suffix _).trans (List.suffix_cons _ _)) hnames
  · intro name after s hrow
    exact ⟨_, Scan.fields_addRow name s, hrow.of_suffix (List.suffix_cons _ _)⟩
  · exact fun name ch after _ _ => ⟨[], rfl, .nil _⟩

/-! ### Fields behind others -/

/-- Does not start with white space, if there is a quote in it. -/
def Snug (name : String) : Prop :=
  '"' ∈ name.toList → ∀ ch ∈ name.toList.head?, Text.isBlank ch = false

theorem snug_scanField (after : List Char) :
    Snug (scanField (after.dropWhile Text.isBlank)).1 := by
  intro hquote ch hch
  rw [scanField_of_quote_mem hquote, Option.mem_def, List.head?_takeWhile,
    Option.filter_eq_some_iff] at hch
  exact head?_dropWhile_eq_false Text.isBlank after ch hch.1

/-- In every row, the fields behind the first one are snug. -/
theorem scan_snug (cs : List Char) :
    ∀ row ∈ (scanRow cs).row :: (scanRow cs).rows, ∀ name ∈ row.tail, Snug name := by
  have hscan := scan_induction
    (fun _ s => ∀ row ∈ s.row :: s.rows, ∀ name ∈ row.tail, Snug name)
    (fun name _ s => (∃ names, s.row = name :: names) ∧
      ∀ row ∈ s.row :: s.rows, ∀ name ∈ row.tail, Snug name)
    ?_ ?_ ?_ ?_ ?_ ?_ ?_
  · exact hscan.1 cs
  -- the start of a row, at the end of the text and before it
  · simp
  · exact fun cs s _ hbehind => hbehind.2
  -- behind a field: the end, a comma without and with a field, a line feed, anything else
  · exact fun name => ⟨⟨[], rfl⟩, by simp⟩
  · exact fun name after _ => ⟨⟨[], rfl⟩, by simp⟩
  · rintro name after s - ⟨⟨names, hrow⟩, hsnug⟩
    obtain ⟨hnames, hrows⟩ := List.forall_mem_cons.mp hsnug
    rw [hrow, List.tail_cons] at hnames
    refine ⟨⟨s.row, rfl⟩, List.forall_mem_cons.mpr ⟨?_, hrows⟩⟩
    show ∀ other ∈ s.row, Snug other
    rw [hrow]
    exact List.forall_mem_cons.mpr ⟨snug_scanField after, hnames⟩
  · intro name after s hsnug
    exact ⟨⟨[], rfl⟩, List.forall_mem_cons.mpr ⟨by simp [Scan.addRow], hsnug⟩⟩
  · exact fun name ch after _ _ => ⟨⟨[], rfl⟩, by simp⟩

/-! ### Rows -/

theorem getLast?_of_suffix {xs ys : List Char} (h : xs <:+ ys) (hsome : xs ≠ []) :
    xs.getLast? = ys.getLast? := by
  obtain ⟨lead, rfl⟩ := h
  rw [List.getLast?_append_of_ne_nil lead hsome]

/-- A field takes nothing off the end of a text that ends with a line feed. -/
theorem getLast?_scanField (hsome : cs ≠ []) :
    (scanField cs).2.getLast? = some '\n' ↔ cs.getLast? = some '\n' := by
  by_cases hrest : (scanField cs).2 = []
  · have hlast : cs.getLast? ≠ some '\n' := by
      rcases scanField_cases cs with ⟨content, after, -, rfl, hfield⟩ | ⟨hfield, -⟩
      · rw [hfield] at hrest
        obtain rfl : after = [] := hrest
        rw [← List.cons_append, List.getLast?_concat]
        simp
      · rw [hfield] at hrest
        have hplain := List.dropWhile_eq_nil_iff.mp hrest
        exact fun hlast => newline_not_mem hplain (List.mem_of_getLast? hlast)
    simp [hrest, hlast]
  · rw [getLast?_of_suffix (scanField_snd_suffix cs) hrest]

/-- Only the last row can be without fields. -/
def Filled (rows : List (List String)) : Prop := ∀ row ∈ rows.dropLast, row ≠ []

theorem Filled.cons {row : List String} {rows : List (List String)} (h : Filled rows)
    (hrow : row ≠ []) : Filled (row :: rows) := by
  cases rows with
  | nil => simp [Filled]
  | cons next rows => exact List.forall_mem_cons.mpr ⟨hrow, h⟩

theorem Filled.tail {row : List String} {rows : List (List String)} (h : Filled (row :: rows)) :
    Filled rows := by
  cases rows with
  | nil => simp [Filled]
  | cons next rows => exact (List.forall_mem_cons.mp h).2

theorem scan_filled (cs : List Char) : Filled ((scanRow cs).row :: (scanRow cs).rows) := by
  have hscan := scan_induction (fun _ s => Filled (s.row :: s.rows))
    (fun _ _ s => Filled (s.row :: s.rows)) ?_ ?_ ?_ ?_ ?_ ?_ ?_
  · exact hscan.1 cs
  -- the start of a row, at the end of the text and before it
  · simp [Filled]
  · exact fun cs s _ hfilled => hfilled
  -- behind a field: the end, a comma without and with a field, a line feed, anything else
  · simp [Filled]
  · simp [Filled]
  · exact fun name after s _ hfilled => hfilled.tail.cons (List.cons_ne_nil _ _)
  · exact fun name after s hfilled => hfilled.cons (List.cons_ne_nil _ _)
  · simp [Filled]

theorem getLast?_cons_eq_nil {row : List String} (hrow : row ≠ []) (rows : List (List String)) :
    (row :: rows).getLast? = some [] ↔ rows.getLast? = some [] := by
  cases rows with
  | nil => simp [hrow]
  | cons next rows => rw [List.getLast?_cons_cons]

/-- A scan that goes through to the end finds a last row without fields if it starts at the
end of the text or the text ends with a line feed. -/
theorem scan_last (cs : List Char) (hrest : (scanRow cs).rest = []) :
    ((scanRow cs).row :: (scanRow cs).rows).getLast? = some [] ↔
      cs = [] ∨ cs.getLast? = some '\n' := by
  have hscan := scan_induction
    (fun cs s => s.rest = [] →
      ((s.row :: s.rows).getLast? = some [] ↔ cs = [] ∨ cs.getLast? = some '\n'))
    (fun _ rest s => s.row ≠ [] ∧
      (s.rest = [] → (s.rows.getLast? = some [] ↔ rest.getLast? = some '\n')))
    ?_ ?_ ?_ ?_ ?_ ?_ ?_
  · exact hscan.1 cs hrest
  -- the start of a row, at the end of the text and before it
  · simp
  · rintro cs s hsome ⟨hrow, hlast⟩ hrest
    rw [getLast?_cons_eq_nil hrow, hlast hrest, getLast?_scanField hsome, or_iff_right hsome]
  -- behind a field: the end, a comma without and with a field, a line feed, anything else
  · simp
  · simp
  · rintro name after s hnext ⟨-, hlast⟩
    refine ⟨List.cons_ne_nil _ _, fun hrest => ?_⟩
    have hsuffix : after.dropWhile Text.isBlank <:+ ',' :: after :=
      (List.dropWhile_suffix _).trans (List.suffix_cons _ _)
    rw [← getLast?_of_suffix hsuffix hnext, ← getLast?_scanField hnext]
    exact hlast hrest
  · intro name after s hlast
    refine ⟨List.cons_ne_nil _ _, fun hrest => (hlast hrest).trans ?_⟩
    cases after with
    | nil => simp
    | cons ch after => simp
  · simp

/-! ### Whole texts -/

/-- The shape of a table that was read from `text`. -/
structure Shape (text : Source) (rows : List (List String)) : Prop where
  /-- There is a row. -/
  some_row : rows ≠ []
  /-- Every row but the last has a field. -/
  filled : ∀ row ∈ rows.dropLast, row ≠ []
  /-- The last row has none if the text is empty or ends with a line feed. -/
  last : rows.getLast? = some [] ↔ text.contents = "" ∨ text.toList.getLast? = some '\n'
  /-- A quote stands in plain fields only. -/
  plain : ∀ row ∈ rows, ∀ name ∈ row, '"' ∈ name.toList →
    ',' ∉ name.toList ∧ '\n' ∉ name.toList
  /-- Behind another field, there is no white space in front of a field with a quote. -/
  no_gap : ∀ row ∈ rows, ∀ name ∈ row.tail, '"' ∈ name.toList →
    ∀ ch ∈ name.toList.head?, Text.isBlank ch = false
  /-- A quote in front of a field is the only one in it, … -/
  single : ∀ row ∈ rows, ∀ name ∈ row, name.toList.head? = some '"' →
    name.toList.count '"' = 1
  /-- … and none comes after that field. -/
  unclosed : rows.flatten.Pairwise fun name later =>
    name.toList.head? = some '"' → '"' ∉ later.toList

/-- **The shape of every table.** Whatever text a table was read from, it has a row, its rows
but the last have fields, and its fields have quotes only where a quote can be read. -/
theorem read_shape {text : Source} {table : Table}
    (h : (Parsable.read text : Silent (Option Table)) = .ok (some table)) :
    Shape text table.rows := by
  obtain ⟨hrest, hrows⟩ := read_eq_some_iff.mp h
  have hfields : FieldsFrom text.toList table.rows.flatten := by
    rw [hrows]
    exact scan_fieldsFrom.1 text.toList
  have hfield : ∀ row ∈ table.rows, ∀ name ∈ row, ∃ here, name = (scanField here).1 :=
    fun row hrow name hname =>
      hfields.exists_scanField name (List.mem_flatten.mpr ⟨row, hrow, hname⟩)
  refine
    { some_row := by simp [hrows]
      filled := hrows ▸ scan_filled text.toList
      last := ?_
      plain := ?_
      no_gap := hrows ▸ scan_snug text.toList
      single := ?_
      unclosed := hfields.pairwise }
  · rw [hrows, ← String.toList_eq_nil_iff]
    exact scan_last text.toList hrest
  · intro row hrow name hname hquote
    obtain ⟨here, rfl⟩ := hfield row hrow name hname
    have hplain := isPlain_of_quote_mem hquote
    exact ⟨comma_not_mem hplain, newline_not_mem hplain⟩
  · intro row hrow name hname hhead
    obtain ⟨here, rfl⟩ := hfield row hrow name hname
    exact (scanField_of_quote_head hhead).1

/-- A quote inside a plain field, a quoted comma and line feed, a quote that is not closed, and
a line feed at the end. -/
theorem read_shape_quotes :
    (Parsable.read "a\"b, \"c,\nd\"\n\"e,f\n" : Silent (Option Table)) =
      .ok (some ⟨[["a\"b", "c,\nd"], ["\"e", "f"], []]⟩) ∧
    Shape "a\"b, \"c,\nd\"\n\"e,f\n" [["a\"b", "c,\nd"], ["\"e", "f"], []] := by
  have hread : (Parsable.read "a\"b, \"c,\nd\"\n\"e,f\n" : Silent (Option Table)) =
      .ok (some ⟨[["a\"b", "c,\nd"], ["\"e", "f"], []]⟩) := by decide +kernel
  exact ⟨hread, read_shape hread⟩

end Backtrack.Csv
