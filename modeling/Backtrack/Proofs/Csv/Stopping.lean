import Backtrack.Proofs.Csv.Shape

/-!
# Backtrack.Proofs.Csv.Stopping

**Why a text is no table.** The grammar of tables matches on every text, but it may stop before
the end, and then the text is no table. It stops in one of three situations (`StopReason`):

* at the end of the text;
* before a comma that has only white space behind it, since no field starts at the end;
* behind the closing quote of a field, where neither a comma nor a line feed follows.

A plain field goes on to a comma, a line feed or the end, so nothing else can be in the way.
`document_stops` says that there is always exactly one reason. Where the closing quote belongs
to a field is told by `FieldAt`, which goes from field to field as the scan does.
-/

namespace Backtrack.Csv

open Backtrack.Parser

variable {cs here : List Char} {s : Scan}

/-! ### Places of fields -/

/-- Where a scan from the start of a field on comes to the start of a field. -/
inductive FieldAt : List Char → List Char → Prop
  | here {cs : List Char} (h : cs ≠ []) : FieldAt cs cs
  /-- The field behind a comma and white space. -/
  | comma {cs after here : List Char} (hcs : (scanField cs).2 = ',' :: after)
    (h : FieldAt (after.dropWhile Text.isBlank) here) : FieldAt cs here
  /-- The first field of the next row. -/
  | newline {cs after here : List Char} (hcs : (scanField cs).2 = '\n' :: after)
    (h : FieldAt after here) : FieldAt cs here

theorem FieldAt.suffix (h : FieldAt cs here) : here <:+ cs := by
  induction h with
  | here => exact List.suffix_rfl
  | @comma cs after here hcs _ ih =>
      have hafter : ',' :: after <:+ cs := hcs ▸ scanField_snd_suffix cs
      exact (ih.trans (List.dropWhile_suffix _)).trans ((List.suffix_cons _ _).trans hafter)
  | @newline cs after here hcs _ ih =>
      have hafter : '\n' :: after <:+ cs := hcs ▸ scanField_snd_suffix cs
      exact ih.trans ((List.suffix_cons _ _).trans hafter)

/-! ### Where a scan stops -/

/-- The scan of `cs` stops behind the closing quote of the last field that it finds, before a
scalar that neither ends the field nor the row. -/
structure Scan.BehindQuotes (s : Scan) (cs content : List Char) : Prop where
  field : FieldAt cs ('"' :: (content ++ '"' :: s.rest))
  no_quote : '"' ∉ content
  last : s.fields.getLast? = some (String.ofList content)
  next : ∃ ch, s.rest.head? = some ch ∧ ch ≠ ',' ∧ ch ≠ '\n'

theorem Scan.BehindQuotes.cons {t : Scan} {ds content : List Char} {name : String}
    (h : s.BehindQuotes cs content) (hfield : ∀ here, FieldAt cs here → FieldAt ds here)
    (hrest : t.rest = s.rest) (hfields : t.fields = name :: s.fields) :
    t.BehindQuotes ds content where
  field := by
    rw [hrest]
    exact hfield _ h.field
  no_quote := h.no_quote
  last := by rw [hfields, List.getLast?_cons, h.last, Option.getD_some]
  next := by
    rw [hrest]
    exact h.next

/-- The scan of `cs` stops at the end, before a comma without a field, or behind quotes. -/
def Scan.Stops (s : Scan) (cs : List Char) : Prop :=
  s.rest = [] ∨ (∃ gap, s.rest = ',' :: gap ∧ ∀ ch ∈ gap, Text.isBlank ch = true) ∨
    ∃ content, s.BehindQuotes cs content

theorem Scan.Stops.cons {t : Scan} {ds : List Char} {name : String} (h : s.Stops cs)
    (hfield : ∀ here, FieldAt cs here → FieldAt ds here) (hrest : t.rest = s.rest)
    (hfields : t.fields = name :: s.fields) : t.Stops ds := by
  rcases h with hend | hcomma | ⟨content, hquotes⟩
  · exact .inl (hrest.trans hend)
  · exact .inr (.inl (by rwa [hrest]))
  · exact .inr (.inr ⟨content, hquotes.cons hfield hrest hfields⟩)

/-- Only behind a quoted field can the text go on with anything but a comma or line feed. -/
theorem scanField_quoted_of_next {name : String} {ch : Char} {after : List Char}
    (hfield : scanField cs = (name, ch :: after)) (hcomma : ch ≠ ',') (hnewline : ch ≠ '\n') :
    ∃ content, '"' ∉ content ∧ name = String.ofList content ∧
      cs = '"' :: (content ++ '"' :: ch :: after) := by
  rcases scanField_cases cs with ⟨content, rest, hcontent, rfl, hquoted⟩ | ⟨hplain, -⟩
  · rw [hquoted] at hfield
    obtain ⟨rfl, rfl⟩ := Prod.mk.inj hfield
    exact ⟨content, hcontent, rfl, rfl⟩
  · have hdrop : cs.dropWhile isPlain = ch :: after := by
      have hsnd := congrArg Prod.snd (hplain.symm.trans hfield)
      exact hsnd
    have hend := head?_dropWhile_eq_false isPlain cs ch (by rw [hdrop]; rfl)
    simp [isPlain, hcomma, hnewline] at hend

theorem scan_stops (cs : List Char) : (scanRow cs).Stops cs := by
  have hscan := scan_induction (fun cs s => s.Stops cs)
    (fun name rest s => ∀ cs, cs ≠ [] → scanField cs = (name, rest) → s.Stops cs)
    ?_ ?_ ?_ ?_ ?_ ?_ ?_
  · exact hscan.1 cs
  -- the start of a row, at the end of the text and before it
  · exact .inl rfl
  · exact fun cs s hsome hbehind => hbehind cs hsome rfl
  -- behind a field: the end, a comma without and with a field, a line feed, anything else
  · exact fun name cs _ _ => .inl rfl
  · exact fun name after hnext cs _ _ =>
      .inr (.inl ⟨after, rfl, List.dropWhile_eq_nil_iff.mp hnext⟩)
  · intro name after s hnext hbehind cs hsome hfield
    refine (hbehind _ hnext rfl).cons (fun here hhere => ?_) rfl (Scan.fields_addField name s)
    exact .comma (by rw [hfield]) hhere
  · intro name after s hrow cs hsome hfield
    refine hrow.cons (fun here hhere => ?_) rfl (Scan.fields_addRow name s)
    exact .newline (by rw [hfield]) hhere
  · intro name ch after hcomma hnewline cs hsome hfield
    obtain ⟨content, hcontent, rfl, rfl⟩ := scanField_quoted_of_next hfield hcomma hnewline
    exact .inr (.inr ⟨content, .here hsome, hcontent, rfl, ch, rfl, hcomma, hnewline⟩)

/-! ### Whole texts -/

/-- Why the grammar of tables goes no further. -/
inductive StopReason
  /-- There is nothing left. -/
  | atEnd
  /-- A comma is left, and there is no field behind it. -/
  | looseComma
  /-- A quoted field was closed, but neither it nor its row is over. -/
  | behindQuotes
  deriving DecidableEq, Repr

/-- What a reason says of a text, the rows that were found in it, and where that ended. -/
def StopReason.Holds (text : Source) (rows : List (List String)) (stop : Cursor) :
    StopReason → Prop
  | atEnd => stop.isEmpty = true
  | looseComma => ∃ gap, stop.rest = ',' :: gap ∧ ∀ ch ∈ gap, Text.isBlank ch = true
  | behindQuotes =>
    (∃ opening name, opening.Valid text ∧ FieldAt text.toList opening.rest ∧
      quotedField.parse opening = (.ok (.done name stop) : Silent _) ∧
      rows.flatten.getLast? = some name) ∧
    ∃ ch, stop.peek? = some ch ∧ ch ≠ ',' ∧ ch ≠ '\n'

/-- The reason can be told from what comes next. -/
def StopReason.ofNext : Option Char → StopReason
  | none => atEnd
  | some ch => if ch = ',' then looseComma else behindQuotes

theorem StopReason.Holds.eq_ofNext {text : Source} {rows : List (List String)} {stop : Cursor}
    {reason : StopReason} (h : reason.Holds text rows stop) : reason = .ofNext stop.peek? := by
  cases reason with
  | atEnd =>
      have hnil : stop.rest = [] := List.isEmpty_iff.mp h
      rw [Cursor.peek?, hnil]
      rfl
  | looseComma =>
      obtain ⟨gap, hrest, -⟩ := h
      rw [Cursor.peek?, hrest]
      rfl
  | behindQuotes =>
      obtain ⟨-, ch, hpeek, hcomma, -⟩ := h
      rw [hpeek, StopReason.ofNext, if_neg hcomma]

/-- A quoted field that the scan comes to is read as one by the grammar, up to the cursor
behind it. -/
theorem Scan.BehindQuotes.parse_quotedField {text : Source} {run content : List Char}
    (h : s.BehindQuotes text.toList content) (htext : text.toList = run ++ s.rest) :
    ∃ opening : Cursor, opening.Valid text ∧ FieldAt text.toList opening.rest ∧
      quotedField.parse opening =
        (.ok (.done (String.ofList content) ((Cursor.start text).advance run)) : Silent _) := by
  obtain ⟨before, hbefore⟩ := h.field.suffix
  have hopening : ((Cursor.start text).advance before).rest =
      '"' :: (content ++ ['"']) ++ s.rest := by
    refine rest_advance ?_
    rw [Cursor.start, ← hbefore]
    simp
  have hrun : run = before ++ '"' :: (content ++ ['"']) := by
    refine List.append_cancel_right (htext.symm.trans (hbefore.symm.trans ?_))
    simp
  refine ⟨(Cursor.start text).advance before, ?_, ?_, ?_⟩
  · refine (Cursor.valid_start text).of_reaches (Cursor.reaches_advance ⟨_, hbefore⟩)
  · have hfield := h.field
    rw [hopening]
    simpa using hfield
  · rw [reads_quotedField h.no_quote s.rest _ hopening, Cursor.advance_advance, ← hrun]

theorem Scan.Stops.exists_reason {text : Source} {run : List Char} (h : s.Stops text.toList)
    (htext : text.toList = run ++ s.rest) :
    ∃ reason : StopReason,
      reason.Holds text (s.row :: s.rows) ((Cursor.start text).advance run) := by
  have hrest : ((Cursor.start text).advance run).rest = s.rest := rest_advance htext
  rcases h with hend | hcomma | ⟨content, hquotes⟩
  · refine ⟨.atEnd, ?_⟩
    rw [StopReason.Holds, Cursor.isEmpty, hrest, hend]
    rfl
  · refine ⟨.looseComma, ?_⟩
    rwa [StopReason.Holds, hrest]
  · obtain ⟨opening, hvalid, hfield, hparse⟩ := hquotes.parse_quotedField htext
    obtain ⟨ch, hch, hnext⟩ := hquotes.next
    refine ⟨.behindQuotes, ⟨opening, _, hvalid, hfield, hparse, hquotes.last⟩, ch, ?_, hnext⟩
    rw [Cursor.peek?, hrest]
    exact hch

/-- **Two reasons to reject a text.** The grammar of tables matches every text and stops for
exactly one reason: the text is at its end, or there is a comma with only white space behind
it, or a scalar behind a quoted field that does not belong there. In the first case, and in no
other, the text is a table. -/
theorem document_stops (text : Source) :
    ∃ rows stop, document.parse (Cursor.start text) = (.ok (.done rows stop) : Silent _) ∧
      stop.Valid text ∧ (∃! reason : StopReason, reason.Holds text rows stop) ∧
      (document.run text : Silent _) = .ok (if stop.isEmpty then some rows else none) ∧
      (Parsable.read text : Silent (Option Table)) =
        .ok (if stop.isEmpty then some ⟨rows⟩ else none) ∧
      (Table.ofText text : Silent _) =
        .ok (if stop.isEmpty then .ok ⟨rows⟩ else .error .noMatch) := by
  have hdocument : ∃ run, text.toList = run ++ (scan text).rest ∧
      document.Reads run ((scan text).row :: (scan text).rows) (scan text).rest :=
    Scan.AtRow.document_reads (scan_reads.1 text.toList)
  obtain ⟨run, htext, hreads⟩ := hdocument
  have hempty : ((Cursor.start text).advance run).isEmpty = true ↔ (scan text).rest = [] := by
    rw [Cursor.isEmpty, rest_advance htext, List.isEmpty_iff]
  have hread : (Parsable.read text : Silent (Option Table)) =
      .ok (if ((Cursor.start text).advance run).isEmpty then
        some ⟨(scan text).row :: (scan text).rows⟩ else none) := by
    simp only [hempty]
    exact hreads.map.run_eq htext
  refine ⟨_, _, hreads _ htext, ?_, ?_, ?_, hread, ?_⟩
  · exact (Cursor.valid_start text).of_reaches (Cursor.reaches_advance ⟨_, htext.symm⟩)
  · obtain ⟨reason, hholds⟩ := (scan_stops text.toList).exists_reason htext
    exact ⟨reason, hholds, fun other hother => hother.eq_ofNext.trans hholds.eq_ofNext.symm⟩
  · simp only [hempty]
    exact hreads.run_eq htext
  · rw [Table.ofText, hread]
    split <;> rfl

end Backtrack.Csv
