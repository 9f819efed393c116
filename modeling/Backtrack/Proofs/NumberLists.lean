import Backtrack.Proofs.Numerals
import Mathlib.Data.List.Basic

/-!
# Backtrack.Proofs.NumberLists

**Lists of numbers.** Numbers can be written with zeros in front and with white space behind
the commas between them. A list that is written so reads back as it is, as long as there are
words for all of its numbers. A number that is too large is no element for the repetition,
and the comma in front of it is given back with its white space: what is read are the numbers
before, and what is left starts with that comma (`commaSeparated_reads_numbers`).
-/

namespace Backtrack

open Backtrack.Parser

/-! ### Writing a list -/

/-- A number in a list, and how it is written. -/
structure Entry where
  /-- The number, for which there need not be a word. -/
  number : Nat
  /-- How many zeros stand in front of it. -/
  zeros : Nat
  /-- What stands between the comma before it, if there is one, and the numeral. -/
  gap : List Char
  blank : ∀ ch ∈ gap, Text.isBlank ch = true

/-- The numeral. -/
def Entry.text (e : Entry) : List Char := numeral e.zeros e.number

/-- The entries behind the first one. -/
def entriesText (entries : List Entry) : List Char :=
  entries.flatMap fun e => ',' :: (e.gap ++ e.text)

/-- A list. -/
def listText : List Entry → List Char
  | [] => []
  | e :: entries => e.text ++ entriesText entries

/-- What is written behind the entries `before`. -/
def behindText (before after : List Entry) : List Char :=
  if before = [] then listText after else entriesText after

variable {e : Entry} {before after : List Entry}

theorem Entry.isNumeral (e : Entry) : IsNumeral e.text := isNumeral_numeral e.zeros e.number

theorem Entry.decimal_text (e : Entry) : decimal e.text = e.number :=
  decimal_numeral e.zeros e.number

theorem entriesText_append (before after : List Entry) :
    entriesText (before ++ after) = entriesText before ++ entriesText after :=
  List.flatMap_append

theorem listText_append (before after : List Entry) :
    listText (before ++ after) = listText before ++ behindText before after := by
  cases before with
  | nil => simp [listText, behindText]
  | cons e before => simp [listText, behindText, entriesText_append]

theorem behindText_nil (before : List Entry) : behindText before [] = [] := by
  simp [behindText, listText, entriesText]

theorem behindText_ne_nil (before : List Entry) (e : Entry) (after : List Entry) :
    behindText before (e :: after) ≠ [] := by
  unfold behindText
  split
  case isTrue => simp [listText, e.isNumeral.1]
  case isFalse => simp [entriesText]

/-! ### Reading it back -/

/-- A numeral ends where the list goes on. -/
theorem head?_entriesText (entries : List Entry) :
    ∀ ch ∈ (entriesText entries).head?, ch.isDigit = false := by
  cases entries with
  | nil => simp [entriesText]
  | cons e entries =>
      intro ch hch
      obtain rfl : ',' = ch := Option.some.inj hch
      rfl

theorem Entry.reads (e : Entry) {w : UInt64} (hw : w.toNat = e.number) (entries : List Entry) :
    nonNegativeInteger.Reads e.text w (entriesText entries) := by
  obtain ⟨hsome, hdigits⟩ := e.isNumeral
  refine reads_nonNegativeInteger hdigits (head?_entriesText entries) hsome ?_
  rw [hw, e.decimal_text]

theorem Entry.refuses (h : 2 ^ 64 ≤ e.number) (entries : List Entry) :
    nonNegativeInteger.Refuses (e.text ++ entriesText entries) := by
  refine refuses_nonNegativeInteger e.isNumeral.2 (head?_entriesText entries) (.inr ?_)
  rwa [e.decimal_text]

theorem not_isBlank_of_isDigit {ch : Char} (h : ch.isDigit = true) : Text.isBlank ch = false := by
  obtain ⟨hlow, hhigh⟩ : 48 ≤ ch.toNat ∧ ch.toNat ≤ 57 := by
    simpa [Char.isDigit, UInt32.le_iff_toNat_le] using h
  simp only [Text.isBlank, Text.blankRanges, Text.Ranges.contains_cons, Text.Ranges.contains_nil,
    Bool.or_eq_false_iff, decide_eq_false_iff_not, and_true]
  omega

/-- The white space behind a comma ends where the numeral begins. -/
theorem Entry.reads_comma (e : Entry) (rest : List Char) :
    comma.Reads (',' :: e.gap) () (e.text ++ rest) := by
  obtain ⟨hsome, hdigits⟩ := e.isNumeral
  refine Parser.reads_comma e.blank fun ch hch => not_isBlank_of_isDigit (hdigits ch ?_)
  rw [List.head?_append_of_ne_nil _ hsome] at hch
  exact List.mem_of_mem_head? hch

/-- Behind the first entry, the numbers are read as long as there are words for them. -/
theorem entries_repeat (hsmall : ∀ e ∈ before, e.number < 2 ^ 64)
    (hlarge : ∀ e ∈ after.head?, 2 ^ 64 ≤ e.number) :
    ∃ words : List UInt64, words.map UInt64.toNat = before.map Entry.number ∧
      Repeats nonNegativeInteger comma (entriesText before) words (entriesText after) := by
  induction before with
  | nil =>
      refine ⟨[], rfl, ?_⟩
      cases after with
      | nil => exact .atEnd
      | cons e after =>
          have hcomma := e.reads_comma (entriesText after)
          have hstop := Repeats.noElement hcomma (Entry.refuses (hlarge e rfl) after)
          simpa [entriesText] using hstop
  | cons e before ih =>
      obtain ⟨hnumber, hsmall⟩ := List.forall_mem_cons.mp hsmall
      obtain ⟨words, hwords, hrepeat⟩ := ih hsmall
      obtain ⟨w, hw⟩ := exists_word hnumber
      have helement := e.reads hw (before ++ after)
      rw [entriesText_append] at helement
      have hround := hrepeat.round (e.reads_comma _) (List.cons_ne_nil _ _) helement
      refine ⟨w :: words, by simp [hw, hwords], ?_⟩
      simpa [entriesText] using hround

/-- The numbers of a list are read up to the first one that is too large. -/
theorem list_reads (hsmall : ∀ e ∈ before, e.number < 2 ^ 64)
    (hlarge : ∀ e ∈ after.head?, 2 ^ 64 ≤ e.number) :
    ∃ words : List UInt64, words.map UInt64.toNat = before.map Entry.number ∧
      (commaSeparated nonNegativeInteger).Reads (listText before) words
        (behindText before after) := by
  cases before with
  | nil =>
      refine ⟨[], rfl, Refuses.reads_many ?_⟩
      cases after with
      | nil =>
          have hnone : nonNegativeInteger.Refuses ([] ++ []) :=
            refuses_nonNegativeInteger (by simp) (by simp) (.inl rfl)
          exact hnone
      | cons e after => exact Entry.refuses (hlarge e rfl) after
  | cons e before =>
      obtain ⟨hnumber, hsmall⟩ := List.forall_mem_cons.mp hsmall
      obtain ⟨words, hwords, hrepeat⟩ := entries_repeat hsmall hlarge
      obtain ⟨w, hw⟩ := exists_word hnumber
      have helement := e.reads hw (before ++ after)
      rw [entriesText_append] at helement
      exact ⟨w :: words, by simp [hw, hwords], hrepeat.reads_many helement⟩

/-- **A list of numbers reads back, up to the first that is too large.** If there are words for
all the numbers, they are what is read, and the text is read to its end. Otherwise the numbers
before the first one without a word are read, and the text is left over from the comma in front
of that number on, or as a whole if it was the first, so that the text is no match. -/
theorem commaSeparated_reads_numbers (entries : List Entry) (address : Nat) :
    ((∀ e ∈ entries, e.number < 2 ^ 64) →
      ∃ words : List UInt64, words.map UInt64.toNat = entries.map Entry.number ∧
        (commaSeparated nonNegativeInteger).run ⟨String.ofList (listText entries), address⟩ =
          (.ok (some words) : Silent _)) ∧
    ∀ before large after, entries = before ++ large :: after →
      (∀ e ∈ before, e.number < 2 ^ 64) → 2 ^ 64 ≤ large.number →
      ∃ (words : List UInt64) (rest : List Char),
        words.map UInt64.toNat = before.map Entry.number ∧
        listText entries = listText before ++ rest ∧
        (before = [] → rest = listText entries) ∧
        (before ≠ [] → rest = ',' :: (large.gap ++ listText (large :: after))) ∧
        (commaSeparated nonNegativeInteger).runFrom ⟨String.ofList (listText entries), address⟩ 0 =
          (.ok (some words, String.ofList rest) : Silent _) ∧
        (commaSeparated nonNegativeInteger).run ⟨String.ofList (listText entries), address⟩ =
          (.ok none : Silent _) := by
  refine ⟨fun hsmall => ?_, ?_⟩
  · have hnone : ∀ e ∈ ([] : List Entry).head?, 2 ^ 64 ≤ e.number := by simp
    obtain ⟨words, hwords, hreads⟩ := list_reads hsmall hnone
    rw [behindText_nil] at hreads
    refine ⟨words, hwords, ?_⟩
    have hlist : Source.toList ⟨String.ofList (listText entries), address⟩ =
        listText entries ++ [] := by
      rw [Source.toList, String.toList_ofList, List.append_nil]
    rw [hreads.run_eq hlist, if_pos rfl]
  · rintro before large after rfl hsmall hlarge
    have hfirst : ∀ e ∈ (large :: after).head?, 2 ^ 64 ≤ e.number := by simpa using hlarge
    obtain ⟨words, hwords, hreads⟩ := list_reads hsmall hfirst
    have htext := listText_append before (large :: after)
    have hlist : Source.toList ⟨String.ofList (listText (before ++ large :: after)), address⟩ =
        listText before ++ behindText before (large :: after) := by
      rw [Source.toList, String.toList_ofList, htext]
    refine ⟨words, behindText before (large :: after), hwords, htext, ?_, ?_,
      hreads.runFrom_eq hlist, ?_⟩
    · rintro rfl
      exact if_pos rfl
    · intro hbefore
      rw [behindText, if_neg hbefore]
      simp [entriesText, listText]
    · rw [hreads.run_eq hlist, if_neg (behindText_ne_nil before large after)]

/-- Zeros in front and white space behind the commas, then a number without a word in the middle
of a list and at the start of one. -/
theorem commaSeparated_reads_numbers_limit :
    (commaSeparated nonNegativeInteger).run "007,\n\u20030,18446744073709551615" =
      (.ok (some [7, 0, 18446744073709551615]) : Silent _) ∧
    (commaSeparated nonNegativeInteger).runFrom "1, 18446744073709551616,2" 0 =
      (.ok (some [1], ", 18446744073709551616,2") : Silent _) ∧
    (commaSeparated nonNegativeInteger).run "1, 18446744073709551616,2" =
      (.ok none : Silent _) ∧
    (commaSeparated nonNegativeInteger).runFrom "018446744073709551616,2" 0 =
      (.ok (some [], "018446744073709551616,2") : Silent _) := by
  have hinj : ∀ {ws vs : List UInt64}, ws.map UInt64.toNat = vs.map UInt64.toNat → ws = vs :=
    (List.map_inj_right fun _ _ => UInt64.toNat_inj.mp).mp
  have hmiddle := (commaSeparated_reads_numbers _ 0).2 [⟨1, 0, [], by simp⟩]
    ⟨18446744073709551616, 0, [' '], List.all_eq_true.mp rfl⟩ [⟨2, 0, [], by simp⟩] rfl
    (by decide) (by decide)
  refine ⟨?_, ?_, ?_, ?_⟩
  · obtain ⟨words, hwords, hrun⟩ := (commaSeparated_reads_numbers
      [⟨7, 2, [], by simp⟩, ⟨0, 0, ['\n', '\u2003'], List.all_eq_true.mp rfl⟩,
        ⟨18446744073709551615, 0, [], by simp⟩] 0).1 (by decide)
    obtain rfl : words = [7, 0, 18446744073709551615] := hinj hwords
    exact hrun
  · obtain ⟨words, rest, hwords, -, -, hrest, hfrom, -⟩ := hmiddle
    obtain rfl : words = [1] := hinj hwords
    obtain rfl := hrest (by simp)
    exact hfrom
  · obtain ⟨words, rest, -, -, -, -, -, hrun⟩ := hmiddle
    exact hrun
  · obtain ⟨words, rest, hwords, -, hrest, -, hfrom, -⟩ := (commaSeparated_reads_numbers _ 0).2 []
      ⟨18446744073709551616, 1, [], by simp⟩ [⟨2, 0, [], by simp⟩] rfl (by simp) (by decide)
    obtain rfl : words = [] := hinj hwords
    obtain rfl := hrest rfl
    exact hfrom

end Backtrack
