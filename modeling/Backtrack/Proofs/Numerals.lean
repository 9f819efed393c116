import Backtrack.Parsable
import Backtrack.Proofs.Reading
import Mathlib.Algebra.Group.Nat.Defs
import Mathlib.Data.List.Induction
import Mathlib.Data.List.TakeWhile

/-!
# Backtrack.Proofs.Numerals

**Numerals and the numbers they stand for.** A run of digits stands for a natural number,
however long it is. The reader works with words: it goes through the digits from the left,
multiplies by ten and adds, and gives up as soon as either does not fit. It might give up too
early or, if a step wrapped around, too late. Neither happens. Each step is exact or has no
result, and the number only grows with more digits, so a step has no result exactly if the
number of the whole run is too large (`readDigits_eq`).

So the numerals are read for what they stand for, with any number of zeros in front, and
nothing else is a numeral (`nonNegativeInteger_reads_numerals`).
-/

namespace Backtrack

/-! ### Words for numbers -/

/-- The word for `n`, if it has one. -/
def word? (n : Nat) : Option UInt64 := if n < 2 ^ 64 then some (UInt64.ofNat n) else none

theorem word?_eq_some_iff {n : Nat} {w : UInt64} : word? n = some w ↔ w.toNat = n := by
  unfold word?
  split
  case isTrue h =>
    rw [Option.some.injEq, UInt64.ofNat_eq_iff_mod_eq_toNat, Nat.mod_eq_of_lt h, eq_comm]
  case isFalse h =>
    have hw := w.toNat_lt
    simp only [reduceCtorEq, false_iff]
    omega

theorem word?_eq_none_iff {n : Nat} : word? n = none ↔ 2 ^ 64 ≤ n := by
  simp [word?]

theorem exists_word {n : Nat} (h : n < 2 ^ 64) : ∃ w : UInt64, w.toNat = n :=
  ⟨UInt64.ofNat n, UInt64.toNat_ofNat_of_lt' h⟩

@[simp] theorem word?_toNat (w : UInt64) : word? w.toNat = some w := word?_eq_some_iff.mpr rfl

theorem checkedMul_eq (a b : UInt64) : checkedMul a b = word? (a.toNat * b.toNat) := by
  ext c
  rw [checkedMul_eq_some_iff, word?_eq_some_iff]

theorem checkedAdd_eq (a b : UInt64) : checkedAdd a b = word? (a.toNat + b.toNat) := by
  ext c
  rw [checkedAdd_eq_some_iff, word?_eq_some_iff]

/-! ### The number of a run of digits -/

/-- What a run of digits stands for in base ten. -/
def decimal (digits : List Char) : Nat := Nat.ofDigitChars 10 digits 0

theorem decimal_concat (seen : List Char) (digit : Char) :
    decimal (seen ++ [digit]) = 10 * decimal seen + (digit.toNat - '0'.toNat) := by
  rw [decimal, Nat.ofDigitChars_append, Nat.ofDigitChars_cons, Nat.ofDigitChars_nil, decimal]

/-- The digit of a scalar as a word. -/
theorem toNat_digit (digit : Char) :
    (UInt64.ofNat (digit.toNat - '0'.toNat)).toNat = digit.toNat - '0'.toNat := by
  have hvalid := digit.val.toNat_lt
  rw [UInt64.toNat_ofNat', Nat.mod_eq_of_lt]
  change digit.val.toNat - _ < _
  omega

/-- One step: no result if the product has no word, and then the sum has none either. -/
theorem pushDigit_eq (value : UInt64) (digit : Char) :
    pushDigit value digit = word? (10 * value.toNat + (digit.toNat - '0'.toNat)) := by
  have hten : (10 : UInt64).toNat = 10 := rfl
  rw [pushDigit, checkedMul_eq, hten, Nat.mul_comm]
  cases hproduct : word? (10 * value.toNat) with
  | none =>
      have hlarge := word?_eq_none_iff.mp hproduct
      exact (word?_eq_none_iff.mpr (Nat.le_add_right_of_le hlarge)).symm
  | some product =>
      have hexact := word?_eq_some_iff.mp hproduct
      show checkedAdd product _ = _
      rw [checkedAdd_eq, hexact, toNat_digit]

theorem readDigits_concat (seen : List Char) (digit : Char) :
    readDigits (seen ++ [digit]) = (readDigits seen).bind (pushDigit · digit) := by
  simp [readDigits, List.foldlM_append]

/-- A run of digits has a result exactly if its number has a word, and then it is that word. -/
theorem readDigits_eq (digits : List Char) : readDigits digits = word? (decimal digits) := by
  induction digits using List.reverseRecOn with
  | nil => rfl
  | append_singleton seen digit ih =>
      rw [readDigits_concat, ih, decimal_concat]
      cases hseen : word? (decimal seen) with
      | none =>
          -- more digits never make a number smaller
          have hlarge := word?_eq_none_iff.mp hseen
          exact (word?_eq_none_iff.mpr (by omega)).symm
      | some value =>
          rw [Option.bind_some, pushDigit_eq, word?_eq_some_iff.mp hseen]

/-- Behind the digits `seen`, the step past `digit` computes with numbers and not with
remainders: what it starts from, the product and the sum are each the word of the number that
they should be, or there is no such word. -/
structure ExactStep (seen : List Char) (digit : Char) : Prop where
  start : readDigits seen = word? (decimal seen)
  product : ∀ value, readDigits seen = some value →
    checkedMul value 10 = word? (10 * decimal seen)
  sum : ∀ value product, readDigits seen = some value → checkedMul value 10 = some product →
    checkedAdd product (UInt64.ofNat (digit.toNat - '0'.toNat)) =
      word? (decimal (seen ++ [digit]))

theorem exactStep (seen : List Char) (digit : Char) : ExactStep seen digit := by
  have hproduct : ∀ value, readDigits seen = some value →
      checkedMul value 10 = word? (10 * decimal seen) := by
    intro value hvalue
    rw [readDigits_eq] at hvalue
    rw [checkedMul_eq, word?_eq_some_iff.mp hvalue, Nat.mul_comm]
    rfl
  refine ⟨readDigits_eq seen, hproduct, fun value product hvalue hmul => ?_⟩
  rw [hproduct value hvalue] at hmul
  rw [checkedAdd_eq, word?_eq_some_iff.mp hmul, toNat_digit, decimal_concat]

/-! ### Numerals in a text -/

namespace Parser

section Parse

variable {m : Type → Type} [ParseMonad m] {c : Cursor}

theorem nonNegativeInteger_done {w : UInt64} (hsome : c.rest.takeWhile Char.isDigit ≠ [])
    (hw : w.toNat = decimal (c.rest.takeWhile Char.isDigit)) :
    (nonNegativeInteger : Parser m UInt64).parse c =
      pure (.done w (c.advance (c.rest.takeWhile Char.isDigit))) := by
  have hread : readDigits (c.rest.takeWhile Char.isDigit) = some w := by
    rw [readDigits_eq, word?_eq_some_iff.mpr hw]
  rw [nonNegativeInteger]
  dsimp only
  split
  case h_1 hnil => exact absurd hnil hsome
  case h_2 => simp only [hread]

theorem nonNegativeInteger_fail
    (h : c.rest.takeWhile Char.isDigit = [] ∨ 2 ^ 64 ≤ decimal (c.rest.takeWhile Char.isDigit)) :
    (nonNegativeInteger : Parser m UInt64).parse c = pure (.fail c) := by
  rw [nonNegativeInteger]
  dsimp only
  split
  case h_1 => rfl
  case h_2 hsome =>
    have hread : readDigits (c.rest.takeWhile Char.isDigit) = none := by
      rw [readDigits_eq, word?_eq_none_iff.mpr (h.resolve_left hsome)]
    simp only [hread]

end Parse

section Runs

variable {run rest : List Char} {w : UInt64} (hrun : ∀ ch ∈ run, ch.isDigit = true)
variable (hrest : ∀ ch ∈ rest.head?, ch.isDigit = false)

include hrun hrest

theorem reads_nonNegativeInteger (hsome : run ≠ []) (hw : w.toNat = decimal run) :
    nonNegativeInteger.Reads run w rest := by
  intro c hc
  have hdigits : c.rest.takeWhile Char.isDigit = run := by rw [hc, takeWhile_append_eq hrun hrest]
  have hparse := nonNegativeInteger_done (m := Silent) (c := c) (w := w)
    (by rwa [hdigits]) (by rwa [hdigits])
  rwa [hdigits] at hparse

theorem refuses_nonNegativeInteger (h : run = [] ∨ 2 ^ 64 ≤ decimal run) :
    nonNegativeInteger.Refuses (run ++ rest) := by
  intro c hc
  have hdigits : c.rest.takeWhile Char.isDigit = run := by rw [hc, takeWhile_append_eq hrun hrest]
  exact nonNegativeInteger_fail (by rwa [hdigits])

end Runs

end Parser

open Backtrack.Parser

/-! ### Numerals as whole texts -/

/-- Nothing but digits, and at least one of them. -/
def IsNumeral (cs : List Char) : Prop := cs ≠ [] ∧ ∀ ch ∈ cs, ch.isDigit = true

instance (cs : List Char) : Decidable (IsNumeral cs) :=
  decidable_of_iff ((!cs.isEmpty && cs.all Char.isDigit) = true) (by simp [IsNumeral])

/-- A text is a numeral if the digits that it starts with are all there is. -/
theorem isNumeral_append_iff {run rest : List Char} (hrun : ∀ ch ∈ run, ch.isDigit = true)
    (hrest : ∀ ch ∈ rest.head?, ch.isDigit = false) :
    IsNumeral (run ++ rest) ↔ run ≠ [] ∧ rest = [] := by
  constructor
  · rintro ⟨hsome, hdigits⟩
    cases rest with
    | nil => exact ⟨by simpa using hsome, rfl⟩
    | cons ch rest =>
        have hdigit := hdigits ch (by simp)
        rw [hrest ch rfl] at hdigit
        cases hdigit
  · rintro ⟨hsome, rfl⟩
    rw [List.append_nil]
    exact ⟨hsome, hrun⟩

theorem read_word_eq (text : Source) :
    (Parsable.read text : Silent (Option UInt64)) =
      .ok (if IsNumeral text.toList then word? (decimal text.toList) else none) := by
  have hrun : ∀ ch ∈ text.toList.takeWhile Char.isDigit, ch.isDigit = true :=
    fun ch hch => List.mem_takeWhile_imp hch
  have hrest := head?_dropWhile_eq_false Char.isDigit text.toList
  have hsplit : text.toList =
      text.toList.takeWhile Char.isDigit ++ text.toList.dropWhile Char.isDigit :=
    List.takeWhile_append_dropWhile.symm
  generalize text.toList.takeWhile Char.isDigit = run at hrun hsplit
  generalize text.toList.dropWhile Char.isDigit = rest at hrest hsplit
  have hnumeral : IsNumeral text.toList ↔ run ≠ [] ∧ rest = [] := by
    rw [hsplit, isNumeral_append_iff hrun hrest]
  by_cases h : run = [] ∨ 2 ^ 64 ≤ decimal run
  · have hrefuses := refuses_nonNegativeInteger hrun hrest h
    rw [← hsplit] at hrefuses
    refine hrefuses.run_eq.trans ?_
    split
    case isTrue hall =>
      obtain ⟨hsome, rfl⟩ := hnumeral.mp hall
      rw [hsplit, List.append_nil, word?_eq_none_iff.mpr (h.resolve_left hsome)]
    case isFalse => rfl
  · obtain ⟨hsome, hsmall⟩ := not_or.mp h
    obtain ⟨w, hw⟩ := exists_word (Nat.lt_of_not_le hsmall)
    refine ((reads_nonNegativeInteger hrun hrest hsome hw).run_eq hsplit).trans ?_
    by_cases hend : rest = []
    · rw [if_pos hend, if_pos (hnumeral.mpr ⟨hsome, hend⟩), hsplit, hend, List.append_nil,
        word?_eq_some_iff.mpr hw]
    · rw [if_neg hend, if_neg fun hall => hend (hnumeral.mp hall).2]

/-- `n` in decimal, with zeros in front. -/
def numeral (zeros n : Nat) : List Char := List.replicate zeros '0' ++ Nat.toDigits 10 n

theorem decimal_numeral (zeros n : Nat) : decimal (numeral zeros n) = n := by
  rw [decimal, numeral, Nat.ofDigitChars_append, Nat.ofDigitChars_replicate_zero, Nat.mul_zero,
    Nat.ofDigitChars_ten_toDigits]

theorem isNumeral_numeral (zeros n : Nat) : IsNumeral (numeral zeros n) := by
  refine ⟨by simp [numeral, Nat.toDigits_ne_nil], fun ch hch => ?_⟩
  rcases List.mem_append.mp hch with hzero | hdigit
  · rw [List.eq_of_mem_replicate hzero]
    rfl
  · exact Nat.isDigit_of_mem_toDigits (by decide) (by decide) hdigit

theorem read_numeral {text : Source} {zeros : Nat} {w : UInt64}
    (h : text.toList = numeral zeros w.toNat) :
    (Parsable.read text : Silent (Option UInt64)) = .ok (some w) := by
  rw [read_word_eq, h, if_pos (isNumeral_numeral zeros _), decimal_numeral, word?_toNat]

/-- The number of a word, as it is usually written, has no zeros in front. -/
theorem toList_toString_word (w : UInt64) : (toString w).toList = numeral 0 w.toNat := by
  show (toString w.toNat).toList = _
  rw [Nat.toString_eq_repr, Nat.repr_eq_ofList_toDigits, String.toList_ofList]
  rfl

/-- **Numerals are read for what they stand for.** Let `d` be the digits that come next and `N`
their number. If there are any and `N` has a word, that word is read and nothing behind `d` is
consumed; otherwise the parser fails at its entry. On the way no step wraps around. So a whole
text is read exactly if it is a numeral, with any number of zeros in front, and its number has
a word. -/
theorem nonNegativeInteger_reads_numerals :
    (∀ (m : Type → Type) [ParseMonad m] (c : Cursor) (d : List Char),
      d = c.rest.takeWhile Char.isDigit →
      (d ≠ [] → decimal d < 2 ^ 64 → ∃ w : UInt64, w.toNat = decimal d ∧
        (nonNegativeInteger : Parser m UInt64).parse c = pure (.done w (c.advance d))) ∧
      (d = [] ∨ 2 ^ 64 ≤ decimal d →
        (nonNegativeInteger : Parser m UInt64).parse c = pure (.fail c))) ∧
    (∀ seen digit, ExactStep seen digit) ∧
    (∀ text : Source, ∃ found, (Parsable.read text : Silent (Option UInt64)) = .ok found ∧
      ∀ w, found = some w ↔ IsNumeral text.toList ∧ decimal text.toList = w.toNat) ∧
    ∀ (zeros : Nat) (w : UInt64) (address : Nat),
      (Parsable.read ⟨String.ofList (numeral zeros w.toNat), address⟩ : Silent (Option UInt64)) =
        .ok (some w) ∧
      (Parsable.read ⟨toString w, address⟩ : Silent (Option UInt64)) = .ok (some w) := by
  refine ⟨fun m _ c d hd => ?_, exactStep, fun text => ⟨_, read_word_eq text, fun w => ?_⟩,
    fun zeros w address => ⟨read_numeral String.toList_ofList, ?_⟩⟩
  · subst hd
    refine ⟨fun hsome hsmall => ?_, nonNegativeInteger_fail⟩
    obtain ⟨w, hw⟩ := exists_word hsmall
    exact ⟨w, hw, nonNegativeInteger_done hsome hw⟩
  · split
    case isTrue hnumeral => rw [and_iff_right hnumeral, word?_eq_some_iff, eq_comm]
    case isFalse hnumeral => simp [hnumeral]
  · exact read_numeral (toList_toString_word w)

/-- The largest word with zeros in front and a scalar behind it, and the number after it. -/
theorem nonNegativeInteger_reads_numerals_limit :
    nonNegativeInteger.parse ⟨"=0018446744073709551615é", 1, 1, "0018446744073709551615é".toList⟩ =
      (.ok (.done 18446744073709551615 ⟨"=0018446744073709551615é", 23, 23, ['é']⟩) : Silent _) ∧
    nonNegativeInteger.parse (Cursor.start "18446744073709551616,1") =
      (.ok (.fail (Cursor.start "18446744073709551616,1")) : Silent _) ∧
    (Parsable.read "7٣" : Silent (Option UInt64)) = .ok none ∧
    (Parsable.read "0007" : Silent (Option UInt64)) = .ok (some 7) := by
  obtain ⟨hparse, -, hread, hnumeral⟩ := nonNegativeInteger_reads_numerals
  refine ⟨?_, ?_, ?_, (hnumeral 3 7 0).1⟩
  · obtain ⟨w, hw, hdone⟩ := (hparse Silent
      ⟨"=0018446744073709551615é", 1, 1, "0018446744073709551615é".toList⟩
      "0018446744073709551615".toList (by decide)).1 (by decide) (by decide)
    obtain rfl : w = 18446744073709551615 := UInt64.toNat_inj.mp (hw.trans (by decide))
    exact hdone
  · exact (hparse Silent (Cursor.start "18446744073709551616,1") "18446744073709551616".toList
      (by decide)).2 (.inr (by decide))
  · obtain ⟨found, hfound, hsome⟩ := hread "7٣"
    cases found with
    | none => exact hfound
    | some w => exact absurd ((hsome w).mp rfl).1 (by decide)

end Backtrack
