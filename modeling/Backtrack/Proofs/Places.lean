import Backtrack.Proofs.Reach
import Mathlib.Tactic.TFAE

/-!
# Backtrack.Proofs.Places

**The two counts of a cursor never drift apart.** A cursor counts scalars and bytes, and each
operation adds to both on its own. `Cursor.Obtained` is what can be had from a text by any
operations one after the other; an anchor to rewind to can come from any text, a copy of this
one included, and from any cursor of it. Each operation leads from places of a text to places
of the same text, so everything that can be had is a place (`Obtained.valid`).

At a place, the byte offset lies between two scalars of the text, in the sense of the core
library, and the bytes from there on are those of the remaining text (`Valid.isValid_offset`,
`Valid.extract_bytes`). So cutting the text at the offset never splits a scalar. The converse
is that a place is known from its position (`Valid.locate_eq`).
-/

namespace Backtrack.Cursor

open Backtrack.Text (utf8Length utf8Length_toList)

variable {c d : Cursor} {text : Source}

/-! ### Places are known from their positions -/

theorem Valid.eq_of_position (hc : c.Valid text) (hd : d.Valid text)
    (h : d.position = c.position) : d = c := by
  obtain ⟨source, position, offset, rest⟩ := c
  obtain ⟨source', position', offset', rest'⟩ := d
  obtain rfl : position' = position := h
  have hsource : source' = source := hd.source_eq.trans hc.source_eq.symm
  have hoffset : offset' = offset := hd.offset_eq.trans hc.offset_eq.symm
  have hrest : rest' = rest := hd.rest_eq.trans hc.rest_eq.symm
  rw [hsource, hoffset, hrest]

theorem Valid.locate_eq (h : c.Valid text) : locate text c.position = .ok c := by
  obtain ⟨d, hlocate, hvalid, hposition⟩ := locate_eq_ok h.position_le
  rw [hlocate, h.eq_of_position hvalid hposition]

/-- Beyond the end, the scalars that are missing are counted. -/
theorem forward_of_lt {count : Nat} (h : c.rest.length < count) :
    c.forward count = (c.advance c.rest, count - c.rest.length) := by
  induction count generalizing c with
  | zero => omega
  | succ count ih =>
      cases hrest : c.rest with
      | nil => simp [forward, next?, hrest]
      | cons ch tail =>
          have htail : (c.advance [ch]).rest = tail := by simp [advance, hrest]
          have hlt : (c.advance [ch]).rest.length < count := by
            rw [htail]
            simpa [hrest] using h
          rw [forward, next?, hrest]
          simp only [ih hlt, htail, advance_advance, List.singleton_append, List.length_cons,
            Nat.add_sub_add_right]

theorem locate_of_lt {position : Nat} (h : text.length < position) :
    locate text position = .error (.offsetOutOfRange position text.length) := by
  have hlen : (start text).rest.length = text.length := by rw [start, String.length_toList]
  have hforward := forward_of_lt (c := start text) (by rwa [hlen])
  obtain ⟨missing, hmissing⟩ : ∃ missing, position - text.length = missing + 1 :=
    ⟨position - text.length - 1, by omega⟩
  rw [hlen, hmissing] at hforward
  rw [locate, hforward]
  simp [start, advance, String.length_toList]

/-- The positions of a text are those up to its end. -/
theorem locate_eq_error_iff {position : Nat} {cause : Fault} :
    locate text position = .error cause ↔
      text.length < position ∧ cause = .offsetOutOfRange position text.length := by
  by_cases h : text.length < position
  · rw [locate_of_lt h, Except.error.injEq]
    simp only [h, true_and]
    exact eq_comm
  · obtain ⟨d, hlocate, -⟩ := locate_eq_ok (Nat.le_of_not_lt h)
    simp [hlocate, h]

theorem valid_of_locate {position : Nat} (h : locate text position = .ok c) : c.Valid text := by
  by_cases hposition : text.length < position
  · rw [locate_of_lt hposition] at h
    cases h
  · obtain ⟨d, hlocate, hvalid, -⟩ := locate_eq_ok (Nat.le_of_not_lt hposition)
    rw [hlocate] at h
    rwa [← Except.ok.inj h]

theorem position_of_locate {position : Nat} (h : locate text position = .ok c) :
    c.position = position := by
  by_cases hposition : text.length < position
  · rw [locate_of_lt hposition] at h
    cases h
  · obtain ⟨d, hlocate, -, heq⟩ := locate_eq_ok (Nat.le_of_not_lt hposition)
    rw [hlocate] at h
    rwa [← Except.ok.inj h]

/-- Behind a run, a cursor is as many scalars further on as the run has. -/
theorem locate_advance {position : Nat} {run : List Char} (h : locate text position = .ok c)
    (hrun : run <+: c.rest) : locate text (position + run.length) = .ok (c.advance run) := by
  have hvalid := (valid_of_locate h).of_reaches (reaches_advance hrun)
  rw [← position_of_locate h]
  exact hvalid.locate_eq

/-! ### Bytes -/

/-- A place cuts its text in two. -/
theorem Valid.text_eq (h : c.Valid text) :
    text.contents = String.ofList (text.toList.take c.position) ++ c.remaining := by
  rw [remaining, h.rest_eq, ← String.ofList_append, List.take_append_drop, String.ofList_toList]

theorem Valid.offset_eq_byteSize (h : c.Valid text) :
    c.offset = (String.ofList (text.toList.take c.position)).utf8ByteSize := by
  rw [← utf8Length_toList, String.toList_ofList, h.offset_eq]

/-- The byte offset of a place does not lie inside a scalar. -/
theorem Valid.isValid_offset (h : c.Valid text) :
    (String.Pos.Raw.mk c.offset).IsValid text.contents := by
  rw [String.Pos.Raw.isValid_iff_exists_append]
  refine ⟨_, _, h.text_eq, ?_⟩
  rw [h.offset_eq_byteSize]
  rfl

theorem extract_bytes_append (before after : String) :
    (before ++ after).toByteArray.extract before.utf8ByteSize (before ++ after).utf8ByteSize =
      after.toByteArray := by
  rw [String.toByteArray_append, String.utf8ByteSize_append]
  exact ByteArray.extract_append_eq_right rfl rfl

/-- The bytes from a place on are those of the remaining text. -/
theorem Valid.extract_bytes (h : c.Valid text) :
    text.contents.toByteArray.extract c.offset text.contents.utf8ByteSize =
      c.remaining.toByteArray := by
  have hbytes := extract_bytes_append (String.ofList (text.toList.take c.position)) c.remaining
  rwa [← h.text_eq, ← h.offset_eq_byteSize] at hbytes

/-- The end of a text can be told in five ways. -/
theorem Valid.tfae_end (h : c.Valid text) :
    [c.isEmpty = true, c.peek? = none, c.remaining = "", c.position = text.length,
      c.offset = text.contents.utf8ByteSize].TFAE := by
  have hlen := h.length_rest
  have hle := h.position_le
  tfae_have 1 ↔ 2 := by rw [isEmpty, peek?, List.isEmpty_iff, List.head?_eq_none_iff]
  tfae_have 1 ↔ 3 := by rw [isEmpty, remaining, List.isEmpty_iff, String.ofList_eq_empty_iff]
  tfae_have 1 ↔ 4 := by
    rw [isEmpty, List.isEmpty_iff, ← List.length_eq_zero_iff]
    omega
  tfae_have 3 ↔ 5 := by
    have hbytes := congrArg String.utf8ByteSize h.text_eq
    rw [String.utf8ByteSize_append, ← h.offset_eq_byteSize] at hbytes
    rw [← String.utf8ByteSize_eq_zero_iff]
    omega
  tfae_finish

/-! ### Operations lead from places to places -/

theorem reaches_of_next? {ch : Char} (h : c.next? = some (ch, d)) : c.Reaches d := by
  unfold next? at h
  split at h
  case h_1 => cases h
  case h_2 first tail hrest =>
    obtain ⟨rfl, rfl⟩ := Prod.mk.inj (Option.some.inj h)
    exact reaches_advance_cons hrest

/-- A check that faults with `reason` where `p` does not hold. -/
theorem check_eq_error_iff {α : Type} {p : Prop} [Decidable p] {a : α} {reason cause : Fault} :
    (if p then .ok a else .error reason : Except Fault α) = .error cause ↔
      ¬ p ∧ cause = reason := by
  split
  case isTrue h => simp [h]
  case isFalse h => simp [h, eq_comm]

/-- Moving past a text is possible exactly if it comes next. -/
theorem advanceText_eq_error_iff {expected : String} {cause : Fault} :
    c.advanceText expected = .error cause ↔
      ¬ expected.toList <+: c.remaining.toList ∧ cause = .textMismatch expected := by
  rw [remaining_toList, ← List.isPrefixOf_iff_prefix]
  exact check_eq_error_iff

theorem reaches_of_advanceText {expected : String} (h : c.advanceText expected = .ok d) :
    c.Reaches d := by
  unfold advanceText at h
  split at h
  case isTrue hstart =>
    obtain rfl := Except.ok.inj h
    exact reaches_advance (List.isPrefixOf_iff_prefix.mp hstart)
  case isFalse => cases h

theorem initial_acceptedRun {σ : Type} (step : σ → Char → Bool × σ) (s : σ) (cs : List Char) :
    (acceptedRun step s cs).1 <+: cs := by
  induction cs generalizing s with
  | nil => exact List.nil_prefix
  | cons ch cs ih =>
      unfold acceptedRun
      split
      case h_1 s' _ => exact List.cons_prefix_cons.mpr ⟨rfl, ih s'⟩
      case h_2 => exact List.nil_prefix

theorem reaches_advanceWhileState {σ : Type} (c : Cursor) (step : σ → Char → Bool × σ) (s : σ) :
    c.Reaches (c.advanceWhileState step s).1 :=
  reaches_advance (initial_acceptedRun step s c.rest)

/-- Rewinding is possible exactly if the anchor is one of the same text. -/
theorem rewind_eq_error_iff {e : Cursor} {cause : Fault} :
    c.rewind e.anchor = .error cause ↔ c.source ≠ e.source ∧ cause = .foreignAnchor :=
  check_eq_error_iff

theorem Valid.of_rewind {e : Cursor} {other : Source} (hc : c.Valid text) (he : e.Valid other)
    (h : c.rewind e.anchor = .ok d) : d.Valid text := by
  unfold rewind anchor at h
  split at h
  case isTrue hsource =>
    rw [hc.source_eq, he.source_eq] at hsource
    rwa [← Except.ok.inj h, hsource]
  case isFalse => cases h

/-! ### Everything that can be obtained -/

/-- A cursor that operations lead to in `text`, as long as none of them faults. -/
inductive Obtained : Source → Cursor → Prop
  | start (text : Source) : Obtained text (start text)
  | locate {text : Source} {position : Nat} {c : Cursor} (h : locate text position = .ok c) :
    Obtained text c
  | next {text : Source} {c d : Cursor} {ch : Char} (hc : Obtained text c)
    (h : c.next? = some (ch, d)) : Obtained text d
  | advanceText {text : Source} {expected : String} {c d : Cursor} (hc : Obtained text c)
    (h : c.advanceText expected = .ok d) : Obtained text d
  /-- The predicate may have a state of its own. -/
  | advanceWhile {σ : Type} {text : Source} {c : Cursor} (hc : Obtained text c)
    (step : σ → Char → Bool × σ) (s : σ) : Obtained text (c.advanceWhileState step s).1
  /-- The anchor may be of any text, as far as that is possible. -/
  | rewind {text other : Source} {c d e : Cursor} (hc : Obtained text c) (he : Obtained other e)
    (h : c.rewind e.anchor = .ok d) : Obtained text d

/-- Every operation keeps to the places of its text, so all of them together do. -/
theorem Obtained.valid (h : Obtained text c) : c.Valid text := by
  induction h with
  | start text => exact valid_start text
  | locate h => exact valid_of_locate h
  | next _ h ih => exact ih.of_reaches (reaches_of_next? h)
  | advanceText _ h ih => exact ih.of_reaches (reaches_of_advanceText h)
  | advanceWhile _ step s ih => exact ih.of_reaches (reaches_advanceWhileState _ step s)
  | rewind _ _ h ihc ihe => exact ihc.of_rewind ihe h

/-- What is promised of a cursor of `text`. -/
structure Sound (text : Source) (c : Cursor) : Prop where
  position_le : c.position ≤ text.length
  offset_eq : c.offset = utf8Length (text.toList.take c.position)
  locate_eq : locate text c.position = .ok c
  remaining_eq : c.remaining = String.ofList (text.toList.drop c.position)
  /-- The end can be told from each of these. -/
  tfae_end : [c.isEmpty = true, c.peek? = none, c.remaining = "", c.position = text.length,
    c.offset = text.contents.utf8ByteSize].TFAE
  /-- The text can be cut at the byte offset, … -/
  boundary : (String.Pos.Raw.mk c.offset).IsValid text.contents
  /-- … and what is cut off there is the remaining text. -/
  bytes : text.contents.toByteArray.extract c.offset text.contents.utf8ByteSize =
    c.remaining.toByteArray

/-- **The two counts never drift apart.** Whatever operations lead to a cursor of a text, its
position and its byte offset agree, and so it is the only cursor of that text with this
position. From there, operations fault if and only if they are asked for a position beyond the
end, for a text that does not come next, or for a way back to an anchor of another text, which
may have the same contents. -/
theorem obtained_sound (h : Obtained text c) :
    Sound text c ∧
    (∀ d, Obtained text d → d.position = c.position → d = c) ∧
    (∀ position cause, locate text position = .error cause ↔
      text.length < position ∧ cause = .offsetOutOfRange position text.length) ∧
    (∀ expected cause, c.advanceText expected = .error cause ↔
      ¬ expected.toList <+: c.remaining.toList ∧ cause = .textMismatch expected) ∧
    ∀ other d, Obtained other d → ∀ cause, c.rewind d.anchor = .error cause ↔
      other ≠ text ∧ cause = .foreignAnchor := by
  have hc := h.valid
  refine ⟨?_, fun d hd hposition => hc.eq_of_position hd.valid hposition,
    fun _ _ => locate_eq_error_iff, fun _ _ => advanceText_eq_error_iff, fun other d hd cause => ?_⟩
  · exact
      { position_le := hc.position_le
        offset_eq := hc.offset_eq
        locate_eq := hc.locate_eq
        remaining_eq := congrArg String.ofList hc.rest_eq
        tfae_end := hc.tfae_end
        boundary := hc.isValid_offset
        bytes := hc.extract_bytes }
  · rw [rewind_eq_error_iff, hc.source_eq, hd.valid.source_eq, ne_comm]

/-- Scalars of one to four bytes, passed in four ways, and an anchor of a copy of the text. -/
theorem obtained_sound_widths :
    Sound "aé→😀 x" ⟨"aé→😀 x", 4, 10, [' ', 'x']⟩ ∧
      rewind ⟨"aé→😀 x", 4, 10, [' ', 'x']⟩ (anchor (start ⟨"aé→😀 x", 1⟩)) =
        .error .foreignAnchor := by
  have hlocate : locate "aé→😀 x" 1 = .ok ⟨"aé→😀 x", 1, 1, ['é', '→', '😀', ' ', 'x']⟩ := by rfl
  have hnext : next? ⟨"aé→😀 x", 1, 1, ['é', '→', '😀', ' ', 'x']⟩ =
      some ('é', ⟨"aé→😀 x", 2, 3, ['→', '😀', ' ', 'x']⟩) := by rfl
  have harrow : advanceText ⟨"aé→😀 x", 2, 3, ['→', '😀', ' ', 'x']⟩ "→" =
      .ok ⟨"aé→😀 x", 3, 6, ['😀', ' ', 'x']⟩ := by rfl
  have hthird : Obtained "aé→😀 x" ⟨"aé→😀 x", 3, 6, ['😀', ' ', 'x']⟩ :=
    .advanceText (.next (.locate hlocate) hnext) harrow
  have hfourth : Obtained "aé→😀 x" ⟨"aé→😀 x", 4, 10, [' ', 'x']⟩ :=
    .advanceWhile hthird (fun (_ : Unit) ch => (ch ≠ ' ', ())) ()
  obtain ⟨hsound, -, -, -, hrewind⟩ := obtained_sound hfourth
  exact ⟨hsound, (hrewind ⟨"aé→😀 x", 1⟩ _ (.start _) _).mpr ⟨by decide, rfl⟩⟩

end Backtrack.Cursor
