import Backtrack.Cursor

/-!
# Backtrack.Proofs.Reach

**Going forward in a text.** A cursor *reaches* another one if moving past a run of
scalars that comes next leads from the first to the second. That is all a well-behaved
parser ever does with its cursor, so most of what a match promises can be read off
`Cursor.Reaches`:

* it is a preorder, and along it the sum of position and scalars left is constant;
* an anchor taken before can be rewound to, and the text since then can be asked for;
* `Cursor.Valid`, the agreement of a cursor's two counts and its rest with the text, is
  kept.

A cursor that `Cursor.locate` finds within a text is valid there.
-/

namespace Backtrack.Cursor

open Backtrack.Text (utf8Length)

variable {c d e : Cursor} {text : Source}

/-! ### Reaching -/

/-- Moving past a run that comes next leads from `c` to `d`. -/
def Reaches (c d : Cursor) : Prop := ∃ run, run <+: c.rest ∧ d = c.advance run

theorem reaches_advance {run : List Char} (h : run <+: c.rest) : c.Reaches (c.advance run) :=
  ⟨run, h, rfl⟩

theorem Reaches.refl (c : Cursor) : c.Reaches c := ⟨[], List.nil_prefix, by simp⟩

theorem Reaches.trans (hd : c.Reaches d) (he : d.Reaches e) : c.Reaches e := by
  obtain ⟨first, hfirst, rfl⟩ := hd
  obtain ⟨second, hsecond, rfl⟩ := he
  refine ⟨first ++ second, ?_, advance_advance c first second⟩
  obtain ⟨tail, htail⟩ := hfirst
  have hrest : (c.advance first).rest = tail := by simp [advance, ← htail]
  rw [hrest] at hsecond
  rw [← htail]
  exact (List.prefix_append_right_inj first).mpr hsecond

theorem Reaches.source_eq (h : c.Reaches d) : d.source = c.source := by
  obtain ⟨run, -, rfl⟩ := h
  rfl

/-- What is before a cursor and what is after it always make up the same total. -/
theorem Reaches.total_eq (h : c.Reaches d) :
    d.position + d.rest.length = c.position + c.rest.length := by
  obtain ⟨run, hrun, rfl⟩ := h
  have hlen := hrun.length_le
  simp only [advance, List.length_drop]
  omega

theorem Reaches.position_le (h : c.Reaches d) : c.position ≤ d.position := by
  obtain ⟨run, -, rfl⟩ := h
  exact Nat.le_add_right _ _

theorem Reaches.length_le (h : c.Reaches d) : d.rest.length ≤ c.rest.length := by
  have hpos := h.position_le
  have htotal := h.total_eq
  omega

/-- Behind at least one scalar, strictly fewer are left. -/
theorem Reaches.length_lt (h : c.Reaches d) (hpos : c.position < d.position) :
    d.rest.length < c.rest.length := by
  have htotal := h.total_eq
  omega

/-! ### Coming back from what was reached -/

theorem Reaches.rewind_eq (h : c.Reaches d) : d.rewind c.anchor = .ok c := by
  simp [rewind, anchor, h.source_eq]

theorem consumedSince_advance {run : List Char} (h : run <+: c.rest) :
    (c.advance run).consumedSince c.anchor = .ok (String.ofList run) := by
  have htake : c.rest.take run.length = run := (List.prefix_iff_eq_take.mp h).symm
  simp [consumedSince, anchor, advance, htake]

/-! ### Steps of the primitives -/

theorem reaches_advance_cons {ch : Char} {tail : List Char} (h : c.rest = ch :: tail) :
    c.Reaches (c.advance [ch]) :=
  reaches_advance (by simp [h])

theorem reaches_advanceWhile (c : Cursor) (accept : Char → Bool) :
    c.Reaches (c.advanceWhile accept) := by
  rw [advanceWhile_eq]
  exact reaches_advance (List.takeWhile_prefix accept)

/-! ### Places of a text -/

/-- `c` is a place of `text`: its two counts and its rest agree with each other. In
particular the byte offset lies between two scalars, so the text can be cut there. -/
structure Valid (c : Cursor) (text : Source) : Prop where
  source_eq : c.source = text
  position_le : c.position ≤ text.length
  offset_eq : c.offset = utf8Length (text.toList.take c.position)
  rest_eq : c.rest = text.toList.drop c.position

theorem valid_start (text : Source) : (start text).Valid text where
  source_eq := rfl
  position_le := Nat.zero_le _
  offset_eq := by simp [start]
  rest_eq := by simp [start]

theorem Valid.length_rest (h : c.Valid text) : c.rest.length = text.length - c.position := by
  rw [h.rest_eq, List.length_drop, String.length_toList]

/-- What is reached from a place of a text is a place of it. -/
theorem Valid.of_reaches (h : c.Valid text) (hd : c.Reaches d) : d.Valid text := by
  have hlen := h.length_rest
  have hle := h.position_le
  have htotal := hd.total_eq
  obtain ⟨run, hrun, rfl⟩ := hd
  obtain ⟨tail, htail⟩ := hrun
  have hsplit : text.toList.drop c.position = run ++ tail := by rw [← h.rest_eq, htail]
  refine ⟨h.source_eq, by omega, ?_, ?_⟩
  · have htake : text.toList.take (c.position + run.length) =
        text.toList.take c.position ++ run := by
      rw [List.take_add, hsplit, List.take_left]
    simp [advance, htake, h.offset_eq]
  · simp [advance, h.rest_eq, List.drop_drop]

theorem forward_of_le {count : Nat} (h : count ≤ c.rest.length) :
    c.forward count = (c.advance (c.rest.take count), 0) := by
  induction count generalizing c with
  | zero => simp [forward]
  | succ count ih =>
      cases hrest : c.rest with
      | nil => simp [hrest] at h
      | cons ch tail =>
          have htail : (c.advance [ch]).rest = tail := by simp [advance, hrest]
          have hle : count ≤ (c.advance [ch]).rest.length := by
            rw [htail]
            simpa [hrest] using h
          rw [forward, next?, hrest]
          simp only [ih hle, htail, advance_advance, List.take_succ_cons, List.singleton_append]

/-- Every position up to the end of a text has a cursor there. -/
theorem locate_eq_ok {position : Nat} (h : position ≤ text.length) :
    ∃ c, locate text position = .ok c ∧ c.Valid text ∧ c.position = position := by
  have hlen : position ≤ (start text).rest.length := by
    rwa [start, String.length_toList]
  have hreach : (start text).Reaches ((start text).advance ((start text).rest.take position)) :=
    reaches_advance (List.take_prefix position _)
  refine ⟨_, by rw [locate, forward_of_le hlen], (valid_start text).of_reaches hreach, ?_⟩
  simp [start, advance, String.length_toList, Nat.min_eq_left h]

end Backtrack.Cursor
