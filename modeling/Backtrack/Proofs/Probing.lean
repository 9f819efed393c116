import Backtrack.Proofs.Conduct
import Backtrack.Proofs.Reading
import Backtrack.Proofs.Slices
import Mathlib.Order.Bounds.Basic

/-!
# Backtrack.Proofs.Probing

**Where the search for a delimiter ends.** `charactersUntil` asks its delimiter at one place
after the other, and only whether it matches. So all that counts about a delimiter is at
which places it does: how much it would take, where it would end and what it does to the
cursor when it fails is never looked at. It may match without consuming anything, go
backwards, or answer with a cursor of another text.

`charactersUntil_stops_leftmost` says that the search ends at the least position from its
entry on where the delimiter matches, or at the end of the text, and gives the text in
between. The only thing asked of the delimiter is that it has a reply.
-/

namespace Backtrack

namespace Parser

variable {β : Type} {text : Source} {delimiter : Parser Silent β} {c : Cursor}
variable {run rest : List Char}

/-! ### The first stop -/

/-- A parser that has a reply everywhere matches or misses. -/
theorem Answers.matches_or_misses (hd : delimiter.Answers text) (hc : c.Valid text) :
    delimiter.Matches c ∨ delimiter.Misses c := by
  obtain ⟨reply, hparse⟩ := hd c hc
  cases reply with
  | done value rest => exact .inl ⟨value, rest, hparse⟩
  | fail failed => exact .inr ⟨failed, hparse⟩

theorem FirstStop.cons {ch : Char} (hmiss : delimiter.Misses c)
    (hrest : c.rest = ch :: (run ++ rest))
    (h : FirstStop delimiter (c.advance [ch]) run rest) :
    FirstStop delimiter c (ch :: run) rest where
  rest_eq := hrest
  misses before ch' after hrun := by
    cases before with
    | nil => rwa [Cursor.advance_nil]
    | cons first before =>
        obtain ⟨rfl, htail⟩ := List.cons.inj hrun
        have hlater := h.misses before ch' after htail
        rwa [Cursor.advance_advance] at hlater
  stops := by
    have hstops := h.stops
    rwa [Cursor.advance_advance] at hstops

theorem exists_firstStop (hd : delimiter.Answers text) (hc : c.Valid text) :
    ∃ run rest, FirstStop delimiter c run rest := by
  induction hcs : c.rest generalizing c with
  | nil => exact ⟨[], [], hcs, by simp, .inl rfl⟩
  | cons ch tail ih =>
      rcases hd.matches_or_misses hc with hmatch | hmiss
      · refine ⟨[], ch :: tail, hcs, by simp, .inr ?_⟩
        rwa [Cursor.advance_nil]
      · have hnext : (c.advance [ch]).rest = tail := rest_advance hcs
        have hstep := Cursor.reaches_advance_cons hcs
        obtain ⟨run, rest, hstop⟩ := ih (hc.of_reaches hstep) hnext
        refine ⟨ch :: run, rest, hstop.cons hmiss ?_⟩
        rw [hcs, ← hnext, hstop.rest_eq]

theorem FirstStop.initial (h : FirstStop delimiter c run rest) : run <+: c.rest :=
  ⟨rest, h.rest_eq.symm⟩

theorem FirstStop.valid (h : FirstStop delimiter c run rest) (hc : c.Valid text)
    {before : List Char} (hbefore : before <+: run) : (c.advance before).Valid text :=
  hc.of_reaches (Cursor.reaches_advance (hbefore.trans h.initial))

/-- What a delimiter does to the cursor is not looked at: another one that matches at the same
places has the same first stop. -/
theorem FirstStop.congr {γ : Type} {other : Parser Silent γ} (h : FirstStop delimiter c run rest)
    (hc : c.Valid text) (hother : other.Answers text)
    (hsame : ∀ d : Cursor, d.Valid text → (other.Matches d ↔ delimiter.Matches d)) :
    FirstStop other c run rest where
  rest_eq := h.rest_eq
  misses before ch after hrun := by
    have hvalid := h.valid hc ⟨ch :: after, hrun.symm⟩
    have hmiss := h.misses before ch after hrun
    rcases hother.matches_or_misses hvalid with hmatch | hmiss'
    · exact absurd hmiss ((hsame _ hvalid).mp hmatch).not_misses
    · exact hmiss'
  stops := h.stops.imp_right (hsame _ (h.valid hc (List.prefix_refl run))).mpr

/-! ### The least position -/

/-- The positions of `text` from `entry` on at which a search may end. -/
def stopPositions (delimiter : Parser Silent β) (text : Source) (entry : Nat) : Set Nat :=
  {k | entry ≤ k ∧
    (k = text.length ∨ ∃ d, Cursor.locate text k = .ok d ∧ delimiter.Matches d)}

theorem FirstStop.mem_stopPositions (h : FirstStop delimiter c run rest) (hc : c.Valid text) :
    (c.advance run).position ∈ stopPositions delimiter text c.position := by
  have hvalid := h.valid hc (List.prefix_refl run)
  refine ⟨Nat.le_add_right _ _, ?_⟩
  rcases h.stops with hnil | hmatch
  · have hend : (c.advance run).isEmpty = true := by
      rw [Cursor.isEmpty, rest_advance h.rest_eq, hnil, List.isEmpty_nil]
    exact .inl ((hvalid.tfae_end.out 0 3).mp hend)
  · exact .inr ⟨_, hvalid.locate_eq, hmatch⟩

/-- A search may not end at a place that it has passed. -/
theorem FirstStop.not_mem_stopPositions (h : FirstStop delimiter c run rest) (hc : c.Valid text)
    {before after : List Char} {ch : Char} (hrun : run = before ++ ch :: after) :
    (c.advance before).position ∉ stopPositions delimiter text c.position := by
  have hvalid := h.valid hc ⟨ch :: after, hrun.symm⟩
  rintro ⟨-, hend | ⟨d, hlocate, hmatch⟩⟩
  · have hempty : (c.advance before).isEmpty = true := (hvalid.tfae_end.out 0 3).mpr hend
    have hbehind : (c.advance before).rest = ch :: after ++ rest :=
      rest_advance (by rw [h.rest_eq, hrun, List.append_assoc])
    rw [Cursor.isEmpty, hbehind] at hempty
    cases hempty
  · rw [hvalid.locate_eq] at hlocate
    obtain rfl := Except.ok.inj hlocate
    exact hmatch.not_misses (h.misses before ch after hrun)

theorem FirstStop.isLeast (h : FirstStop delimiter c run rest) (hc : c.Valid text) :
    IsLeast (stopPositions delimiter text c.position) (c.advance run).position := by
  refine ⟨h.mem_stopPositions hc, fun k hk => ?_⟩
  by_contra hlt
  obtain ⟨passed, rfl⟩ := Nat.exists_eq_add_of_le hk.1
  have hpassed : passed < run.length := by
    simpa [Cursor.advance] using Nat.lt_of_not_le hlt
  obtain ⟨before, ch, after, hrun, rfl⟩ := exists_eq_append_cons hpassed
  exact h.not_mem_stopPositions hc hrun hk

/-- **The search for a delimiter ends at its leftmost match.** Whatever the delimiter is, as
long as it has a reply at the places of the text: `charactersUntil` matches, and ends in the
same text, at the least position from its entry on where the delimiter matches or the text
ends. Its value is the text in between, scalar for scalar and byte for byte. Any other
delimiter that matches at the same places gives the same. -/
theorem charactersUntil_stops_leftmost (hd : delimiter.Answers text) (hc : c.Valid text) :
    ∃ passed stop, (charactersUntil delimiter).parse c = .ok (.done passed stop) ∧
      stop.Valid text ∧
      IsLeast (stopPositions delimiter text c.position) stop.position ∧
      passed ++ stop.remaining = c.remaining ∧
      passed.length = stop.position - c.position ∧
      text.contents.toByteArray.extract c.offset stop.offset = passed.toByteArray ∧
      ∀ {γ : Type} (other : Parser Silent γ), other.Answers text →
        (∀ d : Cursor, d.Valid text → (other.Matches d ↔ delimiter.Matches d)) →
        (charactersUntil other).parse c = .ok (.done passed stop) := by
  obtain ⟨run, rest, hstop⟩ := exists_firstStop hd hc
  refine ⟨String.ofList run, c.advance run, hstop.parse_charactersUntil,
    hstop.valid hc (List.prefix_refl run), hstop.isLeast hc, ?_, ?_,
    hc.extract_bytes_advance hstop.initial, fun other hother hsame => ?_⟩
  · rw [Cursor.remaining, Cursor.remaining, rest_advance hstop.rest_eq, hstop.rest_eq,
      String.ofList_append]
  · simp [Cursor.advance]
  · exact (hstop.congr hc hother hsame).parse_charactersUntil

/-- Matches at two dashes, and then ends in another text; fails two scalars ahead. -/
def stranger : Parser Silent Value :=
  first [(pair (literal "--") ((Grammar.foreignDone "x").interpret [] 0)).map Prod.snd,
    (Grammar.leak 2).interpret [] 0]

theorem stranger_parse (c : Cursor) :
    stranger.parse c =
      .ok (if ['-', '-'] <+: c.rest then .done .unit (Cursor.start "x")
        else .fail (c.forward 2).1) := by
  have hdashes : "--".toList = ['-', '-'] := rfl
  by_cases h : ['-', '-'] <+: c.rest
  · simp [stranger, first, firstFrom, Parser.map, pair, literal_parse, hdashes, h,
      Grammar.foreignDone, custom_parse]
  · simp [stranger, first, firstFrom, Parser.map, pair, literal_parse, hdashes, h, failBack,
      Grammar.leak, custom_parse]

/-- The single dash at the entry is passed, and the stranger gives what the literal gives. -/
theorem charactersUntil_stops_leftmost_stranger :
    stranger.Answers "é-b--c" ∧
    (charactersUntil stranger).parse ⟨"é-b--c", 1, 2, ['-', 'b', '-', '-', 'c']⟩ =
      .ok (.done "-b" ⟨"é-b--c", 3, 4, ['-', '-', 'c']⟩) ∧
    IsLeast (stopPositions stranger "é-b--c" 1) 3 ∧
    (charactersUntil (literal "--")).parse ⟨"é-b--c", 1, 2, ['-', 'b', '-', '-', 'c']⟩ =
      (.ok (.done "-b" ⟨"é-b--c", 3, 4, ['-', '-', 'c']⟩) : Silent _) := by
  have hvalid : (⟨"é-b--c", 1, 2, ['-', 'b', '-', '-', 'c']⟩ : Cursor).Valid "é-b--c" :=
    Cursor.valid_of_locate (rfl : Cursor.locate "é-b--c" 1 = .ok _)
  have hanswers : stranger.Answers "é-b--c" := fun c _ => ⟨_, stranger_parse c⟩
  have hliteral : (literal "--" : Parser Silent Unit).Answers "é-b--c" :=
    fun c _ => ⟨_, literal_parse "--" c⟩
  have hsame : ∀ d : Cursor, d.Valid "é-b--c" →
      ((literal "--" : Parser Silent Unit).Matches d ↔ stranger.Matches d) := by
    intro d _
    have hdashes : "--".toList = ['-', '-'] := rfl
    by_cases h : ['-', '-'] <+: d.rest
    · simp [Matches, literal_parse, stranger_parse, hdashes, h]
    · simp [Matches, literal_parse, stranger_parse, hdashes, h]
  have hparse : (charactersUntil stranger).parse ⟨"é-b--c", 1, 2, ['-', 'b', '-', '-', 'c']⟩ =
      .ok (.done "-b" ⟨"é-b--c", 3, 4, ['-', '-', 'c']⟩) := by rfl
  obtain ⟨passed, stop, hfound, -, hleast, -, -, -, hother⟩ :=
    charactersUntil_stops_leftmost hanswers hvalid
  obtain ⟨rfl, rfl⟩ := Reply.done.inj (Except.ok.inj (hparse.symm.trans hfound))
  exact ⟨hanswers, hparse, hleast, hother _ hliteral hsame⟩

end Parser

end Backtrack
