import Backtrack.Proofs.Places

/-!
# Backtrack.Proofs.Slices

**Cutting a text at cursors.** A cursor moves past the scalars that a predicate accepts, and
afterwards the text since an anchor can be asked for. The predicate may have a state, so what
it says of a scalar depends on the calls before. `Cursor.Accepts` is about a whole run of
calls, and `Cursor.IsLongestRun` says that a run ends only where it has to; there is one such
run (`IsLongestRun.unique`), and it is the one that is passed (`isLongestRun_acceptedRun`).

How often the predicate is called shows in nothing but its state. `Cursor.noting` is a
predicate that keeps a list of its calls, and no cursor can tell it from the one it is made of.

The text between two places is what the first one has left without what the second one has
left (`Valid.consumedSince_append_remaining`). From this one law it follows that neighbouring
pieces join without a gap and without an overlap.
-/

namespace Backtrack.Cursor

variable {c d : Cursor} {text : Source} {run cs : List Char}

/-! ### Calls one after the other -/

section Calls

variable {σ : Type} {step : σ → Char → Bool × σ} {s : σ} {ch : Char}

/-- The state that calls for the scalars of `run`, one after the other, lead to. -/
def stateAfter (step : σ → Char → Bool × σ) (s : σ) (run : List Char) : σ :=
  run.foldl (fun s ch => (step s ch).2) s

/-- Every call for a scalar of `run`, in the state that the calls before it lead to, answers
yes. -/
def Accepts (step : σ → Char → Bool × σ) (s : σ) (run : List Char) : Prop :=
  ∀ before ch after, run = before ++ ch :: after → (step (stateAfter step s before) ch).1 = true

theorem accepts_nil : Accepts step s [] := by
  intro before ch after h
  simp at h

theorem accepts_cons_iff :
    Accepts step s (ch :: run) ↔ (step s ch).1 = true ∧ Accepts step (step s ch).2 run := by
  constructor
  · intro h
    refine ⟨h [] ch run rfl, fun before ch' after hrun => ?_⟩
    exact h (ch :: before) ch' after (by rw [hrun, List.cons_append])
  · intro ⟨hyes, h⟩ before ch' after hrun
    cases before with
    | nil =>
        obtain ⟨rfl, -⟩ := List.cons.inj hrun
        exact hyes
    | cons first before =>
        obtain ⟨rfl, htail⟩ := List.cons.inj hrun
        exact h before ch' after htail

/-- `run` is the longest initial run of `cs` on which successive calls answer yes. -/
structure IsLongestRun (step : σ → Char → Bool × σ) (s : σ) (cs run : List Char) : Prop where
  initial : run <+: cs
  accepted : Accepts step s run
  longest : ∀ other, other <+: cs → Accepts step s other → other <+: run

theorem IsLongestRun.unique {run' : List Char} (h : IsLongestRun step s cs run)
    (h' : IsLongestRun step s cs run') : run = run' :=
  (h'.longest run h.initial h.accepted).eq_of_length_le
    (h.longest run' h'.initial h'.accepted).length_le

theorem isLongestRun_nil : IsLongestRun step s [] [] where
  initial := List.nil_prefix
  accepted := accepts_nil
  longest _ h _ := h

/-- A run does not begin with a scalar that is refused. -/
theorem isLongestRun_of_no (hno : (step s ch).1 = false) : IsLongestRun step s (ch :: cs) [] where
  initial := List.nil_prefix
  accepted := accepts_nil
  longest other hother haccepts := by
    cases other with
    | nil => exact List.nil_prefix
    | cons first other =>
        obtain ⟨rfl, -⟩ := List.cons_prefix_cons.mp hother
        simp [accepts_cons_iff, hno] at haccepts

theorem IsLongestRun.cons (hyes : (step s ch).1 = true)
    (h : IsLongestRun step (step s ch).2 cs run) :
    IsLongestRun step s (ch :: cs) (ch :: run) where
  initial := List.cons_prefix_cons.mpr ⟨rfl, h.initial⟩
  accepted := accepts_cons_iff.mpr ⟨hyes, h.accepted⟩
  longest other hother haccepts := by
    cases other with
    | nil => exact List.nil_prefix
    | cons first other =>
        obtain ⟨rfl, htail⟩ := List.cons_prefix_cons.mp hother
        have hrun := h.longest other htail (accepts_cons_iff.mp haccepts).2
        exact List.cons_prefix_cons.mpr ⟨rfl, hrun⟩

theorem acceptedRun_cons (step : σ → Char → Bool × σ) (s : σ) (ch : Char) (cs : List Char) :
    acceptedRun step s (ch :: cs) =
      if (step s ch).1 then
        (ch :: (acceptedRun step (step s ch).2 cs).1, (acceptedRun step (step s ch).2 cs).2)
      else ([], (step s ch).2) := by
  rcases hstep : step s ch with ⟨answer, s'⟩
  cases answer <;> simp [acceptedRun, hstep]

/-- The run that is passed goes as far as the predicate lets it. -/
theorem isLongestRun_acceptedRun (step : σ → Char → Bool × σ) (s : σ) (cs : List Char) :
    IsLongestRun step s cs (acceptedRun step s cs).1 := by
  induction cs generalizing s with
  | nil => exact isLongestRun_nil
  | cons ch cs ih =>
      rw [acceptedRun_cons]
      split
      case isTrue hyes => exact (ih (step s ch).2).cons hyes
      case isFalse hno => exact isLongestRun_of_no (by simpa using hno)

/-- One more call is made for the scalar behind the run, if there is one. -/
theorem acceptedRun_state (step : σ → Char → Bool × σ) (s : σ) (cs : List Char) :
    (acceptedRun step s cs).2 =
      stateAfter step s ((acceptedRun step s cs).1 ++
        (cs.drop (acceptedRun step s cs).1.length).head?.toList) := by
  induction cs generalizing s with
  | nil => rfl
  | cons ch cs ih =>
      rw [acceptedRun_cons]
      split
      case isTrue => simpa [stateAfter] using ih (step s ch).2
      case isFalse => simp [stateAfter]

/-! ### Taking note of calls -/

/-- A predicate like `step` that takes note of the scalars it is called for. -/
def noting (step : σ → Char → Bool × σ) (state : σ × List Char) (ch : Char) :
    Bool × (σ × List Char) :=
  let (answer, s) := step state.1 ch
  (answer, s, state.2 ++ [ch])

theorem stateAfter_noting (step : σ → Char → Bool × σ) (s : σ) (noted run : List Char) :
    stateAfter (noting step) (s, noted) run = (stateAfter step s run, noted ++ run) := by
  induction run generalizing s noted with
  | nil => simp [stateAfter]
  | cons ch run ih => simpa [stateAfter, noting] using ih (step s ch).2 (noted ++ [ch])

theorem accepts_noting_iff {noted : List Char} :
    Accepts (noting step) (s, noted) run ↔ Accepts step s run := by
  simp [Accepts, stateAfter_noting, noting]

/-- The notes are never looked at, so the same run is passed. -/
theorem IsLongestRun.noting {noted : List Char} (h : IsLongestRun step s cs run) :
    IsLongestRun (noting step) (s, noted) cs run where
  initial := h.initial
  accepted := accepts_noting_iff.mpr h.accepted
  longest other hother haccepts := h.longest other hother (accepts_noting_iff.mp haccepts)

end Calls

/-- Moving past what a predicate accepts, seen from outside: which run is passed, and which
calls are made. -/
theorem advanceWhileState_noting {σ : Type} (c : Cursor) (step : σ → Char → Bool × σ) (s : σ) :
    ∃ run, IsLongestRun step s c.rest run ∧ (c.advanceWhileState step s).1 = c.advance run ∧
      c.advanceWhileState (noting step) (s, []) =
        (c.advance run, (c.advanceWhileState step s).2, run ++ (c.advance run).peek?.toList) := by
  have hrun := isLongestRun_acceptedRun step s c.rest
  have hsame : (acceptedRun (noting step) (s, []) c.rest).1 = (acceptedRun step s c.rest).1 :=
    (isLongestRun_acceptedRun (noting step) (s, []) c.rest).unique hrun.noting
  refine ⟨_, hrun, rfl, ?_⟩
  -- the last state says which calls were made, and here it holds them as a list
  have hstate := acceptedRun_state (noting step) (s, []) c.rest
  rw [hsame, stateAfter_noting, ← acceptedRun_state step s c.rest, List.nil_append] at hstate
  exact Prod.ext (congrArg c.advance hsame) hstate

/-! ### The text between two places -/

theorem offset_advance (c : Cursor) (run : List Char) :
    (c.advance run).offset = c.offset + (String.ofList run).utf8ByteSize := by
  rw [← Text.utf8Length_toList, String.toList_ofList, advance]

/-- The bytes between a place and one that is reached from it are those of the scalars in
between. -/
theorem Valid.extract_bytes_advance (hc : c.Valid text) (hrun : run <+: c.rest) :
    text.contents.toByteArray.extract c.offset (c.advance run).offset =
      (String.ofList run).toByteArray := by
  obtain ⟨tail, htail⟩ := hrun
  have hremaining : c.remaining = String.ofList run ++ String.ofList tail := by
    rw [remaining, ← htail, String.ofList_append]
  -- what lies before the place is cut off first, then what lies behind the run
  rw [offset_advance, hc.text_eq, hremaining, String.toByteArray_append, String.toByteArray_append]
  show ByteArray.extract _ (c.offset + 0) _ = _
  rw [ByteArray.extract_append_size_add' hc.offset_eq_byteSize]
  exact ByteArray.extract_append_eq_left rfl

/-- Of two places of a text, the later one can be reached from the earlier one. -/
theorem Valid.reaches_of_le (hc : c.Valid text) (hd : d.Valid text)
    (hle : c.position ≤ d.position) : c.Reaches d := by
  have hinitial : c.rest.take (d.position - c.position) <+: c.rest := List.take_prefix _ _
  have hreaches := reaches_advance hinitial
  have hlength := hc.length_rest
  have hend := hd.position_le
  have hposition : (c.advance (c.rest.take (d.position - c.position))).position = d.position := by
    simp only [advance, List.length_take]
    omega
  rwa [hd.eq_of_position (hc.of_reaches hreaches) hposition] at hreaches

theorem Valid.offset_lt (hc : c.Valid text) (hd : d.Valid text) (hlt : c.position < d.position) :
    c.offset < d.offset := by
  obtain ⟨run, -, rfl⟩ := hc.reaches_of_le hd (Nat.le_of_lt hlt)
  have hbytes := Text.length_le_utf8Length run
  simp only [advance] at hlt ⊢
  omega

/-- The offsets of places are in the order of their positions. -/
theorem Valid.offset_lt_iff (hc : c.Valid text) (hd : d.Valid text) :
    c.offset < d.offset ↔ c.position < d.position := by
  refine ⟨fun h => ?_, hc.offset_lt hd⟩
  rcases Nat.lt_trichotomy c.position d.position with hlt | heq | hgt
  · exact hlt
  · rw [hd.eq_of_position hc heq] at h
    exact absurd h (Nat.lt_irrefl _)
  · exact absurd h (Nat.lt_asymm (hd.offset_lt hc hgt))

/-- What lies between two places is what the earlier one has left and the later one has not, and
these are the bytes between their offsets. -/
theorem Valid.consumedSince_append_remaining (hc : c.Valid text) (hd : d.Valid text)
    (hle : c.position ≤ d.position) :
    ∃ between, d.consumedSince c.anchor = .ok between ∧
      between ++ d.remaining = c.remaining ∧
      text.contents.toByteArray.extract c.offset d.offset = between.toByteArray := by
  obtain ⟨run, hrun, rfl⟩ := hc.reaches_of_le hd hle
  refine ⟨_, consumedSince_advance hrun, ?_, hc.extract_bytes_advance hrun⟩
  obtain ⟨tail, htail⟩ := hrun
  simp [remaining, advance, ← htail]

/-- There is no text between a cursor and an anchor exactly if the anchor is one of another text
or lies ahead. -/
theorem consumedSince_eq_error_iff {cause : Fault} :
    c.consumedSince d.anchor = .error cause ↔
      d.source ≠ c.source ∧ cause = .foreignAnchor ∨
      d.source = c.source ∧ c.position < d.position ∧ cause = .anchorAhead := by
  unfold consumedSince anchor
  by_cases hsource : d.source = c.source
  · by_cases hle : d.position ≤ c.position
    · simp [hsource, hle, Nat.not_lt.mpr hle]
    · simp [hsource, hle, Nat.lt_of_not_le hle, eq_comm]
  · simp [hsource, Ne.symm hsource, eq_comm]

/-- Neighbouring pieces of a text join to the piece that spans both. -/
theorem Valid.consumedSince_join {b : Cursor} (hc : c.Valid text) (hb : b.Valid text)
    (hd : d.Valid text) (hcb : c.position ≤ b.position) (hbd : b.position ≤ d.position)
    {between further : String} (hbetween : b.consumedSince c.anchor = .ok between)
    (hfurther : d.consumedSince b.anchor = .ok further) :
    d.consumedSince c.anchor = .ok (between ++ further) := by
  obtain ⟨first, hfirst, hleft, -⟩ := hc.consumedSince_append_remaining hb hcb
  obtain ⟨second, hsecond, hmiddle, -⟩ := hb.consumedSince_append_remaining hd hbd
  obtain ⟨whole, hwhole, hall, -⟩ := hc.consumedSince_append_remaining hd (Nat.le_trans hcb hbd)
  obtain rfl : first = between := Except.ok.inj (hfirst.symm.trans hbetween)
  obtain rfl : second = further := Except.ok.inj (hsecond.symm.trans hfurther)
  -- both make up what is left at `c` if what is left at `d` is put behind them
  have hsame : whole ++ d.remaining = first ++ second ++ d.remaining := by
    rw [hall, String.append_assoc, hmiddle, hleft]
  rw [hwhole, (String.append_left_inj _).mp hsame]

/-! ### Runs and pieces -/

/-- Moving from `c` past what a predicate accepts passes `run` and leads to `d`. -/
structure Passed {σ : Type} (text : Source) (c : Cursor) (step : σ → Char → Bool × σ) (s : σ)
    (run : List Char) (d : Cursor) : Prop where
  longest : IsLongestRun step s c.rest run
  advanceWhile_eq : (c.advanceWhileState step s).1 = d
  valid : d.Valid text
  position_eq : d.position = c.position + run.length
  /-- The calls that are made are those for the run and for the scalar behind it, … -/
  noting_eq : c.advanceWhileState (noting step) (s, []) =
    (d, (c.advanceWhileState step s).2, run ++ d.peek?.toList)
  /-- … which is one more than the run is long, unless the text ends there. -/
  length_calls : (run ++ d.peek?.toList).length =
    run.length + if d.position = text.length then 0 else 1

theorem Valid.exists_passed {σ : Type} (hc : c.Valid text) (step : σ → Char → Bool × σ) (s : σ) :
    ∃ run d, Passed text c step s run d := by
  obtain ⟨run, hlongest, hreached, hnoting⟩ := advanceWhileState_noting c step s
  have hvalid := hc.of_reaches (reaches_advance hlongest.initial)
  refine ⟨run, c.advance run, hlongest, hreached, hvalid, rfl, hnoting, ?_⟩
  have hend := hvalid.tfae_end.out 1 3
  cases hpeek : (c.advance run).peek? with
  | none => simp [hend.mp hpeek]
  | some ch =>
      have hmore : (c.advance run).position ≠ text.length := by
        rw [ne_eq, ← hend, hpeek]
        simp
      simp [hmore]

/-- **Cursors cut a text exactly.** From a place `c` of a text, a predicate with or without a
state leads just behind the longest run that it accepts, with one call for each scalar of the
run and one more unless the text ends there. The text between `c` and a later place, with what is
left there, is what is left at `c`; pieces up to two later places join; and they are what is cut
out of the text at the byte offsets. There is no such piece exactly if the anchor belongs to
another text, which may have the same contents, or lies ahead. -/
theorem places_cut_text (hc : c.Valid text) :
    (∀ (σ : Type) (step : σ → Char → Bool × σ) (s : σ), ∃ run d, Passed text c step s run d) ∧
    (∀ accept : Char → Bool, ∃ run d,
      Passed text c (fun (_ : Unit) ch => (accept ch, ())) () run d ∧ c.advanceWhile accept = d) ∧
    (∀ b d : Cursor, b.Valid text → d.Valid text →
      c.position ≤ b.position → b.position ≤ d.position →
      ∃ between further,
        b.consumedSince c.anchor = .ok between ∧ d.consumedSince b.anchor = .ok further ∧
        between ++ b.remaining = c.remaining ∧
        d.consumedSince c.anchor = .ok (between ++ further) ∧
        text.contents.toByteArray.extract c.offset b.offset = between.toByteArray) ∧
    (∀ (other : Source) (d : Cursor), d.Valid other → ∀ cause,
      c.consumedSince d.anchor = .error cause ↔
      other ≠ text ∧ cause = .foreignAnchor ∨
      other = text ∧ c.position < d.position ∧ cause = .anchorAhead) ∧
    ∀ d : Cursor, d.Valid text → (c.offset < d.offset ↔ c.position < d.position) := by
  refine ⟨fun σ step s => hc.exists_passed step s, ?_, ?_, ?_, fun d hd => hc.offset_lt_iff hd⟩
  · intro accept
    obtain ⟨run, d, hpassed⟩ := hc.exists_passed (fun (_ : Unit) ch => (accept ch, ())) ()
    exact ⟨run, d, hpassed, hpassed.advanceWhile_eq⟩
  · intro b d hb hd hcb hbd
    obtain ⟨between, hbetween, hleft, hbytes⟩ := hc.consumedSince_append_remaining hb hcb
    obtain ⟨further, hfurther, -, -⟩ := hb.consumedSince_append_remaining hd hbd
    have hjoined := hc.consumedSince_join hb hd hcb hbd hbetween hfurther
    exact ⟨between, further, hbetween, hfurther, hleft, hjoined, hbytes⟩
  · intro other d hd cause
    rw [consumedSince_eq_error_iff, hc.source_eq, hd.source_eq]

/-- Scalars of one to four bytes, a predicate that accepts two scalars whatever they are, and
anchors behind and ahead of their cursors, and in a copy of the text. -/
theorem places_cut_text_widths :
    (∃ run d, Passed "aé→😀 x" ⟨"aé→😀 x", 1, 1, ['é', '→', '😀', ' ', 'x']⟩
      (fun (left : Nat) _ => (decide (0 < left), left - 1)) 2 run d) ∧
    (∃ between further,
      consumedSince ⟨"aé→😀 x", 3, 6, ['😀', ' ', 'x']⟩
        (anchor ⟨"aé→😀 x", 1, 1, ['é', '→', '😀', ' ', 'x']⟩) = .ok between ∧
      consumedSince ⟨"aé→😀 x", 4, 10, [' ', 'x']⟩
        (anchor ⟨"aé→😀 x", 3, 6, ['😀', ' ', 'x']⟩) = .ok further ∧
      between ++ "😀 x" = "é→😀 x" ∧
      consumedSince ⟨"aé→😀 x", 4, 10, [' ', 'x']⟩
        (anchor ⟨"aé→😀 x", 1, 1, ['é', '→', '😀', ' ', 'x']⟩) = .ok (between ++ further) ∧
      "aé→😀 x".toByteArray.extract 1 6 = between.toByteArray) ∧
    consumedSince ⟨"aé→😀 x", 1, 1, ['é', '→', '😀', ' ', 'x']⟩
      (anchor ⟨"aé→😀 x", 3, 6, ['😀', ' ', 'x']⟩) = .error .anchorAhead ∧
    consumedSince ⟨"aé→😀 x", 1, 1, ['é', '→', '😀', ' ', 'x']⟩
      (anchor (start ⟨"aé→😀 x", 1⟩)) = .error .foreignAnchor := by
  have hfirst : locate "aé→😀 x" 1 = .ok ⟨"aé→😀 x", 1, 1, ['é', '→', '😀', ' ', 'x']⟩ := by rfl
  have hthird : locate "aé→😀 x" 3 = .ok ⟨"aé→😀 x", 3, 6, ['😀', ' ', 'x']⟩ := by rfl
  have hfourth : locate "aé→😀 x" 4 = .ok ⟨"aé→😀 x", 4, 10, [' ', 'x']⟩ := by rfl
  obtain ⟨hpassed, -, hpieces, hfaults, -⟩ := places_cut_text (valid_of_locate hfirst)
  refine ⟨hpassed _ _ _, ?_, ?_, ?_⟩
  · exact hpieces _ _ (valid_of_locate hthird) (valid_of_locate hfourth) (by decide) (by decide)
  · exact (hfaults _ _ (valid_of_locate hthird) _).mpr (.inr ⟨rfl, by decide, rfl⟩)
  · exact (hfaults _ _ (valid_start _) _).mpr (.inl ⟨by decide, rfl⟩)

end Backtrack.Cursor
