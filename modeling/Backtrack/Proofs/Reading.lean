import Backtrack.Parser.Choice
import Backtrack.Parser.Repeat
import Backtrack.Proofs.Reach
import Backtrack.Proofs.Silent

/-!
# Backtrack.Proofs.Reading

**What a parser reads off a text.** `Reads p run a rest` says that where the text goes on
with `run` and then `rest`, the parser `p` matches `run` and gives `a`; `Refuses p cs` says
that it fails where the text goes on with `cs`. Neither depends on what came before, so a
run can be followed through a composite parser by looking at the scalars alone.

There is one rule for each way in which a combinator can go. The rounds of a repetition
are a relation of their own (`Repeats`), since there can be any number of them; the rule
for `many` adds the first element. A search for a delimiter only asks whether it matches,
so its rule rests on a weaker notion, the first place where that is the case (`FirstStop`).
-/

namespace Backtrack

/-! ### Runs of scalars -/

/-- A run that goes as far as `accept` does is what is taken. -/
theorem takeWhile_append_eq {accept : Char → Bool} {run rest : List Char}
    (hrun : ∀ ch ∈ run, accept ch = true) (hrest : ∀ ch ∈ rest.head?, accept ch = false) :
    (run ++ rest).takeWhile accept = run := by
  have hstop : rest.takeWhile accept = [] := by
    cases rest with
    | nil => rfl
    | cons ch rest => simp [hrest ch rfl]
  rw [List.takeWhile_append_of_pos hrun, hstop, List.append_nil]

/-- A run of more than `passed` scalars goes on behind these. -/
theorem exists_eq_append_cons {run : List Char} {passed : Nat} (h : passed < run.length) :
    ∃ before ch after, run = before ++ ch :: after ∧ before.length = passed := by
  refine ⟨run.take passed, run[passed], run.drop (passed + 1), ?_, ?_⟩
  · rw [← List.drop_eq_getElem_cons h, List.take_append_drop]
  · rw [List.length_take, Nat.min_eq_left (Nat.le_of_lt h)]

/-- The first scalar that `dropWhile` keeps is one that it does not drop. -/
theorem head?_dropWhile_eq_false (accept : Char → Bool) (cs : List Char) :
    ∀ ch ∈ (cs.dropWhile accept).head?, accept ch = false := by
  intro ch hch
  have hstop := List.head?_dropWhile_not accept cs
  rwa [Option.mem_def.mp hch] at hstop

end Backtrack

namespace Backtrack.Parser

variable {α β γ : Type}

/-- Where the text goes on with `run ++ rest`, `p` matches `run` and gives `a`. -/
def Reads (p : Parser Silent α) (run : List Char) (a : α) (rest : List Char) : Prop :=
  ∀ c : Cursor, c.rest = run ++ rest → p.parse c = .ok (.done a (c.advance run))

/-- Where the text goes on with `cs`, `p` fails and stays where it is. -/
def Refuses (p : Parser Silent α) (cs : List Char) : Prop :=
  ∀ c : Cursor, c.rest = cs → p.parse c = .ok (.fail c)

variable {p : Parser Silent α} {q : Parser Silent β} {r : Parser Silent γ}
variable {run more rest cs : List Char} {a : α} {b : β} {x : γ}

/-- Behind a run that was read, the text goes on with what came after it. -/
theorem rest_advance {c : Cursor} (h : c.rest = run ++ rest) : (c.advance run).rest = rest := by
  simp [Cursor.advance, h]

/-! ### Parsers without parts -/

theorem reads_literal (expected : String) (rest : List Char) :
    (literal expected).Reads expected.toList () rest := by
  intro c hc
  rw [literal_parse, hc, if_pos (List.prefix_append _ _)]

theorem refuses_literal {expected : String} (h : ¬ expected.toList <+: cs) :
    (literal expected).Refuses cs := by
  intro c hc
  rw [literal_parse, hc, if_neg h]

theorem reads_scalar (expected : String) (ch : Char) (hch : expected.toList = [ch])
    (rest : List Char) : (literal expected).Reads [ch] () rest := by
  have hreads := reads_literal expected rest
  rwa [hch] at hreads

theorem refuses_scalar (expected : String) (ch : Char) (hch : expected.toList = [ch])
    (h : cs.head? ≠ some ch) : (literal expected).Refuses cs := by
  refine refuses_literal ?_
  rwa [hch, List.singleton_prefix_iff_head?_eq_some]

theorem reads_skipBlank (hrun : ∀ ch ∈ run, Text.isBlank ch = true)
    (hrest : ∀ ch ∈ rest.head?, Text.isBlank ch = false) : skipBlank.Reads run () rest := by
  intro c hc
  rw [skipBlank_parse, hc, takeWhile_append_eq hrun hrest]

theorem reads_always (value : α) (rest : List Char) : (always value).Reads [] value rest := by
  intro c _
  rw [Cursor.advance_nil]
  rfl

theorem reads_notAtEnd (h : cs ≠ []) : notAtEnd.Reads [] () cs := by
  intro c hc
  have hempty : c.isEmpty = false := by simpa [Cursor.isEmpty, hc] using h
  simp [notAtEnd, hempty]

theorem refuses_notAtEnd : notAtEnd.Refuses [] := by
  intro c hc
  simp [notAtEnd, Cursor.isEmpty, hc]

/-! ### Sequences -/

theorem Reads.map {f : α → β} (h : p.Reads run a rest) : (p.map f).Reads run (f a) rest := by
  intro c hc
  simp [Parser.map, h c hc, Reply.map]

theorem Refuses.map {f : α → β} (h : p.Refuses cs) : (p.map f).Refuses cs := by
  intro c hc
  simp [Parser.map, h c hc, Reply.map]

theorem Reads.pair (hp : p.Reads run a (more ++ rest)) (hq : q.Reads more b rest) :
    (pair p q).Reads (run ++ more) (a, b) rest := by
  intro c hc
  rw [List.append_assoc] at hc
  simp [Parser.pair, hp c hc, hq _ (rest_advance hc), Cursor.advance_advance]

theorem Refuses.pair (hp : p.Refuses cs) : (pair p q).Refuses cs := by
  intro c hc
  simp [Parser.pair, hp c hc, failBack]

theorem reads_comma (hrun : ∀ ch ∈ run, Text.isBlank ch = true)
    (hrest : ∀ ch ∈ rest.head?, Text.isBlank ch = false) : comma.Reads (',' :: run) () rest :=
  ((reads_scalar "," ',' rfl _).pair (reads_skipBlank hrun hrest)).map

theorem refuses_comma (h : cs.head? ≠ some ',') : comma.Refuses cs :=
  Refuses.map (Refuses.pair (refuses_scalar "," ',' rfl h))

theorem Reads.between {closing : List Char} (hp : p.Reads run a (more ++ (closing ++ rest)))
    (hq : q.Reads more b (closing ++ rest)) (hr : r.Reads closing x rest) :
    (between p q r).Reads (run ++ (more ++ closing)) b rest := by
  intro c hc
  simp only [List.append_assoc] at hc
  have hmore := rest_advance hc
  have hclosing := hr _ (rest_advance hmore)
  simp only [Cursor.advance_advance, List.append_assoc] at hclosing
  simp [Parser.between, hp c hc, hq _ hmore, Cursor.advance_advance, hclosing]

theorem Refuses.between_opening (hp : p.Refuses cs) : (between p q r).Refuses cs := by
  intro c hc
  simp [Parser.between, hp c hc, failBack]

/-- Without the closing part, what was read before it is given back. -/
theorem Refuses.between_closing (hp : p.Reads run a (more ++ rest)) (hq : q.Reads more b rest)
    (hr : r.Refuses rest) : (between p q r).Refuses (run ++ (more ++ rest)) := by
  intro c hc
  have hmore := rest_advance hc
  simp [Parser.between, hp c hc, hq _ hmore, hr _ (rest_advance hmore), failBack,
    Cursor.rewind, Cursor.anchor]

section Sequence

variable {p q r : Parser Silent α} {a b x : α} {closing : List Char}

theorem Reads.sequence_three (hp : p.Reads run a (more ++ (closing ++ rest)))
    (hq : q.Reads more b (closing ++ rest)) (hr : r.Reads closing x rest) :
    (sequence [p, q, r]).Reads (run ++ (more ++ closing)) [a, b, x] rest := by
  intro c hc
  simp only [List.append_assoc] at hc
  have hmore := rest_advance hc
  have hclosing := hr _ (rest_advance hmore)
  simp only [Cursor.advance_advance, List.append_assoc] at hclosing
  simp [sequence, sequenceFrom, hp c hc, hq _ hmore, Cursor.advance_advance, hclosing, Reply.map]

theorem Refuses.sequence {ps : List (Parser Silent α)} (hp : p.Refuses cs) :
    (sequence (p :: ps)).Refuses cs := by
  intro c hc
  simp [Parser.sequence, sequenceFrom, hp c hc, failBack]

/-- What the first two members have read is given back if the third one fails. -/
theorem Refuses.sequence_third (hp : p.Reads run a (more ++ rest)) (hq : q.Reads more b rest)
    (hr : r.Refuses rest) : (Parser.sequence [p, q, r]).Refuses (run ++ (more ++ rest)) := by
  intro c hc
  have hmore := rest_advance hc
  simp [Parser.sequence, sequenceFrom, hp c hc, hq _ hmore, hr _ (rest_advance hmore), failBack,
    Cursor.rewind, Cursor.anchor, Reply.map]

end Sequence

/-! ### Choices -/

section Choice

variable {ps : List (Parser Silent α)}

theorem Reads.first (h : p.Reads run a rest) : (first (p :: ps)).Reads run a rest := by
  intro c hc
  simp [Parser.first, firstFrom, h c hc]

theorem Refuses.reads_first (hp : p.Refuses (run ++ rest)) (hps : (first ps).Reads run a rest) :
    (first (p :: ps)).Reads run a rest := by
  intro c hc
  simpa [Parser.first, firstFrom, hp c hc] using hps c hc

theorem refuses_first (h : ∀ p ∈ ps, p.Refuses cs) : (first ps).Refuses cs := by
  intro c hc
  induction ps with
  | nil => simp [Parser.first, firstFrom]
  | cons p ps ih =>
      have hps := ih fun q hq => h q (List.mem_cons_of_mem p hq)
      simpa [Parser.first, firstFrom, h p List.mem_cons_self c hc] using hps

end Choice

/-! ### Scalars up to a delimiter -/

/-- Matches at `c`, whatever that gives and wherever it ends. -/
def Matches (p : Parser Silent α) (c : Cursor) : Prop :=
  ∃ value rest, p.parse c = .ok (.done value rest)

/-- Fails at `c`, whatever cursor is handed back. -/
def Misses (p : Parser Silent α) (c : Cursor) : Prop := ∃ failed, p.parse c = .ok (.fail failed)

theorem Matches.not_misses {c : Cursor} (h : p.Matches c) : ¬ p.Misses c := by
  rintro ⟨failed, hfail⟩
  obtain ⟨value, rest, hdone⟩ := h
  cases hdone.symm.trans hfail

/-- From `c` on, `run` is passed before the delimiter matches for the first time or the text
ends. -/
structure FirstStop (delimiter : Parser Silent β) (c : Cursor) (run rest : List Char) : Prop where
  rest_eq : c.rest = run ++ rest
  misses : ∀ before ch after, run = before ++ ch :: after → delimiter.Misses (c.advance before)
  stops : rest = [] ∨ delimiter.Matches (c.advance run)

section Until

variable {delimiter : Parser Silent β} {c : Cursor}

/-- Behind a scalar that was passed, the first stop is the same. -/
theorem FirstStop.tail {ch : Char} (h : FirstStop delimiter c (ch :: run) rest) :
    FirstStop delimiter (c.advance [ch]) run rest where
  rest_eq := rest_advance h.rest_eq
  misses before ch' after hrun := by
    have hmiss := h.misses (ch :: before) ch' after (by rw [hrun, List.cons_append])
    rwa [Cursor.advance_advance]
  stops := by
    rw [Cursor.advance_advance]
    exact h.stops

theorem FirstStop.findMatch_eq (h : FirstStop delimiter c run rest) :
    findMatch delimiter (run ++ rest) c = .ok (c.advance run) := by
  induction run generalizing c with
  | nil =>
      -- the search is over, at the end of the text or at the delimiter
      rw [List.nil_append, Cursor.advance_nil]
      rcases h.stops with rfl | ⟨value, reached, hdone⟩
      · simp [findMatch]
      · rw [Cursor.advance_nil] at hdone
        cases rest with
        | nil => simp [findMatch]
        | cons ch tail => simp [findMatch, hdone, Reply.isDone]
  | cons ch run ih =>
      obtain ⟨failed, hfail⟩ := h.misses [] ch run rfl
      rw [Cursor.advance_nil] at hfail
      have hnext := ih h.tail
      rw [Cursor.advance_advance, List.singleton_append] at hnext
      simpa [findMatch, hfail, Reply.isDone] using hnext

/-- The scalars up to the first stop are the value, and it ends there. -/
theorem FirstStop.parse_charactersUntil (h : FirstStop delimiter c run rest) :
    (charactersUntil delimiter).parse c = .ok (.done (String.ofList run) (c.advance run)) := by
  have hfind := h.findMatch_eq
  have hrun : run <+: c.rest := ⟨rest, h.rest_eq.symm⟩
  rw [← h.rest_eq] at hfind
  simp [charactersUntil, hfind, Cursor.consumedSince_advance hrun]

end Until

/-- The delimiter stands at the start of `cs`, or there is nothing left to look at. -/
def StopsAt (delimiter : Parser Silent β) (cs : List Char) : Prop :=
  cs = [] ∨ ∃ run b rest, cs = run ++ rest ∧ delimiter.Reads run b rest

/-- The delimiter is refused wherever it could begin inside `run`, seen with `rest` behind it,
and `rest` stops the search. -/
theorem reads_charactersUntil {delimiter : Parser Silent β}
    (hrun : ∀ before ch after, run = before ++ ch :: after →
      delimiter.Refuses (ch :: (after ++ rest)))
    (hstop : delimiter.StopsAt rest) :
    (charactersUntil delimiter).Reads run (String.ofList run) rest := by
  intro c hc
  have hmisses : ∀ before ch after, run = before ++ ch :: after →
      delimiter.Misses (c.advance before) := by
    intro before ch after hsplit
    have hbehind : c.rest = before ++ ch :: (after ++ rest) := by
      rw [hc, hsplit, List.append_assoc, List.cons_append]
    exact ⟨_, hrun before ch after hsplit _ (rest_advance hbehind)⟩
  have hstops : rest = [] ∨ delimiter.Matches (c.advance run) := by
    refine hstop.imp_right ?_
    rintro ⟨gap, b, after, hrest, hreads⟩
    exact ⟨b, _, hreads _ ((rest_advance hc).trans hrest)⟩
  exact FirstStop.parse_charactersUntil ⟨hc, hmisses, hstops⟩

/-- A delimiter that is known from its first scalar. -/
theorem reads_charactersUntil_of_scalars {delimiter : Parser Silent β}
    (hrun : ∀ ch ∈ run, ∀ after, delimiter.Refuses (ch :: after))
    (hstop : delimiter.StopsAt rest) :
    (charactersUntil delimiter).Reads run (String.ofList run) rest := by
  refine reads_charactersUntil (fun before ch after hsplit => ?_) hstop
  exact hrun ch (by simp [hsplit]) _

/-! ### Repetitions -/

/-- The rounds of a repetition behind its first element: where the text goes on with
`run ++ rest`, they cover `run` and give `as`, and none follows. A round that counts has a
delimiter of at least one scalar here. -/
inductive Repeats (element : Parser Silent α) (delimiter : Parser Silent β) :
    List Char → List α → List Char → Prop
  | atEnd : Repeats element delimiter [] [] []
  | noDelimiter {rest : List Char} (hd : delimiter.Refuses rest) :
    Repeats element delimiter [] [] rest
  /-- The delimiter is given back if no element follows it. -/
  | noElement {gap rest : List Char} {b : β} (hd : delimiter.Reads gap b rest)
    (he : element.Refuses rest) : Repeats element delimiter [] [] (gap ++ rest)
  | round {gap run more rest : List Char} {a : α} {as : List α} {b : β}
    (hd : delimiter.Reads gap b (run ++ (more ++ rest))) (hgap : gap ≠ [])
    (he : element.Reads run a (more ++ rest)) (h : Repeats element delimiter more as rest) :
    Repeats element delimiter (gap ++ (run ++ more)) (a :: as) rest

section Repetition

variable {element : Parser Silent α} {delimiter : Parser Silent β} {as : List α}

theorem attemptRound_of_noElement {gap : List Char} (hd : delimiter.Reads gap b rest)
    (he : element.Refuses rest) {c : Cursor} (hc : c.rest = gap ++ rest) :
    attemptRound element delimiter c = .ok (.stop c) := by
  simp [attemptRound, hd c hc, he _ (rest_advance hc), giveBack, Cursor.rewind, Cursor.anchor]

theorem attemptRound_of_reads {gap : List Char} (hd : delimiter.Reads gap b (run ++ rest))
    (hgap : gap ≠ []) (he : element.Reads run a rest) {c : Cursor}
    (hc : c.rest = gap ++ (run ++ rest)) :
    attemptRound element delimiter c = .ok (.item a (c.advance (gap ++ run))) := by
  have hlen := List.length_pos_iff.mpr hgap
  have hmoved : ¬ (c.advance (gap ++ run)).position = c.position := by
    simp only [Cursor.advance, List.length_append]
    omega
  simp [attemptRound, hd c hc, he _ (rest_advance hc), Cursor.advance_advance, hmoved]

/-- The rounds of a repetition are found in their order, given attempts enough. -/
theorem Repeats.repeatRounds_eq (h : Repeats element delimiter run as rest) {limit : Nat}
    (hlimit : run.length < limit) (items : List α) {c : Cursor} (hc : c.rest = run ++ rest) :
    repeatRounds (nextRound element delimiter) limit items c =
      .ok (items.reverse ++ as, c.advance run) := by
  induction h generalizing limit items c with
  | atEnd =>
      obtain ⟨limit, rfl⟩ := Nat.exists_eq_add_of_lt hlimit
      simp [repeatRounds, nextRound, Cursor.isEmpty, hc]
  | noDelimiter hd =>
      obtain ⟨limit, rfl⟩ := Nat.exists_eq_add_of_lt hlimit
      have hstop : nextRound element delimiter c = .ok (.stop c) := by
        simp [nextRound, attemptRound, hd c hc, giveBack]
      simp [repeatRounds, hstop]
  | noElement hd he =>
      obtain ⟨limit, rfl⟩ := Nat.exists_eq_add_of_lt hlimit
      have hstop : nextRound element delimiter c = .ok (.stop c) := by
        simp [nextRound, attemptRound_of_noElement hd he hc]
      simp [repeatRounds, hstop]
  | @round gap run more rest a as b hd hgap he _ ih =>
      -- the round takes one attempt and at least one scalar
      cases limit with
      | zero => omega
      | succ limit =>
          simp only [List.append_assoc] at hc
          have hsome : c.isEmpty = false := by simp [Cursor.isEmpty, hc, hgap]
          have hitem : nextRound element delimiter c = .ok (.item a (c.advance (gap ++ run))) := by
            simp [nextRound, hsome, attemptRound_of_reads hd hgap he hc]
          have hmore : (c.advance (gap ++ run)).rest = more ++ rest :=
            rest_advance (by rw [hc, List.append_assoc])
          have hlen := List.length_pos_iff.mpr hgap
          have hfewer : more.length < limit := by
            simp only [List.length_append] at hlimit
            omega
          simp [repeatRounds, hitem, ih hfewer (a :: items) hmore, Cursor.advance_advance]

theorem Refuses.reads_many (h : element.Refuses cs) : (many element delimiter).Reads [] [] cs := by
  intro c hc
  simp [many, zeroOrMore, h c hc]

theorem Repeats.reads_many (h : Repeats element delimiter more as rest)
    (he : element.Reads run a (more ++ rest)) :
    (many element delimiter).Reads (run ++ more) (a :: as) rest := by
  intro c hc
  rw [List.append_assoc] at hc
  have hlimit : more.length < c.rest.length + 1 := by
    simp only [hc, List.length_append]
    omega
  simp [many, zeroOrMore, he c hc, h.repeatRounds_eq hlimit [a] (rest_advance hc),
    Cursor.advance_advance]

end Repetition

/-! ### Whole texts -/

theorem Reads.runFrom_eq (h : p.Reads run a rest) {text : Source}
    (htext : text.toList = run ++ rest) :
    p.runFrom text 0 = .ok (some a, String.ofList rest) := by
  have hlocate : Cursor.locate text 0 = .ok (Cursor.start text) := rfl
  have hparse := h (Cursor.start text) htext
  have hleft : ((Cursor.start text).advance run).remaining = String.ofList rest := by
    rw [Cursor.remaining, rest_advance htext]
  simp [runFrom, hlocate, hparse, Reply.value?, Reply.rest, hleft]

/-- A whole text is a match if nothing of it is left over. -/
theorem Reads.run_eq (h : p.Reads run a rest) {text : Source} (htext : text.toList = run ++ rest) :
    p.run text = .ok (if rest = [] then some a else none) := by
  have hfrom := h.runFrom_eq htext
  by_cases hrest : rest = []
  · simp [Parser.run, hfrom, hrest]
  · simp [Parser.run, hfrom, hrest]

theorem Refuses.run_eq {text : Source} (h : p.Refuses text.toList) : p.run text = .ok none := by
  have hlocate : Cursor.locate text 0 = .ok (Cursor.start text) := rfl
  have hparse := h (Cursor.start text) rfl
  simp [Parser.run, runFrom, hlocate, hparse, Reply.value?]

end Backtrack.Parser
