import Backtrack.Proofs.Repetition

/-!
# Backtrack.Proofs.Shortcut

**The end of the text and repetitions.** A repetition attempts no round at the end of the
text. That is a shortcut: a part that does not go back can only fail there or consume
nothing, so the round would not count. `unguarded` is the repetition without the shortcut,
written as it is told: it goes on while rounds count, and keeps the cursor where the last
one ended. It agrees with `zeroOrMore` on every text (`zeroOrMore_eq_unguarded`). A part may
have no reply at the end of the text; then the shortcut can have a result where the repetition
without it has none, but never another one.
-/

namespace Backtrack.Parser

variable {α β : Type} {text : Source} {element : Parser Silent α} {delimiter : Parser Silent β}
variable {c : Cursor}

/-! ### Without a look at the end -/

/-- Rounds until one does not count, also at the end of the text. Where the last one that
counts has ended, the rounds are over. -/
def unguardedRounds (element : Parser Silent α) (delimiter : Parser Silent β) :
    Nat → Cursor → Silent (List α × Cursor)
  | 0, _ => .error .exhausted
  | limit + 1, c => do
    match ← delimiter.parse c with
    | .fail _ => return ([], c)
    | .done _ between =>
      match ← element.parse between with
      | .fail _ => return ([], c)
      | .done value rest =>
        if rest.position = c.position then
          return ([], c)
        else
          let (items, stop) ← unguardedRounds element delimiter limit rest
          return (value :: items, stop)

/-- An element, and rounds until one does not count. -/
def unguarded (limit : Nat) (element : Parser Silent α) (delimiter : Parser Silent β) :
    Parser Silent (List α) where
  parse c := do
    match ← element.parse c with
    | .fail _ => return .done [] c
    | .done value rest =>
      let (items, stop) ← unguardedRounds element delimiter limit rest
      return .done (value :: items) stop

/-! ### Rounds at the end of the text -/

section Rounds

variable (he : element.Stays text) (hd : delimiter.Stays text)

include he hd

/-- The rounds as the repetition makes them, with the items before and with rewinding, are the
rounds as they are told. -/
theorem repeatRounds_attemptRound (limit : Nat) (before : List α) (hc : c.Valid text) :
    repeatRounds (attemptRound element delimiter) limit before c = (do
      let (items, stop) ← unguardedRounds element delimiter limit c
      return (before.reverse ++ items, stop)) := by
  induction limit generalizing before c with
  | zero => rfl
  | succ limit ih =>
      rw [repeatRounds, attemptRound_eq he hd hc, unguardedRounds]
      cases hdparse : delimiter.parse c with
      | error cause => rfl
      | ok r =>
          cases r with
          | fail failed => simp
          | done b between =>
              cases heparse : element.parse between with
              | error cause => simp [heparse]
              | ok r =>
                  cases r with
                  | fail failed => simp [heparse]
                  | done a rest =>
                      have hrest := he.done (hd.done hc hdparse) heparse
                      by_cases hstall : rest.position = c.position
                      · simp [heparse, hstall]
                      · simp [heparse, hstall, ih (a :: before) hrest]

variable (heforward : element.Forward text) (hdforward : delimiter.Forward text)

include heforward hdforward

/-- At the end of the text no round counts. -/
theorem attemptRound_atEnd (hc : c.Valid text) (hend : c.isEmpty = true) {r : Round α}
    (h : attemptRound element delimiter c = .ok r) : r = .stop c := by
  rw [attemptRound_eq he hd hc] at h
  obtain ⟨reply, hdparse, h⟩ := Silent.bind_eq_ok_iff.mp h
  cases reply with
  | fail failed => exact (Except.ok.inj h).symm
  | done b between =>
      obtain rfl : between = c := hdforward.eq_of_atEnd hd hc hend hdparse
      obtain ⟨reply, heparse, h⟩ := Silent.bind_eq_ok_iff.mp h
      cases reply with
      | fail failed => exact (Except.ok.inj h).symm
      | done a rest =>
          obtain rfl : rest = between := heforward.eq_of_atEnd he hc hend heparse
          dsimp only at h
          rw [if_pos rfl] at h
          exact (Except.ok.inj h).symm

/-- An attempt comes to what it would come to with a look at the end first. -/
theorem nextRound_of_attemptRound (hc : c.Valid text) {r : Round α}
    (h : attemptRound element delimiter c = .ok r) : nextRound element delimiter c = .ok r := by
  by_cases hend : c.isEmpty = true
  · rw [attemptRound_atEnd he hd heforward hdforward hc hend h]
    simp [nextRound, hend]
  · simpa [nextRound, hend] using h

theorem repeatRounds_of_attemptRound {limit : Nat} {before : List α} {found : List α × Cursor}
    (hc : c.Valid text)
    (h : repeatRounds (attemptRound element delimiter) limit before c = .ok found) :
    repeatRounds (nextRound element delimiter) limit before c = .ok found := by
  induction limit generalizing before c with
  | zero => exact h
  | succ limit ih =>
      obtain ⟨r, hround, h⟩ := Silent.bind_eq_ok_iff.mp h
      have hnext := nextRound_of_attemptRound he hd heforward hdforward hc hround
      refine Silent.bind_eq_ok_iff.mpr ⟨r, hnext, ?_⟩
      rcases nextRound_cases he hd hc hnext with ⟨a, rest, rfl, hcounts⟩ | ⟨rfl, -⟩
      · exact ih (hcounts.valid he hd hc) h
      · exact h

variable (heend : element.AnswersAtEnd text) (hdend : delimiter.AnswersAtEnd text)

include heend hdend

theorem nextRound_eq_attemptRound (hc : c.Valid text) :
    nextRound element delimiter c = attemptRound element delimiter c := by
  by_cases hend : c.isEmpty = true
  · obtain ⟨r, hround⟩ : ∃ r, attemptRound element delimiter c = .ok r := by
      rw [attemptRound_eq he hd hc]
      obtain ⟨reply, hdparse⟩ := hdend c hc hend
      cases reply with
      | fail failed => exact ⟨.stop c, by simp [hdparse]⟩
      | done b between =>
          obtain rfl : between = c := hdforward.eq_of_atEnd hd hc hend hdparse
          obtain ⟨reply, heparse⟩ := heend between hc hend
          cases reply with
          | fail failed => exact ⟨.stop between, by simp [hdparse, heparse]⟩
          | done a rest =>
              obtain rfl : rest = between := heforward.eq_of_atEnd he hc hend heparse
              exact ⟨.stop rest, by simp [hdparse, heparse]⟩
    rw [hround, nextRound_of_attemptRound he hd heforward hdforward hc hround]
  · simp [nextRound, hend]

theorem repeatRounds_nextRound (limit : Nat) (before : List α) (hc : c.Valid text) :
    repeatRounds (nextRound element delimiter) limit before c =
      repeatRounds (attemptRound element delimiter) limit before c := by
  induction limit generalizing before c with
  | zero => rfl
  | succ limit ih =>
      have hnext := nextRound_eq_attemptRound he hd heforward hdforward heend hdend hc
      rw [repeatRounds, repeatRounds, ← hnext]
      cases hround : nextRound element delimiter c with
      | error cause => rfl
      | ok r =>
          rcases nextRound_cases he hd hc hround with ⟨a, rest, rfl, hcounts⟩ | ⟨rfl, -⟩
          · exact ih (a :: before) (hcounts.valid he hd hc)
          · rfl

end Rounds

/-! ### The two repetitions -/

section Repetition

variable (he : element.Stays text) (hd : delimiter.Stays text)
variable (heforward : element.Forward text) (hdforward : delimiter.Forward text)

include he hd heforward hdforward

theorem zeroOrMore_of_unguarded (hc : c.Valid text) {limit : Nat} {reply : Reply (List α)}
    (h : (unguarded limit element delimiter).parse c = .ok reply) :
    (zeroOrMore limit element delimiter).parse c = .ok reply := by
  obtain ⟨r, heparse, h⟩ := Silent.bind_eq_ok_iff.mp h
  cases r with
  | fail failed =>
      simpa [zeroOrMore, heparse, rewind_eq (he.fail hc heparse) hc] using Except.ok.inj h
  | done a rest =>
      obtain ⟨⟨items, stop⟩, hrounds, h⟩ := Silent.bind_eq_ok_iff.mp h
      have hrest := he.done hc heparse
      have hattempts := repeatRounds_attemptRound he hd limit [a] hrest
      rw [hrounds] at hattempts
      have hsame := repeatRounds_of_attemptRound he hd heforward hdforward hrest hattempts
      simpa [zeroOrMore, heparse, hsame] using Except.ok.inj h

theorem zeroOrMore_eq_of_answersAtEnd (heend : element.AnswersAtEnd text)
    (hdend : delimiter.AnswersAtEnd text) (hc : c.Valid text) (limit : Nat) :
    (zeroOrMore limit element delimiter).parse c = (unguarded limit element delimiter).parse c := by
  cases heparse : element.parse c with
  | error cause => simp [zeroOrMore, unguarded, heparse]
  | ok r =>
      cases r with
      | fail failed => simp [zeroOrMore, unguarded, heparse, rewind_eq (he.fail hc heparse) hc]
      | done a rest =>
          have hrest := he.done hc heparse
          have hsame := repeatRounds_nextRound he hd heforward hdforward heend hdend limit [a] hrest
          rw [repeatRounds_attemptRound he hd limit [a] hrest] at hsame
          simp [zeroOrMore, unguarded, heparse, hsame]

/-- Each round that counts consumes a scalar, so the attempts suffice. -/
theorem exists_zeroOrMore_eq (heanswers : element.Answers text)
    (hdanswers : delimiter.Answers text) (hc : c.Valid text) :
    ∃ items stop, ∀ limit, c.rest.length < limit →
      (zeroOrMore limit element delimiter).parse c = .ok (.done items stop) := by
  obtain ⟨items, stop, hchain⟩ := exists_chain he hd heforward hdforward heanswers hdanswers hc
  refine ⟨items, stop, fun limit hlimit => ?_⟩
  have hle := hchain.length_le he hd heforward hdforward hc
  exact (zeroOrMore_eq_ok_iff he hd hc).mpr ⟨items, stop, rfl, hchain, by omega⟩

end Repetition

/-- **The look at the end of the text is a shortcut.** Let the parts of a repetition stay in the
text and never go back. Where a repetition that attempts another round wherever it is has a
result, the one that stops at the end of the text has the same items and cursor. The two are
the same throughout if the parts have a reply at the end. If the parts always have a reply,
there is a result after as many attempts as there are scalars left, and one. -/
theorem zeroOrMore_eq_unguarded (he : element.Stays text) (hd : delimiter.Stays text)
    (heforward : element.Forward text) (hdforward : delimiter.Forward text) (hc : c.Valid text) :
    (∀ limit reply, (unguarded limit element delimiter).parse c = .ok reply →
      (zeroOrMore limit element delimiter).parse c = .ok reply) ∧
    (element.AnswersAtEnd text → delimiter.AnswersAtEnd text → ∀ limit,
      (zeroOrMore limit element delimiter).parse c =
        (unguarded limit element delimiter).parse c) ∧
    (element.Answers text → delimiter.Answers text → ∃ items stop, ∀ limit,
      c.rest.length < limit →
        (zeroOrMore limit element delimiter).parse c = .ok (.done items stop)) := by
  refine ⟨fun limit reply h => ?_, fun heend hdend limit => ?_, fun heanswers hdanswers => ?_⟩
  · exact zeroOrMore_of_unguarded he hd heforward hdforward hc h
  · exact zeroOrMore_eq_of_answersAtEnd he hd heforward hdforward heend hdend hc limit
  · exact exists_zeroOrMore_eq he hd heforward hdforward heanswers hdanswers hc

/-- At the end of the text, both parts match and consume nothing. -/
theorem zeroOrMore_eq_unguarded_words :
    (zeroOrMore 4 (charactersUntil (literal " ")) skipBlank).parse (Cursor.start "a b") =
      (unguarded 4 (charactersUntil (literal " ")) skipBlank).parse (Cursor.start "a b") ∧
    (unguarded 4 (charactersUntil (literal " ")) skipBlank).parse (Cursor.start "a b") =
      .ok (.done ["a", "b"] ⟨"a b", 3, 3, []⟩) := by
  have hwords : (charactersUntil (literal " ") : Parser Silent String).Mannered "a b" False 3 :=
    mannered_charactersUntil (mannered_literal " ")
  have hblank : (skipBlank : Parser Silent Unit).Mannered "a b" False 3 := mannered_skipBlank
  have hshortcut := zeroOrMore_eq_unguarded hwords.stays hblank.stays hwords.forward hblank.forward
    (Cursor.valid_start "a b")
  have hsame := hshortcut.2.1 hwords.answers.atEnd hblank.answers.atEnd 4
  refine ⟨hsame, ?_⟩
  rw [← hsame]
  rfl

end Backtrack.Parser
