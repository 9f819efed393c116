import Backtrack.Proofs.Conduct

/-!
# Backtrack.Proofs.Repetition

**What a repetition reads.** A repetition reads an element and then round after round, each
of them a delimiter and an element, as long as the rounds count. `Chain` says which items
that gives and where it ends, without anchors and without a bound on the rounds. There are
four ways for the rounds to be over (`Over`), and whichever it is, the repetition ends where
its last item ended.

`zeroOrMore_eq_ok_iff_chain` says that a repetition answers with its chain and with nothing
else. The parts only have to stay in the text: they may leak when they fail, and a match may
go backwards. If none does, the chain is never longer than the text, and so there is one
(`exists_chain`).
-/

namespace Backtrack.Parser

variable {α β : Type} {text : Source} {element : Parser Silent α} {delimiter : Parser Silent β}
variable {c rest stop : Cursor} {a : α} {items : List α}

/-! ### Chains of rounds -/

/-- No further round counts at `c`. -/
inductive Over (element : Parser Silent α) (delimiter : Parser Silent β) (c : Cursor) : Prop
  /-- There is nothing left to read. -/
  | atEnd (h : c.isEmpty = true)
  | noDelimiter {failed : Cursor} (hd : delimiter.parse c = .ok (.fail failed))
  | noElement {b : β} {between failed : Cursor} (hd : delimiter.parse c = .ok (.done b between))
    (he : element.parse between = .ok (.fail failed))
  /-- The round ends where it began. -/
  | stalled {b : β} {a : α} {between rest : Cursor}
    (hd : delimiter.parse c = .ok (.done b between))
    (he : element.parse between = .ok (.done a rest)) (h : rest.position = c.position)

/-- The round at `c` counts: it gives `a` and ends at `rest`. -/
structure Counts (element : Parser Silent α) (delimiter : Parser Silent β) (c : Cursor) (a : α)
    (rest : Cursor) : Prop where
  some_left : c.isEmpty = false
  parts : ∃ b between, delimiter.parse c = .ok (.done b between) ∧
    element.parse between = .ok (.done a rest)
  moved : rest.position ≠ c.position

/-- The rounds from `c` on give the items and are over at the last cursor. -/
inductive Rounds (element : Parser Silent α) (delimiter : Parser Silent β) :
    Cursor → List α → Cursor → Prop
  | nil {c : Cursor} (h : Over element delimiter c) : Rounds element delimiter c [] c
  | cons {c rest stop : Cursor} {a : α} {items : List α}
    (hround : Counts element delimiter c a rest)
    (h : Rounds element delimiter rest items stop) :
    Rounds element delimiter c (a :: items) stop

/-- The element at `c` and the rounds behind it. -/
inductive Chain (element : Parser Silent α) (delimiter : Parser Silent β) (c : Cursor) :
    List α → Cursor → Prop
  /-- Without an element there are no items, and nothing is consumed. -/
  | empty {failed : Cursor} (h : element.parse c = .ok (.fail failed)) :
    Chain element delimiter c [] c
  | elements {a : α} {rest stop : Cursor} {items : List α}
    (he : element.parse c = .ok (.done a rest)) (h : Rounds element delimiter rest items stop) :
    Chain element delimiter c (a :: items) stop

/-! ### One round -/

/-- What an attempt comes to, if whatever is handed back can be rewound. -/
theorem attemptRound_eq (he : element.Stays text) (hd : delimiter.Stays text) (hc : c.Valid text) :
    attemptRound element delimiter c = (do
      match ← delimiter.parse c with
      | .fail _ => return .stop c
      | .done _ between =>
        match ← element.parse between with
        | .fail _ => return .stop c
        | .done value rest =>
          if rest.position = c.position then return .stop c else return .item value rest) := by
  unfold attemptRound
  cases hdparse : delimiter.parse c with
  | error cause => rfl
  | ok r =>
      cases r with
      | fail failed => simp [giveBack_eq hc (hd.fail hc hdparse)]
      | done b between =>
          have hbetween := hd.done hc hdparse
          cases heparse : element.parse between with
          | error cause => simp [heparse]
          | ok r' =>
              cases r' with
              | fail failed => simp [heparse, giveBack_eq hc (he.fail hbetween heparse)]
              | done value rest =>
                  simp [heparse, giveBack_eq hc (he.done hbetween heparse)]

/-- What a round can come to: it counts, or the rounds are over and nothing has moved. -/
theorem nextRound_cases (he : element.Stays text) (hd : delimiter.Stays text) (hc : c.Valid text)
    {r : Round α} (h : nextRound element delimiter c = .ok r) :
    (∃ a rest, r = .item a rest ∧ Counts element delimiter c a rest) ∨
      r = .stop c ∧ Over element delimiter c := by
  unfold nextRound at h
  split at h
  case isTrue hempty => exact .inr ⟨(Except.ok.inj h).symm, .atEnd hempty⟩
  case isFalse hempty =>
    rw [attemptRound_eq he hd hc] at h
    obtain ⟨reply, hdparse, h⟩ := Silent.bind_eq_ok_iff.mp h
    cases reply with
    | fail failed => exact .inr ⟨(Except.ok.inj h).symm, .noDelimiter hdparse⟩
    | done b between =>
        obtain ⟨reply, heparse, h⟩ := Silent.bind_eq_ok_iff.mp h
        cases reply with
        | fail failed => exact .inr ⟨(Except.ok.inj h).symm, .noElement hdparse heparse⟩
        | done a rest =>
            dsimp only at h
            split at h
            case isTrue hstall =>
              exact .inr ⟨(Except.ok.inj h).symm, .stalled hdparse heparse hstall⟩
            case isFalse hmoved =>
              have hcounts : Counts element delimiter c a rest :=
                ⟨by simpa using hempty, ⟨b, between, hdparse, heparse⟩, hmoved⟩
              exact .inl ⟨a, rest, (Except.ok.inj h).symm, hcounts⟩

theorem Counts.nextRound_eq (he : element.Stays text) (hd : delimiter.Stays text)
    (hc : c.Valid text) (h : Counts element delimiter c a rest) :
    nextRound element delimiter c = .ok (.item a rest) := by
  obtain ⟨hempty, ⟨b, between, hdparse, heparse⟩, hmoved⟩ := h
  simp [nextRound, hempty, attemptRound_eq he hd hc, hdparse, heparse, hmoved]

theorem Over.nextRound_eq (he : element.Stays text) (hd : delimiter.Stays text)
    (hc : c.Valid text) (h : Over element delimiter c) :
    nextRound element delimiter c = .ok (.stop c) := by
  by_cases hempty : c.isEmpty = true
  · simp [nextRound, hempty]
  · cases h with
    | atEnd h => exact absurd h hempty
    | noDelimiter hdparse => simp [nextRound, hempty, attemptRound_eq he hd hc, hdparse]
    | noElement hdparse heparse =>
        simp [nextRound, hempty, attemptRound_eq he hd hc, hdparse, heparse]
    | stalled hdparse heparse hstall =>
        simp [nextRound, hempty, attemptRound_eq he hd hc, hdparse, heparse, hstall]

/-- Where every part has a reply, a round counts or the rounds are over. -/
theorem counts_or_over (hd : delimiter.Stays text) (heanswers : element.Answers text)
    (hdanswers : delimiter.Answers text) (hc : c.Valid text) :
    Over element delimiter c ∨ ∃ a rest, Counts element delimiter c a rest := by
  by_cases hempty : c.isEmpty = true
  · exact .inl (.atEnd hempty)
  · obtain ⟨r, hdparse⟩ := hdanswers c hc
    cases r with
    | fail failed => exact .inl (.noDelimiter hdparse)
    | done b between =>
        obtain ⟨r, heparse⟩ := heanswers between (hd.done hc hdparse)
        cases r with
        | fail failed => exact .inl (.noElement hdparse heparse)
        | done a rest =>
            by_cases hstall : rest.position = c.position
            · exact .inl (.stalled hdparse heparse hstall)
            · exact .inr ⟨a, rest, by simpa using hempty, ⟨b, between, hdparse, heparse⟩, hstall⟩

theorem Counts.valid (he : element.Stays text) (hd : delimiter.Stays text) (hc : c.Valid text)
    (h : Counts element delimiter c a rest) : rest.Valid text := by
  obtain ⟨-, ⟨b, between, hdparse, heparse⟩, -⟩ := h
  exact he.done (hd.done hc hdparse) heparse

/-! ### All rounds -/

theorem rounds_of_repeatRounds (he : element.Stays text) (hd : delimiter.Stays text) {limit : Nat}
    {before all : List α} (hc : c.Valid text)
    (h : repeatRounds (nextRound element delimiter) limit before c = .ok (all, stop)) :
    ∃ items, all = before.reverse ++ items ∧ Rounds element delimiter c items stop ∧
      items.length < limit := by
  induction limit generalizing before c with
  | zero => cases h
  | succ limit ih =>
      obtain ⟨r, hround, h⟩ := Silent.bind_eq_ok_iff.mp h
      rcases nextRound_cases he hd hc hround with ⟨a, rest, rfl, hcounts⟩ | ⟨rfl, hover⟩
      · obtain ⟨items, rfl, hrounds, hlimit⟩ := ih (hcounts.valid he hd hc) h
        exact ⟨a :: items, by simp, .cons hcounts hrounds, Nat.succ_lt_succ hlimit⟩
      · obtain ⟨rfl, rfl⟩ := Prod.mk.inj (Except.ok.inj h)
        exact ⟨[], by simp, .nil hover, Nat.succ_pos limit⟩

theorem Rounds.repeatRounds_eq (he : element.Stays text) (hd : delimiter.Stays text)
    (h : Rounds element delimiter c items stop) {limit : Nat} (before : List α)
    (hc : c.Valid text) (hlimit : items.length < limit) :
    repeatRounds (nextRound element delimiter) limit before c =
      .ok (before.reverse ++ items, stop) := by
  induction h generalizing limit before with
  | nil hover =>
      obtain ⟨limit, rfl⟩ := Nat.exists_eq_add_of_lt hlimit
      simp [repeatRounds, hover.nextRound_eq he hd hc]
  | @cons c rest stop a items hcounts _ ih =>
      -- a round that counts takes one attempt
      obtain ⟨limit, rfl⟩ := Nat.exists_eq_succ_of_ne_zero (Nat.ne_zero_of_lt hlimit)
      have hrest := ih (a :: before) (hcounts.valid he hd hc) (Nat.lt_of_succ_lt_succ hlimit)
      simp [repeatRounds, hcounts.nextRound_eq he hd hc, hrest]

/-- A repetition answers with its chain, if its attempts suffice for it. -/
theorem zeroOrMore_eq_ok_iff (he : element.Stays text) (hd : delimiter.Stays text)
    (hc : c.Valid text) {limit : Nat} {reply : Reply (List α)} :
    (zeroOrMore limit element delimiter).parse c = .ok reply ↔
      ∃ items stop, reply = .done items stop ∧ Chain element delimiter c items stop ∧
        items.length ≤ limit := by
  constructor
  · intro h
    obtain ⟨r, heparse, h⟩ := Silent.bind_eq_ok_iff.mp h
    cases r with
    | fail failed =>
        simp only [rewind_eq (he.fail hc heparse) hc, checked_ok, pure_bind] at h
        exact ⟨[], c, (Except.ok.inj h).symm, .empty heparse, Nat.zero_le limit⟩
    | done a rest =>
        obtain ⟨⟨all, stop⟩, hrounds, h⟩ := Silent.bind_eq_ok_iff.mp h
        obtain ⟨items, rfl, hrounds, hlimit⟩ :=
          rounds_of_repeatRounds he hd (he.done hc heparse) hrounds
        exact ⟨a :: items, stop, (Except.ok.inj h).symm, .elements heparse hrounds, hlimit⟩
  · rintro ⟨items, stop, rfl, hchain, hlimit⟩
    cases hchain with
    | empty heparse =>
        simp [zeroOrMore, heparse, rewind_eq (he.fail hc heparse) hc]
    | @elements a rest stop items heparse hrounds =>
        have hrepeat := hrounds.repeatRounds_eq he hd [a] (he.done hc heparse) hlimit
        simp [zeroOrMore, heparse, hrepeat]

/-- There is one chain from each cursor, however many attempts are granted. -/
theorem Chain.unique (he : element.Stays text) (hd : delimiter.Stays text) (hc : c.Valid text)
    {items' : List α} {stop' : Cursor} (h : Chain element delimiter c items stop)
    (h' : Chain element delimiter c items' stop') : items' = items ∧ stop' = stop := by
  have hparse := (zeroOrMore_eq_ok_iff he hd hc).mpr
    ⟨items, stop, rfl, h, Nat.le_max_left items.length items'.length⟩
  have hparse' := (zeroOrMore_eq_ok_iff he hd hc).mpr
    ⟨items', stop', rfl, h', Nat.le_max_right items.length items'.length⟩
  exact Reply.done.inj (Except.ok.inj (hparse'.symm.trans hparse))

/-! ### Where a chain ends -/

theorem Rounds.stop_eq (h : Rounds element delimiter c items stop) :
    items = [] ∧ stop = c ∨
      ∃ a entry, items.getLast? = some a ∧ element.parse entry = .ok (.done a stop) := by
  induction h with
  | nil => exact .inl ⟨rfl, rfl⟩
  | @cons c rest stop a items hcounts _ ih =>
      obtain ⟨-, ⟨b, between, -, heparse⟩, -⟩ := hcounts
      rcases ih with ⟨rfl, rfl⟩ | ⟨last, entry, hlast, hparse⟩
      · exact .inr ⟨a, between, rfl, heparse⟩
      · exact .inr ⟨last, entry, by simp [List.getLast?_cons, hlast], hparse⟩

/-- A repetition ends where its last item ended, or where it began. -/
theorem Chain.stop_eq (h : Chain element delimiter c items stop) :
    items = [] ∧ stop = c ∨
      ∃ a entry, items.getLast? = some a ∧ element.parse entry = .ok (.done a stop) := by
  cases h with
  | empty => exact .inl ⟨rfl, rfl⟩
  | @elements a rest stop items heparse hrounds =>
      rcases hrounds.stop_eq with ⟨rfl, rfl⟩ | ⟨last, entry, hlast, hparse⟩
      · exact .inr ⟨a, c, rfl, heparse⟩
      · exact .inr ⟨last, entry, by simp [List.getLast?_cons, hlast], hparse⟩

/-! ### Parts that never go back -/

section Forward

variable (he : element.Stays text) (hd : delimiter.Stays text)
variable (heforward : element.Forward text) (hdforward : delimiter.Forward text)

include he hd heforward hdforward

theorem Counts.length_lt (hc : c.Valid text) (h : Counts element delimiter c a rest) :
    rest.rest.length < c.rest.length := by
  have hrest := h.valid he hd hc
  obtain ⟨-, ⟨b, between, hdparse, heparse⟩, hmoved⟩ := h
  have hdelimiter := hdforward c b between hc hdparse
  have helement := heforward between a rest (hd.done hc hdparse) heparse
  have hbound := hrest.position_le
  rw [hrest.length_rest, hc.length_rest]
  omega

theorem Rounds.length_le (h : Rounds element delimiter c items stop) (hc : c.Valid text) :
    items.length ≤ c.rest.length := by
  induction h with
  | nil => exact Nat.zero_le _
  | cons hcounts _ ih =>
      have hlt := hcounts.length_lt he hd heforward hdforward hc
      have hle := ih (hcounts.valid he hd hc)
      rw [List.length_cons]
      omega

theorem Chain.length_le (h : Chain element delimiter c items stop) (hc : c.Valid text) :
    items.length ≤ c.rest.length + 1 := by
  cases h with
  | empty => exact Nat.zero_le _
  | @elements a rest stop items heparse hrounds =>
      have hrest := he.done hc heparse
      have hle := hrounds.length_le he hd heforward hdforward hrest
      have hposition := heforward c a rest hc heparse
      have hlength := hc.length_rest
      have hlength' := hrest.length_rest
      rw [List.length_cons]
      omega

variable (heanswers : element.Answers text) (hdanswers : delimiter.Answers text)

include heanswers hdanswers

theorem exists_rounds (hc : c.Valid text) :
    ∃ items stop, Rounds element delimiter c items stop := by
  induction hlength : c.rest.length using Nat.strongRecOn generalizing c with
  | _ length ih =>
      rcases counts_or_over hd heanswers hdanswers hc with hover | ⟨a, rest, hcounts⟩
      · exact ⟨[], c, .nil hover⟩
      · have hlt := hcounts.length_lt he hd heforward hdforward hc
        rw [hlength] at hlt
        obtain ⟨items, stop, hrounds⟩ := ih _ hlt (hcounts.valid he hd hc) rfl
        exact ⟨a :: items, stop, .cons hcounts hrounds⟩

theorem exists_chain (hc : c.Valid text) : ∃ items stop, Chain element delimiter c items stop := by
  obtain ⟨r, heparse⟩ := heanswers c hc
  cases r with
  | fail failed => exact ⟨[], c, .empty heparse⟩
  | done a rest =>
      obtain ⟨items, stop, hrounds⟩ :=
        exists_rounds he hd heforward hdforward heanswers hdanswers (he.done hc heparse)
      exact ⟨a :: items, stop, .elements heparse hrounds⟩

end Forward

/-- **A repetition reads the one chain of rounds.** Whatever its parts are, as long as they
stay in the text: it never fails, its items are those of the chain that begins at its entry,
and it ends where the last of them ended, with nothing of a further delimiter or element
consumed. Parts that never go back leave at most one item for each scalar, and one. -/
theorem zeroOrMore_eq_ok_iff_chain (he : element.Stays text) (hd : delimiter.Stays text)
    (hc : c.Valid text) :
    (∀ limit reply, (zeroOrMore limit element delimiter).parse c = .ok reply ↔
      ∃ items stop, reply = .done items stop ∧ Chain element delimiter c items stop ∧
        items.length ≤ limit) ∧
    ∀ items stop, Chain element delimiter c items stop →
      (∀ items' stop', Chain element delimiter c items' stop' → items' = items ∧ stop' = stop) ∧
      (items = [] ∧ stop = c ∨
        ∃ a entry, items.getLast? = some a ∧ element.parse entry = .ok (.done a stop)) ∧
      (element.Forward text → delimiter.Forward text → items.length ≤ c.rest.length + 1) := by
  refine ⟨fun limit reply => zeroOrMore_eq_ok_iff he hd hc, fun items stop hchain => ?_⟩
  refine ⟨fun items' stop' hchain' => hchain.unique he hd hc hchain', hchain.stop_eq, ?_⟩
  exact fun heforward hdforward => hchain.length_le he hd heforward hdforward hc

/-- An element that jumps back behind its delimiter, and a delimiter at the end with nothing
behind it. -/
theorem zeroOrMore_eq_ok_iff_chain_jump :
    (zeroOrMore 1 ((Grammar.jump 1).interpret [] 0) anyChar).parse (Cursor.start "ab") =
      (.ok (.done [.int 1] ⟨"ab", 1, 1, ['b']⟩) : Silent _) ∧
    (zeroOrMore 2 anyChar (literal ",")).parse (Cursor.start "a,b,") =
      (.ok (.done ['a', 'b'] ⟨"a,b,", 3, 3, [',']⟩) : Silent _) ∧
    ['a', 'b'].length ≤ (Cursor.start "a,b,").rest.length + 1 := by
  have hjump := zeroOrMore_eq_ok_iff_chain (stays_jump [] 0 1)
    (mannered_anyChar : anyChar.Mannered "ab" True _).stays (Cursor.valid_start "ab")
  have hchar : (anyChar : Parser Silent Char).Mannered "a,b," True 4 := mannered_anyChar
  have hcomma : (literal "," : Parser Silent Unit).Mannered "a,b," True 4 := mannered_literal ","
  have hwords := zeroOrMore_eq_ok_iff_chain hchar.stays hcomma.stays (Cursor.valid_start "a,b,")
  have hchain : Chain anyChar (literal ",") (Cursor.start "a,b,") ['a', 'b']
      ⟨"a,b,", 3, 3, [',']⟩ :=
    .elements rfl (.cons ⟨rfl, ⟨(), _, rfl, rfl⟩, by decide⟩ (.nil (.noElement rfl rfl)))
  refine ⟨?_, ?_, ?_⟩
  · exact (hjump.1 1 _).mpr
      ⟨_, _, rfl, .elements rfl (.nil (.stalled rfl rfl rfl)), by decide⟩
  · exact (hwords.1 2 _).mpr ⟨_, _, rfl, hchain, by decide⟩
  · exact (hwords.2 _ _ hchain).2.2 hchar.forward hcomma.forward

end Backtrack.Parser
