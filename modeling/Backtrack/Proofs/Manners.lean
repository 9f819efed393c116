import Backtrack.Parser.Choice
import Backtrack.Parser.Integer
import Backtrack.Parser.Repeat
import Backtrack.Proofs.Reach
import Backtrack.Proofs.Silent

/-!
# Backtrack.Proofs.Manners

**The manners of parsers.** A parser keeps the manners if it never faults, a match ends
at a cursor that its entry reaches, and a failure leaves the entry as it was. Nothing in
the combinators enforces that: `first` hands the cursor of one failure to the next
candidate, `map` passes failures through, a repetition rewinds to whatever it can. So
each of them gets a lemma that says what it needs of its parts.

Two things are stated once for several purposes:

* `Ends mayExhaust post x` says how a computation ends. With `mayExhaust := True` it is
  partial correctness, with `mayExhaust := False` it promises a result;
* `Parser.Mannered text mayExhaust room` speaks of the cursors of `text` with at most
  `room` scalars behind them, so that a part which only runs behind other matches can be
  asked for less.
-/

namespace Backtrack

variable {α β : Type} {mayExhaust : Prop}

/-! ### How computations end -/

/-- Ends with a result that satisfies `post`, never with a fault, and as exhausted only
if `mayExhaust`. -/
def Ends (mayExhaust : Prop) (post : α → Prop) : Silent α → Prop
  | .ok a => post a
  | .error .exhausted => mayExhaust
  | .error (.fault _) => False

theorem ends_pure {post : α → Prop} {a : α} (h : post a) :
    Ends mayExhaust post (pure a : Silent α) := h

theorem ends_bind {post : α → Prop} {post' : β → Prop} {x : Silent α} {f : α → Silent β}
    (hx : Ends mayExhaust post x)
    (hf : ∀ a, x = .ok a → post a → Ends mayExhaust post' (f a)) :
    Ends mayExhaust post' (x >>= f) := by
  cases x with
  | ok a => exact hf a rfl hx
  | error cause => cases cause with
    | exhausted => exact hx
    | fault cause => exact hx

theorem Ends.mono {post post' : α → Prop} {x : Silent α} (hx : Ends mayExhaust post x)
    (h : ∀ a, post a → post' a) : Ends mayExhaust post' x := by
  cases x with
  | ok a => exact h a hx
  | error cause => cases cause with
    | exhausted => exact hx
    | fault cause => exact hx

theorem Ends.exhausted_or_ok {post : α → Prop} {x : Silent α} (hx : Ends mayExhaust post x) :
    x = .error .exhausted ∨ ∃ a, x = .ok a ∧ post a := by
  cases x with
  | ok a => exact .inr ⟨a, rfl, hx⟩
  | error cause => cases cause with
    | exhausted => exact .inl rfl
    | fault cause => exact hx.elim

/-- What may not be exhausted has a result. -/
theorem Ends.exists_ok {post : α → Prop} {x : Silent α} (hx : Ends False post x) :
    ∃ a, x = .ok a ∧ post a := by
  rcases hx.exhausted_or_ok with rfl | h
  · exact hx.elim
  · exact h

/-! ### Replies and parsers with manners -/

/-- A match ends at a cursor that the entry reaches, a failure is left at the entry. -/
def Reply.Mannered (entry : Cursor) : Reply α → Prop
  | .done _ rest => entry.Reaches rest
  | .fail rest => rest = entry

@[simp] theorem Reply.mannered_map {entry : Cursor} {f : α → β} {r : Reply α} :
    (r.map f).Mannered entry ↔ r.Mannered entry := by
  cases r <;> rfl

/-- A mannered reply is left at a cursor that the entry reaches, whatever it says. -/
theorem Reply.Mannered.reaches {entry : Cursor} {r : Reply α} (h : r.Mannered entry) :
    entry.Reaches r.rest := by
  cases r with
  | done value rest => exact h
  | fail rest =>
      obtain rfl : rest = entry := h
      exact .refl rest

namespace Parser

variable {γ : Type} {text : Source} {room : Nat}

/-- Keeps the manners at the cursors of `text` with at most `room` scalars left. -/
def Mannered (text : Source) (mayExhaust : Prop) (room : Nat) (p : Parser Silent α) : Prop :=
  ∀ c : Cursor, c.Valid text → c.rest.length ≤ room →
    Ends mayExhaust (Reply.Mannered c) (p.parse c)

/-- Matches nowhere in `text` without moving past at least one scalar. -/
def Consumes (text : Source) (p : Parser Silent α) : Prop :=
  ∀ (c : Cursor) (value : α) (rest : Cursor), c.Valid text →
    p.parse c = .ok (.done value rest) → c.position < rest.position

theorem Mannered.mono {room' : Nat} {p : Parser Silent α} (h : p.Mannered text mayExhaust room)
    (hle : room' ≤ room) : p.Mannered text mayExhaust room' :=
  fun c hc hlen => h c hc (Nat.le_trans hlen hle)

/-! ### Parsers without parts -/

theorem mannered_anyChar : (anyChar : Parser Silent Char).Mannered text mayExhaust room := by
  intro c _ _
  rw [anyChar_parse]
  cases hrest : c.rest with
  | nil => exact ends_pure rfl
  | cons ch tail => exact ends_pure (Cursor.reaches_advance_cons hrest)

theorem mannered_literal (expected : String) :
    (literal expected : Parser Silent Unit).Mannered text mayExhaust room := by
  intro c _ _
  rw [literal_parse]
  split
  · exact ends_pure (Cursor.reaches_advance ‹_›)
  · exact ends_pure rfl

theorem mannered_nonNegativeInteger :
    (nonNegativeInteger : Parser Silent UInt64).Mannered text mayExhaust room := by
  intro c _ _
  have hreach : c.Reaches (c.advance (c.rest.takeWhile Char.isDigit)) :=
    Cursor.reaches_advance (List.takeWhile_prefix _)
  simp only [nonNegativeInteger]
  split
  · exact ends_pure rfl
  · split
    · exact ends_pure hreach
    · exact ends_pure rfl

theorem mannered_skipBlank : (skipBlank : Parser Silent Unit).Mannered text mayExhaust room :=
  fun c _ _ => ends_pure (c.reaches_advanceWhile Text.isBlank)

theorem mannered_always (value : α) :
    (always value : Parser Silent α).Mannered text mayExhaust room :=
  fun c _ _ => ends_pure (.refl c)

theorem mannered_never : (never : Parser Silent α).Mannered text mayExhaust room :=
  fun _ _ _ => ends_pure rfl

theorem consumes_anyChar : (anyChar : Parser Silent Char).Consumes text := by
  intro c value rest _ h
  rw [anyChar_parse] at h
  cases hrest : c.rest with
  | nil => simp [hrest] at h
  | cons ch tail =>
      simp only [hrest, Except.ok.injEq, Reply.done.injEq] at h
      rw [← h.2]
      exact Nat.lt_succ_self _

theorem consumes_literal {expected : String} (hne : expected ≠ "") :
    (literal expected : Parser Silent Unit).Consumes text := by
  intro c value rest _ h
  have hpos : 0 < expected.toList.length := by
    rw [String.length_toList]
    exact Nat.pos_of_ne_zero (by simpa using hne)
  rw [literal_parse, Except.ok.injEq] at h
  split at h
  · rw [Reply.done.injEq] at h
    rw [← h.2]
    exact Nat.lt_add_of_pos_right hpos
  · cases h

theorem consumes_nonNegativeInteger :
    (nonNegativeInteger : Parser Silent UInt64).Consumes text := by
  intro c value rest _ h
  simp only [nonNegativeInteger, Silent.pure_eq_ok] at h
  split at h
  · cases h
  · rename_i hdigits
    split at h
    · simp only [Except.ok.injEq, Reply.done.injEq] at h
      rw [← h.2]
      exact Nat.lt_add_of_pos_right (List.length_pos_iff.mpr hdigits)
    · cases h

/-! ### One parser after another -/

theorem failBack_ends {entry failed : Cursor} (h : entry.Reaches failed) :
    Ends mayExhaust (Reply.Mannered entry) (failBack entry failed : Silent (Reply β)) := by
  rw [failBack, h.rewind_eq]
  exact ends_pure rfl

theorem mannered_map {f : α → β} {p : Parser Silent α} (hp : p.Mannered text mayExhaust room) :
    (p.map f).Mannered text mayExhaust room := by
  intro c hc hlen
  refine ends_bind (hp c hc hlen) fun r _ hr => ?_
  exact ends_pure (Reply.mannered_map.mpr hr)

theorem consumes_map {f : α → β} {p : Parser Silent α}
    (h : p.Consumes text) : (p.map f).Consumes text := by
  intro c value rest hc hparse
  simp only [Parser.map] at hparse
  cases hp : p.parse c with
  | error cause =>
      rw [hp] at hparse
      cases hparse
  | ok r =>
      rw [hp] at hparse
      cases r with
      | fail rest => cases hparse
      | done a rest' =>
          simp only [Silent.ok_bind, Reply.map_done, Silent.pure_eq_ok, Except.ok.injEq,
            Reply.done.injEq] at hparse
          rw [← hparse.2]
          exact h c a rest' hc hp

/-- The second parser is only asked for manners where a match of the first one ends. -/
theorem mannered_bind {p : Parser Silent α} {next : α → Parser Silent β}
    (hp : p.Mannered text mayExhaust room)
    (hnext : ∀ (c : Cursor) (value : α) (rest : Cursor), c.Valid text → c.rest.length ≤ room →
      c.Reaches rest → p.parse c = .ok (.done value rest) →
      Ends mayExhaust (Reply.Mannered rest) ((next value).parse rest)) :
    (p.bind next).Mannered text mayExhaust room := by
  intro c hc hlen
  refine ends_bind (hp c hc hlen) fun r hparse hr => ?_
  cases r with
  | fail failed => exact failBack_ends hr.reaches
  | done value rest =>
      refine ends_bind (hnext c value rest hc hlen hr hparse) fun r' _ hr' => ?_
      cases r' with
      | fail failed => exact failBack_ends (hr.trans hr'.reaches)
      | done value' rest' => exact ends_pure (hr.trans hr')

theorem mannered_bind_of_consumes {p : Parser Silent α} {next : α → Parser Silent β}
    (hp : p.Mannered text mayExhaust room) (hguard : p.Consumes text)
    (hnext : ∀ value, 0 < room → (next value).Mannered text mayExhaust (room - 1)) :
    (p.bind next).Mannered text mayExhaust room := by
  refine mannered_bind hp fun c value rest hc hlen hreach hparse => ?_
  have hlt := hreach.length_lt (hguard c value rest hc hparse)
  exact hnext value (by omega) rest (hc.of_reaches hreach) (by omega)

theorem sequenceFrom_ends {entry c : Cursor} {ps : List (Parser Silent α)}
    (hps : ∀ p ∈ ps, p.Mannered text mayExhaust room) (hentry : entry.Valid text)
    (hreach : entry.Reaches c) (hlen : c.rest.length ≤ room) :
    Ends mayExhaust (Reply.Mannered entry) (sequenceFrom entry ps c) := by
  induction ps generalizing c with
  | nil => exact ends_pure hreach
  | cons p ps ih =>
      have hp := hps p List.mem_cons_self c (hentry.of_reaches hreach) hlen
      refine ends_bind hp fun r _ hr => ?_
      cases r with
      | fail failed => exact failBack_ends (hreach.trans hr.reaches)
      | done value rest =>
          have htail := ih (fun q hq => hps q (List.mem_cons_of_mem p hq)) (hreach.trans hr)
            (Nat.le_trans hr.length_le hlen)
          refine ends_bind htail fun r' _ hr' => ?_
          exact ends_pure (Reply.mannered_map.mpr hr')

/-- Behind a member that consumes, the others have one scalar less to go. -/
theorem sequenceFrom_ends_of_consumes {entry c : Cursor} {lead behind : List (Parser Silent α)}
    (hlead : ∀ p ∈ lead, p.Mannered text mayExhaust room)
    (hbehind : ∀ p ∈ behind, 0 < room → p.Mannered text mayExhaust (room - 1))
    (hguard : ∃ p ∈ lead, p.Consumes text) (hentry : entry.Valid text)
    (hreach : entry.Reaches c) (hlen : c.rest.length ≤ room) :
    Ends mayExhaust (Reply.Mannered entry) (sequenceFrom entry (lead ++ behind) c) := by
  induction lead generalizing c with
  | nil => simp at hguard
  | cons p lead ih =>
      have hc := hentry.of_reaches hreach
      refine ends_bind (hlead p List.mem_cons_self c hc hlen) fun r hparse hr => ?_
      cases r with
      | fail failed => exact failBack_ends (hreach.trans hr.reaches)
      | done value rest =>
          have hrest : rest.rest.length ≤ room := Nat.le_trans hr.length_le hlen
          have hlead' : ∀ q ∈ lead, q.Mannered text mayExhaust room := fun q hq =>
            hlead q (List.mem_cons_of_mem p hq)
          have htail : Ends mayExhaust (Reply.Mannered entry)
              (sequenceFrom entry (lead ++ behind) rest) := by
            by_cases hp : p.Consumes text
            · -- the guard has just matched: everything left has less room
              have hlt := hr.length_lt (hp c value rest hc hparse)
              have hroom : rest.rest.length ≤ room - 1 := by omega
              refine sequenceFrom_ends (fun q hq => ?_) hentry (hreach.trans hr) hroom
              rcases List.mem_append.mp hq with hq | hq
              · exact (hlead' q hq).mono (Nat.sub_le room 1)
              · exact hbehind q hq (by omega)
            · obtain ⟨q, hq, hguard⟩ := hguard
              rcases List.mem_cons.mp hq with rfl | hq
              · exact absurd hguard hp
              · exact ih hlead' ⟨q, hq, hguard⟩ (hreach.trans hr) hrest
          refine ends_bind htail fun r' _ hr' => ?_
          exact ends_pure (Reply.mannered_map.mpr hr')

theorem mannered_sequence_of_consumes {lead behind : List (Parser Silent α)}
    (hlead : ∀ p ∈ lead, p.Mannered text mayExhaust room)
    (hbehind : ∀ p ∈ behind, 0 < room → p.Mannered text mayExhaust (room - 1))
    (hguard : ∃ p ∈ lead, p.Consumes text) :
    (sequence (lead ++ behind)).Mannered text mayExhaust room :=
  fun c hc hlen => sequenceFrom_ends_of_consumes hlead hbehind hguard hc (.refl c) hlen

theorem mannered_sequence {ps : List (Parser Silent α)}
    (hps : ∀ p ∈ ps, p.Mannered text mayExhaust room) :
    (sequence ps).Mannered text mayExhaust room :=
  fun c hc hlen => sequenceFrom_ends hps hc (.refl c) hlen

/-! ### One parser of several -/

/-- A failed candidate leaves the cursor where it was, so the next one begins there. -/
theorem mannered_first {ps : List (Parser Silent α)}
    (hps : ∀ p ∈ ps, p.Mannered text mayExhaust room) :
    (first ps).Mannered text mayExhaust room := by
  intro c hc hlen
  show Ends mayExhaust (Reply.Mannered c) (firstFrom ps c)
  induction ps with
  | nil => exact ends_pure rfl
  | cons p ps ih =>
      refine ends_bind (hps p List.mem_cons_self c hc hlen) fun r _ hr => ?_
      cases r with
      | done value rest => exact ends_pure hr
      | fail rest =>
          obtain rfl : rest = c := hr
          exact ih fun q hq => hps q (List.mem_cons_of_mem p hq)

/-- The match that goes further is one of the two. -/
theorem mem_further {best : Option (α × Cursor)} {value : α} {rest : Cursor} {kept : α × Cursor}
    (h : kept ∈ further best value rest) : kept = (value, rest) ∨ kept ∈ best := by
  unfold further at h
  split at h
  case h_1 => exact .inl (Option.mem_some.mp h).symm
  case h_2 =>
    split at h
    · exact .inl (Option.mem_some.mp h).symm
    · exact .inr h

theorem furthest_ends {c : Cursor} {ps : List (Parser Silent α)} {best : Option (α × Cursor)}
    (hps : ∀ p ∈ ps, p.Mannered text mayExhaust room) (hc : c.Valid text)
    (hlen : c.rest.length ≤ room) (hbest : ∀ kept ∈ best, c.Reaches kept.2) :
    Ends mayExhaust (fun found : Option (α × Cursor) => ∀ kept ∈ found, c.Reaches kept.2)
      (furthest c ps best) := by
  induction ps generalizing best with
  | nil => exact ends_pure hbest
  | cons p ps ih =>
      have htail := fun q hq => hps q (List.mem_cons_of_mem p hq)
      refine ends_bind (hps p List.mem_cons_self c hc hlen) fun r _ hr => ?_
      cases r with
      | fail rest => exact ih htail hbest
      | done value rest =>
          -- whichever of the two matches is kept, it was reached from `c`
          refine ih htail fun kept hkept => ?_
          rcases mem_further hkept with rfl | hkept
          · exact hr
          · exact hbest kept hkept

theorem mannered_longest {ps : List (Parser Silent α)}
    (hps : ∀ p ∈ ps, p.Mannered text mayExhaust room) :
    (longest ps).Mannered text mayExhaust room := by
  intro c hc hlen
  refine ends_bind (furthest_ends hps hc hlen (fun _ h => by cases h)) fun found _ hfound => ?_
  cases found with
  | none => exact ends_pure rfl
  | some kept => exact ends_pure (hfound kept rfl)

/-! ### Looking for a delimiter -/

theorem findMatch_ends {c : Cursor} {delimiter : Parser Silent β} {cs : List Char}
    (hd : delimiter.Mannered text mayExhaust room) (hc : c.Valid text)
    (hlen : c.rest.length ≤ room) (hcs : c.rest = cs) :
    Ends mayExhaust (fun stop => c.Reaches stop) (findMatch delimiter cs c) := by
  induction cs generalizing c with
  | nil => exact ends_pure (.refl c)
  | cons ch cs ih =>
      refine ends_bind (hd c hc hlen) fun r _ _ => ?_
      have hstep := Cursor.reaches_advance_cons hcs
      -- the reply is only asked whether it is a match; where it ended is ignored
      split
      · exact ends_pure (.refl c)
      · have htail := ih (hc.of_reaches hstep) (Nat.le_trans hstep.length_le hlen)
          (by simp [Cursor.advance, hcs])
        exact htail.mono fun stop hstop => hstep.trans hstop

theorem mannered_charactersUntil {delimiter : Parser Silent β}
    (hd : delimiter.Mannered text mayExhaust room) :
    (charactersUntil delimiter).Mannered text mayExhaust room := by
  intro c hc hlen
  refine ends_bind (findMatch_ends hd hc hlen rfl) fun stop _ hstop => ?_
  obtain ⟨run, hrun, rfl⟩ := hstop
  simp only [Cursor.consumedSince_advance hrun, checked_ok, pure_bind]
  exact ends_pure (Cursor.reaches_advance hrun)

/-! ### Repetition -/

/-- A round that counts gets ahead, and one that does not is given back whole. -/
def Round.Mannered (entry : Cursor) : Round α → Prop
  | .item _ rest => entry.Reaches rest ∧ entry.position < rest.position
  | .stop rest => rest = entry

theorem giveBack_ends {c reached : Cursor} (h : c.Reaches reached) :
    Ends mayExhaust (Round.Mannered c) (giveBack c reached : Silent (Round α)) := by
  rw [giveBack, h.rewind_eq]
  exact ends_pure rfl

theorem nextRound_ends {c : Cursor} {element : Parser Silent α} {delimiter : Parser Silent β}
    (he : element.Mannered text mayExhaust room) (hd : delimiter.Mannered text mayExhaust room)
    (hc : c.Valid text) (hlen : c.rest.length ≤ room) :
    Ends mayExhaust (Round.Mannered c) (nextRound element delimiter c) := by
  unfold nextRound
  split
  · exact ends_pure rfl
  refine ends_bind (hd c hc hlen) fun r _ hr => ?_
  cases r with
  | fail failed => exact giveBack_ends hr.reaches
  | done _ between =>
      have hbetween := Nat.le_trans hr.length_le hlen
      refine ends_bind (he between (hc.of_reaches hr) hbetween) fun r' _ hr' => ?_
      have hreach := hr.trans hr'.reaches
      cases r' with
      | fail failed => exact giveBack_ends hreach
      | done value rest =>
          -- a round that ends where it began does not count, whatever it found
          by_cases hstall : rest.position = c.position
          · simp only [hstall, if_true, Silent.emit_eq_ok, Silent.ok_bind]
            exact giveBack_ends hreach
          · simp only [hstall, if_false]
            have hle := hreach.position_le
            exact ends_pure ⟨hreach, Nat.lt_of_le_of_ne hle (Ne.symm hstall)⟩

/-- Every round that counts leaves fewer scalars, so a limit beyond their number is never
used up. -/
theorem repeatRounds_ends {round : Cursor → Silent (Round α)} {limit : Nat} {items : List α}
    {c : Cursor}
    (hround : ∀ c : Cursor, c.Valid text → c.rest.length ≤ room →
      Ends mayExhaust (Round.Mannered c) (round c))
    (hc : c.Valid text) (hlen : c.rest.length ≤ room)
    (hlimit : mayExhaust ∨ c.rest.length < limit) :
    Ends mayExhaust (fun result : List α × Cursor => c.Reaches result.2)
      (repeatRounds round limit items c) := by
  induction limit generalizing items c with
  | zero => exact hlimit.resolve_right (Nat.not_lt_zero _)
  | succ limit ih =>
      refine ends_bind (hround c hc hlen) fun r _ hr => ?_
      cases r with
      | stop rest =>
          obtain rfl : rest = c := hr
          exact ends_pure (.refl rest)
      | item value rest =>
          obtain ⟨hreach, hpos⟩ := hr
          have hlt := hreach.length_lt hpos
          have hrest : rest.rest.length ≤ room := by omega
          have hlimit' : mayExhaust ∨ rest.rest.length < limit :=
            hlimit.imp_right fun h => by omega
          exact (ih (hc.of_reaches hreach) hrest hlimit').mono fun result hresult =>
            hreach.trans hresult

theorem mannered_zeroOrMore {limit : Nat} {element : Parser Silent α}
    {delimiter : Parser Silent β} (he : element.Mannered text mayExhaust room)
    (hd : delimiter.Mannered text mayExhaust room) (hlimit : mayExhaust ∨ room < limit) :
    (zeroOrMore limit element delimiter).Mannered text mayExhaust room := by
  intro c hc hlen
  refine ends_bind (he c hc hlen) fun r _ hr => ?_
  cases r with
  | fail failed =>
      obtain rfl : failed = c := hr
      simp only [Cursor.rewind_anchor, checked_ok, pure_bind]
      exact ends_pure (.refl failed)
  | done value rest =>
      have hrest := Nat.le_trans hr.length_le hlen
      have hlimit' : mayExhaust ∨ rest.rest.length < limit :=
        hlimit.imp_right fun h => Nat.lt_of_le_of_lt hrest h
      refine ends_bind (repeatRounds_ends (fun c hc hlen => nextRound_ends he hd hc hlen)
        (hc.of_reaches hr) hrest hlimit') fun result _ hresult => ?_
      exact ends_pure (hr.trans hresult)

end Parser

end Backtrack
