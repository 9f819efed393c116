import Backtrack.Proofs.Conduct

/-!
# Backtrack.Proofs.Containment

**Combinators that put up with anything.** Sequences and `bind` are transactions, `longest`
runs its candidates side by side, and a repetition gives a round back that does not count.
So none of them passes on what a part does to the cursor when it fails: they match, or they
fail exactly where they began (`Reply.Contained`), and a repetition always matches. That
asks nothing of the parts but that they stay in the text. They may fail behind their entry
or before it, and match backwards.

A part may also have no reply, and then the whole has none either. `EndsOr` keeps account of
that: a combinator never halts on its own, only for a cause for which one of its parts halts.

There is one thing that a transaction cannot undo. If the member that fails hands back a
cursor of another text, be it a copy of this one, there is no way back to the entry, and the
whole faults; `longest` does not care (`misbehaviour_contained`).
-/

namespace Backtrack

variable {α β γ : Type} {halts : Halt → Prop} {text : Source}

/-! ### Results and halts -/

/-- Ends with a result that satisfies `post`, or halts for a cause that satisfies `halts`. -/
def EndsOr (halts : Halt → Prop) (post : α → Prop) : Silent α → Prop
  | .ok a => post a
  | .error cause => halts cause

theorem endsOr_bind {post : α → Prop} {post' : β → Prop} {x : Silent α} {f : α → Silent β}
    (hx : EndsOr halts post x) (hf : ∀ a, post a → EndsOr halts post' (f a)) :
    EndsOr halts post' (x >>= f) := by
  cases x with
  | ok a => exact hf a hx
  | error cause => exact hx

/-- A match ends in the text, a failure is left at the entry. -/
def Reply.Contained (text : Source) (entry : Cursor) : Reply α → Prop
  | .done _ rest => rest.Valid text
  | .fail rest => rest = entry

theorem Reply.contained_map {entry : Cursor} {f : α → β} {r : Reply α}
    (h : r.Contained text entry) : (r.map f).Contained text entry := by
  cases r with
  | done value rest => exact h
  | fail rest => exact h

namespace Parser

variable {p : Parser Silent α} {q : Parser Silent β} {r : Parser Silent γ}
variable {ps : List (Parser Silent α)} {entry c : Cursor}

/-- Halts for `cause` somewhere in `text`. -/
def HaltsIn (text : Source) (p : Parser Silent α) (cause : Halt) : Prop :=
  ∃ c : Cursor, c.Valid text ∧ p.parse c = .error cause

/-- Stays in `text` or halts for a cause that satisfies `halts`. -/
def StaysOr (text : Source) (halts : Halt → Prop) (p : Parser Silent α) : Prop :=
  ∀ c : Cursor, c.Valid text → EndsOr halts (fun reply => reply.rest.Valid text) (p.parse c)

/-- Matches in `text`, or fails at its entry, or halts for a cause that satisfies `halts`. -/
def Contained (text : Source) (halts : Halt → Prop) (p : Parser Silent α) : Prop :=
  ∀ c : Cursor, c.Valid text → EndsOr halts (Reply.Contained text c) (p.parse c)

/-- A parser that stays halts for its own causes only. -/
theorem Stays.staysOr (hp : p.Stays text) (hhalts : ∀ cause, p.HaltsIn text cause → halts cause) :
    p.StaysOr text halts := by
  intro c hc
  cases hparse : p.parse c with
  | ok reply => exact hp c reply hc hparse
  | error cause => exact hhalts cause ⟨c, hc, hparse⟩

/-- Whatever a parser halts for. -/
theorem Stays.orHalts (hp : p.Stays text) : p.StaysOr text fun _ => True :=
  hp.staysOr fun _ _ => trivial

theorem Contained.atomic (h : p.Contained text halts) : p.Atomic text := by
  intro c failed hc hparse
  have hends := h c hc
  rw [hparse] at hends
  exact hends

theorem Contained.stays (h : p.Contained text halts) : p.Stays text := by
  intro c reply hc hparse
  have hends := h c hc
  rw [hparse] at hends
  cases reply with
  | done value rest => exact hends
  | fail failed =>
      obtain rfl : failed = c := hends
      exact hc

/-! ### Transactions -/

theorem failBack_contained {failed : Cursor} (hentry : entry.Valid text)
    (hfailed : failed.Valid text) :
    EndsOr halts (Reply.Contained text entry) (failBack entry failed : Silent (Reply α)) := by
  rw [failBack_eq hentry hfailed]
  exact rfl

/-- A member of a transaction: whether it fails or what comes behind it does, the transaction
fails at its entry. -/
theorem member_contained {next : α → Cursor → Silent (Reply β)} (hentry : entry.Valid text)
    (hp : p.StaysOr text halts) (hc : c.Valid text)
    (hnext : ∀ value rest, rest.Valid text →
      EndsOr halts (Reply.Contained text entry) (next value rest)) :
    EndsOr halts (Reply.Contained text entry) (p.parse c >>= fun reply =>
      match reply with
      | .fail failed => failBack entry failed
      | .done value rest => next value rest) := by
  refine endsOr_bind (hp c hc) fun reply hreply => ?_
  cases reply with
  | fail failed => exact failBack_contained hentry hreply
  | done value rest => exact hnext value rest hreply

theorem sequenceFrom_contained (hps : ∀ p ∈ ps, p.StaysOr text halts) (hentry : entry.Valid text)
    (hc : c.Valid text) :
    EndsOr halts (Reply.Contained text entry) (sequenceFrom entry ps c) := by
  induction ps generalizing c with
  | nil => exact hc
  | cons p ps ih =>
      refine member_contained hentry (hps p List.mem_cons_self) hc fun value rest hrest => ?_
      have htail := ih (fun q hq => hps q (List.mem_cons_of_mem p hq)) hrest
      exact endsOr_bind htail fun _ hreply => Reply.contained_map hreply

theorem contained_sequence (hps : ∀ p ∈ ps, p.StaysOr text halts) :
    (sequence ps).Contained text halts :=
  fun _ hc => sequenceFrom_contained hps hc hc

theorem contained_pair (hp : p.StaysOr text halts) (hq : q.StaysOr text halts) :
    (pair p q).Contained text halts := by
  intro c hc
  refine member_contained hc hp hc fun a rest hrest => ?_
  exact member_contained hc hq hrest fun b rest' hrest' => hrest'

theorem contained_between (hp : p.StaysOr text halts) (hq : q.StaysOr text halts)
    (hr : r.StaysOr text halts) : (between p q r).Contained text halts := by
  intro c hc
  refine member_contained hc hp hc fun a rest hrest => ?_
  refine member_contained hc hq hrest fun value rest' hrest' => ?_
  exact member_contained hc hr hrest' fun x rest'' hrest'' => hrest''

theorem contained_bind {next : α → Parser Silent β} (hp : p.StaysOr text halts)
    (hnext : ∀ value, (next value).StaysOr text halts) : (p.bind next).Contained text halts := by
  intro c hc
  refine member_contained hc hp hc fun value rest hrest => ?_
  exact member_contained hc (hnext value) hrest fun value' rest' hrest' => hrest'

/-! ### Candidates side by side -/

theorem furthest_valid {best : Option (α × Cursor)} (hps : ∀ p ∈ ps, p.StaysOr text halts)
    (hc : c.Valid text) (hbest : ∀ kept ∈ best, kept.2.Valid text) :
    EndsOr halts (fun found : Option (α × Cursor) => ∀ kept ∈ found, kept.2.Valid text)
      (furthest c ps best) := by
  induction ps generalizing best with
  | nil => exact hbest
  | cons p ps ih =>
      have htail := fun q hq => hps q (List.mem_cons_of_mem p hq)
      refine endsOr_bind (hps p List.mem_cons_self c hc) fun reply hreply => ?_
      cases reply with
      | fail failed => exact ih htail hbest
      | done value rest =>
          refine ih htail fun kept hkept => ?_
          rcases mem_further hkept with rfl | hkept
          · exact hreply
          · exact hbest kept hkept

theorem contained_longest (hps : ∀ p ∈ ps, p.StaysOr text halts) :
    (longest ps).Contained text halts := by
  intro c hc
  refine endsOr_bind (furthest_valid hps hc (fun _ h => by cases h)) fun found hfound => ?_
  cases found with
  | none => exact rfl
  | some kept => exact hfound kept rfl

/-- A candidate that fails might as well not be there. -/
theorem furthest_of_fail {before after : List (Parser Silent α)} {failed : Cursor}
    (hfail : p.parse c = .ok (.fail failed)) (best : Option (α × Cursor)) :
    furthest c (before ++ p :: after) best = furthest c (before ++ after) best := by
  induction before generalizing best with
  | nil => simp [furthest, hfail]
  | cons q before ih =>
      simp only [List.cons_append, furthest]
      cases q.parse c with
      | error cause => rfl
      | ok reply =>
          cases reply with
          | fail rest => exact ih best
          | done value rest => exact ih (further best value rest)

theorem longest_of_fail {before after : List (Parser Silent α)} {failed : Cursor}
    (hfail : p.parse c = .ok (.fail failed)) :
    (longest (before ++ p :: after)).parse c = (longest (before ++ after)).parse c := by
  simp only [longest, furthest_of_fail hfail]

/-! ### Repetitions -/

/-- A round is left in the text, whether it counts or not. -/
def Round.Within (text : Source) : Round α → Prop
  | .item _ rest => rest.Valid text
  | .stop rest => rest.Valid text

theorem giveBack_within {reached : Cursor} (hc : c.Valid text) (hreached : reached.Valid text) :
    EndsOr halts (Round.Within text) (giveBack c reached : Silent (Round α)) := by
  rw [giveBack_eq hc hreached]
  exact hc

section Repetition

variable {element : Parser Silent α} {delimiter : Parser Silent β}
variable (he : element.StaysOr text halts) (hd : delimiter.StaysOr text halts)

include he hd

theorem nextRound_within (hc : c.Valid text) :
    EndsOr halts (Round.Within text) (nextRound element delimiter c) := by
  unfold nextRound
  split
  · exact hc
  refine endsOr_bind (hd c hc) fun reply hreply => ?_
  cases reply with
  | fail failed => exact giveBack_within hc hreply
  | done b between =>
      refine endsOr_bind (he between hreply) fun reply' hreply' => ?_
      cases reply' with
      | fail failed => exact giveBack_within hc hreply'
      | done value rest =>
          dsimp only
          split
          · exact giveBack_within hc hreply'
          · exact hreply'

theorem repeatRounds_within (hexhausted : halts .exhausted) {limit : Nat} {items : List α}
    (hc : c.Valid text) :
    EndsOr halts (fun found : List α × Cursor => found.2.Valid text)
      (repeatRounds (nextRound element delimiter) limit items c) := by
  induction limit generalizing items c with
  | zero => exact hexhausted
  | succ limit ih =>
      refine endsOr_bind (nextRound_within he hd hc) fun round hround => ?_
      cases round with
      | stop rest => exact hround
      | item value rest => exact ih hround

theorem zeroOrMore_matches (hexhausted : halts .exhausted) {limit : Nat} (hc : c.Valid text) :
    EndsOr halts (fun reply => ∃ items stop, reply = .done items stop ∧ stop.Valid text)
      ((zeroOrMore limit element delimiter).parse c) := by
  refine endsOr_bind (he c hc) fun reply hreply => ?_
  cases reply with
  | fail failed =>
      have hback : failed.rewind c.anchor = .ok c := rewind_eq hreply hc
      simp only [hback, checked_ok, pure_bind]
      exact ⟨[], c, rfl, hc⟩
  | done value rest =>
      refine endsOr_bind (repeatRounds_within he hd hexhausted hreply) fun found hfound => ?_
      exact ⟨found.1, found.2, rfl, hfound⟩

end Repetition

/-! ### Failures in another text -/

theorem failBack_foreign {failed : Cursor} (h : failed.source ≠ entry.source) :
    (failBack entry failed : Silent (Reply α)) = .error (.fault .foreignAnchor) := by
  rw [failBack, Cursor.rewind_eq_error_iff.mpr ⟨h, rfl⟩]
  rfl

theorem sequenceFrom_foreign {before after : List (Parser Silent α)} {values : List α}
    {reached failed : Cursor} (hbefore : sequenceFrom entry before c = .ok (.done values reached))
    (hfail : p.parse reached = .ok (.fail failed)) (hsource : failed.source ≠ entry.source) :
    sequenceFrom entry (before ++ p :: after) c = .error (.fault .foreignAnchor) := by
  induction before generalizing c values with
  | nil =>
      obtain ⟨rfl, rfl⟩ := Reply.done.inj (Except.ok.inj hbefore)
      simp [sequenceFrom, hfail, failBack_foreign hsource]
  | cons q before ih =>
      obtain ⟨reply, hq, hbefore⟩ := Silent.bind_eq_ok_iff.mp hbefore
      cases reply with
      | fail rest =>
          obtain ⟨d, -, hback⟩ := Silent.bind_eq_ok_iff.mp hbefore
          cases hback
      | done value rest =>
          obtain ⟨reply', hrest, hbefore⟩ := Silent.bind_eq_ok_iff.mp hbefore
          cases reply' with
          | fail rest' => cases hbefore
          | done values' rest' =>
              obtain ⟨rfl, rfl⟩ := Reply.done.inj (Except.ok.inj hbefore)
              simp [sequenceFrom, hq, ih hrest]

theorem bind_foreign {next : α → Parser Silent β} {failed : Cursor}
    (hfail : p.parse c = .ok (.fail failed) ∨ ∃ value reached,
      p.parse c = .ok (.done value reached) ∧ (next value).parse reached = .ok (.fail failed))
    (hsource : failed.source ≠ c.source) :
    (p.bind next).parse c = .error (.fault .foreignAnchor) := by
  rcases hfail with hp | ⟨value, reached, hp, hnext⟩
  · simp [Parser.bind, hp, failBack_foreign hsource]
  · simp [Parser.bind, hp, hnext, failBack_foreign hsource]

theorem pair_foreign {failed : Cursor}
    (hfail : p.parse c = .ok (.fail failed) ∨ ∃ a reached,
      p.parse c = .ok (.done a reached) ∧ q.parse reached = .ok (.fail failed))
    (hsource : failed.source ≠ c.source) :
    (pair p q).parse c = .error (.fault .foreignAnchor) := by
  rcases hfail with hp | ⟨a, reached, hp, hq⟩
  · simp [Parser.pair, hp, failBack_foreign hsource]
  · simp [Parser.pair, hp, hq, failBack_foreign hsource]

theorem between_foreign {failed : Cursor}
    (hfail : p.parse c = .ok (.fail failed) ∨ ∃ a reached,
      p.parse c = .ok (.done a reached) ∧ (q.parse reached = .ok (.fail failed) ∨ ∃ b reached',
        q.parse reached = .ok (.done b reached') ∧ r.parse reached' = .ok (.fail failed)))
    (hsource : failed.source ≠ c.source) :
    (between p q r).parse c = .error (.fault .foreignAnchor) := by
  rcases hfail with hp | ⟨a, reached, hp, hq | ⟨b, reached', hq, hr⟩⟩
  · simp [Parser.between, hp, failBack_foreign hsource]
  · simp [Parser.between, hp, hq, failBack_foreign hsource]
  · simp [Parser.between, hp, hq, hr, failBack_foreign hsource]

end Parser

open Backtrack.Parser

/-! ### All combinators together -/

/-- What becomes of parts that stay in `text`, whatever else they do. A whole halts only for
the cause of one of its parts. -/
structure Containment (text : Source) : Prop where
  /-- A sequence of any number of members. -/
  sequence : ∀ {α : Type} (ps : List (Parser Silent α)), (∀ p ∈ ps, p.Stays text) →
    (Parser.sequence ps).Contained text fun cause => ∃ p ∈ ps, p.HaltsIn text cause
  pair : ∀ {α β : Type} (p : Parser Silent α) (q : Parser Silent β), p.Stays text →
    q.Stays text → (Parser.pair p q).Contained text fun cause =>
      p.HaltsIn text cause ∨ q.HaltsIn text cause
  between : ∀ {α β γ : Type} (p : Parser Silent α) (q : Parser Silent β) (r : Parser Silent γ),
    p.Stays text → q.Stays text → r.Stays text → (Parser.between p q r).Contained text fun cause =>
      p.HaltsIn text cause ∨ q.HaltsIn text cause ∨ r.HaltsIn text cause
  bind : ∀ {α β : Type} (p : Parser Silent α) (next : α → Parser Silent β), p.Stays text →
    (∀ value, (next value).Stays text) → (p.bind next).Contained text fun cause =>
      p.HaltsIn text cause ∨ ∃ value, (next value).HaltsIn text cause
  /-- A choice of the furthest of any number of candidates. -/
  longest : ∀ {α : Type} (ps : List (Parser Silent α)), (∀ p ∈ ps, p.Stays text) →
    (Parser.longest ps).Contained text fun cause => ∃ p ∈ ps, p.HaltsIn text cause
  /-- A repetition never fails, but it can go on for ever if its parts go back. -/
  zeroOrMore : ∀ {α β : Type} (limit : Nat) (p : Parser Silent α) (d : Parser Silent β),
    p.Stays text → d.Stays text → ∀ c : Cursor, c.Valid text →
      EndsOr (fun cause => cause = .exhausted ∨ p.HaltsIn text cause ∨ d.HaltsIn text cause)
        (fun reply => ∃ items stop, reply = .done items stop ∧ stop.Valid text)
        ((Parser.zeroOrMore limit p d).parse c)

/-- What becomes of a part that fails at `failed`, which lies in another text than the entry
`c` of the whole; the two texts may have the same contents. -/
structure ForeignFailure (c failed : Cursor) : Prop where
  /-- The members before it have matched, wherever that led. -/
  sequence : ∀ {α : Type} (before after : List (Parser Silent α)) (p : Parser Silent α)
    (values : List α) (reached : Cursor),
    (Parser.sequence before).parse c = .ok (.done values reached) →
    p.parse reached = .ok (.fail failed) →
    (Parser.sequence (before ++ p :: after)).parse c = .error (.fault .foreignAnchor)
  pair : ∀ {α β : Type} (p : Parser Silent α) (q : Parser Silent β),
    (p.parse c = .ok (.fail failed) ∨ ∃ a reached, p.parse c = .ok (.done a reached) ∧
      q.parse reached = .ok (.fail failed)) →
    (Parser.pair p q).parse c = .error (.fault .foreignAnchor)
  between : ∀ {α β γ : Type} (p : Parser Silent α) (q : Parser Silent β) (r : Parser Silent γ),
    (p.parse c = .ok (.fail failed) ∨ ∃ a reached, p.parse c = .ok (.done a reached) ∧
      (q.parse reached = .ok (.fail failed) ∨ ∃ b reached',
        q.parse reached = .ok (.done b reached') ∧ r.parse reached' = .ok (.fail failed))) →
    (Parser.between p q r).parse c = .error (.fault .foreignAnchor)
  bind : ∀ {α β : Type} (p : Parser Silent α) (next : α → Parser Silent β),
    (p.parse c = .ok (.fail failed) ∨ ∃ value reached, p.parse c = .ok (.done value reached) ∧
      (next value).parse reached = .ok (.fail failed)) →
    (p.bind next).parse c = .error (.fault .foreignAnchor)
  /-- The other candidates decide. -/
  longest : ∀ {α : Type} (before after : List (Parser Silent α)) (p : Parser Silent α),
    p.parse c = .ok (.fail failed) →
    (Parser.longest (before ++ p :: after)).parse c = (Parser.longest (before ++ after)).parse c

/-- **Misbehaving parts are contained.** Sequences, `bind` and `longest` match in their text or
fail at their entry, and a repetition matches, whatever their parts do within the text. Only a
member that fails in another text breaks a transaction, which then faults; `longest` answers
from its other candidates. -/
theorem misbehaviour_contained (text : Source) :
    Containment text ∧
    (∀ c failed : Cursor, failed.source ≠ c.source → ForeignFailure c failed) ∧
    Fault.message .foreignAnchor = some "the anchor is not an anchor of this cursor." := by
  refine ⟨?_, fun c failed hsource => ?_, rfl⟩
  · exact
      { sequence := fun ps hps => contained_sequence fun p hp =>
          (hps p hp).staysOr fun cause hcause => ⟨p, hp, hcause⟩
        pair := fun p q hp hq =>
          contained_pair (hp.staysOr fun _ => .inl) (hq.staysOr fun _ => .inr)
        between := fun p q r hp hq hr => contained_between (hp.staysOr fun _ => .inl)
          (hq.staysOr fun _ hcause => .inr (.inl hcause))
          (hr.staysOr fun _ hcause => .inr (.inr hcause))
        bind := fun p next hp hnext => contained_bind (hp.staysOr fun _ => .inl)
          fun value => (hnext value).staysOr fun _ hcause => .inr ⟨value, hcause⟩
        longest := fun ps hps => contained_longest fun p hp =>
          (hps p hp).staysOr fun cause hcause => ⟨p, hp, hcause⟩
        zeroOrMore := fun limit p d hp hd c hc =>
          zeroOrMore_matches (hp.staysOr fun _ hcause => .inr (.inl hcause))
            (hd.staysOr fun _ hcause => .inr (.inr hcause)) (.inl rfl) hc }
  · exact
      { sequence := fun before after p values reached hbefore hfail =>
          sequenceFrom_foreign hbefore hfail hsource
        pair := fun p q hfail => pair_foreign hfail hsource
        between := fun p q r hfail => between_foreign hfail hsource
        bind := fun p next hfail => bind_foreign hfail hsource
        longest := fun before after p hfail => longest_of_fail hfail }

/-- Parts that match backwards, leak and fail in front of their entry; and a part that fails in
a copy of the text, in a sequence and in a choice. -/
theorem misbehaviour_contained_strangers :
    (∀ p ∈ [(Grammar.jump 0).interpret [] 0, (Grammar.leak 2).interpret [] 0,
        (Grammar.failAt 0).interpret [] 0], Stays "abc" (p : Parser Silent Value)) ∧
    EndsOr (fun _ => False) (Reply.Contained "abc" ⟨"abc", 1, 1, ['b', 'c']⟩)
      ((sequence [(Grammar.jump 0).interpret [] 0, (Grammar.leak 2).interpret [] 0,
        (Grammar.failAt 0).interpret [] 0]).parse ⟨"abc", 1, 1, ['b', 'c']⟩) ∧
    (sequence [(Grammar.jump 0).interpret [] 0,
        (Grammar.foreignFail ⟨"abc", 1⟩).interpret [] 0]).parse ⟨"abc", 1, 1, ['b', 'c']⟩ =
      (.error (.fault .foreignAnchor) : Silent _) ∧
    (longest [(Grammar.foreignFail ⟨"abc", 1⟩).interpret [] 0,
        (Grammar.jump 0).interpret [] 0]).parse ⟨"abc", 1, 1, ['b', 'c']⟩ =
      (.ok (.done (.int 0) (Cursor.start "abc")) : Silent _) := by
  obtain ⟨hcontained, hforeign, -⟩ := misbehaviour_contained "abc"
  have hvalid : (⟨"abc", 1, 1, ['b', 'c']⟩ : Cursor).Valid "abc" :=
    Cursor.valid_of_locate (rfl : Cursor.locate "abc" 1 = .ok ⟨"abc", 1, 1, ['b', 'c']⟩)
  have hstay : ∀ p ∈ [(Grammar.jump 0).interpret [] 0, (Grammar.leak 2).interpret [] 0,
      (Grammar.failAt 0).interpret [] 0], Stays "abc" (p : Parser Silent Value) := by
    simp [stays_jump, stays_leak, stays_failAt]
  have hother := hforeign ⟨"abc", 1, 1, ['b', 'c']⟩ (Cursor.start ⟨"abc", 1⟩) (by decide)
  refine ⟨hstay, ?_, ?_, ?_⟩
  · exact hcontained.sequence _ hstay _ hvalid
  · exact hother.sequence [(Grammar.jump 0).interpret [] 0] [] _ [.int 0] (Cursor.start "abc")
      rfl rfl
  · exact hother.longest [] [(Grammar.jump 0).interpret [] 0] _ rfl

end Backtrack
