import Backtrack.Grammar.Custom
import Backtrack.Grammar.Interpret
import Backtrack.Proofs.Manners
import Backtrack.Proofs.Places

/-!
# Backtrack.Proofs.Conduct

**How far a parser can be trusted.** `Parser.Mannered` asks for all manners at once. What
a combinator does with the parts of a stranger depends on less, so the manners are taken
apart here:

* `Stays`: matches and failures are handed back at places of the text that was given;
* `Forward`: a match never ends before its entry;
* `Atomic`: a failure is left where it began;
* `Answers`: there is a reply, neither a fault nor an endless run.

A parser that stays can still be a nuisance. `Grammar.leak` fails behind its entry,
`Grammar.failAt` fails anywhere, and `Grammar.jump` matches backwards.
-/

namespace Backtrack.Parser

variable {α β : Type} {text : Source} {mayExhaust : Prop} {p : Parser Silent α}

/-- What is given back at a place of `text` is a place of `text`, be it a match or not. -/
def Stays (text : Source) (p : Parser Silent α) : Prop :=
  ∀ (c : Cursor) (r : Reply α), c.Valid text → p.parse c = .ok r → r.rest.Valid text

/-- No match ends before its entry. -/
def Forward (text : Source) (p : Parser Silent α) : Prop :=
  ∀ (c : Cursor) (value : α) (rest : Cursor), c.Valid text →
    p.parse c = .ok (.done value rest) → c.position ≤ rest.position

/-- A failure leaves the entry as it was. -/
def Atomic (text : Source) (p : Parser Silent α) : Prop :=
  ∀ c failed : Cursor, c.Valid text → p.parse c = .ok (.fail failed) → failed = c

/-- There is a reply at every place of `text`. -/
def Answers (text : Source) (p : Parser Silent α) : Prop :=
  ∀ c : Cursor, c.Valid text → ∃ r, p.parse c = .ok r

/-- There is a reply at the end of `text`. -/
def AnswersAtEnd (text : Source) (p : Parser Silent α) : Prop :=
  ∀ c : Cursor, c.Valid text → c.isEmpty = true → ∃ r, p.parse c = .ok r

theorem Answers.atEnd (h : p.Answers text) : p.AnswersAtEnd text := fun c hc _ => h c hc

/-! ### Cursors that were handed back -/

/-- From a place of a text there is a way back to any other. -/
theorem rewind_eq {c d : Cursor} (hd : d.Valid text) (hc : c.Valid text) :
    d.rewind c.anchor = .ok c := by
  simp [Cursor.rewind, Cursor.anchor, hc.source_eq, hd.source_eq]

theorem failBack_eq {c failed : Cursor} (hc : c.Valid text) (hfailed : failed.Valid text) :
    (failBack c failed : Silent (Reply α)) = .ok (.fail c) := by
  simp [failBack, rewind_eq hfailed hc]

theorem giveBack_eq {c reached : Cursor} (hc : c.Valid text) (hreached : reached.Valid text) :
    (giveBack c reached : Silent (Round α)) = .ok (.stop c) := by
  simp [giveBack, rewind_eq hreached hc]

theorem Stays.done (h : p.Stays text) {c rest : Cursor} {value : α} (hc : c.Valid text)
    (hparse : p.parse c = .ok (.done value rest)) : rest.Valid text :=
  h c _ hc hparse

theorem Stays.fail (h : p.Stays text) {c failed : Cursor} (hc : c.Valid text)
    (hparse : p.parse c = .ok (.fail failed)) : failed.Valid text :=
  h c _ hc hparse

/-- At the end of the text, a match that does not go back ends where it began. -/
theorem Forward.eq_of_atEnd (h : p.Forward text) (hp : p.Stays text) {c rest : Cursor} {value : α}
    (hc : c.Valid text) (hend : c.isEmpty = true)
    (hparse : p.parse c = .ok (.done value rest)) : rest = c := by
  have hrest := hp.done hc hparse
  have hle := h c value rest hc hparse
  have hlast : c.position = text.length := (hc.tfae_end.out 0 3).mp hend
  have hbound := hrest.position_le
  exact hc.eq_of_position hrest (by omega)

/-! ### Mannered parsers -/

/-- A mannered parser has a mannered reply wherever it has one. -/
theorem Mannered.reply (h : p.Mannered text mayExhaust text.length) {c : Cursor} {r : Reply α}
    (hc : c.Valid text) (hparse : p.parse c = .ok r) : r.Mannered c := by
  have hlen : c.rest.length ≤ text.length := by
    rw [hc.length_rest]
    omega
  have hends := h c hc hlen
  rwa [hparse] at hends

theorem Mannered.stays (h : p.Mannered text mayExhaust text.length) : p.Stays text :=
  fun _ _ hc hparse => hc.of_reaches (h.reply hc hparse).reaches

theorem Mannered.forward (h : p.Mannered text mayExhaust text.length) : p.Forward text :=
  fun _ _ _ hc hparse => (h.reply hc hparse).reaches.position_le

theorem Mannered.atomic (h : p.Mannered text mayExhaust text.length) : p.Atomic text :=
  fun _ _ hc hparse => h.reply hc hparse

theorem Mannered.answers (h : p.Mannered text False text.length) : p.Answers text := by
  intro c hc
  have hlen : c.rest.length ≤ text.length := by
    rw [hc.length_rest]
    omega
  obtain ⟨r, hparse, -⟩ := (h c hc hlen).exists_ok
  exact ⟨r, hparse⟩

/-! ### Constant answers and mapped values -/

theorem atomic_always (value : α) : (always value : Parser Silent α).Atomic text := by
  intro c failed _ hparse
  cases hparse

theorem stays_always (value : α) : (always value : Parser Silent α).Stays text := by
  intro c reply hc hparse
  obtain rfl : Reply.done value c = reply := Except.ok.inj hparse
  exact hc

theorem atomic_map {f : α → β} (hp : p.Atomic text) : (p.map f).Atomic text := by
  intro c failed hc hparse
  obtain ⟨reply, hparse', hreply⟩ := Silent.bind_eq_ok_iff.mp hparse
  cases reply with
  | done value rest => cases hreply
  | fail failed' =>
      obtain rfl : failed' = failed := Reply.fail.inj (Except.ok.inj hreply)
      exact hp c failed' hc hparse'

theorem stays_map_iff {f : α → β} : (p.map f).Stays text ↔ p.Stays text := by
  constructor
  · intro h c reply hc hparse
    have hmap : (p.map f).parse c = .ok (reply.map f) := by simp [Parser.map, hparse]
    simpa using h c _ hc hmap
  · intro h c reply hc hparse
    obtain ⟨reply', hparse', hreply⟩ := Silent.bind_eq_ok_iff.mp hparse
    obtain rfl : reply'.map f = reply := Except.ok.inj hreply
    simpa using h c reply' hc hparse'

/-! ### Parsers without manners -/

section Custom

variable (rules : Rules) (fuel : Nat)

theorem reaches_forward (c : Cursor) (count : Nat) : c.Reaches (c.forward count).1 := by
  by_cases h : count ≤ c.rest.length
  · rw [Cursor.forward_of_le h]
    exact Cursor.reaches_advance (List.take_prefix count c.rest)
  · rw [Cursor.forward_of_lt (Nat.lt_of_not_le h)]
    exact Cursor.reaches_advance (List.prefix_refl c.rest)

/-- A parser written as a function answers as the function does. -/
theorem custom_parse (reply : Cursor → Silent (Reply Value)) (c : Cursor) :
    ((Grammar.custom reply).interpret rules fuel : Parser Silent Value).parse c = reply c := by
  cases hreply : reply c with
  | ok r => simp [Grammar.interpret, Grammar.parser, hreply]
  | error cause =>
      simp only [Grammar.interpret, Grammar.parser, hreply]
      rfl

theorem stays_leak (count : Nat) :
    ((Grammar.leak count).interpret rules fuel : Parser Silent Value).Stays text := by
  intro c r hc hparse
  rw [Grammar.leak, custom_parse] at hparse
  obtain rfl : Reply.fail (c.forward count).1 = r := Except.ok.inj hparse
  exact hc.of_reaches (reaches_forward c count)

/-- Looking a position up in the text of the cursor gives a place of that text. -/
theorem stays_locate (position : Nat) (answer : Cursor → Reply Value)
    (hanswer : ∀ d, (answer d).rest = d) :
    ((Grammar.custom fun c => do
      return answer (← checked (Cursor.locate c.source position))).interpret rules fuel :
        Parser Silent Value).Stays text := by
  intro c r hc hparse
  rw [custom_parse, hc.source_eq] at hparse
  cases hlocate : Cursor.locate text position with
  | error cause =>
      rw [hlocate] at hparse
      cases hparse
  | ok d =>
      rw [hlocate] at hparse
      obtain rfl : answer d = r := Except.ok.inj hparse
      rw [hanswer]
      exact Cursor.valid_of_locate hlocate

theorem stays_jump (position : Nat) :
    ((Grammar.jump position).interpret rules fuel : Parser Silent Value).Stays text :=
  stays_locate rules fuel position (.done (.int position)) fun _ => rfl

theorem stays_failAt (position : Nat) :
    ((Grammar.failAt position).interpret rules fuel : Parser Silent Value).Stays text :=
  stays_locate rules fuel position .fail fun _ => rfl

end Custom

end Backtrack.Parser
