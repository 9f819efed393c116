import Mathlib.Data.List.Forall2
import Backtrack.Parser.Choice
import Backtrack.Parser.Integer
import Backtrack.Parser.Repeat

/-!
# Backtrack.Proofs.Simulation

**Comparing two runs.** The combinators do not look into the computations they run in
nor into the values they hand on, and of a cursor they only use what is left, where it
can be rewound to and which of two is further on. So two runs on related cursors go the
same way. A `Simulation` says what has to be shown for that, once:

* `near` relates cursors, `rel` lifts a relation of results to one of computations;
* both are closed under the few things that combinators do with them.

`Simulation.Alike` is the resulting relation of parsers, with one lemma for each
combinator. The two sides can differ in their bounds if the simulation is *lenient*, that
is, if it puts up with anything once the first side is exhausted.
-/

namespace Backtrack

variable {α α' β β' γ γ' : Type}

/-! ### Relations of results and of cursors -/

/-- Results that are alike: both are there and related, or missing for the same reason. -/
inductive ResultAlike {ε : Type} (R : α → β → Prop) : Except ε α → Except ε β → Prop
  | ok {a : α} {b : β} (h : R a b) : ResultAlike R (.ok a) (.ok b)
  | error (cause : ε) : ResultAlike R (.error cause) (.error cause)

theorem ResultAlike.refl {ε : Type} (x : Except ε α) : ResultAlike Eq x x := by
  cases x with
  | ok a => exact .ok rfl
  | error cause => exact .error cause

theorem ResultAlike.eq {ε : Type} {x y : Except ε α} (h : ResultAlike Eq x y) : x = y := by
  cases h with
  | ok h => rw [h]
  | error cause => rfl

theorem option_rel_eq : Option.Rel (Eq : α → α → Prop) = Eq := by
  funext x y
  cases x <;> cases y <;> simp

/-- A relation of cursors that parsing respects. -/
structure Nearness where
  /-- The cursors stand for the same place. -/
  near : Cursor → Cursor → Prop
  near_rest {c d : Cursor} : near c d → c.rest = d.rest
  near_advance {c d : Cursor} (run : List Char) : near c d → near (c.advance run) (d.advance run)
  near_lt_iff {c d c' d' : Cursor} : near c d → near c' d' →
    (c.position < c'.position ↔ d.position < d'.position)
  near_rewind {c d c' d' : Cursor} : near c d → near c' d' →
    ResultAlike near (c.rewind c'.anchor) (d.rewind d'.anchor)
  near_consumedSince {c d c' d' : Cursor} : near c d → near c' d' →
    c.consumedSince c'.anchor = d.consumedSince d'.anchor

/-- The same cursor. -/
def Nearness.same : Nearness where
  near := Eq
  near_rest h := by rw [h]
  near_advance run h := by rw [h]
  near_lt_iff h h' := by rw [h, h']
  near_rewind h h' := by
    rw [h, h']
    exact .refl _
  near_consumedSince h h' := by rw [h, h']

theorem Nearness.near_eq_iff (N : Nearness) {c d c' d' : Cursor} (h : N.near c d)
    (h' : N.near c' d') : c.position = c'.position ↔ d.position = d'.position := by
  have hlt := N.near_lt_iff h h'
  have hgt := N.near_lt_iff h' h
  omega

/-! ### Simulations -/

/-- A way to compare the computations of `m` with those of `n`. -/
structure Simulation (m n : Type → Type) [ParseMonad m] [ParseMonad n] extends Nearness where
  /-- The computations end alike, their results related by the given relation. -/
  rel {α β : Type} : (α → β → Prop) → m α → n β → Prop
  rel_pure {α β : Type} {R : α → β → Prop} {a : α} {b : β} : R a b → rel R (pure a) (pure b)
  rel_bind {α β γ δ : Type} {R : α → β → Prop} {R' : γ → δ → Prop} {x : m α} {y : n β}
    {f : α → m γ} {g : β → n δ} : rel R x y → (∀ a b, R a b → rel R' (f a) (g b)) →
    rel R' (x >>= f) (y >>= g)
  rel_halt {α β : Type} {R : α → β → Prop} (cause : Halt) :
    rel R (ParseMonad.halt cause) (ParseMonad.halt cause)
  rel_stalled {c d : Cursor} : near c d →
    rel (fun _ _ => True) (ParseMonad.emit (.stalled c.position))
      (ParseMonad.emit (.stalled d.position))

/-- Replies that say the same: related values at near cursors, or failures at near
cursors. -/
inductive Reply.Alike (near : Cursor → Cursor → Prop) (R : α → β → Prop) :
    Reply α → Reply β → Prop
  | done {a : α} {b : β} {c d : Cursor} (value : R a b) (rest : near c d) :
    Alike near R (.done a c) (.done b d)
  | fail {c d : Cursor} (rest : near c d) : Alike near R (.fail c) (.fail d)

namespace Simulation

variable {m n : Type → Type} [ParseMonad m] [ParseMonad n] (S : Simulation m n)
variable {R : α → α' → Prop} {R' : β → β' → Prop}

/-- Parsers that reply alike at near cursors. -/
def Alike (R : α → α' → Prop) (p : Parser m α) (q : Parser n α') : Prop :=
  ∀ c d, S.near c d → S.rel (Reply.Alike S.near R) (p.parse c) (q.parse d)

/-- Puts up with anything once the first side is exhausted. -/
def Lenient : Prop :=
  ∀ {α β : Type} (R : α → β → Prop) (y : n β), S.rel R (ParseMonad.halt .exhausted) y

/-- Puts up with the report of a rejected match. No parser makes it, only a run on a whole
text does. -/
def Rejects : Prop :=
  ∀ inputBytes trailingBytes : Nat,
    S.rel (fun _ _ => True) (ParseMonad.emit (.rejected inputBytes trailingBytes))
      (ParseMonad.emit (.rejected inputBytes trailingBytes))

/-- Bounds that the two sides may work with. -/
def Bounds (limit limit' : Nat) : Prop := limit = limit' ∨ limit ≤ limit' ∧ S.Lenient

variable {S}

/-- Where the first side has something left, so has the second. -/
theorem Bounds.pred {limit limit' : Nat} (h : S.Bounds (limit + 1) limit') :
    ∃ k, limit' = k + 1 ∧ S.Bounds limit k := by
  rcases h with rfl | ⟨hle, hlenient⟩
  · exact ⟨limit, rfl, .inl rfl⟩
  · exact ⟨limit' - 1, by omega, .inr ⟨by omega, hlenient⟩⟩

theorem rel_checked {x : Except Fault α} {y : Except Fault α'} (h : ResultAlike R x y) :
    S.rel R (checked x) (checked y) := by
  cases h with
  | ok h => exact S.rel_pure h
  | error cause => exact S.rel_halt (.fault cause)

theorem near_isEmpty {c d : Cursor} (h : S.near c d) : c.isEmpty = d.isEmpty := by
  rw [Cursor.isEmpty, Cursor.isEmpty, S.near_rest h]

/-! ### Parsers without parts -/

theorem alike_anyChar : S.Alike Eq Parser.anyChar Parser.anyChar := by
  intro c d h
  simp only [Parser.anyChar, Cursor.next?, S.near_rest h]
  cases d.rest with
  | nil => exact S.rel_pure (.fail h)
  | cons ch tail => exact S.rel_pure (.done rfl (S.near_advance [ch] h))

theorem alike_literal (expected : String) :
    S.Alike Eq (Parser.literal expected) (Parser.literal expected) := by
  intro c d h
  have hstart : c.startsWith expected = d.startsWith expected := by
    rw [Cursor.startsWith, Cursor.startsWith, S.near_rest h]
  simp only [Parser.literal, Cursor.advanceText, hstart]
  split
  · refine S.rel_bind (rel_checked (.ok (S.near_advance expected.toList h))) fun c' d' h' => ?_
    exact S.rel_pure (.done rfl h')
  · exact S.rel_pure (.fail h)

theorem alike_nonNegativeInteger :
    S.Alike Eq Parser.nonNegativeInteger Parser.nonNegativeInteger := by
  intro c d h
  simp only [Parser.nonNegativeInteger, S.near_rest h]
  split
  · exact S.rel_pure (.fail h)
  · split
    · exact S.rel_pure (.done rfl (S.near_advance _ h))
    · exact S.rel_pure (.fail h)

theorem alike_skipBlank : S.Alike Eq Parser.skipBlank Parser.skipBlank := by
  intro c d h
  simp only [Parser.skipBlank, Cursor.advanceWhile_eq, S.near_rest h]
  exact S.rel_pure (.done rfl (S.near_advance _ h))

theorem alike_always {a : α} {b : α'} (h : R a b) :
    S.Alike R (Parser.always a) (Parser.always b) :=
  fun _ _ hcd => S.rel_pure (.done h hcd)

theorem alike_never : S.Alike R Parser.never Parser.never :=
  fun _ _ hcd => S.rel_pure (.fail hcd)

theorem alike_notAtEnd : S.Alike Eq Parser.notAtEnd Parser.notAtEnd := by
  intro c d h
  simp only [Parser.notAtEnd, near_isEmpty h]
  split
  · exact S.rel_pure (.fail h)
  · exact S.rel_pure (.done rfl h)

/-! ### Looking for a delimiter -/

theorem rel_findMatch {p : Parser m α} {q : Parser n α'} {cs : List Char} {c d : Cursor}
    (hp : S.Alike R p q) (h : S.near c d) :
    S.rel S.near (Parser.findMatch p cs c) (Parser.findMatch q cs d) := by
  induction cs generalizing c d with
  | nil => exact S.rel_pure h
  | cons ch cs ih =>
      refine S.rel_bind (hp c d h) fun r r' hr => ?_
      cases hr with
      | done _ _ => exact S.rel_pure h
      | fail _ => exact ih (S.near_advance [ch] h)

theorem alike_charactersUntil {p : Parser m α} {q : Parser n α'} (hp : S.Alike R p q) :
    S.Alike Eq (Parser.charactersUntil p) (Parser.charactersUntil q) := by
  intro c d h
  have hfind : S.rel S.near (Parser.findMatch p c.rest c) (Parser.findMatch q d.rest d) := by
    rw [S.near_rest h]
    exact rel_findMatch hp h
  refine S.rel_bind hfind fun stop stop' hstop => ?_
  have hsame : ResultAlike Eq (stop.consumedSince c.anchor) (stop'.consumedSince d.anchor) := by
    rw [S.near_consumedSince hstop h]
    exact .refl _
  refine S.rel_bind (rel_checked hsame) fun s s' hs => ?_
  exact S.rel_pure (.done hs hstop)

/-! ### One parser after another -/

theorem rel_failBack {entry entry' failed failed' : Cursor} (h : S.near entry entry')
    (hfailed : S.near failed failed') :
    S.rel (Reply.Alike S.near R) (Parser.failBack entry failed)
      (Parser.failBack entry' failed') :=
  S.rel_bind (rel_checked (S.near_rewind hfailed h)) fun _ _ hback => S.rel_pure (.fail hback)

theorem alike_map {f : α → β} {f' : α' → β'} {p : Parser m α} {q : Parser n α'}
    (hp : S.Alike R p q) (hf : ∀ a b, R a b → R' (f a) (f' b)) :
    S.Alike R' (p.map f) (q.map f') := by
  intro c d h
  refine S.rel_bind (hp c d h) fun r r' hr => ?_
  cases hr with
  | done hvalue hrest => exact S.rel_pure (.done (hf _ _ hvalue) hrest)
  | fail hrest => exact S.rel_pure (.fail hrest)

/-- One member of a sequence that began at `entry`: the sequence goes on behind a match and
fails where it began otherwise. -/
theorem rel_member {entry entry' : Cursor} {x : m (Reply α)} {y : n (Reply α')}
    {next : α → Cursor → m (Reply β)} {next' : α' → Cursor → n (Reply β')}
    (h : S.near entry entry') (hx : S.rel (Reply.Alike S.near R) x y)
    (hnext : ∀ a b c d, R a b → S.near c d →
      S.rel (Reply.Alike S.near R') (next a c) (next' b d)) :
    S.rel (Reply.Alike S.near R')
      (x >>= fun
        | .fail failed => Parser.failBack entry failed
        | .done value rest => next value rest)
      (y >>= fun
        | .fail failed => Parser.failBack entry' failed
        | .done value rest => next' value rest) := by
  refine S.rel_bind hx fun r r' hr => ?_
  cases hr with
  | fail hrest => exact rel_failBack h hrest
  | done hvalue hrest => exact hnext _ _ _ _ hvalue hrest

theorem alike_bind {p : Parser m α} {q : Parser n α'} {next : α → Parser m β}
    {next' : α' → Parser n β'} (hp : S.Alike R p q)
    (hnext : ∀ a b, R a b → S.Alike R' (next a) (next' b)) :
    S.Alike R' (p.bind next) (q.bind next') := by
  intro c d h
  refine rel_member h (hp c d h) fun a b c' d' hvalue hrest => ?_
  refine rel_member h (hnext a b hvalue c' d' hrest) fun a' b' c'' d'' hvalue' hrest' => ?_
  exact S.rel_pure (.done hvalue' hrest')

/-- Pairs with related members. -/
def PairAlike (R : α → α' → Prop) (R' : β → β' → Prop) (x : α × β) (y : α' × β') : Prop :=
  R x.1 y.1 ∧ R' x.2 y.2

theorem alike_pair {p : Parser m α} {q : Parser m β} {p' : Parser n α'} {q' : Parser n β'}
    (hp : S.Alike R p p') (hq : S.Alike R' q q') :
    S.Alike (PairAlike R R') (p.pair q) (p'.pair q') := by
  intro c d h
  refine rel_member h (hp c d h) fun a b c' d' hvalue hrest => ?_
  refine rel_member h (hq c' d' hrest) fun a' b' c'' d'' hvalue' hrest' => ?_
  exact S.rel_pure (.done ⟨hvalue, hvalue'⟩ hrest')

theorem alike_between {opening : Parser m α} {opening' : Parser n α'} {p : Parser m β}
    {p' : Parser n β'} {closing : Parser m γ} {closing' : Parser n γ'} {R'' : γ → γ' → Prop}
    (ho : S.Alike R opening opening') (hp : S.Alike R' p p') (hc : S.Alike R'' closing closing') :
    S.Alike R' (Parser.between opening p closing) (Parser.between opening' p' closing') := by
  intro c d h
  refine rel_member h (ho c d h) fun _ _ c' d' _ hrest => ?_
  refine rel_member h (hp c' d' hrest) fun a b c'' d'' hvalue hrest' => ?_
  refine rel_member h (hc c'' d'' hrest') fun _ _ _ _ _ hrest'' => ?_
  exact S.rel_pure (.done hvalue hrest'')

theorem rel_sequenceFrom {ps : List (Parser m α)} {qs : List (Parser n α')}
    {entry entry' c d : Cursor} (hps : List.Forall₂ (S.Alike R) ps qs)
    (hentry : S.near entry entry') (h : S.near c d) :
    S.rel (Reply.Alike S.near (List.Forall₂ R)) (Parser.sequenceFrom entry ps c)
      (Parser.sequenceFrom entry' qs d) := by
  induction hps generalizing c d with
  | nil => exact S.rel_pure (.done .nil h)
  | cons hp _ ih =>
      refine rel_member hentry (hp c d h) fun a b c' d' hvalue hrest => ?_
      refine S.rel_bind (ih hrest) fun r r' hr => ?_
      cases hr with
      | fail hrest' => exact S.rel_pure (.fail hrest')
      | done hvalues hrest' => exact S.rel_pure (.done (.cons hvalue hvalues) hrest')

theorem alike_sequence {ps : List (Parser m α)} {qs : List (Parser n α')}
    (hps : List.Forall₂ (S.Alike R) ps qs) :
    S.Alike (List.Forall₂ R) (Parser.sequence ps) (Parser.sequence qs) :=
  fun _ _ h => rel_sequenceFrom hps h h

/-! ### One parser of several -/

theorem alike_first {ps : List (Parser m α)} {qs : List (Parser n α')}
    (hps : List.Forall₂ (S.Alike R) ps qs) :
    S.Alike R (Parser.first ps) (Parser.first qs) := by
  intro c d h
  show S.rel _ (Parser.firstFrom ps c) (Parser.firstFrom qs d)
  induction hps generalizing c d with
  | nil => exact S.rel_pure (.fail h)
  | cons hp _ ih =>
      refine S.rel_bind (hp c d h) fun r r' hr => ?_
      cases hr with
      | done hvalue hrest => exact S.rel_pure (.done hvalue hrest)
      | fail hrest => exact ih _ _ hrest

/-- Matches that are alike. -/
def MatchAlike (near : Cursor → Cursor → Prop) (R : α → β → Prop) (kept : α × Cursor)
    (kept' : β × Cursor) : Prop := R kept.1 kept'.1 ∧ near kept.2 kept'.2

theorem further_alike {best : Option (α × Cursor)} {best' : Option (α' × Cursor)} {a : α}
    {b : α'} {c d : Cursor} (hbest : Option.Rel (MatchAlike S.near R) best best')
    (hvalue : R a b) (hrest : S.near c d) :
    Option.Rel (MatchAlike S.near R) (Parser.further best a c) (Parser.further best' b d) := by
  cases hbest with
  | none => exact .some ⟨hvalue, hrest⟩
  | some hkept =>
      simp only [Parser.further, S.near_lt_iff hkept.2 hrest]
      split
      · exact .some ⟨hvalue, hrest⟩
      · exact .some hkept

theorem rel_furthest {ps : List (Parser m α)} {qs : List (Parser n α')}
    {best : Option (α × Cursor)} {best' : Option (α' × Cursor)} {c d : Cursor}
    (hps : List.Forall₂ (S.Alike R) ps qs) (h : S.near c d)
    (hbest : Option.Rel (MatchAlike S.near R) best best') :
    S.rel (Option.Rel (MatchAlike S.near R)) (Parser.furthest c ps best)
      (Parser.furthest d qs best') := by
  induction hps generalizing best best' with
  | nil => exact S.rel_pure hbest
  | cons hp _ ih =>
      refine S.rel_bind (hp c d h) fun r r' hr => ?_
      cases hr with
      | done hvalue hrest => exact ih (further_alike hbest hvalue hrest)
      | fail _ => exact ih hbest

theorem alike_longest {ps : List (Parser m α)} {qs : List (Parser n α')}
    (hps : List.Forall₂ (S.Alike R) ps qs) :
    S.Alike R (Parser.longest ps) (Parser.longest qs) := by
  intro c d h
  refine S.rel_bind (rel_furthest hps h .none) fun best best' hbest => ?_
  cases hbest with
  | none => exact S.rel_pure (.fail h)
  | some hkept => exact S.rel_pure (.done hkept.1 hkept.2)

/-! ### Repetition -/

/-- Rounds that end alike. -/
inductive RoundAlike (near : Cursor → Cursor → Prop) (R : α → β → Prop) :
    Parser.Round α → Parser.Round β → Prop
  | item {a : α} {b : β} {c d : Cursor} (value : R a b) (rest : near c d) :
    RoundAlike near R (.item a c) (.item b d)
  | stop {c d : Cursor} (rest : near c d) : RoundAlike near R (.stop c) (.stop d)

theorem rel_giveBack {c d reached reached' : Cursor} (h : S.near c d)
    (hreached : S.near reached reached') :
    S.rel (RoundAlike S.near R) (Parser.giveBack c reached) (Parser.giveBack d reached') :=
  S.rel_bind (rel_checked (S.near_rewind hreached h)) fun _ _ hback => S.rel_pure (.stop hback)

theorem rel_nextRound {element : Parser m α} {element' : Parser n α'} {delimiter : Parser m β}
    {delimiter' : Parser n β'} {c d : Cursor} (he : S.Alike R element element')
    (hd : S.Alike R' delimiter delimiter') (h : S.near c d) :
    S.rel (RoundAlike S.near R) (Parser.nextRound element delimiter c)
      (Parser.nextRound element' delimiter' d) := by
  simp only [Parser.nextRound, near_isEmpty h]
  split
  · exact S.rel_pure (.stop h)
  refine S.rel_bind (hd c d h) fun r r' hr => ?_
  cases hr with
  | fail hrest => exact rel_giveBack h hrest
  | done _ hrest =>
      refine S.rel_bind (he _ _ hrest) fun r r' hr => ?_
      cases hr with
      | fail hrest' => exact rel_giveBack h hrest'
      | done hvalue hrest' =>
          simp only [S.near_eq_iff hrest' h]
          split
          · exact S.rel_bind (S.rel_stalled h) fun _ _ _ => rel_giveBack h hrest'
          · exact S.rel_pure (.item hvalue hrest')

theorem rel_repeatRounds {round : Cursor → m (Parser.Round α)}
    {round' : Cursor → n (Parser.Round α')} {limit limit' : Nat} {items : List α}
    {items' : List α'} {c d : Cursor}
    (hround : ∀ c d, S.near c d → S.rel (RoundAlike S.near R) (round c) (round' d))
    (hlimit : S.Bounds limit limit') (hitems : List.Forall₂ R items items') (h : S.near c d) :
    S.rel (MatchAlike S.near (List.Forall₂ R)) (Parser.repeatRounds round limit items c)
      (Parser.repeatRounds round' limit' items' d) := by
  induction limit generalizing limit' items items' c d with
  | zero =>
      rcases hlimit with rfl | ⟨-, hlenient⟩
      · exact S.rel_halt .exhausted
      · exact hlenient _ _
  | succ limit ih =>
      obtain ⟨limit', rfl, hlimit'⟩ := hlimit.pred
      refine S.rel_bind (hround c d h) fun r r' hr => ?_
      cases hr with
      | stop hrest => exact S.rel_pure ⟨List.rel_reverse hitems, hrest⟩
      | item hvalue hrest => exact ih hlimit' (.cons hvalue hitems) hrest

theorem alike_zeroOrMore {limit limit' : Nat} {element : Parser m α} {element' : Parser n α'}
    {delimiter : Parser m β} {delimiter' : Parser n β'} (he : S.Alike R element element')
    (hd : S.Alike R' delimiter delimiter') (hlimit : S.Bounds limit limit') :
    S.Alike (List.Forall₂ R) (Parser.zeroOrMore limit element delimiter)
      (Parser.zeroOrMore limit' element' delimiter') := by
  intro c d h
  refine S.rel_bind (he c d h) fun r r' hr => ?_
  cases hr with
  | fail hrest =>
      refine S.rel_bind (rel_checked (S.near_rewind hrest h)) fun _ _ hback => ?_
      exact S.rel_pure (.done .nil hback)
  | done hvalue hrest =>
      have hrounds := rel_repeatRounds (fun c d h => rel_nextRound he hd h) hlimit
        (.cons hvalue .nil) hrest
      refine S.rel_bind hrounds fun result result' hresult => ?_
      exact S.rel_pure (.done hresult.1 hresult.2)

theorem alike_many {element : Parser m α} {element' : Parser n α'} {delimiter : Parser m β}
    {delimiter' : Parser n β'} (he : S.Alike R element element')
    (hd : S.Alike R' delimiter delimiter') :
    S.Alike (List.Forall₂ R) (Parser.many element delimiter) (Parser.many element' delimiter') := by
  intro c d h
  simp only [Parser.many, S.near_rest h]
  exact alike_zeroOrMore he hd (.inl rfl) c d h

/-! ### Runs on texts -/

theorem value?_alike {r : Reply α} {r' : Reply α'} (h : Reply.Alike S.near R r r') :
    Option.Rel R r.value? r'.value? ∧ r.rest.remaining = r'.rest.remaining := by
  cases h with
  | done hvalue hrest => exact ⟨.some hvalue, congrArg String.ofList (S.near_rest hrest)⟩
  | fail hrest => exact ⟨.none, congrArg String.ofList (S.near_rest hrest)⟩

/-- Values, if there are any, that are related, with the same text left over. -/
def RunAlike (R : α → β → Prop) (found : Option α × String) (found' : Option β × String) : Prop :=
  Option.Rel R found.1 found'.1 ∧ found.2 = found'.2

theorem runAlike_eq : RunAlike (Eq : α → α → Prop) = Eq := by
  funext found found'
  rw [RunAlike, option_rel_eq, ← Prod.ext_iff]

theorem rel_runFrom_alike {p : Parser m α} {q : Parser n α'} {text text' : Source}
    {offset offset' : Nat} (hp : S.Alike R p q)
    (h : ResultAlike S.near (Cursor.locate text offset) (Cursor.locate text' offset')) :
    S.rel (RunAlike R) (p.runFrom text offset) (q.runFrom text' offset') := by
  refine S.rel_bind (rel_checked h) fun c d hcd => ?_
  exact S.rel_bind (hp c d hcd) fun r r' hr => S.rel_pure (value?_alike hr)

theorem rel_runFrom {p : Parser m α} {q : Parser n α} {text text' : Source}
    {offset offset' : Nat} (hp : S.Alike Eq p q)
    (h : ResultAlike S.near (Cursor.locate text offset) (Cursor.locate text' offset')) :
    S.rel Eq (p.runFrom text offset) (q.runFrom text' offset') := by
  rw [← runAlike_eq]
  exact rel_runFrom_alike hp h

theorem rel_run {p : Parser m α} {q : Parser n α'} {text : Source} (hrejects : S.Rejects)
    (hp : S.Alike R p q)
    (h : ResultAlike S.near (Cursor.locate text 0) (Cursor.locate text 0)) :
    S.rel (Option.Rel R) (p.run text) (q.run text) := by
  refine S.rel_bind (rel_runFrom_alike hp h) fun found found' hfound => ?_
  obtain ⟨value, rest⟩ := found
  obtain ⟨value', rest'⟩ := found'
  obtain ⟨hvalue, rfl⟩ : Option.Rel R value value' ∧ rest = rest' := hfound
  cases hvalue with
  | none => exact S.rel_pure .none
  | some hvalue =>
      simp only
      split
      · exact S.rel_pure (.some hvalue)
      · exact S.rel_bind (hrejects _ _) fun _ _ _ => S.rel_pure .none

end Simulation

end Backtrack
