import Backtrack.Proofs.Containment

/-!
# Backtrack.Proofs.Sequencing

**The laws of sequencing.** A parser that stays in its text does two things at once: it moves
the cursor, and it may find nothing. Without the cursors of its failures it is a computation
of the monad `Moves`, and one parser after another is one computation after another there:
`bind` is the bind of the monad (`same_moves_bind`), and a sequence of any length is `mapM`
(`same_moves_sequence`). So the laws of the combinators are those of any monad.

What is left are the cursors of failures. A transaction fails at its entry wherever its
members leave the cursor, so transactions that find the same agree in full (`agree_of_moves`).
The two unit laws have a bare parser on one side and no transaction around it. They hold if
that parser is atomic.
-/

namespace Backtrack

variable {α β γ : Type} {text : Source}

/-- The match of a reply, if it is one. -/
def Reply.match? : Reply α → Option (α × Cursor)
  | .done value rest => some (value, rest)
  | .fail _ => none

/-- The reply of a parser that began at `entry` and fails there if it has found nothing. -/
def Reply.ofMatch (entry : Cursor) : Option (α × Cursor) → Reply α
  | none => .fail entry
  | some (value, rest) => .done value rest

/-! ### Moving a cursor -/

/-- Computations that move a cursor and may find nothing. -/
abbrev Moves := StateT Cursor (OptionT Silent)

namespace Moves

variable {x y : Moves α} {f g : α → Moves β} {c : Cursor}

/-- What a computation finds from `c` on, and where that ends. -/
def runAt (x : Moves α) (c : Cursor) : Silent (Option (α × Cursor)) := (x.run c).run

theorem runAt_bind (x : Moves α) (f : α → Moves β) (c : Cursor) :
    (x >>= f).runAt c = (do
      match ← x.runAt c with
      | none => return none
      | some (value, rest) => (f value).runAt rest) := by
  rw [runAt, StateT.run_bind, OptionT.run_bind]
  show _ = (x.runAt c >>= _)
  refine bind_congr fun found => ?_
  cases found <;> rfl

/-- What is found from a place of `text` on ends at a place of `text`. -/
def Stays (text : Source) (x : Moves α) : Prop :=
  ∀ (c : Cursor) (value : α) (rest : Cursor), c.Valid text →
    x.runAt c = .ok (some (value, rest)) → rest.Valid text

/-- The same is found from every place of `text` on. -/
def Same (text : Source) (x y : Moves α) : Prop :=
  ∀ c : Cursor, c.Valid text → x.runAt c = y.runAt c

theorem Same.refl (x : Moves α) : Same text x x := fun _ _ => rfl

theorem Same.symm (h : Same text x y) : Same text y x := fun c hc => (h c hc).symm

theorem Same.trans {z : Moves α} (h : Same text x y) (h' : Same text y z) : Same text x z :=
  fun c hc => (h c hc).trans (h' c hc)

/-- What comes second is only run where the first part can end. -/
theorem Same.bind (h : Same text x y) (hx : x.Stays text)
    (hf : ∀ value, Same text (f value) (g value)) : Same text (x >>= f) (y >>= g) := by
  intro c hc
  rw [runAt_bind, runAt_bind, ← h c hc]
  cases hfound : x.runAt c with
  | error cause => rfl
  | ok found =>
      rcases found with _ | ⟨value, rest⟩
      · rfl
      · exact hf value rest (hx c value rest hc hfound)

theorem Same.map (h : Same text x y) (f : α → β) : Same text (f <$> x) (f <$> y) := by
  intro c hc
  rw [map_eq_pure_bind, map_eq_pure_bind, runAt_bind, runAt_bind, h c hc]

end Moves

namespace Parser

open Moves (Same)

variable {p : Parser Silent α} {q : Parser Silent β} {r : Parser Silent γ}
variable {ps : List (Parser Silent α)} {c : Cursor}

/-- What a parser finds; where its failures are left is forgotten. -/
def moves (p : Parser Silent α) : Moves α := fun c => OptionT.mk (Reply.match? <$> p.parse c)

theorem runAt_moves (p : Parser Silent α) (c : Cursor) :
    p.moves.runAt c = Reply.match? <$> p.parse c := rfl

/-- The same reply at every place of `text`. -/
def Agree (text : Source) (p q : Parser Silent α) : Prop :=
  ∀ c : Cursor, c.Valid text → p.parse c = q.parse c

/-- A parser that fails in place is known from what it finds. -/
theorem Atomic.parse_eq (hp : p.Atomic text) (hc : c.Valid text) :
    p.parse c = Reply.ofMatch c <$> p.moves.runAt c := by
  rw [runAt_moves]
  cases hparse : p.parse c with
  | error cause => rfl
  | ok reply =>
      cases reply with
      | done value rest => rfl
      | fail failed =>
          obtain rfl := hp c failed hc hparse
          rfl

theorem agree_of_moves {p q : Parser Silent α} (hp : p.Atomic text) (hq : q.Atomic text)
    (h : Same text p.moves q.moves) : Agree text p q := by
  intro c hc
  rw [hp.parse_eq hc, hq.parse_eq hc, h c hc]

/-! ### Transactions stay and fail in place -/

theorem Stays.moves (hp : p.Stays text) : p.moves.Stays text := by
  intro c value rest hc hfound
  rw [runAt_moves] at hfound
  cases hparse : p.parse c with
  | error cause =>
      rw [hparse] at hfound
      cases hfound
  | ok reply =>
      rw [hparse] at hfound
      cases reply with
      | fail failed => cases hfound
      | done value' rest' =>
          obtain ⟨rfl, rfl⟩ := Prod.mk.inj (Option.some.inj (Except.ok.inj hfound))
          exact hp.done hc hparse

theorem atomic_bind {next : α → Parser Silent β} (hp : p.Stays text)
    (hnext : ∀ value, (next value).Stays text) : (p.bind next).Atomic text :=
  (contained_bind hp.orHalts fun value => (hnext value).orHalts).atomic

theorem stays_bind {next : α → Parser Silent β} (hp : p.Stays text)
    (hnext : ∀ value, (next value).Stays text) : (p.bind next).Stays text :=
  (contained_bind hp.orHalts fun value => (hnext value).orHalts).stays

theorem atomic_sequence (hps : ∀ p ∈ ps, p.Stays text) : (sequence ps).Atomic text :=
  (contained_sequence fun p hp => (hps p hp).orHalts).atomic

theorem atomic_pair (hp : p.Stays text) (hq : q.Stays text) : (pair p q).Atomic text :=
  (contained_pair hp.orHalts hq.orHalts).atomic

theorem stays_pair (hp : p.Stays text) (hq : q.Stays text) : (pair p q).Stays text :=
  (contained_pair hp.orHalts hq.orHalts).stays

theorem atomic_between (hp : p.Stays text) (hq : q.Stays text) (hr : r.Stays text) :
    (between p q r).Atomic text :=
  (contained_between hp.orHalts hq.orHalts hr.orHalts).atomic

/-! ### What combinators find -/

theorem moves_map (f : α → β) (p : Parser Silent α) : (p.map f).moves = f <$> p.moves := by
  funext c
  show Reply.match? <$> (p.parse c >>= fun reply => pure (reply.map f)) = (f <$> p.moves).runAt c
  rw [map_eq_pure_bind f p.moves, Moves.runAt_bind, runAt_moves]
  cases p.parse c with
  | error cause => rfl
  | ok reply => cases reply <;> rfl

/-- A member of a transaction that began at `entry`: nothing is found if the member fails,
wherever that leaves the cursor, and else what comes behind the member. -/
theorem match?_member {next : α → Cursor → Silent (Reply β)} {k : α → Moves β} {entry : Cursor}
    (hp : p.Stays text) (hentry : entry.Valid text) (hc : c.Valid text)
    (hnext : ∀ value rest, rest.Valid text →
      Reply.match? <$> next value rest = (k value).runAt rest) :
    Reply.match? <$> (p.parse c >>= fun reply =>
      match reply with
      | .fail failed => failBack entry failed
      | .done value rest => next value rest) = (p.moves >>= k).runAt c := by
  rw [Moves.runAt_bind, runAt_moves]
  cases hparse : p.parse c with
  | error cause => rfl
  | ok reply =>
      cases reply with
      | fail failed =>
          show Reply.match? <$> failBack entry failed = (.ok none : Silent (Option (β × Cursor)))
          rw [failBack_eq hentry (hp.fail hc hparse)]
          rfl
      | done value rest => exact hnext value rest (hp.done hc hparse)

/-- Of what comes second, too, only what it finds matters to a transaction. -/
theorem same_moves_bind {next : α → Parser Silent β} {k : α → Moves β} (hp : p.Stays text)
    (hnext : ∀ value, (next value).Stays text)
    (hk : ∀ value, Same text (next value).moves (k value)) :
    Same text (p.bind next).moves (p.moves >>= k) := by
  intro c hc
  refine match?_member hp hc hc fun value rest hrest => ?_
  rw [← hk value rest hrest, ← bind_pure (next value).moves]
  exact match?_member (hnext value) hc hrest fun value' rest' _ => rfl

theorem same_moves_pair (hp : p.Stays text) (hq : q.Stays text) :
    Same text (pair p q).moves (do return (← p.moves, ← q.moves)) := by
  intro c hc
  refine match?_member hp hc hc fun a rest hrest => ?_
  exact match?_member hq hc hrest fun b rest' _ => rfl

theorem same_moves_between (hp : p.Stays text) (hq : q.Stays text) (hr : r.Stays text) :
    Same text (between p q r).moves (do
      let _ ← p.moves
      let value ← q.moves
      let _ ← r.moves
      return value) := by
  intro c hc
  refine match?_member hp hc hc fun a rest hrest => ?_
  refine match?_member hq hc hrest fun value rest' hrest' => ?_
  exact match?_member hr hc hrest' fun b rest'' _ => rfl

/-- A sequence runs its members one after the other, wherever its entry is. -/
theorem match?_sequenceFrom {entry : Cursor} (hps : ∀ p ∈ ps, p.Stays text)
    (hentry : entry.Valid text) (hc : c.Valid text) :
    Reply.match? <$> sequenceFrom entry ps c = (ps.mapM moves).runAt c := by
  induction ps generalizing c with
  | nil => rfl
  | cons p ps ih =>
      obtain ⟨hp, hps⟩ := List.forall_mem_cons.mp hps
      rw [List.mapM_cons]
      refine match?_member hp hentry hc fun value rest hrest => ?_
      rw [Moves.runAt_bind, ← ih hps hrest]
      cases sequenceFrom entry ps rest with
      | error cause => rfl
      | ok reply => cases reply <;> rfl

theorem same_moves_sequence (hps : ∀ p ∈ ps, p.Stays text) :
    Same text (sequence ps).moves (ps.mapM moves) :=
  fun _ hc => match?_sequenceFrom hps hc hc

/-! ### The laws of a monad -/

/-- Grouping transactions does not change what they are. -/
theorem agree_bind_assoc {f : α → Parser Silent β} {g : β → Parser Silent γ} (hp : p.Stays text)
    (hf : ∀ x, (f x).Stays text) (hg : ∀ y, (g y).Stays text) :
    Agree text ((p.bind f).bind g) (p.bind fun x => (f x).bind g) := by
  have hpf : (p.bind f).Stays text := stays_bind hp hf
  have hfg : ∀ x, ((f x).bind g).Stays text := fun x => stays_bind (hf x) hg
  refine agree_of_moves (atomic_bind hpf hg) (atomic_bind hp hfg) ?_
  have hinner : Same text (p.bind f).moves (p.moves >>= fun x => (f x).moves) :=
    same_moves_bind hp hf fun x => .refl _
  have hleft : Same text ((p.bind f).bind g).moves
      ((p.moves >>= fun x => (f x).moves) >>= fun y => (g y).moves) :=
    (same_moves_bind hpf hg fun y => .refl _).trans (hinner.bind hpf.moves fun y => .refl _)
  have hright : Same text (p.bind fun x => (f x).bind g).moves
      (p.moves >>= fun x => (f x).moves >>= fun y => (g y).moves) :=
    same_moves_bind hp hfg fun x => same_moves_bind (hf x) hg fun y => .refl _
  rw [bind_assoc] at hleft
  exact hleft.trans hright.symm

/-- A transaction around an atomic parser adds nothing to it. -/
theorem Atomic.transaction_eq (hp : p.Atomic text) (hc : c.Valid text) :
    (p.parse c >>= fun reply =>
      match reply with
      | .fail failed => failBack c failed
      | .done value rest => pure (.done value rest)) = p.parse c := by
  cases hparse : p.parse c with
  | error cause => rfl
  | ok reply =>
      cases reply with
      | done value rest => rfl
      | fail failed =>
          obtain rfl := hp c failed hc hparse
          exact failBack_eq hc hc

theorem agree_always_bind {value : α} {f : α → Parser Silent β} (hf : (f value).Atomic text) :
    Agree text ((always value).bind f) (f value) :=
  fun _ hc => hf.transaction_eq hc

theorem agree_bind_always (hp : p.Atomic text) : Agree text (p.bind always) p :=
  fun _ hc => hp.transaction_eq hc

/-! ### Sequences as nested binds -/

/-- The members one inside of the other; the innermost has the values of all of them, behind
those that are given. -/
def nestedFrom (values : List α) : List (Parser Silent α) → Parser Silent (List α)
  | [] => always values
  | p :: ps => p.bind fun value => nestedFrom (values ++ [value]) ps

/-- Each member is bound to the members behind it, and what comes last is the list of all
values. -/
def nested (ps : List (Parser Silent α)) : Parser Silent (List α) := nestedFrom [] ps

theorem stays_nestedFrom (values : List α) (hps : ∀ p ∈ ps, p.Stays text) :
    (nestedFrom values ps).Stays text := by
  induction ps generalizing values with
  | nil => exact stays_always values
  | cons p ps ih =>
      obtain ⟨hp, hps⟩ := List.forall_mem_cons.mp hps
      exact stays_bind hp fun value => ih (values ++ [value]) hps

theorem atomic_nestedFrom (values : List α) (hps : ∀ p ∈ ps, p.Stays text) :
    (nestedFrom values ps).Atomic text := by
  cases ps with
  | nil => exact atomic_always values
  | cons p ps =>
      obtain ⟨hp, hps⟩ := List.forall_mem_cons.mp hps
      exact atomic_bind hp fun value => stays_nestedFrom (values ++ [value]) hps

theorem same_moves_nestedFrom (values : List α) (hps : ∀ p ∈ ps, p.Stays text) :
    Same text (nestedFrom values ps).moves ((values ++ ·) <$> ps.mapM moves) := by
  induction ps generalizing values with
  | nil =>
      rw [List.mapM_nil, map_pure, List.append_nil]
      exact .refl _
  | cons p ps ih =>
      obtain ⟨hp, hps⟩ := List.forall_mem_cons.mp hps
      have hbind := same_moves_bind hp (fun value => stays_nestedFrom (values ++ [value]) hps)
        fun value => ih (values ++ [value]) hps
      simpa [nestedFrom] using hbind

theorem agree_sequence_nested (hps : ∀ p ∈ ps, p.Stays text) :
    Agree text (sequence ps) (nested ps) := by
  refine agree_of_moves (atomic_sequence hps) (atomic_nestedFrom [] hps) ?_
  have hnested : Same text (nestedFrom [] ps).moves (ps.mapM moves) := by
    simpa using same_moves_nestedFrom [] hps
  exact (same_moves_sequence hps).trans hnested.symm

theorem agree_pair_nested (hp : p.Stays text) (hq : q.Stays text) :
    Agree text (pair p q) (p.bind fun a => q.bind fun b => always (a, b)) := by
  have hinner : ∀ a : α, (q.bind fun b => always (a, b)).Stays text := fun a =>
    stays_bind hq fun b => stays_always (a, b)
  refine agree_of_moves (atomic_pair hp hq) (atomic_bind hp hinner) ?_
  have hnested := same_moves_bind hp hinner fun a =>
    same_moves_bind hq (fun b => stays_always (a, b)) fun b => .refl _
  exact (same_moves_pair hp hq).trans hnested.symm

theorem agree_between_nested (hp : p.Stays text) (hq : q.Stays text) (hr : r.Stays text) :
    Agree text (between p q r)
      (p.bind fun _ => q.bind fun value => r.bind fun _ => always value) := by
  have hlast : ∀ value : β, (r.bind fun _ => always value).Stays text := fun value =>
    stays_bind hr fun _ => stays_always value
  have hinner : (q.bind fun value => r.bind fun _ => always value).Stays text :=
    stays_bind hq hlast
  refine agree_of_moves (atomic_between hp hq hr) (atomic_bind hp fun _ => hinner) ?_
  have hnested := same_moves_bind hp (fun _ => hinner) fun _ =>
    same_moves_bind hq hlast fun value =>
      same_moves_bind hr (fun _ => stays_always value) fun _ => .refl _
  exact (same_moves_between hp hq hr).trans hnested.symm

end Parser

/-! ### Sequences as nested pairs -/

/-- Members put together two at a time, in any nesting. A member stands under a label, which
says what the type of its values is. -/
inductive Pairing {ι : Type} (T : ι → Type)
  /-- A parser alone. -/
  | member (label : ι) (p : Parser Silent (T label))
  /-- Two parts, one after the other. -/
  | pair (left right : Pairing T)

namespace Pairing

open Backtrack.Parser (Agree)
open Moves (Same)

variable {ι : Type} {T : ι → Type} {t left right : Pairing T}

/-- The pairs of pairs that a nesting has as its values. -/
def Output : Pairing T → Type
  | member label _ => T label
  | pair left right => left.Output × right.Output

/-- Pairs the parts two at a time. -/
def parser : (t : Pairing T) → Parser Silent t.Output
  | member _ p => p
  | pair left right => Parser.pair left.parser right.parser

/-- The members from left to right. -/
def members : Pairing T → List (Parser Silent (Sigma T))
  | member label p => [p.map (Sigma.mk label)]
  | pair left right => left.members ++ right.members

/-- The values of the members from left to right. -/
def flatten : (t : Pairing T) → t.Output → List (Sigma T)
  | member label _, value => [⟨label, value⟩]
  | pair left right, (a, b) => left.flatten a ++ right.flatten b

theorem parser_stays (h : ∀ p ∈ t.members, p.Stays text) : t.parser.Stays text := by
  induction t with
  | member label p => exact Parser.stays_map_iff.mp (h _ (List.mem_singleton_self _))
  | pair left right ihleft ihright =>
      obtain ⟨hleft, hright⟩ := List.forall_mem_append.mp h
      exact Parser.stays_pair (ihleft hleft) (ihright hright)

theorem stays_flatten (h : ∀ p ∈ t.members, p.Stays text) :
    (t.flatten <$> t.parser.moves).Stays text := by
  rw [← Parser.moves_map]
  exact (Parser.stays_map_iff.mpr (parser_stays h)).moves

/-- However the members are nested, they run from left to right. -/
theorem same_moves_flatten (h : ∀ p ∈ t.members, p.Stays text) :
    Same text (t.flatten <$> t.parser.moves) (t.members.mapM Parser.moves) := by
  induction t with
  | member label p =>
      have hmembers : (member label p).members.mapM Parser.moves =
          (fun value => [⟨label, value⟩]) <$> p.moves := by
        simp [members, Parser.moves_map]
      rw [hmembers]
      exact .refl _
  | pair left right ihleft ihright =>
      obtain ⟨hleft, hright⟩ := List.forall_mem_append.mp h
      have hpair : Same text ((pair left right).flatten <$> (pair left right).parser.moves) (do
          let xs ← left.flatten <$> left.parser.moves
          let ys ← right.flatten <$> right.parser.moves
          return xs ++ ys) := by
        have hmap := (Parser.same_moves_pair (parser_stays hleft) (parser_stays hright)).map
          fun ab : left.Output × right.Output => left.flatten ab.1 ++ right.flatten ab.2
        simp only [map_bind, map_pure] at hmap
        simp only [bind_map_left]
        exact hmap
      have hparts := (ihleft hleft).bind (stays_flatten hleft) fun xs =>
        (ihright hright).bind (stays_flatten hright) fun ys => .refl (pure (xs ++ ys))
      rw [members, List.mapM_append]
      exact hpair.trans hparts

theorem agree_sequence (h : ∀ p ∈ (pair left right).members, p.Stays text) :
    Agree text ((pair left right).parser.map (pair left right).flatten)
      (Parser.sequence (pair left right).members) := by
  obtain ⟨hleft, hright⟩ := List.forall_mem_append.mp h
  have hatomic := Parser.atomic_pair (parser_stays hleft) (parser_stays hright)
  refine Parser.agree_of_moves (Parser.atomic_map hatomic) (Parser.atomic_sequence h) ?_
  rw [Parser.moves_map]
  exact (same_moves_flatten h).trans (Parser.same_moves_sequence h).symm

end Pairing

open Backtrack.Parser

/-! ### All laws together -/

/-- The laws of sequencing at the places of `text`. Parsers are only asked to stay there, and
for the two unit laws to fail in place. -/
structure SequencingLaws (text : Source) : Prop where
  /-- Binds can be grouped either way. -/
  bind_assoc : ∀ {α β γ : Type} (p : Parser Silent α) (f : α → Parser Silent β)
    (g : β → Parser Silent γ), p.Stays text → (∀ x, (f x).Stays text) → (∀ y, (g y).Stays text) →
    Agree text ((p.bind f).bind g) (p.bind fun x => (f x).bind g)
  always_bind : ∀ {α β : Type} (value : α) (f : α → Parser Silent β), (f value).Atomic text →
    Agree text ((always value).bind f) (f value)
  bind_always : ∀ {α : Type} (p : Parser Silent α), p.Atomic text → Agree text (p.bind always) p
  /-- A sequence of any number of members. -/
  sequence : ∀ {α : Type} (ps : List (Parser Silent α)), (∀ p ∈ ps, p.Stays text) →
    Agree text (Parser.sequence ps) (nested ps)
  pair : ∀ {α β : Type} (p : Parser Silent α) (q : Parser Silent β), p.Stays text →
    q.Stays text → Agree text (Parser.pair p q) (p.bind fun a => q.bind fun b => always (a, b))
  between : ∀ {α β γ : Type} (p : Parser Silent α) (q : Parser Silent β) (r : Parser Silent γ),
    p.Stays text → q.Stays text → r.Stays text → Agree text (Parser.between p q r)
      (p.bind fun _ => q.bind fun value => r.bind fun _ => always value)
  /-- Two or more members of any types, paired in any nesting and then put side by side. -/
  pairing : ∀ {ι : Type} {T : ι → Type} (left right : Pairing T),
    (∀ p ∈ (Pairing.pair left right).members, p.Stays text) →
    Agree text ((Pairing.pair left right).parser.map (Pairing.pair left right).flatten)
      (Parser.sequence (Pairing.pair left right).members)

/-- **Sequencing is that of a monad.** `bind` is associative whatever its parts do to the cursor
when they fail, `always` is its unit, and a sequence of any length is the nested bind of its
members, and the same as its members paired in any nesting. -/
theorem sequencing_laws (text : Source) : SequencingLaws text where
  bind_assoc _ _ _ hp hf hg := agree_bind_assoc hp hf hg
  always_bind _ _ hf := agree_always_bind hf
  bind_always _ hp := agree_bind_always hp
  sequence _ hps := agree_sequence_nested hps
  pair _ _ hp hq := agree_pair_nested hp hq
  between _ _ _ hp hq hr := agree_between_nested hp hq hr
  pairing _ _ h := Pairing.agree_sequence h

/-- Goes ahead, then back, and then fails behind its entry; paired from the left. -/
def leftNested : Pairing fun _ : Fin 3 => Value :=
  .pair
    (.pair (.member 0 ((Grammar.jump 3).interpret [] 0))
      (.member 1 ((Grammar.jump 0).interpret [] 0)))
    (.member 2 ((Grammar.leak 2).interpret [] 0))

/-- Wherever its members went, each form of the sequence fails in the middle of the text, where
it began; a literal that matches there is left as it is. -/
theorem sequencing_laws_leftNested :
    (∀ p ∈ leftNested.members, p.Stays "abc") ∧
    (leftNested.parser.map leftNested.flatten).parse ⟨"abc", 1, 1, ['b', 'c']⟩ =
      (.ok (.fail ⟨"abc", 1, 1, ['b', 'c']⟩) : Silent _) ∧
    (nested leftNested.members).parse ⟨"abc", 1, 1, ['b', 'c']⟩ =
      (.ok (.fail ⟨"abc", 1, 1, ['b', 'c']⟩) : Silent _) ∧
    ((((Grammar.jump 0).interpret [] 0).bind fun _ => (Grammar.leak 2).interpret [] 0).bind fun _ =>
      always ()).parse ⟨"abc", 1, 1, ['b', 'c']⟩ =
        (.ok (.fail ⟨"abc", 1, 1, ['b', 'c']⟩) : Silent _) ∧
    (literal "bc").Atomic "abc" ∧
    ((literal "bc").bind always).parse ⟨"abc", 1, 1, ['b', 'c']⟩ =
      (.ok (.done () ⟨"abc", 3, 3, []⟩) : Silent _) := by
  have laws := sequencing_laws "abc"
  have hvalid : (⟨"abc", 1, 1, ['b', 'c']⟩ : Cursor).Valid "abc" :=
    Cursor.valid_of_locate (rfl : Cursor.locate "abc" 1 = .ok ⟨"abc", 1, 1, ['b', 'c']⟩)
  have hstay : ∀ p ∈ leftNested.members, p.Stays "abc" := by
    simp [leftNested, Pairing.members, stays_map_iff, stays_jump, stays_leak]
  have hatomic : (literal "bc").Atomic "abc" :=
    (mannered_literal "bc" : (literal "bc").Mannered "abc" True 3).atomic
  refine ⟨hstay, ?_, ?_, ?_, hatomic, ?_⟩
  · rw [leftNested, laws.pairing _ _ hstay _ hvalid]
    rfl
  · rw [← laws.sequence _ hstay _ hvalid]
    rfl
  · rw [laws.bind_assoc _ _ _ (stays_jump [] 0 0) (fun _ => stays_leak [] 0 2)
      (fun _ => stays_always ()) _ hvalid]
    rfl
  · rw [laws.bind_always _ hatomic _ hvalid]
    rfl

end Backtrack
