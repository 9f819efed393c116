import Backtrack.Grammar.Interpret
import Backtrack.Proofs.Grammar.Composition
import Backtrack.Proofs.Simulation

/-!
# Backtrack.Proofs.Grammar.Simulation

**Comparing two runs of a grammar.** The parser of a grammar keeps track of the spot at
which it is. A `SpotSimulation` is a simulation that knows about the spots of the two runs:
they may be different ones, as long as each side goes on from its own. Then the parsers of
one grammar are alike if building references is (`SpotSimulation.interpret_alike`), also
with different bounds if the simulation is lenient. It is enough that references are built
alike where they can stand in the grammar and its rules.

In a `GrammarSimulation` references are built alike wherever they stand: the two sides may
build them at different sites, but both get the body of the rule.

The simulation at the end, `approximation`, compares a run with one that has a larger
bound: unless the first is exhausted, both give the same result. So a result does not
depend on the bound, nor on the spot at which a grammar stands
(`Grammar.interpret_eq_of_parser_eq`).
-/

namespace Backtrack

/-- A simulation of parsers that keep track of their spots. -/
structure SpotSimulation (m n : Type → Type) [GrammarMonad m] [GrammarMonad n]
    extends Simulation m n where
  /-- The spots at which the two sides are. -/
  spots : Spot → Spot → Prop
  spots_part {s s' : Spot} (index : Nat) : spots s s' → spots (s.part index) (s'.part index)
  spots_shared {s s' : Spot} (index : Nat) :
    spots s s' → spots (s.shared index) (s'.shared index)
  rel_branch {s s' : Spot} : spots s s' →
    rel (fun number number' => spots (s.branch number) (s'.branch number'))
      GrammarMonad.branch GrammarMonad.branch

/-! Two sides at the same spot go on from there together. -/

theorem Spot.same_part {s s' : Spot} (index : Nat) (h : s = s') :
    s.part index = s'.part index := by rw [h]

theorem Spot.same_shared {s s' : Spot} (index : Nat) (h : s = s') :
    s.shared index = s'.shared index := by rw [h]

/-- A simulation of parsers of grammars over `rules`. -/
structure GrammarSimulation (m n : Type → Type) [GrammarMonad m] [GrammarMonad n]
    (rules : Rules) extends SpotSimulation m n where
  rel_build {s s' : Spot} (name : String) : spots s s' →
    rel (fun kept kept' => spots (.body kept.number) (.body kept'.number) ∧
        kept.body = rules.body name ∧ kept'.body = rules.body name)
      (GrammarMonad.build (s.site name) (rules.rule name))
      (GrammarMonad.build (s'.site name) (rules.rule name))

namespace SpotSimulation

variable {m n : Type → Type} [GrammarMonad m] [GrammarMonad n] {rules : Rules}
variable (G : SpotSimulation m n)

/-- A custom parser that cannot tell near cursors apart. -/
def Respects (reply : Grammar.Custom) : Prop :=
  ∀ c d, G.near c d → ResultAlike (Reply.Alike G.near Eq) (reply c) (reply d)

/-- References that stand where `refs` allows it are built alike, from the body of their
rule. -/
def Builds (rules : Rules) (refs : Spot → String → Prop) : Prop :=
  ∀ {s s' : Spot} (name : String), refs s name → G.spots s s' →
    G.rel (fun kept kept' => G.spots (.body kept.number) (.body kept'.number) ∧
        kept.body = rules.body name ∧ kept'.body = rules.body name)
      (GrammarMonad.build (s.site name) (rules.rule name))
      (GrammarMonad.build (s'.site name) (rules.rule name))

variable {G} {refs : Spot → String → Prop} {admits : Grammar.Custom → Prop}
variable {fuel fuel' : Nat} {call : Site → Parser m Value} {call' : Site → Parser n Value}

/-! ### One grammar on both sides -/

theorem parsers_alike {gs : List Grammar} {spot spot' : Spot} (index : Nat)
    (hgs : ∀ (i : Nat) (g : Grammar), gs[i]? = some g →
      G.Alike Eq (g.parser fuel call (spot.part (index + i)))
        (g.parser fuel' call' (spot'.part (index + i)))) :
    List.Forall₂ (G.Alike Eq) (Grammar.parsers fuel call spot index gs)
      (Grammar.parsers fuel' call' spot' index gs) := by
  induction gs generalizing index with
  | nil => exact .nil
  | cons g gs ih =>
      -- the members stand at spots of their own, numbered from `index` on
      refine .cons (hgs 0 g rfl) (ih (index + 1) fun i g' hg' => ?_)
      rw [Nat.add_assoc, Nat.add_comm 1]
      exact hgs (i + 1) g' hg'

/-- The parts of a grammar, numbered from the first one on. -/
theorem parts_alike {gs : List Grammar} {spot spot' : Spot} (hspot : G.spots spot spot')
    (hgs : ∀ (index : Nat) (g : Grammar), gs[index]? = some g →
      ∀ {part' : Spot}, G.spots (spot.part index) part' →
      G.Alike Eq (g.parser fuel call (spot.part index)) (g.parser fuel' call' part')) :
    List.Forall₂ (G.Alike Eq) (Grammar.parsers fuel call spot 0 gs)
      (Grammar.parsers fuel' call' spot' 0 gs) := by
  refine parsers_alike 0 fun i g hg => ?_
  rw [Nat.zero_add]
  exact hgs i g hg (G.spots_part i hspot)

/-- The parsers of a grammar are alike if those of its references are. -/
theorem parser_alike {g : Grammar} {spot spot' : Spot} (hg : g.Placed refs admits spot)
    (hadmits : ∀ reply, admits reply → G.Respects reply) (hfuel : G.Bounds fuel fuel')
    (hcall : ∀ name s s', refs s name → G.spots s s' →
      G.Alike Eq (call (s.site name)) (call' (s'.site name)))
    (hspot : G.spots spot spot') :
    G.Alike Eq (g.parser fuel call spot) (g.parser fuel' call' spot') := by
  induction hg generalizing spot' with
  | anyChar => exact Simulation.alike_map Simulation.alike_anyChar fun _ _ h => congrArg _ h
  | literal expected =>
      exact Simulation.alike_map (Simulation.alike_literal expected) fun _ _ _ => rfl
  | integer =>
      exact Simulation.alike_map Simulation.alike_nonNegativeInteger fun _ _ h => by rw [h]
  | blank => exact Simulation.alike_map Simulation.alike_skipBlank fun _ _ _ => rfl
  | charactersUntil _ ih =>
      have hd := ih (G.spots_part 0 hspot)
      exact Simulation.alike_map (Simulation.alike_charactersUntil hd) fun _ _ h => congrArg _ h
  | always value => exact Simulation.alike_always rfl
  | never => exact Simulation.alike_never
  | map _ ih =>
      exact Simulation.alike_map (ih (G.spots_part 0 hspot)) fun _ _ h => congrArg _ h
  | bind _ _ ih ihnext =>
      refine Simulation.alike_bind (ih (G.spots_part 0 hspot)) fun value value' hvalue => ?_
      obtain rfl : value = value' := hvalue
      -- each invocation is a branch of its own
      intro c d h
      refine G.rel_bind (G.rel_branch hspot) fun number number' hbranch => ?_
      exact ihnext value number hbranch c d h
  | zip _ ih =>
      have hmembers := parts_alike hspot ih
      refine Simulation.alike_map (Simulation.alike_sequence hmembers) fun values values' h => ?_
      rw [List.forall₂_eq_eq_eq] at h
      rw [h]
  | first _ ih => exact Simulation.alike_first (parts_alike hspot ih)
  | longest _ ih => exact Simulation.alike_longest (parts_alike hspot ih)
  | many _ _ ihe ihd =>
      have hmany := Simulation.alike_zeroOrMore (ihe (G.spots_part 0 hspot))
        (ihd (G.spots_part 1 hspot)) hfuel
      refine Simulation.alike_map hmany fun values values' h => ?_
      rw [List.forall₂_eq_eq_eq] at h
      rw [h]
  | boxed _ ih => exact ih (G.spots_part 0 hspot)
  | shared _ ih => exact ih (G.spots_shared _ hspot)
  | deferred hname => exact hcall _ _ _ hname hspot
  | @custom spot reply hreply =>
      intro c d h
      have hresult := hadmits reply hreply c d h
      simp only [Grammar.parser]
      generalize reply c = x, reply d = x' at hresult
      cases hresult with
      | ok hr => exact G.rel_pure hr
      | error cause => exact G.rel_halt cause

/-- References to one rule are alike wherever they may stand. -/
theorem callRule_alike {name : String} {s s' : Spot} (hbuild : G.Builds rules refs)
    (hrules : ∀ s name, refs s name → ∀ number,
      (rules.body name).Placed refs admits (.body number))
    (hadmits : ∀ reply, admits reply → G.Respects reply) (hfuel : G.Bounds fuel fuel')
    (hname : refs s name) (hspot : G.spots s s') :
    G.Alike Eq (Grammar.callRule rules fuel (s.site name))
      (Grammar.callRule rules fuel' (s'.site name)) := by
  induction fuel generalizing fuel' name s s' with
  | zero =>
      -- the first side is exhausted, and the second may or must be as well
      intro c d _
      rcases hfuel with rfl | ⟨-, hlenient⟩
      · exact G.rel_halt .exhausted
      · exact hlenient _ _
  | succ fuel ih =>
      obtain ⟨fuel', rfl, hfuel'⟩ := hfuel.pred
      intro c d h
      refine G.rel_bind (hbuild name hname hspot) fun kept kept' hkept => ?_
      obtain ⟨hbody, hkept, hkept'⟩ := hkept
      rw [hkept, hkept']
      exact parser_alike (hrules s name hname kept.number) hadmits hfuel'
        (fun name s s' hname hspot => ih hfuel' hname hspot) hbody c d h

/-- The parsers of one grammar over the same rules are alike. -/
theorem interpret_alike {g : Grammar} {spot spot' : Spot} (hg : g.Placed refs admits spot)
    (hbuild : G.Builds rules refs)
    (hrules : ∀ s name, refs s name → ∀ number,
      (rules.body name).Placed refs admits (.body number))
    (hadmits : ∀ reply, admits reply → G.Respects reply) (hfuel : G.Bounds fuel fuel')
    (hspot : G.spots spot spot') :
    G.Alike Eq (g.parser fuel (Grammar.callRule rules fuel) spot)
      (g.parser fuel' (Grammar.callRule rules fuel') spot') :=
  parser_alike hg hadmits hfuel
    (fun _ _ _ hname hspot => callRule_alike hbuild hrules hadmits hfuel hname hspot) hspot

end SpotSimulation

/-- Where references are built alike everywhere, it does not matter where they stand. -/
theorem GrammarSimulation.interpret_alike {m n : Type → Type} [GrammarMonad m] [GrammarMonad n]
    {rules : Rules} {G : GrammarSimulation m n rules} {refs : String → Prop}
    {admits : Grammar.Custom → Prop} {fuel fuel' : Nat} {g : Grammar} {spot spot' : Spot}
    (hg : g.Composed refs admits)
    (hrules : ∀ name, refs name → (rules.body name).Composed refs admits)
    (hadmits : ∀ reply, admits reply → G.Respects reply) (hfuel : G.Bounds fuel fuel')
    (hspot : G.spots spot spot') :
    G.Alike Eq (g.parser fuel (Grammar.callRule rules fuel) spot)
      (g.parser fuel' (Grammar.callRule rules fuel') spot') :=
  SpotSimulation.interpret_alike (hg.placed spot) (fun name _ hspot => G.rel_build name hspot)
    (fun _ name hname number => (hrules name hname).placed (.body number)) hadmits hfuel hspot

/-! ### Larger bounds -/

theorem Reply.Alike.eq {α : Type} {r r' : Reply α} (h : Reply.Alike Eq Eq r r') : r = r' := by
  cases h with
  | done hvalue hrest => rw [hvalue, hrest]
  | fail hrest => rw [hrest]

theorem Reply.Alike.refl {α : Type} (r : Reply α) : Reply.Alike Eq Eq r r := by
  cases r with
  | done value rest => exact .done rfl rfl
  | fail rest => exact .fail rfl

theorem replies_eq {ε α : Type} {x y : Except ε (Reply α)}
    (h : ResultAlike (Reply.Alike Eq Eq) x y) : x = y := by
  cases h with
  | ok hr => rw [hr.eq]
  | error cause => rfl

/-- Where cursors are near to themselves only, any custom parser will do. -/
theorem SpotSimulation.respects_of_same {m n : Type → Type} [GrammarMonad m] [GrammarMonad n]
    {G : SpotSimulation m n} (hsame : G.near = Eq) (reply : Grammar.Custom) :
    G.Respects reply := by
  intro c d h
  rw [hsame] at h ⊢
  rw [h]
  cases reply d with
  | ok r => exact .ok (.refl r)
  | error cause => exact .error cause

/-- Where cursors are near to themselves only, all parsers of one grammar are alike. -/
theorem GrammarSimulation.interpret_alike_of_same {m n : Type → Type} [GrammarMonad m]
    [GrammarMonad n] {rules : Rules} {G : GrammarSimulation m n rules} {fuel fuel' : Nat}
    {spot spot' : Spot} (hsame : G.near = Eq) (g : Grammar) (hfuel : G.Bounds fuel fuel')
    (hspot : G.spots spot spot') :
    G.Alike Eq (g.parser fuel (Grammar.callRule rules fuel) spot)
      (g.parser fuel' (Grammar.callRule rules fuel') spot') :=
  interpret_alike (Grammar.composed_all g) (fun name _ => Grammar.composed_all (rules.body name))
    (fun reply _ => SpotSimulation.respects_of_same hsame reply) hfuel hspot

/-- The second run gives the result of the first one, unless that is exhausted. -/
def approximation (rules : Rules) : GrammarSimulation Silent Silent rules where
  toNearness := .same
  rel R x y := x = .error .exhausted ∨ ResultAlike R x y
  rel_pure h := .inr (.ok h)
  rel_bind hx hf := by
    rcases hx with rfl | hx
    · exact .inl rfl
    · cases hx with
      | ok h => exact hf _ _ h
      | error cause => exact .inr (.error cause)
  rel_halt cause := .inr (.error cause)
  rel_stalled _ := .inr (.ok trivial)
  spots _ _ := True
  spots_part _ _ := trivial
  spots_shared _ _ := trivial
  rel_branch _ := .inr (.ok trivial)
  rel_build _ _ := .inr (.ok ⟨trivial, rfl, rfl⟩)

theorem approximation_lenient (rules : Rules) : (approximation rules).Lenient :=
  fun _ _ => .inl rfl

theorem approximation_rejects (rules : Rules) : (approximation rules).Rejects :=
  fun _ _ => .inr (.ok trivial)

namespace Grammar

variable {rules : Rules} {fuel fuel' : Nat} {c : Cursor} {r : Reply Value}

/-- Where a grammar stands makes no difference to its result, and a larger bound neither. -/
theorem interpret_eq_of_parser_eq (g : Grammar) {spot : Spot} (hfuel : fuel ≤ fuel')
    (h : (g.parser fuel (callRule rules fuel) spot : Parser Silent Value).parse c = .ok r) :
    (g.interpret rules fuel' : Parser Silent Value).parse c = .ok r := by
  have hspot : (approximation rules).spots spot {} := trivial
  have hbounds : (approximation rules).Bounds fuel fuel' :=
    .inr ⟨hfuel, approximation_lenient rules⟩
  rcases GrammarSimulation.interpret_alike_of_same rfl g hbounds hspot c c rfl with
    hexhausted | hresult
  · rw [hexhausted] at h
    cases h
  · exact (replies_eq hresult).symm.trans h

end Grammar

end Backtrack
