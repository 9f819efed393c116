import Backtrack.Grammar.Basic

/-!
# Backtrack.Proofs.Grammar.Composition

**What a grammar is put together from.** `Grammar.Composed refs admits g` says that `g`
refers only to rules whose names are in `refs`, and that `admits` holds of the parsers in
it which are written as functions. Everything else may occur anywhere, also below the
continuations of `bind`. Statements about all grammars of some kind are inductions over
it:

* with every name in `refs`, `g` is a grammar over any rules; with none it has no
  references;
* `admits := fun _ => False` leaves the parsers of the library alone.

`Grammar.Placed` also looks at the spots at which the references stand. It goes from a
grammar to its parts as the interpretation does, so it can tell a reference that is made
once from one that every invocation of a continuation makes anew.
-/

namespace Backtrack.Grammar

/-- A parser written as a function. -/
abbrev Custom := Cursor → Silent (Reply Value)

/-- Refers only to rules in `refs`, and `admits` holds of its custom parsers. -/
inductive Composed (refs : String → Prop) (admits : Custom → Prop) : Grammar → Prop
  | anyChar : Composed refs admits anyChar
  | literal (text : String) : Composed refs admits (literal text)
  | integer : Composed refs admits integer
  | blank : Composed refs admits blank
  | charactersUntil {delimiter : Grammar} (h : Composed refs admits delimiter) :
    Composed refs admits (charactersUntil delimiter)
  | always (value : Value) : Composed refs admits (always value)
  | never : Composed refs admits never
  | map {f : Value → Value} {g : Grammar} (h : Composed refs admits g) :
    Composed refs admits (map f g)
  | bind {g : Grammar} {next : Value → Grammar} (h : Composed refs admits g)
    (hnext : ∀ value, Composed refs admits (next value)) : Composed refs admits (bind g next)
  | zip {members : List Grammar} (h : ∀ g ∈ members, Composed refs admits g) :
    Composed refs admits (zip members)
  | first {candidates : List Grammar} (h : ∀ g ∈ candidates, Composed refs admits g) :
    Composed refs admits (first candidates)
  | longest {candidates : List Grammar} (h : ∀ g ∈ candidates, Composed refs admits g) :
    Composed refs admits (longest candidates)
  | many {element delimiter : Grammar} (he : Composed refs admits element)
    (hd : Composed refs admits delimiter) : Composed refs admits (many element delimiter)
  | boxed {g : Grammar} (h : Composed refs admits g) : Composed refs admits (boxed g)
  | shared {index : Nat} {g : Grammar} (h : Composed refs admits g) :
    Composed refs admits (shared index g)
  | deferred {name : String} (h : refs name) : Composed refs admits (deferred name)
  | custom {reply : Custom} (h : admits reply) : Composed refs admits (custom reply)

variable {refs : String → Prop} {admits : Custom → Prop}

/-! ### Where references stand -/

/-- Stands at `spot`, refers to rules only from spots where `refs` allows it, and `admits`
holds of its custom parsers. -/
inductive Placed (refs : Spot → String → Prop) (admits : Custom → Prop) :
    Spot → Grammar → Prop
  | anyChar {spot : Spot} : Placed refs admits spot anyChar
  | literal {spot : Spot} (text : String) : Placed refs admits spot (literal text)
  | integer {spot : Spot} : Placed refs admits spot integer
  | blank {spot : Spot} : Placed refs admits spot blank
  | charactersUntil {spot : Spot} {delimiter : Grammar}
    (h : Placed refs admits (spot.part 0) delimiter) :
    Placed refs admits spot (charactersUntil delimiter)
  | always {spot : Spot} (value : Value) : Placed refs admits spot (always value)
  | never {spot : Spot} : Placed refs admits spot never
  | map {spot : Spot} {f : Value → Value} {g : Grammar}
    (h : Placed refs admits (spot.part 0) g) : Placed refs admits spot (map f g)
  /-- Every invocation of the continuation is a branch of its own. -/
  | bind {spot : Spot} {g : Grammar} {next : Value → Grammar}
    (h : Placed refs admits (spot.part 0) g)
    (hnext : ∀ value number, Placed refs admits (spot.branch number) (next value)) :
    Placed refs admits spot (bind g next)
  | zip {spot : Spot} {members : List Grammar}
    (h : ∀ index g, members[index]? = some g → Placed refs admits (spot.part index) g) :
    Placed refs admits spot (zip members)
  | first {spot : Spot} {candidates : List Grammar}
    (h : ∀ index g, candidates[index]? = some g → Placed refs admits (spot.part index) g) :
    Placed refs admits spot (first candidates)
  | longest {spot : Spot} {candidates : List Grammar}
    (h : ∀ index g, candidates[index]? = some g → Placed refs admits (spot.part index) g) :
    Placed refs admits spot (longest candidates)
  | many {spot : Spot} {element delimiter : Grammar}
    (he : Placed refs admits (spot.part 0) element)
    (hd : Placed refs admits (spot.part 1) delimiter) :
    Placed refs admits spot (many element delimiter)
  | boxed {spot : Spot} {g : Grammar} (h : Placed refs admits (spot.part 0) g) :
    Placed refs admits spot (boxed g)
  | shared {spot : Spot} {index : Nat} {g : Grammar}
    (h : Placed refs admits (spot.shared index) g) : Placed refs admits spot (shared index g)
  | deferred {spot : Spot} {name : String} (h : refs spot name) :
    Placed refs admits spot (deferred name)
  | custom {spot : Spot} {reply : Custom} (h : admits reply) :
    Placed refs admits spot (custom reply)

/-- If it does not matter where references stand, a grammar can stand anywhere. -/
theorem Composed.placed {g : Grammar} (h : g.Composed refs admits) (spot : Spot) :
    g.Placed (fun _ => refs) admits spot := by
  induction h generalizing spot with
  | anyChar => exact .anyChar
  | literal text => exact .literal text
  | integer => exact .integer
  | blank => exact .blank
  | charactersUntil _ ih => exact .charactersUntil (ih _)
  | always value => exact .always value
  | never => exact .never
  | map _ ih => exact .map (ih _)
  | bind _ _ ih ihnext => exact .bind (ih _) fun value number => ihnext value _
  | zip _ ih => exact .zip fun index g hg => ih g (List.mem_of_getElem? hg) _
  | first _ ih => exact .first fun index g hg => ih g (List.mem_of_getElem? hg) _
  | longest _ ih => exact .longest fun index g hg => ih g (List.mem_of_getElem? hg) _
  | many _ _ ihe ihd => exact .many (ihe _) (ihd _)
  | boxed _ ih => exact .boxed (ih _)
  | shared _ ih => exact .shared (ih _)
  | deferred hname => exact .deferred hname
  | custom hreply => exact .custom hreply

/-! ### Grammars made of others -/

theorem composed_or {g h : Grammar} (hg : g.Composed refs admits) (hh : h.Composed refs admits) :
    (g.or h).Composed refs admits := by
  refine .first fun candidate hmem => ?_
  simp only [List.mem_cons, List.not_mem_nil, or_false] at hmem
  rcases hmem with rfl | rfl
  · exact hg
  · exact hh

theorem composed_literals (texts : List String) :
    ∀ g ∈ texts.map literal, g.Composed refs admits := by
  intro g hg
  obtain ⟨text, -, rfl⟩ := List.mem_map.mp hg
  exact .literal text

theorem composed_firstLiteral (texts : List String) (value : Value) :
    (firstLiteral texts value).Composed refs admits := .map (.first (composed_literals texts))

theorem composed_longestLiteral (texts : List String) (value : Value) :
    (longestLiteral texts value).Composed refs admits := .map (.longest (composed_literals texts))

theorem composed_commaSeparated {element : Grammar} (h : element.Composed refs admits) :
    (commaSeparated element).Composed refs admits := by
  refine .many h (.map (.zip fun g hg => ?_))
  simp only [List.mem_cons, List.not_mem_nil, or_false] at hg
  rcases hg with rfl | rfl
  · exact .literal ","
  · exact .blank

/-! ### Every grammar is composed of something -/

mutual

theorem composed_all : ∀ g : Grammar, Composed (fun _ => True) (fun _ => True) g
  | anyChar => .anyChar
  | literal text => .literal text
  | integer => .integer
  | blank => .blank
  | charactersUntil delimiter => .charactersUntil (composed_all delimiter)
  | always value => .always value
  | never => .never
  | map _ g => .map (composed_all g)
  | bind g next => .bind (composed_all g) fun value => composed_all (next value)
  | zip members => .zip (composed_all_of_mem members)
  | first candidates => .first (composed_all_of_mem candidates)
  | longest candidates => .longest (composed_all_of_mem candidates)
  | many element delimiter => .many (composed_all element) (composed_all delimiter)
  | boxed g => .boxed (composed_all g)
  | shared _ g => .shared (composed_all g)
  | deferred _ => .deferred trivial
  | custom _ => .custom trivial

theorem composed_all_of_mem : ∀ (gs : List Grammar), ∀ g ∈ gs,
    Composed (fun _ => True) (fun _ => True) g
  | [], _, h => absurd h List.not_mem_nil
  | g :: gs, g', h => by
      rcases List.mem_cons.mp h with heq | h
      · rw [heq]
        exact composed_all g
      · exact composed_all_of_mem gs g' h

end

/-- What holds of all rules holds of every body, if it holds of the one without a match: a
name without a rule has that one. -/
theorem body_of_rules {rules : Rules} {holds : Grammar → Prop} (hnever : holds never)
    (h : ∀ rule ∈ rules, holds rule.2.body) (name : String) : holds (rules.body name) := by
  unfold Rules.body Rules.rule
  cases hlookup : rules.lookup name with
  | none => exact hnever
  | some rule =>
      obtain ⟨before, after, rfl, -⟩ := List.lookup_eq_some_iff.mp hlookup
      exact h (name, rule) (List.mem_append_right before List.mem_cons_self)

/-! ### A rule that refers to itself -/

/-- Parentheses around parentheses, as the number of pairs. -/
def nesting : Grammar :=
  first [(zip [literal "(", deferred "nesting", literal ")"]).mapped .successor, always (.int 0)]

/-- The rule by which `nesting` refers to itself. -/
def nestingRules : Rules :=
  [("nesting", ⟨"unicomb_parsers::combinator::boxed::Boxed<usize>", nesting⟩)]

theorem composed_nesting (h : refs "nesting") : nesting.Composed refs admits := by
  refine .first fun g hg => ?_
  simp only [List.mem_cons, List.not_mem_nil, or_false] at hg
  rcases hg with rfl | rfl
  · refine .map (.zip fun g hg => ?_)
    simp only [List.mem_cons, List.not_mem_nil, or_false] at hg
    rcases hg with rfl | rfl | rfl
    · exact .literal "("
    · exact .deferred h
    · exact .literal ")"
  · exact .always (.int 0)

end Backtrack.Grammar
