import Std.Data.HashMap
import Backtrack.Grammar.Basic

/-!
# Backtrack.Grammar.Memory

**Building references and keeping them.** A reference to a rule is built when parsing
first gets to it. `GrammarMonad` is what the parser of a grammar needs for that, in
two forms:

* `Silent` computations keep nothing and build every reference anew;
* `Remembering` computations keep what they have built, from one call to the next, and
  report each building. What they have built and reported stays also if they halt.
-/

namespace Backtrack

/-- A reference that was built. -/
structure Building where
  /-- Tells the buildings apart. -/
  number : Nat
  /-- The body of the rule. -/
  body : Grammar

/-- Computations that build the references they come across. -/
class GrammarMonad (m : Type → Type) extends ParseMonad m where
  /-- What was built at a site before, or else the rule given, built there now. -/
  build : Site → Rule → m Building
  /-- A number for a new invocation of a continuation. -/
  branch : m Nat

instance : GrammarMonad Silent where
  build _ rule := .ok ⟨0, rule.body⟩
  branch := .ok 0

/-! ### Memory -/

/-- What is kept during a call and between calls. -/
structure Memory where
  /-- What has been built, by the sites of the references. -/
  built : Std.HashMap Site Building := {}
  /-- The number of invocations of continuations so far. -/
  branches : Nat := 0
  /-- The events reported so far, the latest first. -/
  events : List Event := []

/-- Computations with a memory. -/
abbrev Remembering := ExceptT Halt (StateM Memory)

namespace Remembering

variable {α β : Type}

/-- Reports an event. -/
def emit (event : Event) : Remembering Unit :=
  modify fun memory => { memory with events := event :: memory.events }

/-- Looks a site up, and builds it if that has not been done. The buildings are
numbered from one on. -/
def build (site : Site) (rule : Rule) : Remembering Building := do
  let memory ← get
  match memory.built[site]? with
  | some kept => return kept
  | none =>
    let new : Building := ⟨memory.built.size + 1, rule.body⟩
    emit (.built site rule.typeName)
    modify fun memory => { memory with built := memory.built.insert site new }
    return new

/-- Numbers the invocations one after the other. -/
def branch : Remembering Nat :=
  modifyGet fun memory => (memory.branches, { memory with branches := memory.branches + 1 })

/-- How a computation ends on a memory, and the memory afterwards. -/
def runOn (x : Remembering α) (memory : Memory) : Except Halt α × Memory := x.run.run memory

end Remembering

instance : GrammarMonad Remembering where
  halt := throw
  emit := Remembering.emit
  build := Remembering.build
  branch := Remembering.branch

/-! ### How a memory changes -/

namespace Remembering

variable {α β : Type}

@[simp] theorem runOn_pure (a : α) (memory : Memory) :
    runOn (pure a) memory = (.ok a, memory) := rfl

@[simp] theorem runOn_halt (cause : Halt) (memory : Memory) :
    runOn (ParseMonad.halt cause : Remembering α) memory = (.error cause, memory) := rfl

@[simp] theorem runOn_emit (event : Event) (memory : Memory) :
    runOn (ParseMonad.emit event) memory =
      (.ok (), { memory with events := event :: memory.events }) := rfl

@[simp] theorem runOn_branch (memory : Memory) :
    runOn GrammarMonad.branch memory =
      (.ok memory.branches, { memory with branches := memory.branches + 1 }) := rfl

/-- A computation goes on with the memory that the one before it left. -/
theorem runOn_bind (x : Remembering α) (f : α → Remembering β) (memory : Memory) :
    runOn (x >>= f) memory =
      match runOn x memory with
      | (.ok a, memory') => runOn (f a) memory'
      | (.error cause, memory') => (.error cause, memory') := by
  rcases h : runOn x memory with ⟨_ | _, memory'⟩ <;>
    simp [runOn] at h <;> simp [runOn, ExceptT.run_bind, h] <;> rfl

/-- A site that was built before gives back what was built, and nothing changes. -/
theorem runOn_build_of_some {site : Site} {r : Rule} {kept : Building} {memory : Memory}
    (h : memory.built[site]? = some kept) :
    runOn (GrammarMonad.build site r) memory = (.ok kept, memory) := by
  show runOn (Remembering.build site r) memory = _
  rw [Remembering.build, runOn_bind]
  show runOn (match memory.built[site]? with | some kept => _ | none => _) memory = _
  rw [h]
  rfl

/-- A site that is new is built, reported and kept. -/
theorem runOn_build_of_none {site : Site} {r : Rule} {memory : Memory}
    (h : memory.built[site]? = none) :
    runOn (GrammarMonad.build site r) memory =
      (.ok ⟨memory.built.size + 1, r.body⟩,
        { memory with
          built := memory.built.insert site ⟨memory.built.size + 1, r.body⟩
          events := .built site r.typeName :: memory.events }) := by
  show runOn (Remembering.build site r) memory = _
  rw [Remembering.build, runOn_bind]
  show runOn (match memory.built[site]? with | some kept => _ | none => _) memory = _
  rw [h]
  rfl

end Remembering

end Backtrack
