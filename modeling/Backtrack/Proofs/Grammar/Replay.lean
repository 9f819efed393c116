import Backtrack.Proofs.Grammar.Watching

/-!
# Backtrack.Proofs.Grammar.Replay

**Calls made again.** A call builds the references that it gets to and that were not built
before. When the same call is made again later, all of them are kept, so it takes the same
way and reports the same events, less the buildings. This needs that the references are the
same ones: a continuation that makes references makes new ones at each invocation, since
its invocations are numbered on from call to call. `Grammar.Lasting` excludes that.

The simulation `replaying` compares a run with its repetition on any memory that keeps what
the run has left (`Memory.Within`). The two runs number the invocations of continuations
differently and are at different spots below them, but at the same spot wherever a
reference stands.
-/

namespace Backtrack

/-! ### References that last -/

/-- A way that does not lead into a continuation. -/
def Unbranched (path : List Step) : Prop := ∀ number, .branch number ∉ path

theorem Unbranched.tail {step : Step} {path : List Step} (h : Unbranched (step :: path)) :
    Unbranched path := fun number hmem => h number (List.mem_cons_of_mem step hmem)

namespace Grammar

/-- Refers only to rules in `names`, and none of the references is made by a continuation. -/
def Fixed (names : String → Prop) (g : Grammar) : Prop :=
  ∀ number, g.Placed (fun spot name => Unbranched spot.path ∧ names name) (fun _ => True)
    (.body number)

/-- In the grammar and the rules that it leads to, no reference is made by a continuation. -/
def Lasting (rules : Rules) (root : Grammar) : Prop :=
  ∃ names : String → Prop,
    root.Fixed names ∧ ∀ name, names name → (rules.body name).Fixed names

theorem fixed_nesting {names : String → Prop} (h : names "nesting") : nesting.Fixed names := by
  intro number
  refine .first fun index g hg => ?_
  rcases index with _ | _ | index
  · obtain rfl := Option.some.inj hg
    refine .map (.zip fun index g hg => ?_)
    rcases index with _ | _ | _ | index
    · obtain rfl := Option.some.inj hg
      exact .literal "("
    · obtain rfl := Option.some.inj hg
      exact .deferred ⟨by simp [Unbranched, Spot.part, Spot.body], h⟩
    · obtain rfl := Option.some.inj hg
      exact .literal ")"
    · cases hg
  · obtain rfl := Option.some.inj hg
    exact .always (.int 0)
  · cases hg

/-- Some nestings, all but the first by one reference, which the continuation shares. -/
def nestings : Grammar :=
  bind (deferred "nesting") fun _ => many (shared 0 (deferred "nesting")) blank

theorem lasting_nestings : nestings.Lasting nestingRules := by
  refine ⟨(· = "nesting"), fun number => ?_, ?_⟩
  · refine .bind (.deferred ⟨by simp [Unbranched, Spot.part, Spot.body], rfl⟩) fun _ branch => ?_
    refine .many (.shared (.deferred ⟨?_, rfl⟩)) .blank
    simp [Unbranched, Spot.shared, Spot.part, Spot.branch, Spot.body]
  · rintro name rfl
    exact fixed_nesting rfl

end Grammar

/-! ### A run and its repetition -/

/-- What is kept in the one memory is kept in the other. -/
def Memory.Within (memory later : Memory) : Prop :=
  ∀ (site : Site) (kept : Building), memory.built[site]? = some kept →
    later.built[site]? = some kept

theorem Memory.Within.refl (memory : Memory) : memory.Within memory := fun _ _ h => h

theorem Memory.Within.trans {m m' m'' : Memory} (h : m.Within m') (h' : m'.Within m'') :
    m.Within m'' := fun site kept hkept => h' site kept (h site kept hkept)

theorem Memory.within_insert {memory : Memory} {site : Site} (h : memory.built[site]? = none)
    (new : Building) (events : List Event) :
    memory.Within { memory with built := memory.built.insert site new, events := events } := by
  intro site' kept hkept
  have hne : site ≠ site' := by
    rintro rfl
    rw [h] at hkept
    cases hkept
  rw [Std.HashMap.getElem?_insert, if_neg (by simpa using hne)]
  exact hkept

variable {α β γ δ : Type}

/-- The run on `later` repeats the one on `memory`: it ends alike, builds nothing, and
reports what the first one reported, less the buildings. -/
structure RunsAgain (R : α → β → Prop) (memory later : Memory) (run : Except Halt α × Memory)
    (run' : Except Halt β × Memory) : Prop where
  result : ResultAlike R run.1 run'.1
  built : run'.2.built = later.built
  events : ∃ new, run.2.events = new ++ memory.events ∧
    run'.2.events = new.filter (!·.isBuilt) ++ later.events

/-- The first computation on `memory` forgets nothing, and the second repeats it on every
memory that keeps what the first has left. -/
structure Replayed (rules : Rules) (R : α → β → Prop) (memory : Memory) (x : Remembering α)
    (y : Remembering β) : Prop where
  keeps : (x.runOn memory).2.Keeps rules
  within : memory.Within (x.runOn memory).2
  again : ∀ later, (x.runOn memory).2.Within later →
    RunsAgain R memory later (x.runOn memory) (y.runOn later)

/-- An event other than a building is reported both times. -/
theorem replayed_emit {rules : Rules} {memory : Memory} {event : Event}
    (hmemory : memory.Keeps rules) (hevent : event.isBuilt = false) :
    Replayed rules (fun _ _ => True) memory (ParseMonad.emit event) (ParseMonad.emit event) where
  keeps := hmemory
  within := .refl memory
  again later _ := ⟨.ok trivial, rfl, [event], rfl, by simp [hevent]⟩

/-- What goes on after a computation that is repeated alike is repeated alike. -/
theorem Replayed.bind {rules : Rules} {R : α → β → Prop} {Q : γ → δ → Prop} {memory : Memory}
    {x : Remembering α} {y : Remembering β} {f : α → Remembering γ} {g : β → Remembering δ}
    (hx : Replayed rules R memory x y)
    (hf : ∀ a b, R a b → ∀ memory : Memory, memory.Keeps rules →
      Replayed rules Q memory (f a) (g b)) :
    Replayed rules Q memory (x >>= f) (y >>= g) := by
  obtain ⟨hkeeps, hwithin, hagain⟩ := hx
  rcases hrun : Remembering.runOn x memory with ⟨result, middle⟩
  rw [hrun] at hkeeps hwithin hagain
  have hresult := (hagain middle (.refl middle)).result
  cases result with
  | error cause =>
      have hbind : Remembering.runOn (x >>= f) memory = (.error cause, middle) := by
        rw [Remembering.runOn_bind, hrun]
      refine ⟨by rwa [hbind], by rwa [hbind], fun later hlater => ?_⟩
      rw [hbind] at hlater ⊢
      obtain ⟨hresult, hbuilt, hevents⟩ := hagain later hlater
      rw [Remembering.runOn_bind]
      generalize Remembering.runOn y later = run' at hresult hbuilt hevents
      obtain ⟨result', later'⟩ := run'
      cases hresult with
      | error cause => exact ⟨.error cause, hbuilt, hevents⟩
  | ok a =>
      have hbind : Remembering.runOn (x >>= f) memory = Remembering.runOn (f a) middle := by
        rw [Remembering.runOn_bind, hrun]
      -- what the second part leaves does not depend on how the first one is repeated
      obtain ⟨b, hb⟩ : ∃ b, R a b := by
        generalize (Remembering.runOn y middle).1 = result' at hresult
        cases hresult with
        | ok h => exact ⟨_, h⟩
      obtain ⟨hkeeps', hwithin', -⟩ := hf a b hb middle hkeeps
      refine ⟨by rwa [hbind], by rw [hbind]; exact hwithin.trans hwithin', fun later hlater => ?_⟩
      rw [hbind] at hlater ⊢
      obtain ⟨hresult, hbuilt, new, hnew, hnew'⟩ := hagain later (hwithin'.trans hlater)
      rw [Remembering.runOn_bind]
      generalize Remembering.runOn y later = run' at hresult hbuilt hnew'
      obtain ⟨result', later'⟩ := run'
      cases hresult with
      | @ok _ b' hb' =>
          have hlater' : (Remembering.runOn (f a) middle).2.Within later' := by
            intro site kept hkept
            rw [hbuilt]
            exact hlater site kept hkept
          obtain ⟨hresult', hbuilt', new', hevents, hevents'⟩ :=
            (hf a b' hb' middle hkeeps).again later' hlater'
          refine ⟨hresult', hbuilt'.trans hbuilt, new' ++ new, ?_, ?_⟩
          · rw [hevents, hnew, List.append_assoc]
          · rw [hevents', hnew', List.filter_append, List.append_assoc]

/-- A run, and the same run on a memory that keeps what the first one has left. -/
def replaying (rules : Rules) : SpotSimulation Remembering Remembering where
  toNearness := .same
  rel R x y := ∀ memory : Memory, memory.Keeps rules → Replayed rules R memory x y
  rel_pure h memory hmemory := ⟨hmemory, .refl memory, fun _ _ => ⟨.ok h, rfl, [], rfl, rfl⟩⟩
  rel_bind hx hf memory hmemory := (hx memory hmemory).bind hf
  rel_halt cause memory hmemory :=
    ⟨hmemory, .refl memory, fun _ _ => ⟨.error cause, rfl, [], rfl, rfl⟩⟩
  rel_stalled {c d} h memory hmemory := by
    obtain rfl : c = d := h
    exact replayed_emit hmemory rfl
  spots s s' := s.owner = s'.owner ∧ (Unbranched s.path → s.path = s'.path) ∧
    (Unbranched s.around → s.around = s'.around)
  spots_part index h := by
    obtain ⟨howner, hpath, haround⟩ := h
    exact ⟨howner, fun hlasting => congrArg (_ :: ·) (hpath hlasting.tail), haround⟩
  spots_shared index h := by
    obtain ⟨howner, -, haround⟩ := h
    exact ⟨howner, fun hlasting => congrArg (_ :: ·) (haround hlasting.tail), haround⟩
  rel_branch {s s'} h memory hmemory := by
    obtain ⟨howner, hpath, -⟩ := h
    refine ⟨hmemory, .refl memory, fun later _ => ⟨.ok ⟨howner, fun hlasting => ?_, hpath⟩, rfl,
      [], rfl, rfl⟩⟩
    exact absurd List.mem_cons_self (hlasting memory.branches)

theorem replaying_rejects (rules : Rules) : (replaying rules).Rejects :=
  fun _ _ _ hmemory => replayed_emit hmemory rfl

/-- References that are not made by a continuation are built once, and found again. -/
theorem replaying_builds (rules : Rules) (names : String → Prop) :
    (replaying rules).Builds rules fun spot name => Unbranched spot.path ∧ names name := by
  intro s s' name hname hspot memory hmemory
  obtain ⟨howner, hpath, -⟩ := hspot
  have hsite : s'.site name = s.site name := by
    rw [Spot.site, Spot.site, howner, hpath hname.1]
  rw [hsite]
  have hspots : ∀ number, (replaying rules).spots (.body number) (.body number) :=
    fun _ => ⟨rfl, fun _ => rfl, fun _ => rfl⟩
  cases hkept : memory.built[s.site name]? with
  | some kept =>
      have hbody := hmemory _ kept hkept
      have hrun := Remembering.runOn_build_of_some (r := rules.rule name) hkept
      refine ⟨by rwa [hrun], by rw [hrun]; exact .refl memory, fun later hlater => ?_⟩
      rw [hrun] at hlater ⊢
      rw [Remembering.runOn_build_of_some (hlater _ kept hkept)]
      exact ⟨.ok ⟨hspots kept.number, hbody, hbody⟩, rfl, [], rfl, rfl⟩
  | none =>
      have hrun := Remembering.runOn_build_of_none (r := rules.rule name) hkept
      refine ⟨?_, ?_, fun later hlater => ?_⟩
      · rw [hrun]
        exact hmemory.insert (s.site name) _
      · rw [hrun]
        exact Memory.within_insert hkept _ _
      · rw [hrun] at hlater ⊢
        rw [Remembering.runOn_build_of_some (hlater _ _ Std.HashMap.getElem?_insert_self)]
        exact ⟨.ok ⟨hspots _, rfl, rfl⟩, rfl,
          [.built (s.site name) (rules.typeName name)], rfl, rfl⟩

/-! ### Calls made again -/

namespace Session

variable {s : Session}

/-- A call forgets nothing, and a later one on what it has left repeats it. -/
theorem call_replayed (hlasting : s.root.Lasting s.rules) (hs : s.Consistent) (request : Call) :
    s.memory.Within (s.call request).2.memory ∧
      ∀ later : Memory, (s.call request).2.memory.Within later →
        ({ s with memory := later }.call request).1.events =
          (s.call request).1.events.filter (!·.isBuilt) := by
  obtain ⟨names, hroot, hrules⟩ := hlasting
  have halike : (replaying s.rules).Alike Eq (s.root.interpret s.rules s.fuel)
      (s.root.interpret s.rules s.fuel) :=
    SpotSimulation.interpret_alike (hroot 0) (replaying_builds s.rules names)
      (fun _ name hname => hrules name hname.2)
      (fun reply _ => SpotSimulation.respects_of_same rfl reply) (.inl rfl)
      ⟨rfl, fun _ => rfl, fun _ => rfl⟩
  obtain ⟨-, hwithin, hagain⟩ :=
    rel_perform rfl (replaying_rejects s.rules) request halike { s.memory with events := [] } hs
  refine ⟨hwithin, fun later hlater => ?_⟩
  obtain ⟨-, -, new, hevents, hevents'⟩ := hagain { later with events := [] } hlater
  rw [List.append_nil] at hevents hevents'
  have hfirst : (s.call request).1.events = new.reverse := congrArg List.reverse hevents
  have hlater : ({ s with memory := later }.call request).1.events =
      (new.filter (!·.isBuilt)).reverse := congrArg List.reverse hevents'
  rw [hfirst, hlater, List.filter_reverse]

/-- On what a call has left it is repeated, whatever is called before that. -/
theorem calls_repeat (hlasting : s.root.Lasting s.rules) (hs : s.Consistent) {request : Call}
    {later : Memory} (hkeeps : later.Keeps s.rules)
    (hlater : (s.call request).2.memory.Within later) {requests : List Call} {index : Nat}
    (hrequest : requests[index]? = some request) :
    ∃ again : Outcome, ({ s with memory := later }.calls requests).1[index]? = some again ∧
      again.events = (s.call request).1.events.filter (!·.isBuilt) := by
  induction requests generalizing later index with
  | nil => cases hrequest
  | cons request' requests ih =>
      cases index with
      | zero =>
          obtain rfl : request' = request := Option.some.inj hrequest
          exact ⟨_, rfl, (call_replayed hlasting hs request').2 later hlater⟩
      | succ index =>
          -- the call in between keeps what it finds, so there is nothing new to build
          have hwithin := (@call_replayed { s with memory := later } hlasting hkeeps request').1
          have hkeeps' := (@call_result { s with memory := later } hkeeps request').2
          exact ih hkeeps' (hlater.trans hwithin) hrequest

/-- A call that is made twice reports the same events, less the buildings. -/
theorem calls_twice (hlasting : s.root.Lasting s.rules) (hs : s.Consistent)
    {requests : List Call} {i j : Nat} (hij : i < j) {request : Call}
    (hi : requests[i]? = some request) (hj : requests[j]? = some request) :
    ∃ first again : Outcome, (s.calls requests).1[i]? = some first ∧
      (s.calls requests).1[j]? = some again ∧
      again.events = first.events.filter (!·.isBuilt) := by
  induction requests generalizing s i j with
  | nil => cases hi
  | cons request' requests ih =>
      obtain ⟨j, rfl⟩ : ∃ k, j = k + 1 := ⟨j - 1, by omega⟩
      have hkeeps := (call_result hs request').2
      cases i with
      | zero =>
          obtain rfl : request' = request := Option.some.inj hi
          have hnext : requests[j]? = some request' := hj
          obtain ⟨again, hagain, hevents⟩ := calls_repeat hlasting hs hkeeps (.refl _) hnext
          exact ⟨_, again, rfl, hagain, hevents⟩
      | succ i => exact @ih (s.call request').2 hlasting hkeeps i j (by omega) hi hj

/-- **Calls on a parser whose references last.** Over all calls no reference is built twice,
and each is built when parsing first gets to it: this is the order in which things happen
under watch, and the events are the same there. A call that was made before builds nothing
and reports the other events again, in the same order, whatever calls lie between. -/
theorem calls_replay {rules : Rules} {root : Grammar} (hlasting : root.Lasting rules)
    (fuel : Nat) (requests : List Call) :
    (∀ site, (((fresh rules root fuel).calls requests).1.flatMap Outcome.events).countP
      (Event.buildsAt site) ≤ 1) ∧
    ((fresh rules root fuel).notices requests).filterMap Notice.event? =
      ((fresh rules root fuel).calls requests).1.flatMap Outcome.events ∧
    (∀ site parser before after,
      (fresh rules root fuel).notices requests =
        before ++ .reported (.built site parser) :: after →
      ∃ earlier, before = earlier ++ [.reached site] ∧ .reached site ∉ earlier) ∧
    ∀ (i j : Nat) (request : Call), i < j →
      requests[i]? = some request → requests[j]? = some request →
      ∃ first again : Outcome, ((fresh rules root fuel).calls requests).1[i]? = some first ∧
        ((fresh rules root fuel).calls requests).1[j]? = some again ∧
        again.events = first.events.filter (!·.isBuilt) :=
  ⟨countP_buildsAt_le rules root fuel requests, notices_events rules root fuel requests,
    fun _ _ _ _ h => notices_built rules root fuel requests h,
    fun _ _ _ hij hi hj =>
      calls_twice hlasting (consistent_fresh rules root fuel) hij hi hj⟩

/-- The second reference is below a continuation, which hands it out and does not make it. -/
theorem calls_replay_nestings :
    Grammar.nestings.Lasting Grammar.nestingRules ∧
    ∃ first again : Outcome, ((fresh Grammar.nestingRules Grammar.nestings 9).calls
        [.run "()(())", .runFrom "é(()" 2, .run "()(())"]).1[0]? = some first ∧
      ((fresh Grammar.nestingRules Grammar.nestings 9).calls
        [.run "()(())", .runFrom "é(()" 2, .run "()(())"]).1[2]? = some again ∧
      again.events = first.events.filter (!·.isBuilt) :=
  ⟨Grammar.lasting_nestings, (calls_replay Grammar.lasting_nestings 9 _).2.2.2 0 2 (.run "()(())")
    (by decide) rfl rfl⟩

end Session

end Backtrack
