import Std.Data.HashMap.Lemmas
import Backtrack.Grammar.Session
import Backtrack.Proofs.Grammar.Simulation

/-!
# Backtrack.Proofs.Grammar.Forgetting

**What is kept makes no difference to results.** A session keeps the references it has
built from one call to the next. Whatever it keeps is the body of the rule that was
referred to (`Memory.Keeps`), so a call answers as if everything was built anew: the
simulation `forgetting` relates a run with a memory to the run without one.

For a session this means that its answers are those of the plain function
`Grammar.interpret` in `Silent`, after any earlier calls (`Session.call_calls_result`).
Statements about single calls can therefore be proved without a memory. For all calls of a
session together, `Session.calls_forget` says that their order does not matter, nor how
often they are made.
-/

namespace Backtrack

variable {rules : Rules}

/-! ### Memories over some rules -/

/-- Everything that was built is the body of its rule. -/
def Memory.Keeps (memory : Memory) (rules : Rules) : Prop :=
  ∀ (site : Site) (kept : Building), memory.built[site]? = some kept →
    kept.body = rules.body site.rule

theorem Memory.keeps_empty (rules : Rules) : ({} : Memory).Keeps rules := by
  intro site kept h
  simp at h

theorem Memory.Keeps.insert {memory : Memory} (h : memory.Keeps rules) (site : Site)
    (number : Nat) :
    ({ memory with built := memory.built.insert site ⟨number, rules.body site.rule⟩ } :
      Memory).Keeps rules := by
  intro site' kept hkept
  simp only [Std.HashMap.getElem?_insert] at hkept
  split at hkept
  · rename_i heq
    rw [← eq_of_beq heq, ← Option.some.inj hkept]
  · exact h site' kept hkept

/-! ### Runs side by side -/

/-- On memories related by `Q`, the computations end alike and leave memories that are related
again. -/
def Remembering.Parallel {α β : Type} (Q : Memory → Memory → Prop) (R : α → β → Prop)
    (x : Remembering α) (y : Remembering β) : Prop :=
  ∀ memory memory' : Memory, Q memory memory' →
    ResultAlike R (x.runOn memory).1 (y.runOn memory').1 ∧
      Q (x.runOn memory).2 (y.runOn memory').2

theorem Remembering.Parallel.bind {α β γ δ : Type} {Q : Memory → Memory → Prop}
    {R : α → β → Prop} {R' : γ → δ → Prop} {x : Remembering α} {y : Remembering β}
    {f : α → Remembering γ} {g : β → Remembering δ} (hx : Parallel Q R x y)
    (hf : ∀ a b, R a b → Parallel Q R' (f a) (g b)) : Parallel Q R' (x >>= f) (y >>= g) := by
  intro memory memory' hmemory
  obtain ⟨hresult, hafter⟩ := hx memory memory' hmemory
  rw [Remembering.runOn_bind, Remembering.runOn_bind]
  rcases hrun : Remembering.runOn x memory with ⟨result, after⟩
  rcases hrun' : Remembering.runOn y memory' with ⟨result', after'⟩
  rw [hrun, hrun'] at hresult hafter
  cases hresult with
  | ok h => exact hf _ _ h after after' hafter
  | error cause => exact ⟨.error cause, hafter⟩

/-! ### Runs with and without a memory -/

/-- A run on a memory and a run without one. -/
def forgetting (rules : Rules) : GrammarSimulation Remembering Silent rules where
  toNearness := .same
  rel R x y := ∀ memory : Memory, memory.Keeps rules →
    ResultAlike R (x.runOn memory).1 y ∧ (x.runOn memory).2.Keeps rules
  rel_pure h memory hmemory := ⟨.ok h, hmemory⟩
  rel_bind {_ _ _ _ _ _ x y f g} hx hf memory hmemory := by
    obtain ⟨hresult, hkeeps⟩ := hx memory hmemory
    rw [Remembering.runOn_bind]
    rcases hrun : Remembering.runOn x memory with ⟨result, memory'⟩
    rw [hrun] at hresult hkeeps
    cases hresult with
    | ok h => exact hf _ _ h memory' hkeeps
    | error cause => exact ⟨.error cause, hkeeps⟩
  rel_halt cause memory hmemory := ⟨.error cause, hmemory⟩
  rel_stalled _ memory hmemory := ⟨.ok trivial, hmemory⟩
  spots _ _ := True
  spots_part _ _ := trivial
  spots_shared _ _ := trivial
  rel_branch _ memory hmemory := ⟨.ok trivial, hmemory⟩
  rel_build {s s'} name _ memory hmemory := by
    -- a reference built before is taken from the memory, which has the right body for it
    cases hsite : memory.built[s.site name]? with
    | some kept =>
        rw [Remembering.runOn_build_of_some hsite]
        exact ⟨.ok ⟨trivial, hmemory _ kept hsite, rfl⟩, hmemory⟩
    | none =>
        rw [Remembering.runOn_build_of_none hsite]
        exact ⟨.ok ⟨trivial, rfl, rfl⟩, hmemory.insert (s.site name) _⟩

theorem forgetting_rejects (rules : Rules) : (forgetting rules).Rejects :=
  fun _ _ _ hmemory => ⟨.ok trivial, hmemory⟩

/-! ### Answers -/

/-- Answers that say the same of the text, with related values. -/
inductive Answer.Alike (R : Value → Value → Prop) : Answer → Answer → Prop
  | reply {r r' : Reply Value} (h : Reply.Alike Eq R r r') : Alike R (.reply r) (.reply r')
  | someMatch {value value' : Option Value} (h : Option.Rel R value value') (rest : String) :
    Alike R (.someMatch value rest) (.someMatch value' rest)
  | wholeMatch {value value' : Option Value} (h : Option.Rel R value value') :
    Alike R (.wholeMatch value) (.wholeMatch value')

theorem Answer.alike_eq : Answer.Alike Eq = Eq := by
  funext answer answer'
  refine propext ⟨fun h => ?_, fun h => ?_⟩
  · cases h with
    | reply h => rw [h.eq]
    | someMatch h rest =>
        rw [option_rel_eq] at h
        rw [h]
    | wholeMatch h =>
        rw [option_rel_eq] at h
        rw [h]
  · rw [← h]
    cases answer with
    | reply r => exact .reply (.refl r)
    | someMatch value rest => exact .someMatch (by rw [option_rel_eq]) rest
    | wholeMatch value => exact .wholeMatch (by rw [option_rel_eq])

namespace Session

variable {m n : Type → Type} [ParseMonad m] [ParseMonad n] {S : Simulation m n}

/-- Where cursors are near to themselves only, parsers that are alike answer calls alike. -/
theorem rel_perform_alike {R : Value → Value → Prop} (hsame : S.near = Eq)
    (hrejects : S.Rejects) (request : Call) {p : Parser m Value} {q : Parser n Value}
    (hp : S.Alike R p q) : S.rel (Answer.Alike R) (request.perform p) (request.perform q) := by
  have hlocate : ∀ text offset,
      ResultAlike S.near (Cursor.locate text offset) (Cursor.locate text offset) := by
    intro text offset
    rw [hsame]
    exact .refl _
  cases request with
  | parse text offset =>
      refine S.rel_bind (Simulation.rel_checked (hlocate text offset)) fun c d hcd => ?_
      refine S.rel_bind (hp c d hcd) fun r r' hr => ?_
      rw [hsame] at hr
      exact S.rel_pure (.reply hr)
  | runFrom text offset =>
      refine S.rel_bind (Simulation.rel_runFrom_alike hp (hlocate text offset))
        fun found found' hfound => ?_
      obtain ⟨value, rest⟩ := found
      obtain ⟨value', rest'⟩ := found'
      obtain ⟨hvalue, rfl⟩ : Option.Rel R value value' ∧ rest = rest' := hfound
      exact S.rel_pure (.someMatch hvalue rest)
  | run text =>
      refine S.rel_bind (Simulation.rel_run hrejects hp (hlocate text 0)) fun _ _ hvalue => ?_
      exact S.rel_pure (.wholeMatch hvalue)

theorem rel_perform (hsame : S.near = Eq) (hrejects : S.Rejects) (request : Call)
    {p : Parser m Value} {q : Parser n Value} (hp : S.Alike Eq p q) :
    S.rel Eq (request.perform p) (request.perform q) := by
  rw [← Answer.alike_eq]
  exact rel_perform_alike hsame hrejects request hp

/-! ### Sessions -/

/-- A session whose memory agrees with its rules. -/
def Consistent (s : Session) : Prop := s.memory.Keeps s.rules

/-- A call answers as if nothing had been kept, and what it keeps agrees with the rules. -/
theorem call_result {s : Session} (h : s.Consistent) (request : Call) :
    (s.call request).1.result =
        request.perform (s.root.interpret s.rules s.fuel : Parser Silent Value) ∧
      (s.call request).2.Consistent := by
  have hspot : (forgetting s.rules).spots {} {} := trivial
  have halike := GrammarSimulation.interpret_alike_of_same (G := forgetting s.rules) rfl s.root
    (.inl rfl : (forgetting s.rules).Bounds s.fuel s.fuel) hspot
  obtain ⟨hresult, hkeeps⟩ :=
    rel_perform rfl (forgetting_rejects s.rules) request halike { s.memory with events := [] } h
  exact ⟨hresult.eq, hkeeps⟩

/-- Calls change nothing of a session but its memory, which stays consistent. -/
theorem calls_snd {s : Session} (h : s.Consistent) (earlier : List Call) :
    (s.calls earlier).2.Consistent ∧ (s.calls earlier).2.rules = s.rules ∧
      (s.calls earlier).2.root = s.root ∧ (s.calls earlier).2.fuel = s.fuel := by
  induction earlier generalizing s with
  | nil => exact ⟨h, rfl, rfl, rfl⟩
  | cons request earlier ih => exact ih (call_result h request).2

/-- **After any earlier calls, a call answers as if nothing had been kept.** -/
theorem call_calls_result {s : Session} (h : s.Consistent) (earlier : List Call)
    (request : Call) :
    ((s.calls earlier).2.call request).1.result =
      request.perform (s.root.interpret s.rules s.fuel : Parser Silent Value) := by
  obtain ⟨hkeeps, hrules, hroot, hfuel⟩ := calls_snd h earlier
  rw [(call_result hkeeps request).1, hrules, hroot, hfuel]

/-- Without a memory, the answer to `Call.parse` is the reply at the cursor asked for. -/
theorem perform_parse {p : Parser Silent Value} {text : Source} {offset : Nat} {entry : Cursor}
    (h : Cursor.locate text offset = .ok entry) :
    (Call.parse text offset).perform p = (p.parse entry).map .reply := by
  simp only [Call.perform, h, checked_ok, pure_bind]
  cases p.parse entry <;> rfl

/-- A parser that has not been used yet. -/
def fresh (rules : Rules) (root : Grammar) (fuel : Nat) : Session := { rules, root, fuel }

theorem consistent_fresh (rules : Rules) (root : Grammar) (fuel : Nat) :
    (fresh rules root fuel).Consistent := Memory.keeps_empty rules

/-! ### Calls one after the other -/

/-- The calls of a session answer as if each was the only one. -/
theorem calls_result {s : Session} (h : s.Consistent) (requests : List Call) :
    (s.calls requests).1.map Outcome.result = requests.map fun request =>
      request.perform (s.root.interpret s.rules s.fuel : Parser Silent Value) := by
  induction requests generalizing s with
  | nil => rfl
  | cons request requests ih =>
      obtain ⟨hresult, hkeeps⟩ := call_result h request
      exact congrArg₂ List.cons hresult (ih hkeeps)

/-- Without a memory, and with a bound that is large enough, the request has this answer. -/
def Settles (rules : Rules) (root : Grammar) (request : Call) (answer : Answer) : Prop :=
  ∃ fuel, request.perform (root.interpret rules fuel : Parser Silent Value) = .ok answer

/-- An answer stays the same with every larger bound. -/
theorem perform_eq_of_le {root : Grammar} {fuel fuel' : Nat} {request : Call} {answer : Answer}
    (hfuel : fuel ≤ fuel')
    (h : request.perform (root.interpret rules fuel : Parser Silent Value) = .ok answer) :
    request.perform (root.interpret rules fuel' : Parser Silent Value) = .ok answer := by
  have hspot : (approximation rules).spots {} {} := trivial
  have hbounds : (approximation rules).Bounds fuel fuel' :=
    .inr ⟨hfuel, approximation_lenient rules⟩
  have halike := GrammarSimulation.interpret_alike_of_same rfl root hbounds hspot
  rcases rel_perform rfl (approximation_rejects rules) request halike with hexhausted | hresult
  · have hcontra := hexhausted.symm.trans h
    cases hcontra
  · exact hresult.eq.symm.trans h

/-- Finitely many requests that have answers have them with one common bound. -/
theorem exists_bound_of_settles {root : Grammar} {requests : List Call} {answers : List Answer}
    (h : List.Forall₂ (Settles rules root) requests answers) :
    ∃ bound, ∀ fuel, bound ≤ fuel →
      requests.map (fun request =>
        request.perform (root.interpret rules fuel : Parser Silent Value)) =
        answers.map .ok := by
  induction h with
  | nil => exact ⟨0, fun _ _ => rfl⟩
  | cons hsettles _ ih =>
      obtain ⟨first, hfirst⟩ := hsettles
      obtain ⟨bound, hbound⟩ := ih
      refine ⟨max first bound, fun fuel hfuel => ?_⟩
      have hhead := perform_eq_of_le (Nat.le_trans (Nat.le_max_left first bound) hfuel) hfirst
      have htail := hbound fuel (Nat.le_trans (Nat.le_max_right first bound) hfuel)
      exact congrArg₂ List.cons hhead htail

/-- **Earlier calls make no difference to results.** Whatever is asked of a parser, one call
after the other, each call has the result that it has on a parser not used before, and the
one that it has without a memory, where a reference is nothing but the body of its rule. So
calls that have answers at all have these, in any order and however often. -/
theorem calls_forget (rules : Rules) (root : Grammar) (requests : List Call) :
    (∀ fuel, ((fresh rules root fuel).calls requests).1.map Outcome.result =
      requests.map fun request => ((fresh rules root fuel).call request).1.result) ∧
    (∀ fuel, ((fresh rules root fuel).calls requests).1.map Outcome.result =
      requests.map fun request =>
        request.perform (root.interpret rules fuel : Parser Silent Value)) ∧
    (∀ (fuel : Nat) (spot : Spot) (name : String),
      ((Grammar.deferred name).parser (fuel + 1) (Grammar.callRule rules (fuel + 1)) spot :
        Parser Silent Value) = (rules.body name).interpret rules fuel) ∧
    ∀ answers, List.Forall₂ (Settles rules root) requests answers →
      ∃ bound, ∀ fuel, bound ≤ fuel →
        ((fresh rules root fuel).calls requests).1.map Outcome.result = answers.map .ok := by
  have hcalls : ∀ fuel, ((fresh rules root fuel).calls requests).1.map Outcome.result =
      requests.map fun request =>
        request.perform (root.interpret rules fuel : Parser Silent Value) :=
    fun fuel => calls_result (consistent_fresh rules root fuel) requests
  refine ⟨fun fuel => ?_, hcalls, fun _ _ _ => rfl, fun answers hanswers => ?_⟩
  · rw [hcalls]
    refine List.map_congr_left fun request _ => ?_
    exact (call_result (consistent_fresh rules root fuel) request).1.symm
  · obtain ⟨bound, hbound⟩ := exists_bound_of_settles hanswers
    exact ⟨bound, fun fuel hfuel => (hcalls fuel).trans (hbound fuel hfuel)⟩

/-- Parentheses that match, that do not, and that are asked for once more, with references
built and left behind by the calls before. -/
theorem calls_forget_nesting :
    ∃ bound, ∀ fuel, bound ≤ fuel →
      ((fresh Grammar.nestingRules (.deferred "nesting") fuel).calls
        [.run "(())", .runFrom "é((" 1, .run "(())", .parse "()" 1]).1.map Outcome.result =
      [.ok (.wholeMatch (some (.int 2))), .ok (.someMatch (some (.int 0)) "(("),
        .ok (.wholeMatch (some (.int 2))),
        .ok (.reply (.done (.int 0) ⟨"()", 1, 1, [')']⟩))] := by
  have hrun : Settles Grammar.nestingRules (.deferred "nesting") (.run "(())")
      (.wholeMatch (some (.int 2))) := ⟨4, by rfl⟩
  refine (calls_forget Grammar.nestingRules (.deferred "nesting") _).2.2.2
    [_, _, _, _] (.cons hrun (.cons ⟨4, by rfl⟩ (.cons hrun (.cons ⟨4, by rfl⟩ .nil))))

end Session

end Backtrack
