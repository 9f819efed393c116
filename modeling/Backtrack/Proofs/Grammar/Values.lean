import Backtrack.Grammar.Custom
import Backtrack.Proofs.Grammar.Forgetting

/-!
# Backtrack.Proofs.Grammar.Values

**Parsing does not look at values.** Only a continuation does: the other combinators hand
values on, and decide by cursors alone. So grammars without continuations that are put
together alike match and fail alike, whatever their mappings and fixed values are.

`Grammar.Resembles` says that two grammars are put together alike. In its loose form a
mapping may also stand on one side only, which moves the references below it to other
spots. Two simulations go with it:

* `blind` compares the results, also in the loose form;
* `twins` compares the memories as well. Here both sides are at the same spot, so they
  build the same references and report the same events, except that each calls the parsers
  that it builds by the names of their types in its own rules (`Event.renamed`).

A name of a type tells mappings and types of values apart, so this exception is needed; and
where the one side ends in a fault, so does the other, without a reply
(`Session.names_differ_and_faults_remain`).
-/

namespace Backtrack

namespace Grammar

/-! ### Grammars that differ in values -/

/-- Custom parsers that reply the same but for the values. -/
def Custom.Resembles (reply reply' : Custom) : Prop :=
  ∀ c, ResultAlike (Reply.Alike Eq fun _ _ => True) (reply c) (reply' c)

mutual

/-- Put together alike, without continuations, but with any mappings and fixed values. If
`loose` holds, a mapping may also stand on one side only. -/
inductive Resembles (loose : Prop) : Grammar → Grammar → Prop
  | anyChar : Resembles loose anyChar anyChar
  | literal (text : String) : Resembles loose (literal text) (literal text)
  | integer : Resembles loose integer integer
  | blank : Resembles loose blank blank
  | charactersUntil {delimiter delimiter' : Grammar} (h : Resembles loose delimiter delimiter') :
    Resembles loose (charactersUntil delimiter) (charactersUntil delimiter')
  | always (value value' : Value) : Resembles loose (always value) (always value')
  | never : Resembles loose never never
  | map (f f' : Value → Value) {g g' : Grammar} (h : Resembles loose g g') :
    Resembles loose (map f g) (map f' g')
  | mapLeft (hloose : loose) (f : Value → Value) {g g' : Grammar} (h : Resembles loose g g') :
    Resembles loose (map f g) g'
  | mapRight (hloose : loose) (f : Value → Value) {g g' : Grammar} (h : Resembles loose g g') :
    Resembles loose g (map f g')
  | zip {members members' : List Grammar} (h : ResembleAll loose members members') :
    Resembles loose (zip members) (zip members')
  | first {candidates candidates' : List Grammar} (h : ResembleAll loose candidates candidates') :
    Resembles loose (first candidates) (first candidates')
  | longest {candidates candidates' : List Grammar}
    (h : ResembleAll loose candidates candidates') :
    Resembles loose (longest candidates) (longest candidates')
  | many {element element' delimiter delimiter' : Grammar} (he : Resembles loose element element')
    (hd : Resembles loose delimiter delimiter') :
    Resembles loose (many element delimiter) (many element' delimiter')
  | boxed {g g' : Grammar} (h : Resembles loose g g') : Resembles loose (boxed g) (boxed g')
  | shared (index : Nat) {g g' : Grammar} (h : Resembles loose g g') :
    Resembles loose (shared index g) (shared index g')
  | deferred (name : String) : Resembles loose (deferred name) (deferred name)
  | custom {reply reply' : Custom} (h : Custom.Resembles reply reply') :
    Resembles loose (custom reply) (custom reply')

/-- As many grammars on both sides, each put together like its counterpart. -/
inductive ResembleAll (loose : Prop) : List Grammar → List Grammar → Prop
  | nil : ResembleAll loose [] []
  | cons {g g' : Grammar} {gs gs' : List Grammar} (h : Resembles loose g g')
    (hs : ResembleAll loose gs gs') : ResembleAll loose (g :: gs) (g' :: gs')

end

variable {loose : Prop}

theorem resembleAll_literals (texts : List String) :
    ResembleAll loose (texts.map literal) (texts.map literal) := by
  induction texts with
  | nil => exact .nil
  | cons text texts ih => exact .cons (.literal text) ih

theorem resembles_literalAs (text : String) (value value' : Value) :
    Resembles loose (literalAs text value) (literalAs text value') := .map _ _ (.literal text)

theorem resembles_firstLiteral (texts : List String) (value value' : Value) :
    Resembles loose (firstLiteral texts value) (firstLiteral texts value') :=
  .map _ _ (.first (resembleAll_literals texts))

theorem resembles_longestLiteral (texts : List String) (value value' : Value) :
    Resembles loose (longestLiteral texts value) (longestLiteral texts value') :=
  .map _ _ (.longest (resembleAll_literals texts))

end Grammar

/-- Rules of the same names, each put together like its counterpart. Their types may have
other names. -/
def Rules.Resemble (loose : Prop) (rules rules' : Rules) : Prop :=
  List.Forall₂ (fun rule rule' => rule.1 = rule'.1 ∧ rule.2.body.Resembles loose rule'.2.body)
    rules rules'

theorem Rules.Resemble.body {loose : Prop} {rules rules' : Rules}
    (h : rules.Resemble loose rules') (name : String) :
    (rules.body name).Resembles loose (rules'.body name) := by
  induction h with
  | nil => exact .never
  | @cons rule rule' rules rules' hrule _ ih =>
      obtain ⟨ruleName, r⟩ := rule
      obtain ⟨ruleName', r'⟩ := rule'
      obtain ⟨rfl, hbody⟩ : ruleName = ruleName' ∧ r.body.Resembles loose r'.body := hrule
      simp only [Rules.body, Rules.rule, List.lookup_cons] at ih ⊢
      cases name == ruleName with
      | true => exact hbody
      | false => exact ih

/-- Lists of as many values. -/
def Value.SameCount (value value' : Value) : Prop :=
  ∃ values values', value = .list values ∧ value' = .list values' ∧
    values.length = values'.length

/-! ### Two runs that get different values -/

/-- A simulation of parsers of two grammars, over rules of their own. In the loose form one
side may be at a part where the other is at the whole. -/
structure ValueSimulation (m n : Type → Type) [GrammarMonad m] [GrammarMonad n] (loose : Prop)
    (rules rules' : Rules) extends SpotSimulation m n where
  near_eq : near = Eq
  spots_left {s s' : Spot} : loose → spots s s' → spots (s.part 0) s'
  spots_right {s s' : Spot} : loose → spots s s' → spots s (s'.part 0)
  rel_build {s s' : Spot} (name : String) : spots s s' →
    rel (fun kept kept' => spots (.body kept.number) (.body kept'.number) ∧
        kept.body = rules.body name ∧ kept'.body = rules'.body name)
      (GrammarMonad.build (s.site name) (rules.rule name))
      (GrammarMonad.build (s'.site name) (rules'.rule name))

/-- A mapping that changes nothing can be left out. -/
theorem Parser.map_id {m : Type → Type} [ParseMonad m] [LawfulMonad m] {α : Type}
    (p : Parser m α) : p.map id = p := by
  have hreply : ∀ r : Reply α, r.map id = r := fun r => by cases r <;> rfl
  simp only [Parser.map, hreply, bind_pure]

namespace ValueSimulation

variable {m n : Type → Type} [GrammarMonad m] [GrammarMonad n] {loose : Prop}
variable {rules rules' : Rules} {G : ValueSimulation m n loose rules rules'} {fuel : Nat}
variable {call : Site → Parser m Value} {call' : Site → Parser n Value}

/-- Custom parsers that reply the same but for the values are alike. -/
theorem alike_custom {reply reply' : Grammar.Custom} (h : reply.Resembles reply')
    {spot spot' : Spot} :
    G.Alike (fun _ _ => True) ((Grammar.custom reply).parser fuel call spot)
      ((Grammar.custom reply').parser fuel call' spot') := by
  intro c d hcd
  obtain rfl : c = d := G.near_eq ▸ hcd
  have hresult := h c
  rw [← G.near_eq] at hresult
  simp only [Grammar.parser]
  generalize reply c = x, reply' c = x' at hresult
  cases hresult with
  | ok hr => exact G.rel_pure hr
  | error cause => exact G.rel_halt cause

mutual

/-- Parsers of grammars that are put together alike differ in values only, if those of their
references do. -/
theorem parser_alike [LawfulMonad m] [LawfulMonad n] {g g' : Grammar} {spot spot' : Spot}
    (hcall : ∀ name s s', G.spots s s' →
      G.Alike (fun _ _ => True) (call (s.site name)) (call' (s'.site name)))
    (h : g.Resembles loose g') (hspot : G.spots spot spot') :
    G.Alike (fun _ _ => True) (g.parser fuel call spot) (g'.parser fuel call' spot') := by
  match h with
  | .anyChar => exact Simulation.alike_map Simulation.alike_anyChar fun _ _ _ => trivial
  | .literal text =>
      exact Simulation.alike_map (Simulation.alike_literal text) fun _ _ _ => trivial
  | .integer =>
      exact Simulation.alike_map Simulation.alike_nonNegativeInteger fun _ _ _ => trivial
  | .blank => exact Simulation.alike_map Simulation.alike_skipBlank fun _ _ _ => trivial
  | .charactersUntil h =>
      have hd := parser_alike hcall h (G.spots_part 0 hspot)
      exact Simulation.alike_map (Simulation.alike_charactersUntil hd) fun _ _ _ => trivial
  | .always value value' => exact Simulation.alike_always trivial
  | .never => exact Simulation.alike_never
  | .map f f' h =>
      exact Simulation.alike_map (parser_alike hcall h (G.spots_part 0 hspot))
        fun _ _ _ => trivial
  -- the side without the mapping gets one that changes nothing
  | .mapLeft hloose f h =>
      have hg := parser_alike hcall h (G.spots_left hloose hspot)
      rw [← Parser.map_id (g'.parser fuel call' spot')]
      exact Simulation.alike_map hg fun _ _ _ => trivial
  | .mapRight hloose f h =>
      have hg := parser_alike hcall h (G.spots_right hloose hspot)
      rw [← Parser.map_id (g.parser fuel call spot)]
      exact Simulation.alike_map hg fun _ _ _ => trivial
  | .zip hs =>
      have hmembers := parsers_alike hcall 0 hs hspot
      exact Simulation.alike_map (Simulation.alike_sequence hmembers) fun _ _ _ => trivial
  | .first hs => exact Simulation.alike_first (parsers_alike hcall 0 hs hspot)
  | .longest hs => exact Simulation.alike_longest (parsers_alike hcall 0 hs hspot)
  | .many he hd =>
      have hmany := Simulation.alike_zeroOrMore (parser_alike hcall he (G.spots_part 0 hspot))
        (parser_alike hcall hd (G.spots_part 1 hspot)) (.inl rfl : G.Bounds fuel fuel)
      exact Simulation.alike_map hmany fun _ _ _ => trivial
  | .boxed h => exact (parser_alike hcall h (G.spots_part 0 hspot) :)
  | .shared index h => exact (parser_alike hcall h (G.spots_shared index hspot) :)
  | .deferred name => exact hcall name _ _ hspot
  | .custom h => exact alike_custom h

theorem parsers_alike [LawfulMonad m] [LawfulMonad n] {gs gs' : List Grammar}
    {spot spot' : Spot}
    (hcall : ∀ name s s', G.spots s s' →
      G.Alike (fun _ _ => True) (call (s.site name)) (call' (s'.site name))) (index : Nat)
    (h : Grammar.ResembleAll loose gs gs') (hspot : G.spots spot spot') :
    List.Forall₂ (G.Alike fun _ _ => True) (Grammar.parsers fuel call spot index gs)
      (Grammar.parsers fuel call' spot' index gs') := by
  match h with
  | .nil => exact .nil
  | .cons h hs =>
      exact .cons (parser_alike hcall h (G.spots_part index hspot))
        (parsers_alike hcall (index + 1) hs hspot)

end

/-- References to rules of one name differ in values only. -/
theorem callRule_alike [LawfulMonad m] [LawfulMonad n] (hrules : rules.Resemble loose rules')
    (name : String) (s s' : Spot) (hspot : G.spots s s') :
    G.Alike (fun _ _ => True) (Grammar.callRule rules fuel (s.site name))
      (Grammar.callRule rules' fuel (s'.site name)) := by
  induction fuel generalizing name s s' with
  | zero => exact fun _ _ _ => G.rel_halt .exhausted
  | succ fuel ih =>
      intro c d h
      refine G.rel_bind (G.rel_build name hspot) fun kept kept' hkept => ?_
      obtain ⟨hbody, hkept, hkept'⟩ := hkept
      rw [hkept, hkept']
      exact parser_alike ih (hrules.body name) hbody c d h

/-- The parsers of two grammars that are put together alike differ in values only. -/
theorem interpret_alike [LawfulMonad m] [LawfulMonad n] (hrules : rules.Resemble loose rules')
    {g g' : Grammar} (h : g.Resembles loose g') (hspot : G.spots {} {}) (fuel : Nat) :
    G.Alike (fun _ _ => True) (g.interpret rules fuel) (g'.interpret rules' fuel) :=
  parser_alike (callRule_alike hrules) h hspot

/-- Repetitions of what is put together alike find as many items. -/
theorem interpret_many_alike [LawfulMonad m] [LawfulMonad n]
    (hrules : rules.Resemble loose rules') {element element' delimiter delimiter' : Grammar}
    (he : element.Resembles loose element') (hd : delimiter.Resembles loose delimiter')
    (hspot : G.spots {} {}) (fuel : Nat) :
    G.Alike Value.SameCount ((Grammar.many element delimiter).interpret rules fuel)
      ((Grammar.many element' delimiter').interpret rules' fuel) := by
  refine Simulation.alike_map (Simulation.alike_zeroOrMore
    (parser_alike (callRule_alike hrules) he (G.spots_part 0 hspot))
    (parser_alike (callRule_alike hrules) hd (G.spots_part 1 hspot)) (.inl rfl))
    fun values values' h => ?_
  exact ⟨values, values', rfl, rfl, h.length_eq⟩

end ValueSimulation

/-! ### Results -/

/-- Two runs without a memory. -/
def blind (loose : Prop) (rules rules' : Rules) :
    ValueSimulation Silent Silent loose rules rules' where
  toNearness := .same
  rel := ResultAlike
  rel_pure := .ok
  rel_bind hx hf := by
    cases hx with
    | ok h => exact hf _ _ h
    | error cause => exact .error cause
  rel_halt := .error
  rel_stalled _ := .ok trivial
  spots _ _ := True
  spots_part _ _ := trivial
  spots_shared _ _ := trivial
  rel_branch _ := .ok trivial
  near_eq := rfl
  spots_left _ _ := trivial
  spots_right _ _ := trivial
  rel_build _ _ := .ok ⟨trivial, rfl, rfl⟩

theorem blind_rejects (loose : Prop) (rules rules' : Rules) : (blind loose rules rules').Rejects :=
  fun _ _ => .ok trivial

/-! ### Events -/

/-- The event with the name of a type as `names` has it for the rule that is built. -/
def Event.renamed (names : String → String) : Event → Event
  | .built site _ => .built site (names site.rule)
  | .rejected inputBytes trailingBytes => .rejected inputBytes trailingBytes
  | .stalled position => .stalled position

/-- Of two namings one after the other, the second one counts. -/
theorem Event.renamed_renamed (names names' : String → String) (event : Event) :
    (event.renamed names).renamed names' = event.renamed names' := by
  cases event <;> rfl

/-! ### Memories -/

/-- Memories over rules of their own, with references built at the same sites and in the same
order, and with the same events but for the names of types, which both have from their rules. -/
structure Memory.Twins (rules rules' : Rules) (memory memory' : Memory) : Prop where
  keeps : memory.Keeps rules
  keeps' : memory'.Keeps rules'
  number_eq : ∀ site : Site, memory.built[site]?.map Building.number =
    memory'.built[site]?.map Building.number
  size_eq : memory.built.size = memory'.built.size
  branches_eq : memory.branches = memory'.branches
  events_eq : memory'.events = memory.events.map (Event.renamed rules'.typeName)
  events_eq' : memory.events = memory'.events.map (Event.renamed rules.typeName)

namespace Memory.Twins

variable {rules rules' : Rules} {memory memory' : Memory}

theorem empty (rules rules' : Rules) : Twins rules rules' {} {} where
  keeps := Memory.keeps_empty rules
  keeps' := Memory.keeps_empty rules'
  number_eq _ := rfl
  size_eq := rfl
  branches_eq := rfl
  events_eq := rfl
  events_eq' := rfl

/-- Both memories with other events, which are again the same but for the names. -/
theorem withEvents (h : memory.Twins rules rules' memory') {events events' : List Event}
    (hevents : events' = events.map (Event.renamed rules'.typeName))
    (hevents' : events = events'.map (Event.renamed rules.typeName)) :
    Twins rules rules' { memory with events := events } { memory' with events := events' } where
  keeps := h.keeps
  keeps' := h.keeps'
  number_eq := h.number_eq
  size_eq := h.size_eq
  branches_eq := h.branches_eq
  events_eq := hevents
  events_eq' := hevents'

theorem report (h : memory.Twins rules rules' memory') {event event' : Event}
    (hevent : event' = event.renamed rules'.typeName)
    (hevent' : event = event'.renamed rules.typeName) :
    Twins rules rules' { memory with events := event :: memory.events }
      { memory' with events := event' :: memory'.events } :=
  h.withEvents (congrArg₂ List.cons hevent h.events_eq) (congrArg₂ List.cons hevent' h.events_eq')

/-- If the names of types are the same, so are the events. -/
theorem events_same (h : memory.Twins rules rules' memory')
    (hnames : rules.typeName = rules'.typeName) : memory.events = memory'.events := by
  have hevents := h.events_eq'
  -- the names of the one side go over those of the other, which are the same
  rw [h.events_eq, List.map_map, hnames] at hevents
  rw [hevents, h.events_eq]
  exact List.map_congr_left fun event _ => Event.renamed_renamed _ _ event

theorem built_iff (h : memory.Twins rules rules' memory') (site : Site) :
    site ∈ memory.built ↔ site ∈ memory'.built := by
  have hsome := congrArg Option.isSome (h.number_eq site)
  rw [Option.isSome_map, Option.isSome_map] at hsome
  rw [Std.HashMap.mem_iff_isSome_getElem?, Std.HashMap.mem_iff_isSome_getElem?, hsome]

/-- A site that is new on both sides is built on both sides. -/
theorem insert (h : memory.Twins rules rules' memory') (site : Site) (number : Nat) :
    Twins rules rules'
      { memory with built := memory.built.insert site ⟨number, rules.body site.rule⟩ }
      { memory' with built := memory'.built.insert site ⟨number, rules'.body site.rule⟩ } where
  keeps := h.keeps.insert site number
  keeps' := h.keeps'.insert site number
  number_eq site' := by
    simp only [Std.HashMap.getElem?_insert]
    split
    · rfl
    · exact h.number_eq site'
  size_eq := by
    simp only [Std.HashMap.size_insert, h.built_iff site, h.size_eq]
  branches_eq := h.branches_eq
  events_eq := h.events_eq
  events_eq' := h.events_eq'

end Memory.Twins

/-- Two runs with memories, at the same spots. -/
def twins {loose : Prop} (hloose : ¬ loose) (rules rules' : Rules) :
    ValueSimulation Remembering Remembering loose rules rules' where
  toNearness := .same
  rel := Remembering.Parallel (Memory.Twins rules rules')
  rel_pure h _ _ hmemory := ⟨.ok h, hmemory⟩
  rel_bind := Remembering.Parallel.bind
  rel_halt cause _ _ hmemory := ⟨.error cause, hmemory⟩
  rel_stalled {c d} h memory memory' hmemory := by
    obtain rfl : c = d := h
    exact ⟨.ok trivial, hmemory.report rfl rfl⟩
  spots := Eq
  spots_part := Spot.same_part
  spots_shared := Spot.same_shared
  rel_branch {s s'} h memory memory' hmemory := by
    rw [Remembering.runOn_branch, Remembering.runOn_branch, h, hmemory.branches_eq]
    exact ⟨.ok rfl, hmemory.keeps, hmemory.keeps', hmemory.number_eq, hmemory.size_eq, rfl,
      hmemory.events_eq, hmemory.events_eq'⟩
  near_eq := rfl
  spots_left h := absurd h hloose
  spots_right h := absurd h hloose
  rel_build {s s'} name h memory memory' hmemory := by
    obtain rfl : s = s' := h
    have hnumber := hmemory.number_eq (s.site name)
    -- what the one side has built, the other has built as well, with the same number
    cases hsite : memory.built[s.site name]? with
    | some kept =>
        rw [hsite] at hnumber
        obtain ⟨kept', hsite', hkept⟩ := Option.map_eq_some_iff.mp hnumber.symm
        rw [Remembering.runOn_build_of_some hsite, Remembering.runOn_build_of_some hsite']
        refine ⟨.ok ⟨?_, hmemory.keeps _ kept hsite, hmemory.keeps' _ kept' hsite'⟩, hmemory⟩
        rw [hkept]
    | none =>
        rw [hsite] at hnumber
        have hsite' := Option.map_eq_none_iff.mp hnumber.symm
        rw [Remembering.runOn_build_of_none hsite, Remembering.runOn_build_of_none hsite',
          hmemory.size_eq]
        exact ⟨.ok ⟨rfl, rfl, rfl⟩, (hmemory.insert (s.site name) _).report rfl rfl⟩

theorem twins_rejects {loose : Prop} (hloose : ¬ loose) (rules rules' : Rules) :
    (twins hloose rules rules').Rejects :=
  fun _ _ _ _ hmemory => ⟨.ok trivial, hmemory.report rfl rfl⟩

/-! ### Grammars with and without values -/

namespace Grammar

variable {loose : Prop}

/-- Parentheses around parentheses, as `nesting` reads them, with the same value for all. -/
def brackets (value : Value) : Grammar :=
  first [(zip [literal "(", deferred "nesting", literal ")"]).as value, always value]

/-- The rule by which `brackets` refers to itself. -/
def bracketRules (typeName : String) (value : Value) : Rules :=
  [("nesting", ⟨typeName, brackets value⟩)]

theorem nestingRules_resemble (typeName : String) (value : Value) :
    nestingRules.Resemble loose (bracketRules typeName value) := by
  have hpair : ResembleAll loose [literal "(", deferred "nesting", literal ")"]
      [literal "(", deferred "nesting", literal ")"] :=
    .cons (.literal "(") (.cons (.deferred "nesting") (.cons (.literal ")") .nil))
  have hbody : nesting.Resembles loose (brackets value) :=
    .first (.cons (.map _ _ (.zip hpair)) (.cons (.always _ _) .nil))
  exact .cons ⟨rfl, hbody⟩ .nil

/-- Words and parentheses with white space between them. A word stands for `value`. -/
def wordsAndBrackets (value : Value) : Grammar :=
  many (first [literalAs "a" value, firstLiteral ["b", "bc"] value,
    longestLiteral ["é", "éa"] value, deferred "nesting"]) blank

theorem wordsAndBrackets_resembles (value value' : Value) :
    (wordsAndBrackets value).Resembles loose (wordsAndBrackets value') :=
  .many (.first (.cons (resembles_literalAs "a" value value')
    (.cons (resembles_firstLiteral ["b", "bc"] value value')
      (.cons (resembles_longestLiteral ["é", "éa"] value value')
        (.cons (.deferred "nesting") .nil))))) .blank

end Grammar

namespace Session

/-! ### Sessions -/

/-- Parsers that are put together alike, with memories to match. -/
structure Twins (loose : Prop) (s s' : Session) : Prop where
  rules : s.rules.Resemble loose s'.rules
  root : s.root.Resembles loose s'.root
  fuel : s.fuel = s'.fuel
  memory : s.memory.Twins s.rules s'.rules s'.memory

/-- A call on parsers that are put together alike leaves memories to match. -/
theorem Twins.call {loose : Prop} (hloose : ¬ loose) {s s' : Session} (h : s.Twins loose s')
    (request : Call) : (s.call request).2.Twins loose (s'.call request).2 := by
  have halike : (twins hloose s.rules s'.rules).Alike (fun _ _ => True)
      (s.root.interpret s.rules s.fuel) (s'.root.interpret s'.rules s'.fuel) := by
    rw [← h.fuel]
    exact ValueSimulation.interpret_alike h.rules h.root rfl s.fuel
  obtain ⟨-, hmemory⟩ := rel_perform_alike rfl (twins_rejects hloose s.rules s'.rules) request
    halike _ _ (h.memory.withEvents (rfl : [] = []) rfl)
  exact ⟨h.rules, h.root, h.fuel, hmemory⟩

theorem Twins.calls {loose : Prop} (hloose : ¬ loose) {s s' : Session} (h : s.Twins loose s')
    (earlier : List Call) : (s.calls earlier).2.Twins loose (s'.calls earlier).2 := by
  induction earlier generalizing s s' with
  | nil => exact h
  | cons request earlier ih => exact ih (h.call hloose request)

/-- A call reports the same on both sides, but for the names of types. -/
theorem Twins.events_call {loose : Prop} (hloose : ¬ loose) {s s' : Session}
    (h : s.Twins loose s') (request : Call) :
    (s'.call request).1.events =
        (s.call request).1.events.map (Event.renamed s'.rules.typeName) ∧
      (s.rules.typeName = s'.rules.typeName →
        (s'.call request).1.events = (s.call request).1.events) := by
  have hmemory := (h.call hloose request).memory
  have hevents : ∀ s : Session,
      (s.call request).1.events = (s.call request).2.memory.events.reverse := fun _ => rfl
  rw [hevents, hevents, List.map_reverse]
  refine ⟨congrArg List.reverse hmemory.events_eq, fun hnames => ?_⟩
  exact congrArg List.reverse (hmemory.events_same hnames).symm

/-- After any calls, what parsers answer that are put together alike differs in values
only. -/
theorem call_result_alike {loose : Prop} {rules rules' : Rules} {root root' : Grammar}
    {fuel : Nat} {R : Value → Value → Prop}
    (h : (blind loose rules rules').Alike R (root.interpret rules fuel)
      (root'.interpret rules' fuel)) (earlier earlier' : List Call) (request : Call) :
    ResultAlike (Answer.Alike R)
      (((fresh rules root fuel).calls earlier).2.call request).1.result
      (((fresh rules' root' fuel).calls earlier').2.call request).1.result := by
  rw [call_calls_result (consistent_fresh rules root fuel),
    call_calls_result (consistent_fresh rules' root' fuel)]
  exact rel_perform_alike rfl (blind_rejects loose rules rules') request h

/-- **Values do not steer parsing.** Two parsers are put together alike, without
continuations, but with any mappings and any fixed values, and so are their rules; they may
have been asked different things before. At every place of every text both match or both
fail, at the same cursor, or they halt for the same reason; runs on texts likewise. This
also holds if a mapping stands on one side only, anywhere in the grammars. If none does,
and the same was asked before, both report the same events, except that each has the names
of types from its own rules; where these names agree, the events do as well. And if the
parsers are repetitions, they give lists of as many items. -/
theorem values_never_steer {loose : Prop} {rules rules' : Rules} {root root' : Grammar}
    (hrules : rules.Resemble loose rules') (hroot : root.Resembles loose root') (fuel : Nat) :
    (∀ (earlier earlier' : List Call) (request : Call),
      ResultAlike (Answer.Alike fun _ _ => True)
        (((fresh rules root fuel).calls earlier).2.call request).1.result
        (((fresh rules' root' fuel).calls earlier').2.call request).1.result) ∧
    (¬ loose → ∀ (earlier : List Call) (request : Call),
      (((fresh rules' root' fuel).calls earlier).2.call request).1.events =
          (((fresh rules root fuel).calls earlier).2.call request).1.events.map
            (Event.renamed rules'.typeName) ∧
        (rules.typeName = rules'.typeName →
          (((fresh rules' root' fuel).calls earlier).2.call request).1.events =
            (((fresh rules root fuel).calls earlier).2.call request).1.events)) ∧
    ∀ element delimiter element' delimiter', root = .many element delimiter →
      root' = .many element' delimiter' →
      ∀ (earlier earlier' : List Call) (request : Call),
        ResultAlike (Answer.Alike Value.SameCount)
          (((fresh rules root fuel).calls earlier).2.call request).1.result
          (((fresh rules' root' fuel).calls earlier').2.call request).1.result := by
  have hspot : (blind loose rules rules').spots {} {} := trivial
  refine ⟨fun earlier earlier' request => ?_, fun hloose earlier request => ?_, ?_⟩
  · exact call_result_alike (ValueSimulation.interpret_alike hrules hroot hspot fuel) earlier
      earlier' request
  · have hfresh : (fresh rules root fuel).Twins loose (fresh rules' root' fuel) :=
      ⟨hrules, hroot, rfl, .empty rules rules'⟩
    have hevents := (hfresh.calls hloose earlier).events_call hloose request
    -- the calls before have left the rules as they were
    obtain ⟨-, hsame, -⟩ := calls_snd (consistent_fresh rules root fuel) earlier
    obtain ⟨-, hsame', -⟩ := calls_snd (consistent_fresh rules' root' fuel) earlier
    rw [hsame, hsame'] at hevents
    exact hevents
  · intro element delimiter element' delimiter' hmany hmany' earlier earlier' request
    subst hmany hmany'
    cases hroot with
    | many he hd =>
        exact call_result_alike (ValueSimulation.interpret_many_alike hrules he hd hspot fuel)
          earlier earlier' request

-- a continuation does look at the value
example :
    let choosing := fun value : Value =>
      Grammar.bind (.always value) fun v => if v = .unit then .literal "a" else .never
    ((choosing .unit).interpret [] 0 : Parser Silent Value).parse (.start "a") =
        .ok (.done .unit ⟨"a", 1, 1, []⟩) ∧
      ((choosing (.int 1)).interpret [] 0 : Parser Silent Value).parse (.start "a") =
        .ok (.fail (.start "a")) := ⟨rfl, rfl⟩

/-- Words and parentheses, with values that count and with values that say nothing, after a
call that has built references. The last round of the repetition finds nothing. Then with
values that are numbers as well, but do not count, so that the types have the same names; and
once more with the values of the whole forgotten, on a parser not used before. -/
theorem values_never_steer_brackets :
    let counted := (((fresh Grammar.nestingRules (.wordsAndBrackets (.int 7)) 9).calls
      [.run "(a"]).2.call (.parse "xéa ()1" 1)).1
    let unitRules :=
      Grammar.bracketRules "unicomb_parsers::combinator::boxed::Boxed<()>" .unit
    let uncounted := (((fresh unitRules (.wordsAndBrackets .unit) 9).calls
      [.run "(a"]).2.call (.parse "xéa ()1" 1)).1
    let numberRules :=
      Grammar.bracketRules "unicomb_parsers::combinator::boxed::Boxed<usize>" (.int 0)
    let miscounted := (((fresh numberRules (.wordsAndBrackets (.int 0)) 9).calls
      [.run "(a"]).2.call (.parse "xéa ()1" 1)).1
    let discarded := (((fresh unitRules (.discard (.wordsAndBrackets .unit)) 9).calls
      []).2.call (.parse "xéa ()1" 1)).1
    uncounted.events = counted.events.map (Event.renamed unitRules.typeName) ∧
      miscounted.events = counted.events ∧
      ResultAlike (Answer.Alike Value.SameCount) counted.result uncounted.result ∧
      ResultAlike (Answer.Alike fun _ _ => True) counted.result discarded.result ∧
      counted.result =
        .ok (.reply (.done (.list [.int 7, .int 1]) ⟨"xéa ()1", 6, 7, ['1']⟩)) := by
  intro counted unitRules uncounted numberRules miscounted discarded
  have hrules : ∀ loose, Grammar.nestingRules.Resemble loose unitRules :=
    fun _ => Grammar.nestingRules_resemble _ _
  have hwords : ∀ loose value, (Grammar.wordsAndBrackets (.int 7)).Resembles loose
      (.wordsAndBrackets value) := fun _ _ => Grammar.wordsAndBrackets_resembles _ _
  obtain ⟨-, hevents, hcount⟩ := values_never_steer (hrules False) (hwords False .unit) 9
  have hnumberRules : Grammar.nestingRules.Resemble False numberRules :=
    Grammar.nestingRules_resemble _ _
  obtain ⟨-, hnumbers, -⟩ := values_never_steer hnumberRules (hwords False (.int 0)) 9
  refine ⟨(hevents not_false _ _).1, (hnumbers not_false _ _).2 ?_,
    hcount _ _ _ _ rfl rfl _ _ _, ?_, ?_⟩
  · funext name
    simp only [Rules.typeName, Rules.rule, Grammar.nestingRules, numberRules,
      Grammar.bracketRules, List.lookup_cons]
    cases name == "nesting" <;> rfl
  · exact (values_never_steer (hrules True) (.mapRight trivial _ (hwords True .unit)) 9).1 _ _ _
  · show Outcome.result _ = _
    rw [call_calls_result (consistent_fresh _ _ _)]
    rfl

/-- A parser that is a reference and nothing else reports that it is built, and by which
name, if its body reports nothing. -/
theorem events_call_deferred {rules : Rules} {name : String} {fuel : Nat} {text : Source}
    {reply : Reply Value}
    (hquiet : ∀ memory, Remembering.runOn (((rules.body name).parser fuel
      (Grammar.callRule rules fuel) (.body 1)).parse (.start text)) memory =
        (.ok reply, memory)) :
    ((fresh rules (.deferred name) (fuel + 1)).call (.parse text 0)).1.events =
      [.built ⟨0, [], name⟩ (rules.typeName name)] := by
  let site : Site := ⟨0, [], name⟩
  let after : Memory :=
    { built := Std.HashMap.insert {} site ⟨1, rules.body name⟩
      events := [.built site (rules.typeName name)] }
  have hnew : ({} : Memory).built[site]? = none := Std.HashMap.getElem?_empty
  have hbuild : Remembering.runOn (GrammarMonad.build site (rules.rule name)) {} =
      (.ok ⟨1, rules.body name⟩, after) := Remembering.runOn_build_of_none hnew
  have hcall : Remembering.runOn ((Call.parse text 0).perform
      ((Grammar.deferred name).interpret rules (fuel + 1))) {} = (.ok (.reply reply), after) := by
    show Remembering.runOn ((GrammarMonad.build site (rules.rule name) >>= fun building =>
      (building.body.parser fuel (Grammar.callRule rules fuel) (.body building.number)).parse
        (.start text)) >>= fun r => pure (Answer.reply r)) {} = _
    rw [Remembering.runOn_bind, Remembering.runOn_bind, hbuild]
    simp only [hquiet]
    rfl
  exact congrArg (fun result => result.2.events.reverse) hcall

/-- The two limits of the sameness. Names of types show values: two rules that are put together
alike, one with numbers and one with nothing for values, are built under names that differ, and
so do the log records. And where a custom part fails in another text, neither of two parsers
that differ in a mapping comes to a reply. -/
theorem names_differ_and_faults_remain :
    let unitRules :=
      Grammar.bracketRules "unicomb_parsers::combinator::boxed::Boxed<()>" .unit
    let counted := ((fresh Grammar.nestingRules (.deferred "nesting") 9).call (.parse "" 0)).1
    let uncounted := ((fresh unitRules (.deferred "nesting") 9).call (.parse "" 0)).1
    let stranded := fun f => Grammar.zip [.anyChar, .mapped f (.foreignFail ⟨"y", 1⟩)]
    let counting := stranded .successor
    let forgetting := stranded (.const .unit)
    (Grammar.nestingRules.Resemble False unitRules ∧
      (Grammar.deferred "nesting").Resembles False (.deferred "nesting") ∧
      counted.events = [.built ⟨0, [], "nesting"⟩
        "unicomb_parsers::combinator::boxed::Boxed<usize>"] ∧
      uncounted.events = [.built ⟨0, [], "nesting"⟩
        "unicomb_parsers::combinator::boxed::Boxed<()>"] ∧
      counted.events.map Event.record ≠ uncounted.events.map Event.record) ∧
    counting.Resembles False forgetting ∧
      ∀ root ∈ [counting, forgetting],
        ((fresh [] root 9).call (.parse "x" 0)).1.result = .error (.fault .foreignAnchor) := by
  intro unitRules counted uncounted stranded counting forgetting
  have hcounted : counted.events = [.built ⟨0, [], "nesting"⟩
      "unicomb_parsers::combinator::boxed::Boxed<usize>"] :=
    events_call_deferred fun _ => rfl
  have huncounted : uncounted.events = [.built ⟨0, [], "nesting"⟩
      "unicomb_parsers::combinator::boxed::Boxed<()>"] :=
    events_call_deferred fun _ => rfl
  refine ⟨⟨Grammar.nestingRules_resemble _ _, .deferred "nesting", hcounted, huncounted, ?_⟩,
    ?_, fun root hroot => ?_⟩
  · rw [hcounted, huncounted]
    decide
  · have hforeign : (Grammar.foreignFail ⟨"y", 1⟩).Resembles False (.foreignFail ⟨"y", 1⟩) :=
      .custom fun _ => .ok (.fail rfl)
    exact .zip (.cons .anyChar (.cons (.map _ _ hforeign) .nil))
  · have hresult := call_calls_result (consistent_fresh [] root 9) [] (.parse "x" 0)
    refine hresult.trans ?_
    rcases List.mem_pair.mp hroot with rfl | rfl <;> rfl

end Session

end Backtrack
