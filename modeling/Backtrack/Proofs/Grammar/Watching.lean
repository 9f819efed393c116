import Backtrack.Proofs.Grammar.Forgetting

/-!
# Backtrack.Proofs.Grammar.Watching

**When references are built.** The events of a call tell that a reference was built, but
not when parsing got to it. To say both, the calls are made once more, under watch: the
same parser runs in computations that keep what `Remembering` computations keep and also
notice every reference that parsing gets to (`Watching`). The simulation `watched` shows
that being watched changes nothing, and what the notices look like (`Prompt`): parsing gets
to a reference for the first time, and at once the reference is reported as built; when it
gets there again, nothing is reported.
-/

namespace Backtrack

/-! ### Computations under watch -/

/-- What can be noticed of a run. -/
inductive Notice
  /-- Parsing got to the reference at `site`. -/
  | reached (site : Site)
  /-- An event was reported. -/
  | reported (event : Event)
  deriving DecidableEq, Repr

/-- The event that was reported, if that is what was noticed. -/
def Notice.event? : Notice → Option Event
  | reached _ => none
  | reported event => some event

/-- A memory and what was noticed. -/
structure Watch where
  /-- What is kept. -/
  memory : Memory
  /-- What was noticed so far, the latest first. -/
  notices : List Notice

/-- Computations with a memory, under watch. -/
abbrev Watching := ExceptT Halt (StateM Watch)

namespace Watching

variable {α β : Type}

/-- Takes notice of something. -/
def note (notice : Notice) : Watching Unit :=
  modify fun watch => { watch with notices := notice :: watch.notices }

/-- Reports an event, and takes notice of it. -/
def emit (event : Event) : Watching Unit := do
  note (.reported event)
  modify fun watch =>
    { watch with memory := { watch.memory with events := event :: watch.memory.events } }

/-- Takes notice of the reference, and builds it if that has not been done. -/
def build (site : Site) (rule : Rule) : Watching Building := do
  note (.reached site)
  let watch ← get
  match watch.memory.built[site]? with
  | some kept => return kept
  | none =>
    let new : Building := ⟨watch.memory.built.size + 1, rule.body⟩
    emit (.built site rule.typeName)
    modify fun watch =>
      { watch with memory := { watch.memory with built := watch.memory.built.insert site new } }
    return new

/-- Numbers the invocations one after the other. -/
def branch : Watching Nat :=
  modifyGet fun watch => (watch.memory.branches,
    { watch with memory := { watch.memory with branches := watch.memory.branches + 1 } })

/-- How a computation ends under watch, and what is kept and noticed afterwards. -/
def runOn (x : Watching α) (watch : Watch) : Except Halt α × Watch := x.run.run watch

end Watching

instance : GrammarMonad Watching where
  halt := throw
  emit := Watching.emit
  build := Watching.build
  branch := Watching.branch

namespace Watching

variable {α β : Type}

theorem runOn_bind (x : Watching α) (f : α → Watching β) (watch : Watch) :
    runOn (x >>= f) watch =
      match runOn x watch with
      | (.ok a, watch') => runOn (f a) watch'
      | (.error cause, watch') => (.error cause, watch') := by
  rcases h : runOn x watch with ⟨_ | _, watch'⟩ <;>
    simp [runOn] at h <;> simp [runOn, ExceptT.run_bind, h] <;> rfl

theorem runOn_note (notice : Notice) (watch : Watch) :
    runOn (note notice) watch = (.ok (), { watch with notices := notice :: watch.notices }) := rfl

theorem runOn_get (watch : Watch) : runOn get watch = (.ok watch, watch) := rfl

theorem runOn_build_of_some {site : Site} {r : Rule} {kept : Building} {watch : Watch}
    (h : watch.memory.built[site]? = some kept) :
    runOn (GrammarMonad.build site r) watch =
      (.ok kept, { watch with notices := .reached site :: watch.notices }) := by
  show runOn (Watching.build site r) watch = _
  rw [Watching.build, runOn_bind, runOn_note]
  simp only [runOn_bind, runOn_get, h]
  rfl

theorem runOn_build_of_none {site : Site} {r : Rule} {watch : Watch}
    (h : watch.memory.built[site]? = none) :
    runOn (GrammarMonad.build site r) watch =
      (.ok ⟨watch.memory.built.size + 1, r.body⟩,
        { memory :=
            { watch.memory with
              built := watch.memory.built.insert site ⟨watch.memory.built.size + 1, r.body⟩
              events := .built site r.typeName :: watch.memory.events }
          notices :=
            .reported (.built site r.typeName) :: .reached site :: watch.notices }) := by
  show runOn (Watching.build site r) watch = _
  rw [Watching.build, runOn_bind, runOn_note]
  simp only [runOn_bind, runOn_get, h]
  rfl

end Watching

/-! ### Prompt reports -/

/-- Whether the event is the building of a reference. -/
def Event.isBuilt : Event → Bool
  | .built _ _ => true
  | .rejected _ _ => false
  | .stalled _ => false

/-- Whether the event is the building of the reference at `site`. -/
def Event.buildsAt (site : Site) : Event → Bool
  | .built site' _ => site' = site
  | .rejected _ _ => false
  | .stalled _ => false

/-- Whether the building of the reference at `site` was reported. -/
def Notice.buildsAt (site : Site) (notice : Notice) : Bool :=
  (notice.event?.map (Event.buildsAt site)).getD false

/-- References are reported as built when parsing first gets to them, and at no other time.
The latest notice comes first. -/
inductive Prompt : List Notice → Prop
  | nil : Prompt []
  | other {notices : List Notice} {event : Event} (hevent : event.isBuilt = false)
    (h : Prompt notices) : Prompt (.reported event :: notices)
  | again {notices : List Notice} {site : Site} (hsite : .reached site ∈ notices)
    (h : Prompt notices) : Prompt (.reached site :: notices)
  | first {notices : List Notice} {site : Site} (parser : String)
    (hsite : .reached site ∉ notices) (h : Prompt notices) :
    Prompt (.reported (.built site parser) :: .reached site :: notices)

/-- Right before a reference is reported, parsing got to it for the first time. -/
theorem Prompt.first_reached {notices later earlier : List Notice} {site : Site}
    {parser : String} (h : Prompt notices)
    (hnotices : notices = later ++ .reported (.built site parser) :: earlier) :
    ∃ before, earlier = .reached site :: before ∧ .reached site ∉ before := by
  induction h generalizing later with
  | nil => simp at hnotices
  | other hevent _ ih =>
      rcases List.cons_eq_append_iff.mp hnotices with ⟨-, heq⟩ | ⟨later', -, htail⟩
      · rw [← Notice.reported.inj (List.cons.inj heq).1] at hevent
        cases hevent
      · exact ih htail
  | again _ _ ih =>
      rcases List.cons_eq_append_iff.mp hnotices with ⟨-, heq⟩ | ⟨later', -, htail⟩
      · cases (List.cons.inj heq).1
      · exact ih htail
  | @first notices site' parser' hsite _ ih =>
      rcases List.cons_eq_append_iff.mp hnotices with ⟨-, heq⟩ | ⟨later', -, htail⟩
      · simp only [List.cons.injEq, Notice.reported.injEq, Event.built.injEq] at heq
        obtain ⟨⟨rfl, -⟩, rfl⟩ := heq
        exact ⟨notices, rfl, hsite⟩
      · rcases List.cons_eq_append_iff.mp htail with ⟨-, heq⟩ | ⟨later'', -, htail'⟩
        · cases (List.cons.inj heq).1
        · exact ih htail'

theorem buildsAt_of_isBuilt {event : Event} (h : event.isBuilt = false) (site : Site) :
    Notice.buildsAt site (.reported event) = false := by
  cases event with
  | built site' parser => cases h
  | rejected _ _ => rfl
  | stalled _ => rfl

/-- A reference that parsing has not got to is not reported. -/
theorem Prompt.countP_buildsAt_eq_zero {notices : List Notice} {site : Site} (h : Prompt notices)
    (hsite : .reached site ∉ notices) : notices.countP (Notice.buildsAt site) = 0 := by
  induction h with
  | nil => rfl
  | other hevent _ ih =>
      rw [List.countP_cons_of_neg (by simp [buildsAt_of_isBuilt hevent])]
      exact ih fun hmem => hsite (List.mem_cons_of_mem _ hmem)
  | again _ _ ih =>
      rw [List.countP_cons_of_neg (by simp [Notice.buildsAt, Notice.event?])]
      exact ih fun hmem => hsite (List.mem_cons_of_mem _ hmem)
  | @first notices site' parser _ _ ih =>
      have hne : site' ≠ site := by
        rintro rfl
        exact hsite (by simp)
      rw [List.countP_cons_of_neg (by simp [Notice.buildsAt, Notice.event?, Event.buildsAt, hne]),
        List.countP_cons_of_neg (by simp [Notice.buildsAt, Notice.event?])]
      exact ih fun hmem => hsite (List.mem_cons_of_mem _ (List.mem_cons_of_mem _ hmem))

/-- A reference is not reported twice, since parsing does not get to it twice for the first
time. -/
theorem Prompt.countP_buildsAt_le {notices : List Notice} (h : Prompt notices) (site : Site) :
    notices.countP (Notice.buildsAt site) ≤ 1 := by
  induction h with
  | nil => exact Nat.zero_le 1
  | other hevent _ ih =>
      rwa [List.countP_cons_of_neg (by simp [buildsAt_of_isBuilt hevent])]
  | again _ _ ih =>
      rwa [List.countP_cons_of_neg (by simp [Notice.buildsAt, Notice.event?])]
  | @first notices site' parser hsite h ih =>
      have hreached : Notice.buildsAt site (.reached site') = false := rfl
      rw [List.countP_cons, List.countP_cons_of_neg (by simp [hreached])]
      by_cases hsame : site' = site
      · rw [← hsame, h.countP_buildsAt_eq_zero hsite]
        split <;> simp
      · simpa [Notice.buildsAt, Notice.event?, Event.buildsAt, hsame] using ih

/-! ### The same run under watch -/

/-- What was noticed agrees with what is kept: reports are prompt, and what parsing got to is
built. -/
structure Watch.Sound (watch : Watch) (rules : Rules) : Prop where
  keeps : watch.memory.Keeps rules
  prompt : Prompt watch.notices
  reached_iff : ∀ site, .reached site ∈ watch.notices ↔ site ∈ watch.memory.built

theorem Watch.sound_empty (rules : Rules) : Watch.Sound ⟨{}, []⟩ rules where
  keeps := Memory.keeps_empty rules
  prompt := .nil
  reached_iff site := by simp

/-- From one moment to another, the events that were reported are those that were noticed. -/
def Watch.Records (watch watch' : Watch) : Prop :=
  ∃ new, watch'.notices = new ++ watch.notices ∧
    watch'.memory.events = new.filterMap Notice.event? ++ watch.memory.events

theorem Watch.Records.refl (watch : Watch) : watch.Records watch := ⟨[], rfl, rfl⟩

theorem Watch.Records.trans {w w' w'' : Watch} (h : w.Records w') (h' : w'.Records w'') :
    w.Records w'' := by
  obtain ⟨new, hnotices, hevents⟩ := h
  obtain ⟨new', hnotices', hevents'⟩ := h'
  refine ⟨new' ++ new, ?_, ?_⟩
  · rw [hnotices', hnotices, List.append_assoc]
  · rw [hevents', hevents, List.filterMap_append, List.append_assoc]

section

variable {watch : Watch} {rules : Rules} {site : Site}

/-- An event other than a building. -/
theorem Watch.Sound.report (h : watch.Sound rules) {event : Event}
    (hevent : event.isBuilt = false) :
    Watch.Sound ⟨{ watch.memory with events := event :: watch.memory.events },
      .reported event :: watch.notices⟩ rules where
  keeps := h.keeps
  prompt := .other hevent h.prompt
  reached_iff site := by simpa using h.reached_iff site

/-- Parsing gets to a reference that was built before. -/
theorem Watch.Sound.again (h : watch.Sound rules) {kept : Building}
    (hsite : watch.memory.built[site]? = some kept) :
    Watch.Sound { watch with notices := .reached site :: watch.notices } rules := by
  have hreached : .reached site ∈ watch.notices := by
    rw [h.reached_iff, Std.HashMap.mem_iff_isSome_getElem?, hsite]
    rfl
  refine ⟨h.keeps, .again hreached h.prompt, fun other => ?_⟩
  rw [List.mem_cons, ← h.reached_iff]
  refine ⟨?_, .inr⟩
  rintro (heq | hmem)
  · rwa [heq]
  · exact hmem

/-- Parsing gets to a reference for the first time, and builds it. -/
theorem Watch.Sound.first (h : watch.Sound rules) (hsite : watch.memory.built[site]? = none)
    (number : Nat) (parser : String) (events : List Event) :
    Watch.Sound
      ⟨{ watch.memory with
          built := watch.memory.built.insert site ⟨number, rules.body site.rule⟩
          events := events },
        .reported (.built site parser) :: .reached site :: watch.notices⟩ rules := by
  have hreached : .reached site ∉ watch.notices := by
    rw [h.reached_iff, Std.HashMap.mem_iff_isSome_getElem?, hsite]
    exact Bool.false_ne_true
  refine ⟨h.keeps.insert site number, .first parser hreached h.prompt, fun other => ?_⟩
  simp only [List.mem_cons, reduceCtorEq, false_or, Notice.reached.injEq,
    Std.HashMap.mem_insert, beq_iff_eq, h.reached_iff]
  rw [eq_comm]

end

/-- A run under watch, and the run that nobody watches. -/
def watched (rules : Rules) : GrammarSimulation Watching Remembering rules where
  toNearness := .same
  rel R x y := ∀ watch : Watch, watch.Sound rules →
    ResultAlike R (x.runOn watch).1 (y.runOn watch.memory).1 ∧
      (x.runOn watch).2.memory = (y.runOn watch.memory).2 ∧
      (x.runOn watch).2.Sound rules ∧ watch.Records (x.runOn watch).2
  rel_pure h watch hwatch := ⟨.ok h, rfl, hwatch, .refl watch⟩
  rel_bind {_ _ _ _ _ _ x y f g} hx hf watch hwatch := by
    obtain ⟨hresult, hmemory, hsound, hrecords⟩ := hx watch hwatch
    rw [Watching.runOn_bind, Remembering.runOn_bind]
    rcases hrun : Watching.runOn x watch with ⟨result, watch'⟩
    rcases hrun' : Remembering.runOn y watch.memory with ⟨result', memory'⟩
    rw [hrun, hrun'] at hresult
    rw [hrun, hrun'] at hmemory
    rw [hrun] at hsound hrecords
    obtain rfl : watch'.memory = memory' := hmemory
    cases hresult with
    | ok h =>
        obtain ⟨hresult, hmemory, hsound, hrecords'⟩ := hf _ _ h watch' hsound
        exact ⟨hresult, hmemory, hsound, hrecords.trans hrecords'⟩
    | error cause => exact ⟨.error cause, rfl, hsound, hrecords⟩
  rel_halt cause watch hwatch := ⟨.error cause, rfl, hwatch, .refl watch⟩
  rel_stalled {c d} h watch hwatch := by
    obtain rfl : c = d := h
    exact ⟨.ok trivial, rfl, hwatch.report rfl, [.reported (.stalled c.position)], rfl, rfl⟩
  spots := Eq
  spots_part := Spot.same_part
  spots_shared := Spot.same_shared
  rel_branch {s s'} h watch hwatch := by
    refine ⟨.ok ?_, rfl, ⟨hwatch.keeps, hwatch.prompt, hwatch.reached_iff⟩, [], rfl, rfl⟩
    rw [h]
  rel_build {s s'} name h watch hwatch := by
    obtain rfl : s = s' := h
    cases hsite : watch.memory.built[s.site name]? with
    | some kept =>
        have hbody := hwatch.keeps _ kept hsite
        rw [Watching.runOn_build_of_some hsite, Remembering.runOn_build_of_some hsite]
        exact ⟨.ok ⟨rfl, hbody, hbody⟩, rfl, hwatch.again hsite, [.reached (s.site name)], rfl, rfl⟩
    | none =>
        rw [Watching.runOn_build_of_none hsite, Remembering.runOn_build_of_none hsite]
        exact ⟨.ok ⟨rfl, rfl, rfl⟩, rfl, hwatch.first hsite _ _ _,
          [.reported (.built (s.site name) (rules.typeName name)), .reached (s.site name)],
          rfl, rfl⟩

theorem watched_rejects (rules : Rules) : (watched rules).Rejects :=
  fun inputBytes trailingBytes _ hwatch =>
    ⟨.ok trivial, rfl, hwatch.report rfl, [.reported (.rejected inputBytes trailingBytes)],
      rfl, rfl⟩

/-! ### Calls under watch -/

namespace Session

/-- Makes a call under watch, after the notices of earlier calls. -/
def watch (s : Session) (notices : List Notice) (request : Call) : Watch :=
  let computation : Watching Answer := request.perform (s.root.interpret s.rules s.fuel)
  (computation.runOn ⟨{ s.memory with events := [] }, notices⟩).2

/-- Makes some calls in order under watch, after the notices of earlier calls. -/
def watchAll (s : Session) (notices : List Notice) : List Call → List Notice
  | [] => notices
  | request :: requests =>
    let watch := s.watch notices request
    { s with memory := watch.memory }.watchAll watch.notices requests

/-- What is noticed of some calls in order, the earliest first. -/
def notices (s : Session) (requests : List Call) : List Notice := (s.watchAll [] requests).reverse

variable {s : Session} {notices : List Notice}

/-- A call under watch leaves the memory that the call leaves, and what is noticed meanwhile
are its events. -/
theorem watch_call (h : Watch.Sound ⟨s.memory, notices⟩ s.rules) (request : Call) :
    (s.watch notices request).memory = (s.call request).2.memory ∧
      (s.watch notices request).Sound s.rules ∧
      ∃ new, (s.watch notices request).notices = new ++ notices ∧
        new.filterMap Notice.event? = (s.call request).1.events.reverse := by
  have halike := GrammarSimulation.interpret_alike_of_same (G := watched s.rules) rfl s.root
    (.inl rfl : (watched s.rules).Bounds s.fuel s.fuel) (rfl : ({} : Spot) = {})
  obtain ⟨-, hmemory, hsound, new, hnotices, hevents⟩ :=
    rel_perform rfl (watched_rejects s.rules) request halike
      ⟨{ s.memory with events := [] }, notices⟩ ⟨h.keeps, h.prompt, h.reached_iff⟩
  refine ⟨hmemory, hsound, new, hnotices, ?_⟩
  have hcall : (s.call request).1.events.reverse = (s.call request).2.memory.events :=
    List.reverse_reverse _
  rw [hcall]
  rw [hmemory, List.append_nil] at hevents
  exact hevents.symm

/-- In all calls together reports are prompt, and the events that are noticed are those of
the calls. -/
theorem watchAll_calls (h : Watch.Sound ⟨s.memory, notices⟩ s.rules) (requests : List Call) :
    Prompt (s.watchAll notices requests) ∧
      (s.watchAll notices requests).reverse.filterMap Notice.event? =
        notices.reverse.filterMap Notice.event? ++ (s.calls requests).1.flatMap Outcome.events := by
  induction requests generalizing s notices with
  | nil => exact ⟨h.prompt, (List.append_nil _).symm⟩
  | cons request requests ih =>
      obtain ⟨hmemory, hsound, new, hnotices, hevents⟩ := watch_call h request
      have hsession : { s with memory := (s.watch notices request).memory } =
          (s.call request).2 := by
        rw [hmemory]
        rfl
      -- the next calls go on from the session and the notices that this one leaves
      have hrest := @ih (s.call request).2 (s.watch notices request).notices
      rw [← hsession] at hrest
      obtain ⟨hprompt, hreported⟩ := hrest hsound
      refine ⟨hprompt, hreported.trans ?_⟩
      rw [hsession, hnotices, List.reverse_append, List.filterMap_append,
        List.filterMap_reverse (l := new), hevents, List.reverse_reverse, List.append_assoc]
      rfl

variable (rules : Rules) (root : Grammar) (fuel : Nat) (requests : List Call)

theorem prompt_notices : Prompt ((fresh rules root fuel).notices requests).reverse := by
  rw [Session.notices, List.reverse_reverse]
  exact (watchAll_calls (Watch.sound_empty rules) requests).1

/-- What is noticed of the calls of a session are their events, in order. -/
theorem notices_events :
    ((fresh rules root fuel).notices requests).filterMap Notice.event? =
      ((fresh rules root fuel).calls requests).1.flatMap Outcome.events :=
  (watchAll_calls (Watch.sound_empty rules) requests).2

/-- **References are built when parsing first gets to them.** -/
theorem notices_built {before after : List Notice} {site : Site} {parser : String}
    (h : (fresh rules root fuel).notices requests =
      before ++ .reported (.built site parser) :: after) :
    ∃ earlier, before = earlier ++ [.reached site] ∧ .reached site ∉ earlier := by
  have hreverse : ((fresh rules root fuel).notices requests).reverse =
      after.reverse ++ .reported (.built site parser) :: before.reverse := by
    rw [h]
    simp
  obtain ⟨earlier, hbefore, hnew⟩ :=
    (prompt_notices rules root fuel requests).first_reached hreverse
  refine ⟨earlier.reverse, ?_, by simpa using hnew⟩
  rw [← List.reverse_cons, ← hbefore, List.reverse_reverse]

/-- **No reference is built twice.** -/
theorem countP_buildsAt_le (site : Site) :
    (((fresh rules root fuel).calls requests).1.flatMap Outcome.events).countP
      (Event.buildsAt site) ≤ 1 := by
  rw [← notices_events, List.countP_filterMap, ← List.countP_reverse]
  exact (prompt_notices rules root fuel requests).countP_buildsAt_le site

end Session

end Backtrack
