import Backtrack.Grammar.Custom
import Backtrack.Proofs.Grammar.Forgetting
import Backtrack.Proofs.Reach

/-!
# Backtrack.Proofs.Grammar.Shift

**What lies behind the cursor does not count.** A cursor knows its whole text and how far
into it it stands, and parsers compare such positions and put cursors aside. Still, the
text before the entry makes no difference: parsing from the scalar `count` of a text on is
parsing the text that begins there, and what comes out differs only in where it says it
is.

* `Cursor.Shifted` relates the places of a text to those of its end, and parsing respects
  it (`Nearness.shifted`), since positions are only ever compared with each other;
* the simulation `shifting` adds the memories of two sessions. These may have built
  different references, but they report the same stalled repetitions, at shifted positions.

`Session.call_shifted` puts this together for two sessions with histories of their own.
-/

namespace Backtrack

open Backtrack.Text (utf8Length)

/-! ### A text and its end -/

/-- The text without its first `count` scalars, kept at `address`. -/
def textFrom (text : Source) (count address : Nat) : Source :=
  ⟨String.ofList (text.toList.drop count), address⟩

theorem toList_textFrom (text : Source) (count address : Nat) :
    (textFrom text count address).toList = text.toList.drop count := String.toList_ofList

/-- `c` is in `text` where `d` is in the text without the first `count` scalars. -/
structure Cursor.Shifted (text : Source) (count address : Nat) (c d : Cursor) : Prop where
  source_eq : c.source = text
  source_eq_from : d.source = textFrom text count address
  position_eq : c.position = d.position + count
  offset_eq : c.offset = d.offset + utf8Length (text.toList.take count)
  rest_eq : c.rest = d.rest

namespace Cursor

variable {text : Source} {count address : Nat} {c d c' d' : Cursor}

theorem Shifted.advance (h : c.Shifted text count address d) (run : List Char) :
    (c.advance run).Shifted text count address (d.advance run) where
  source_eq := h.source_eq
  source_eq_from := h.source_eq_from
  position_eq := by
    have hposition := h.position_eq
    simp only [Cursor.advance]
    omega
  offset_eq := by
    have hoffset := h.offset_eq
    simp only [Cursor.advance]
    omega
  rest_eq := by simp only [Cursor.advance, h.rest_eq]

/-- Both sides are in one text each, so both can be rewound. -/
theorem Shifted.rewind (h : c.Shifted text count address d)
    (h' : c'.Shifted text count address d') :
    ResultAlike (Shifted text count address) (c.rewind c'.anchor) (d.rewind d'.anchor) := by
  have hsource : c.source = c'.source := by rw [h.source_eq, h'.source_eq]
  have hsource' : d.source = d'.source := by rw [h.source_eq_from, h'.source_eq_from]
  simp only [Cursor.rewind, anchor, hsource, hsource', if_true]
  exact .ok h'

/-- The text between two places is the same, and so is which of them comes first. -/
theorem Shifted.consumedSince_eq (h : c.Shifted text count address d)
    (h' : c'.Shifted text count address d') :
    c.consumedSince c'.anchor = d.consumedSince d'.anchor := by
  have hsource : c.source = c'.source := by rw [h.source_eq, h'.source_eq]
  have hsource' : d.source = d'.source := by rw [h.source_eq_from, h'.source_eq_from]
  have hlength : c.position - c'.position = d.position - d'.position := by
    rw [h.position_eq, h'.position_eq, Nat.add_sub_add_right]
  have horder : c'.position ≤ c.position ↔ d'.position ≤ d.position := by
    rw [h.position_eq, h'.position_eq, Nat.add_le_add_iff_right]
  simp only [consumedSince, anchor, hsource, hsource', if_true, hlength, h'.rest_eq]
  exact if_congr horder rfl rfl

/-- The place `count` scalars into a text is the start of what follows. -/
theorem locate_shifted (h : count ≤ text.length) (address : Nat) :
    ResultAlike (Shifted text count address) (locate text count)
      (locate (textFrom text count address) 0) := by
  obtain ⟨c, hlocate, hvalid, hposition⟩ := locate_eq_ok h
  have hstart : locate (textFrom text count address) 0 =
      .ok (start (textFrom text count address)) := rfl
  rw [hlocate, hstart]
  refine .ok ⟨hvalid.source_eq, rfl, ?_, ?_, ?_⟩
  · rw [hposition, start, Nat.zero_add]
  · rw [hvalid.offset_eq, hposition, start, Nat.zero_add]
  · rw [hvalid.rest_eq, hposition, start, toList_textFrom]

end Cursor

/-- The places of a text and those of its end. -/
def Nearness.shifted (text : Source) (count address : Nat) : Nearness where
  near := Cursor.Shifted text count address
  near_rest h := h.rest_eq
  near_advance run h := h.advance run
  near_lt_iff h h' := by rw [h.position_eq, h'.position_eq, Nat.add_lt_add_iff_right]
  near_rewind h h' := h.rewind h'
  near_consumedSince h h' := h.consumedSince_eq h'

/-! ### Memories with the same reports -/

/-- Where a repetition stopped, if that is what the event reports. -/
def Event.stalledAt? : Event → Option Nat
  | .stalled position => some position
  | .rejected _ _ => none
  | .built _ _ => none

/-- Where repetitions stopped because a round consumed nothing, in the order of the
events. -/
def stalls (events : List Event) : List Nat := events.filterMap Event.stalledAt?

/-- Both memories agree with the rules, and the repetitions reported in the first one
stopped `count` scalars further on than those in the second. -/
structure Memory.Shifted (rules : Rules) (count : Nat) (memory memory' : Memory) : Prop where
  keeps : memory.Keeps rules
  keeps_from : memory'.Keeps rules
  stalls_eq : stalls memory.events = (stalls memory'.events).map (· + count)

/-- A reference has the body of its rule, also if it was built before, and building it
reports no repetition. -/
theorem Remembering.runOn_build {rules : Rules} {memory : Memory} (h : memory.Keeps rules)
    (s : Spot) (name : String) :
    ∃ kept memory',
      runOn (GrammarMonad.build (s.site name) (rules.rule name)) memory = (.ok kept, memory') ∧
      kept.body = rules.body name ∧ memory'.Keeps rules ∧
      stalls memory'.events = stalls memory.events := by
  cases hsite : memory.built[s.site name]? with
  | some kept => exact ⟨kept, memory, runOn_build_of_some hsite, h _ kept hsite, h, rfl⟩
  | none => exact ⟨_, _, runOn_build_of_none hsite, rfl, h.insert (s.site name) _, rfl⟩

/-! ### Two runs -/

/-- A run on a text, and one on its end. -/
def shifting (rules : Rules) (text : Source) (count address : Nat) :
    GrammarSimulation Remembering Remembering rules where
  toNearness := .shifted text count address
  rel R x y := ∀ memory memory' : Memory, memory.Shifted rules count memory' →
    ResultAlike R (x.runOn memory).1 (y.runOn memory').1 ∧
      (x.runOn memory).2.Shifted rules count (y.runOn memory').2
  rel_pure h _ _ hmemory := ⟨.ok h, hmemory⟩
  rel_bind := Remembering.Parallel.bind
  rel_halt cause _ _ hmemory := ⟨.error cause, hmemory⟩
  rel_stalled {c d} h memory memory' hmemory := by
    have hstalls : stalls (.stalled c.position :: memory.events) =
        (stalls (.stalled d.position :: memory'.events)).map (· + count) := by
      have hposition : c.position = d.position + count := h.position_eq
      have hbefore := hmemory.stalls_eq
      simp only [stalls] at hbefore
      simp only [stalls, List.filterMap_cons, Event.stalledAt?, List.map_cons, hposition, hbefore]
    exact ⟨.ok trivial, hmemory.keeps, hmemory.keeps_from, hstalls⟩
  spots _ _ := True
  spots_part _ _ := trivial
  spots_shared _ _ := trivial
  rel_branch _ _ _ hmemory := ⟨.ok trivial, hmemory.keeps, hmemory.keeps_from, hmemory.stalls_eq⟩
  rel_build {s s'} name _ memory memory' hmemory := by
    obtain ⟨kept, after, hrun, hbody, hkeeps, hstalls⟩ :=
      Remembering.runOn_build hmemory.keeps s name
    obtain ⟨kept', after', hrun', hbody', hkeeps', hstalls'⟩ :=
      Remembering.runOn_build hmemory.keeps_from s' name
    rw [hrun, hrun']
    refine ⟨.ok ⟨trivial, hbody, hbody'⟩, hkeeps, hkeeps', ?_⟩
    rw [hstalls, hstalls', hmemory.stalls_eq]

namespace Grammar

/-- A custom parser that replies the same in a text and in its end. -/
def IgnoresPast (reply : Custom) : Prop :=
  ∀ (text : Source) (count address : Nat) (c d : Cursor), c.Shifted text count address d →
    ResultAlike (Reply.Alike (Cursor.Shifted text count address) Eq) (reply c) (reply d)

/-- Put together from the library's parsers, over any rules, and from custom parsers that
do not look back. -/
abbrev LooksAhead (g : Grammar) : Prop := g.Composed (fun _ => True) IgnoresPast

/-- A letter is read from what comes next. -/
theorem letter_looksAhead : letter.LooksAhead := by
  refine .custom fun text count address c d h => ?_
  simp only [Cursor.next?, h.rest_eq]
  cases d.rest with
  | nil => exact .ok (.fail h)
  | cons ch tail =>
      simp only
      split
      · exact .ok (.done rfl (h.advance [ch]))
      · exact .ok (.fail h)

/-- One parser on a text and on its end. -/
theorem interpret_shifted {rules : Rules} {root : Grammar}
    (hrules : ∀ rule ∈ rules, rule.2.body.LooksAhead) (hroot : root.LooksAhead) (fuel : Nat)
    (text : Source) (count address : Nat) :
    (shifting rules text count address).Alike Eq (root.interpret rules fuel)
      (root.interpret rules fuel) := by
  have hbounds : (shifting rules text count address).Bounds fuel fuel := .inl rfl
  have hspot : (shifting rules text count address).spots {} {} := trivial
  exact GrammarSimulation.interpret_alike hroot (fun name _ => body_of_rules .never hrules name)
    (fun reply hreply => hreply text count address) hbounds hspot

end Grammar

namespace Session

/-! ### Sessions -/

/-- After some calls, a session differs from a new one in its memory only. -/
theorem calls_fresh_snd (rules : Rules) (root : Grammar) (fuel : Nat) (earlier : List Call) :
    ∃ memory, ((fresh rules root fuel).calls earlier).2 = ⟨rules, root, fuel, memory⟩ ∧
      memory.Keeps rules := by
  obtain ⟨hkeeps, hrules, hroot, hfuel⟩ := calls_snd (consistent_fresh rules root fuel) earlier
  generalize ((fresh rules root fuel).calls earlier).2 = s at hkeeps hrules hroot hfuel ⊢
  obtain ⟨rules', root', fuel', memory⟩ := s
  obtain rfl : rules' = rules := hrules
  obtain rfl : root' = root := hroot
  obtain rfl : fuel' = fuel := hfuel
  exact ⟨memory, rfl, hkeeps⟩

/-- What comes out of a call on a text and of one on its end: related answers, and reports
of the same repetitions, `count` scalars apart. -/
def OutcomesShifted (count : Nat) (R : Answer → Answer → Prop) (o o' : Outcome) : Prop :=
  ResultAlike R o.result o'.result ∧ stalls o.events = (stalls o'.events).map (· + count)

/-- Requests that a parser without a past handles alike are handled alike after any
calls. -/
theorem outcomes_shifted {rules : Rules} {root : Grammar} {fuel : Nat} {text : Source}
    {count address : Nat} {request request' : Call} {R : Answer → Answer → Prop}
    (h : (shifting rules text count address).rel R (request.perform (root.interpret rules fuel))
      (request'.perform (root.interpret rules fuel))) (earlier earlier' : List Call) :
    OutcomesShifted count R (((fresh rules root fuel).calls earlier).2.call request).1
      (((fresh rules root fuel).calls earlier').2.call request').1 := by
  obtain ⟨memory, hs, hkeeps⟩ := calls_fresh_snd rules root fuel earlier
  obtain ⟨memory', hs', hkeeps'⟩ := calls_fresh_snd rules root fuel earlier'
  rw [hs, hs']
  have hmemory : Memory.Shifted rules count { memory with events := [] }
      { memory' with events := [] } := ⟨hkeeps, hkeeps', rfl⟩
  obtain ⟨hresult, hafter⟩ := h _ _ hmemory
  refine ⟨hresult, ?_⟩
  -- the memories have the latest event first, the outcomes the earliest
  have hstalls := hafter.stalls_eq
  simp only [call, stalls, List.filterMap_reverse, List.map_reverse] at hstalls ⊢
  rw [hstalls]

/-- The same reply, `count` scalars of `text` further on. -/
def RepliesShifted (text : Source) (count : Nat) (answer answer' : Answer) : Prop :=
  ∃ reply reply', answer = .reply reply ∧ answer' = .reply reply' ∧
    reply.value? = reply'.value? ∧ reply.rest.rest = reply'.rest.rest ∧
    reply.rest.position = reply'.rest.position + count ∧
    reply.rest.offset = reply'.rest.offset + utf8Length (text.toList.take count)

theorem repliesShifted_of_alike {text : Source} {count address : Nat} {reply reply' : Reply Value}
    (h : Reply.Alike (Cursor.Shifted text count address) Eq reply reply') :
    RepliesShifted text count (.reply reply) (.reply reply') := by
  refine ⟨reply, reply', rfl, rfl, ?_⟩
  cases h with
  | done hvalue hrest =>
      exact ⟨congrArg some hvalue, hrest.rest_eq, hrest.position_eq, hrest.offset_eq⟩
  | fail hrest => exact ⟨rfl, hrest.rest_eq, hrest.position_eq, hrest.offset_eq⟩

/-- **Nothing behind the cursor counts.** From the scalar `count` of a text on, a parser of
the library finds what it finds in the text that begins there, wherever that is kept: the
same match, with the same text left over, at a cursor that is `count` scalars further on and as
many bytes as these take. On the way it reports the same stalled repetitions, `count` scalars
further on. The bound is any, and so is what was asked before on either side. -/
theorem call_shifted {rules : Rules} {root : Grammar}
    (hrules : ∀ rule ∈ rules, rule.2.body.LooksAhead) (hroot : root.LooksAhead) (fuel : Nat)
    (earlier earlier' : List Call) {text : Source} {count : Nat} (hcount : count ≤ text.length)
    (address : Nat) :
    OutcomesShifted count Eq
      (((fresh rules root fuel).calls earlier).2.call (.runFrom text count)).1
      (((fresh rules root fuel).calls earlier').2.call
        (.runFrom (textFrom text count address) 0)).1 ∧
    OutcomesShifted count (RepliesShifted text count)
      (((fresh rules root fuel).calls earlier).2.call (.parse text count)).1
      (((fresh rules root fuel).calls earlier').2.call
        (.parse (textFrom text count address) 0)).1 := by
  have halike := Grammar.interpret_shifted hrules hroot fuel text count address
  have hlocate := Cursor.locate_shifted hcount address
  constructor
  · refine outcomes_shifted ((shifting rules text count address).rel_bind
      (Simulation.rel_runFrom halike hlocate) fun result result' hresult => ?_) earlier earlier'
    obtain rfl : result = result' := hresult
    exact (shifting rules text count address).rel_pure rfl
  · refine outcomes_shifted ((shifting rules text count address).rel_bind
      (Simulation.rel_checked hlocate) fun c d hcd => ?_) earlier earlier'
    refine (shifting rules text count address).rel_bind (halike c d hcd)
      fun reply reply' hreply => ?_
    exact (shifting rules text count address).rel_pure (repliesShifted_of_alike hreply)

/-- Letters and parentheses behind a scalar of two bytes, up to a round that finds neither.
The first parser has built references before, the second has not. -/
theorem call_shifted_nesting :
    OutcomesShifted 1 (RepliesShifted "éa ()1" 1)
      (((fresh Grammar.nestingRules (.many (.or .letter (.deferred "nesting")) .blank) 9).calls
        [.run "(("]).2.call (.parse "éa ()1" 1)).1
      (((fresh Grammar.nestingRules (.many (.or .letter (.deferred "nesting")) .blank) 9).calls
        []).2.call (.parse (textFrom "éa ()1" 1 7) 0)).1 ∧
    (((fresh Grammar.nestingRules (.many (.or .letter (.deferred "nesting")) .blank) 9).calls
      [.run "(("]).2.call (.parse "éa ()1" 1)).1.result =
        .ok (.reply (.done (.list [.char 'a', .int 1]) ⟨"éa ()1", 5, 6, ['1']⟩)) := by
  have hrules : ∀ rule ∈ Grammar.nestingRules, rule.2.body.LooksAhead := by
    intro rule hrule
    rw [List.mem_singleton.mp hrule]
    exact Grammar.composed_nesting trivial
  have hroot : Grammar.LooksAhead (.many (.or .letter (.deferred "nesting")) .blank) :=
    .many (Grammar.composed_or Grammar.letter_looksAhead (.deferred trivial)) .blank
  refine ⟨(call_shifted hrules hroot 9 [.run "(("] [] (by decide) 7).2, ?_⟩
  rw [call_calls_result (consistent_fresh _ _ _)]
  rfl

end Session

end Backtrack
