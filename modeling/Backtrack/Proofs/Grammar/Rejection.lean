import Backtrack.Proofs.Grammar.Manners
import Backtrack.Proofs.Places

/-!
# Backtrack.Proofs.Grammar.Rejection

**Runs on whole texts.** A run parses from the start of a text and throws a match away that
leaves something unread, which it reports. The parse itself reports no such thing: the
simulation `unrejecting` follows a run on a memory and looks for these reports. So a run
reports what its parse reports, and a rejected match at the end if there is one
(`Session.verdict`).
-/

namespace Backtrack

open Backtrack.Text (utf8Length)

/-! ### No parser rejects a match -/

/-- Whether the event is the report of a rejected match. -/
def Event.isRejected : Event → Bool
  | .rejected _ _ => true
  | .built _ _ => false
  | .stalled _ => false

/-- No rejected match was reported. -/
def Memory.Unrejected (memory : Memory) : Prop :=
  ∀ event ∈ memory.events, event.isRejected = false

theorem Memory.Unrejected.report {memory : Memory} (h : memory.Unrejected) {event : Event}
    (hevent : event.isRejected = false) :
    Memory.Unrejected { memory with events := event :: memory.events } := by
  intro event' hmem
  rcases List.mem_cons.mp hmem with heq | hmem
  · rwa [heq]
  · exact h event' hmem

/-- A run on a memory that reports no rejected match, and the run without a memory. -/
def unrejecting (rules : Rules) : GrammarSimulation Remembering Silent rules where
  toNearness := .same
  rel R x y := (forgetting rules).rel R x y ∧
    ∀ memory : Memory, memory.Keeps rules → memory.Unrejected → (x.runOn memory).2.Unrejected
  rel_pure h := ⟨(forgetting rules).rel_pure h, fun _ _ hmemory => hmemory⟩
  rel_bind {_ _ _ _ _ _ x y f g} hx hf := by
    refine ⟨(forgetting rules).rel_bind hx.1 fun a b h => (hf a b h).1, ?_⟩
    intro memory hkeeps hmemory
    obtain ⟨hresult, hkeeps'⟩ := hx.1 memory hkeeps
    have hmemory' := hx.2 memory hkeeps hmemory
    rw [Remembering.runOn_bind]
    rcases hrun : Remembering.runOn x memory with ⟨result, memory'⟩
    rw [hrun] at hresult hkeeps' hmemory'
    cases hresult with
    | ok h => exact (hf _ _ h).2 memory' hkeeps' hmemory'
    | error cause => exact hmemory'
  rel_halt cause := ⟨(forgetting rules).rel_halt cause, fun _ _ hmemory => hmemory⟩
  rel_stalled h := ⟨(forgetting rules).rel_stalled h, fun _ _ hmemory => hmemory.report rfl⟩
  spots := (forgetting rules).spots
  spots_part := (forgetting rules).spots_part
  spots_shared := (forgetting rules).spots_shared
  rel_branch h := ⟨(forgetting rules).rel_branch h, fun _ _ hmemory => hmemory⟩
  rel_build {s s'} name h := by
    refine ⟨(forgetting rules).rel_build name h, fun memory _ hmemory => ?_⟩
    cases hsite : memory.built[s.site name]? with
    | some kept =>
        rw [Remembering.runOn_build_of_some hsite]
        exact hmemory
    | none =>
        rw [Remembering.runOn_build_of_none hsite]
        exact hmemory.report rfl

namespace Session

/-- A call of `parse` reports no rejected match. -/
theorem call_parse_unrejected {s : Session} (h : s.Consistent) (text : Source) (offset : Nat) :
    ∀ event ∈ (s.call (.parse text offset)).1.events, event.isRejected = false := by
  let G := unrejecting s.rules
  have hspot : G.spots {} {} := trivial
  have hbounds : G.Bounds s.fuel s.fuel := .inl rfl
  have halike := GrammarSimulation.interpret_alike_of_same rfl s.root hbounds hspot
  have hperform : G.rel (fun _ _ => True)
      ((Call.parse text offset).perform (s.root.interpret s.rules s.fuel))
      ((Call.parse text offset).perform (s.root.interpret s.rules s.fuel)) := by
    refine G.rel_bind (Simulation.rel_checked (.refl _)) fun c d hcd => ?_
    exact G.rel_bind (halike c d hcd) fun _ _ _ => G.rel_pure trivial
  have hbefore : Memory.Unrejected { s.memory with events := [] } :=
    fun _ hmem => absurd hmem List.not_mem_nil
  have hafter := hperform.2 { s.memory with events := [] } h hbefore
  intro event hmem
  exact hafter event (List.mem_reverse.mp hmem)

/-! ### What a run makes of a reply -/

/-- What a run on the whole of `text` makes of the reply at its start: the value, if there is
a match that reaches the end, and what it reports if there is one that does not. -/
def verdict (text : Source) : Reply Value → Option Value × Option Event
  | .done value rest =>
    if rest.position = text.length then (some value, none)
    else
      (none, some (.rejected text.contents.utf8ByteSize
        (utf8Length (text.toList.drop rest.position))))
  | .fail _ => (none, none)

theorem verdict_fst_eq_some_iff {text : Source} {reply : Reply Value} {value : Value} :
    (verdict text reply).1 = some value ↔
      ∃ c, reply = .done value c ∧ c.position = text.length := by
  cases reply with
  | fail c => simp [verdict]
  | done value' c =>
      by_cases hend : c.position = text.length
      · simp [verdict, hend]
      · simp [verdict, hend]

theorem verdict_snd_eq_some_iff {text : Source} {reply : Reply Value} {event : Event} :
    (verdict text reply).2 = some event ↔
      ∃ value c, reply = .done value c ∧ c.position ≠ text.length ∧
        event = .rejected text.contents.utf8ByteSize
          (utf8Length (text.toList.drop c.position)) := by
  cases reply with
  | fail c => simp [verdict]
  | done value c =>
      by_cases hend : c.position = text.length
      · simp [verdict, hend]
      · simp [verdict, hend, eq_comm]

/-- Behind events without a rejected match, the verdict adds one if and only if a match ends
before the end of the text. -/
theorem exists_rejected_iff {text : Source} {reply : Reply Value} {events : List Event}
    (hevents : ∀ event ∈ events, event.isRejected = false) (hvalid : reply.rest.Valid text) :
    (∃ event ∈ events ++ (verdict text reply).2.toList, event.isRejected = true) ↔
      ∃ value c, reply = .done value c ∧ c.position < text.length := by
  constructor
  · intro ⟨event, hmem, hrejected⟩
    rw [List.mem_append, Option.mem_toList] at hmem
    rcases hmem with hmem | hverdict
    · rw [hevents event hmem] at hrejected
      cases hrejected
    · obtain ⟨value, c, rfl, hne, -⟩ := verdict_snd_eq_some_iff.mp hverdict
      exact ⟨value, c, rfl, Nat.lt_of_le_of_ne hvalid.position_le hne⟩
  · intro ⟨value, c, hdone, hbefore⟩
    have hverdict := verdict_snd_eq_some_iff.mpr ⟨value, c, hdone, Nat.ne_of_lt hbefore, rfl⟩
    exact ⟨_, List.mem_append_right _ (Option.mem_toList.mpr hverdict), rfl⟩

/-- Whether anything is left can be told from the position. -/
theorem isEmpty_remaining_iff {c : Cursor} {text : Source} (h : c.Valid text) :
    c.remaining.isEmpty = true ↔ c.position = text.length := by
  rw [String.isEmpty_iff]
  exact h.tfae_end.out 2 3

/-- A run goes on from the reply at the start of the text by its verdict. -/
theorem runOn_perform_run {p : Parser Remembering Value} {text : Source} {memory after : Memory}
    {reply : Reply Value}
    (hparse : (p.parse (.start text)).runOn memory = (.ok reply, after))
    (hvalid : reply.rest.Valid text) :
    ((Call.run text).perform p).runOn memory =
      (.ok (.wholeMatch (verdict text reply).1),
        { after with events := (verdict text reply).2.toList ++ after.events }) := by
  have hlocate : Cursor.locate text 0 = .ok (.start text) := rfl
  simp only [Call.perform, Parser.run, Parser.runFrom, hlocate, checked_ok, pure_bind, bind_assoc]
  rw [Remembering.runOn_bind, hparse]
  cases reply with
  | fail rest => rfl
  | done value rest =>
      have hempty : rest.remaining.isEmpty = true ↔ rest.position = text.length :=
        isEmpty_remaining_iff hvalid
      have hrest : rest.rest = text.toList.drop rest.position := hvalid.rest_eq
      simp only [Reply.value?, Reply.rest, verdict, hempty]
      split
      · rfl
      · rw [Text.utf8Length_toList, Cursor.remaining_toList, hrest]
        rfl

/-- The reply of a call is that of the parser, and so are the events. -/
theorem runOn_perform_parse {p : Parser Remembering Value} {text : Source}
    {memory after : Memory} {reply : Reply Value}
    (h : ((Call.parse text 0).perform p).runOn memory = (.ok (.reply reply), after)) :
    (p.parse (.start text)).runOn memory = (.ok reply, after) := by
  have hperform : (Call.parse text 0).perform p =
      p.parse (.start text) >>= fun r => pure (.reply r) := rfl
  rw [hperform, Remembering.runOn_bind] at h
  rcases hparse : (p.parse (.start text)).runOn memory with ⟨result, after'⟩
  rw [hparse] at h
  cases result with
  | error cause => cases h
  | ok r =>
      cases h
      rfl

/-- A run answers by the verdict on the reply at the start of the text, and reports what the
parse reports and what the verdict adds. -/
theorem call_run_eq_verdict {s : Session} {text : Source} {reply : Reply Value}
    (hreply : (s.call (.parse text 0)).1.result = .ok (.reply reply))
    (hvalid : reply.rest.Valid text) :
    (s.call (.run text)).1.result = .ok (.wholeMatch (verdict text reply).1) ∧
      (s.call (.run text)).1.events =
        (s.call (.parse text 0)).1.events ++ (verdict text reply).2.toList := by
  let p : Parser Remembering Value := s.root.interpret s.rules s.fuel
  rcases hcall : ((Call.parse text 0).perform p).runOn { s.memory with events := [] } with
    ⟨result, after⟩
  have hparsed : s.call (.parse text 0) =
      (⟨result, after.events.reverse⟩, { s with memory := after }) := by
    simp only [call]
    rw [hcall]
  rw [hparsed] at hreply ⊢
  obtain rfl : result = .ok (.reply reply) := hreply
  have hrun := runOn_perform_run (runOn_perform_parse hcall) hvalid
  simp only [call]
  rw [hrun]
  refine ⟨rfl, ?_⟩
  cases (verdict text reply).2 with
  | none => simp
  | some event => simp

/-- A parser of the library replies at a place of the text. -/
theorem valid_of_call_parse {rules : Rules} {root : Grammar}
    (hrules : ∀ rule ∈ rules, rule.2.body.Mannered) (hroot : root.Mannered) {fuel : Nat}
    {earlier : List Call} {text : Source} {reply : Reply Value}
    (hreply : (((fresh rules root fuel).calls earlier).2.call (.parse text 0)).1.result =
      .ok (.reply reply)) : reply.rest.Valid text := by
  have hstart := Cursor.valid_start text
  have hends : Ends True (Reply.Mannered (.start text))
      (Parser.parse (root.interpret rules fuel) (.start text)) :=
    Grammar.interpret_mannered hrules hroot _ hstart (Nat.le_refl _)
  have hlocate : Cursor.locate text 0 = .ok (.start text) := rfl
  rw [call_calls_result (consistent_fresh rules root fuel), perform_parse hlocate] at hreply
  rcases hends.exhausted_or_ok with hparse | ⟨reply', hparse, hmannered⟩
  · have hcontra := (congrArg (Except.map Answer.reply) hparse).symm.trans hreply
    cases hcontra
  · have hsame := (congrArg (Except.map Answer.reply) hparse).symm.trans hreply
    cases hsame
    exact hstart.of_reaches hmannered.reaches

/-- The sizes with which a match of the start of `text` up to `c` is rejected. -/
structure RejectedSizes (text : Source) (c : Cursor) (inputBytes trailingBytes : Nat) : Prop where
  input_eq : inputBytes = text.contents.utf8ByteSize
  read_eq : inputBytes - trailingBytes = c.offset
  trailing_eq : trailingBytes = utf8Length (text.toList.drop c.position)
  trailing_pos : 0 < trailingBytes
  trailing_le : trailingBytes ≤ inputBytes

theorem rejectedSizes_of_lt {text : Source} {c : Cursor} (h : c.Valid text)
    (hbefore : c.position < text.length) :
    RejectedSizes text c text.contents.utf8ByteSize (utf8Length (text.toList.drop c.position)) := by
  have htotal : text.contents.utf8ByteSize =
      c.offset + utf8Length (text.toList.drop c.position) := by
    rw [← Text.utf8Length_toList, h.offset_eq, ← Text.utf8Length_append, List.take_append_drop]
  have hpos : 0 < utf8Length (text.toList.drop c.position) := by
    have hlength := Text.length_le_utf8Length (text.toList.drop c.position)
    rw [List.length_drop, Source.length_toList] at hlength
    omega
  exact ⟨rfl, by omega, rfl, hpos, by omega⟩

/-- **A run accepts exactly the full matches.** On every text on which a parser of the library
comes to a reply, also after any earlier calls, a run answers. It gives a value if and only
if the parse matches with this value up to the last scalar. A match that ends before is
rejected: the run reports that once, after everything that the parse reports, and the bytes
that it says were read and left are those before and behind the end of the match. In all
other cases it reports what the parse reports. -/
theorem run_accepts_full_matches {rules : Rules} {root : Grammar}
    (hrules : ∀ rule ∈ rules, rule.2.body.Mannered) (hroot : root.Mannered) {fuel : Nat}
    {earlier : List Call} {text : Source} {reply : Reply Value}
    (hreply : (((fresh rules root fuel).calls earlier).2.call (.parse text 0)).1.result =
      .ok (.reply reply)) :
    let parsed := (((fresh rules root fuel).calls earlier).2.call (.parse text 0)).1
    let run := (((fresh rules root fuel).calls earlier).2.call (.run text)).1
    (∃ answer, run.result = .ok (.wholeMatch answer)) ∧
    (∀ value, run.result = .ok (.wholeMatch (some value)) ↔
      ∃ c, reply = .done value c ∧ c.position = text.length) ∧
    ((∃ event ∈ run.events, event.isRejected = true) ↔
      ∃ value c, reply = .done value c ∧ c.position < text.length) ∧
    (∀ value c, reply = .done value c → c.position < text.length →
      ∃ inputBytes trailingBytes, RejectedSizes text c inputBytes trailingBytes ∧
        run.events = parsed.events ++ [.rejected inputBytes trailingBytes] ∧
        run.events.countP Event.isRejected = 1) ∧
    ((∀ value c, reply = .done value c → c.position = text.length) →
      run.events = parsed.events) := by
  intro parsed run
  have hvalid := valid_of_call_parse hrules hroot hreply
  obtain ⟨hresult, hevents⟩ := call_run_eq_verdict hreply hvalid
  have hquiet : ∀ event ∈ parsed.events, event.isRejected = false :=
    call_parse_unrejected (calls_snd (consistent_fresh rules root fuel) earlier).1 text 0
  refine ⟨⟨_, hresult⟩, fun value => ?_, ?_, fun value c hdone hbefore => ?_, fun hfull => ?_⟩
  · rw [← verdict_fst_eq_some_iff, hresult]
    simp
  · rw [hevents]
    exact exists_rejected_iff hquiet hvalid
  · have hverdict := verdict_snd_eq_some_iff.mpr ⟨value, c, hdone, Nat.ne_of_lt hbefore, rfl⟩
    rw [hverdict, Option.toList_some] at hevents
    rw [hdone] at hvalid
    refine ⟨_, _, rejectedSizes_of_lt hvalid hbefore, hevents, ?_⟩
    have hnone : parsed.events.countP Event.isRejected = 0 := by
      rw [List.countP_eq_zero]
      intro event hmem
      rw [hquiet event hmem]
      exact Bool.false_ne_true
    rw [hevents, List.countP_append, hnone]
    rfl
  · have hnone : (verdict text reply).2 = none := by
      rw [Option.eq_none_iff_forall_ne_some]
      intro event hevent
      obtain ⟨value, c, hdone, hne, -⟩ := verdict_snd_eq_some_iff.mp hevent
      exact hne (hfull value c hdone)
    rw [hevents, hnone, Option.toList_none, List.append_nil]

/-- Parentheses between commas on a parser that has built references before. The first text
is read to its end. In the second one the last parenthesis is not closed, and three bytes of
seven are left. -/
theorem run_accepts_full_matches_parentheses :
    let s := ((fresh Grammar.nestingRules (.commaSeparated (.deferred "nesting")) 9).calls
      [.run "(("]).2
    (s.call (.run "(), (())")).1.result = .ok (.wholeMatch (some (.list [.int 1, .int 2]))) ∧
      (s.call (.run "(), (é")).1.events =
        (s.call (.parse "(), (é" 0)).1.events ++ [.rejected 7 3] := by
  have hrules : ∀ rule ∈ Grammar.nestingRules, rule.2.body.Mannered := by
    intro rule hrule
    rw [List.mem_singleton.mp hrule]
    exact Grammar.composed_nesting trivial
  have hroot : (Grammar.commaSeparated (.deferred "nesting")).Mannered :=
    Grammar.composed_commaSeparated (.deferred trivial)
  have hreply : ∀ text reply,
      (Call.parse text 0).perform ((Grammar.commaSeparated (.deferred "nesting")).interpret
        Grammar.nestingRules 9 : Parser Silent Value) = .ok (.reply reply) →
      (((fresh Grammar.nestingRules (.commaSeparated (.deferred "nesting")) 9).calls
        [.run "(("]).2.call (.parse text 0)).1.result = .ok (.reply reply) :=
    fun text reply h => (call_calls_result (consistent_fresh _ _ _) _ _).trans h
  have hfull := hreply "(), (())" (.done (.list [.int 1, .int 2]) ⟨"(), (())", 8, 8, []⟩) rfl
  have hopen := hreply "(), (é" (.done (.list [.int 1, .int 0]) ⟨"(), (é", 4, 4, ['(', 'é']⟩) rfl
  obtain ⟨-, haccepts, -⟩ := run_accepts_full_matches hrules hroot hfull
  obtain ⟨-, -, -, hrejects, -⟩ := run_accepts_full_matches hrules hroot hopen
  obtain ⟨inputBytes, trailingBytes, hsizes, hevents, -⟩ := hrejects _ _ rfl (by decide)
  obtain rfl : inputBytes = 7 := hsizes.input_eq
  obtain rfl : trailingBytes = 3 := hsizes.trailing_eq
  exact ⟨(haccepts _).mpr ⟨_, rfl, rfl⟩, hevents⟩

end Session

end Backtrack
