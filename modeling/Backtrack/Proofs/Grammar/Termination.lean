import Backtrack.Proofs.Grammar.Manners

/-!
# Backtrack.Proofs.Grammar.Termination

**Guarded rules terminate.** References can go on for ever, as in a rule that begins with
a reference to itself. A rule is *guarded* (`Grammar.Guarded`) if in its body references
stand only behind a parser that does not match without consuming a scalar: behind such a
member of a `zip`, or in the continuation of such a first part of a `bind`.

Then a reference always has fewer scalars left than the one it was reached from, so with
`n` scalars left at most `n + 1` references are nested. Repetitions need no condition: a
round that consumes nothing is the last one, so there are at most `n + 1` of them. A bound
of `n + 2` is enough for both, whatever the grammar (`Session.parse_terminates`), and since
results do not depend on the bound, there is one reply for all bounds beyond.
-/

namespace Backtrack

namespace Grammar

variable {text : Source} {room fuel : Nat} {rules : Rules}

/-! ### Guards -/

/-- Matches nowhere without consuming at least one scalar. -/
def Consuming (rules : Rules) (g : Grammar) : Prop :=
  ∀ (text : Source) (fuel : Nat), (g.interpret rules fuel : Parser Silent Value).Consumes text

theorem consuming_literal {expected : String} (h : expected ≠ "") :
    (literal expected).Consuming rules := fun _ _ => Parser.consumes_map (Parser.consumes_literal h)

theorem consuming_anyChar : anyChar.Consuming rules :=
  fun _ _ => Parser.consumes_map Parser.consumes_anyChar

theorem consuming_integer : integer.Consuming rules :=
  fun _ _ => Parser.consumes_map Parser.consumes_nonNegativeInteger

/-- Has no references at all. -/
abbrev ReferenceFree (g : Grammar) : Prop := g.Composed (fun _ => False) KeepsManners

/-- References stand only behind something that consumes; there, anything goes. -/
inductive Guarded (rules : Rules) : Grammar → Prop
  | free {g : Grammar} (h : g.ReferenceFree) : Guarded rules g
  | charactersUntil {delimiter : Grammar} (h : Guarded rules delimiter) :
    Guarded rules (charactersUntil delimiter)
  | map {f : Value → Value} {g : Grammar} (h : Guarded rules g) : Guarded rules (map f g)
  | bind {g : Grammar} {next : Value → Grammar} (h : Guarded rules g)
    (hnext : ∀ value, Guarded rules (next value)) : Guarded rules (bind g next)
  /-- The continuation is behind the first part. -/
  | bindBehind {g : Grammar} {next : Value → Grammar} (h : Guarded rules g)
    (hguard : g.Consuming rules) (hnext : ∀ value, (next value).Mannered) :
    Guarded rules (bind g next)
  | zip {members : List Grammar} (h : ∀ g ∈ members, Guarded rules g) :
    Guarded rules (zip members)
  /-- The later members are behind the earlier ones. -/
  | zipBehind {lead behind : List Grammar} (hlead : ∀ g ∈ lead, Guarded rules g)
    (hguard : ∃ g ∈ lead, g.Consuming rules) (hbehind : ∀ g ∈ behind, g.Mannered) :
    Guarded rules (zip (lead ++ behind))
  | first {candidates : List Grammar} (h : ∀ g ∈ candidates, Guarded rules g) :
    Guarded rules (first candidates)
  | longest {candidates : List Grammar} (h : ∀ g ∈ candidates, Guarded rules g) :
    Guarded rules (longest candidates)
  | many {element delimiter : Grammar} (he : Guarded rules element)
    (hd : Guarded rules delimiter) : Guarded rules (many element delimiter)
  | boxed {g : Grammar} (h : Guarded rules g) : Guarded rules (boxed g)
  | shared {index : Nat} {g : Grammar} (h : Guarded rules g) : Guarded rules (shared index g)

/-! ### Enough fuel -/

theorem Consuming.consumes {g : Grammar} {spot : Spot} (h : g.Consuming rules) :
    (g.parser fuel (callRule rules fuel) spot : Parser Silent Value).Consumes text :=
  fun c value rest hc hparse =>
    h text fuel c value rest hc (interpret_eq_of_parser_eq g (Nat.le_refl fuel) hparse)

theorem parsers_append {call : Site → Parser Silent Value} {spot : Spot} {index : Nat}
    (gs hs : List Grammar) :
    parsers fuel call spot index (gs ++ hs) =
      parsers fuel call spot index gs ++ parsers fuel call spot (index + gs.length) hs := by
  induction gs generalizing index with
  | nil => simp [parsers]
  | cons g gs ih => simp [parsers, ih, Nat.add_assoc, Nat.add_comm 1]

theorem mem_parsers_of_mem {call : Site → Parser Silent Value} {spot : Spot} {index : Nat}
    {gs : List Grammar} {g : Grammar} (h : g ∈ gs) :
    ∃ spot', g.parser fuel call spot' ∈ parsers fuel call spot index gs := by
  induction gs generalizing index with
  | nil => cases h
  | cons g' gs ih =>
      rcases List.mem_cons.mp h with rfl | h
      · exact ⟨_, List.mem_cons_self⟩
      · obtain ⟨spot', hmem⟩ := ih h
        exact ⟨spot', List.mem_cons_of_mem _ hmem⟩

/-- In a guarded grammar, references are only reached with a scalar less to go. -/
theorem parser_guarded {g : Grammar} {spot : Spot} (hg : g.Guarded rules)
    (hcall : ∀ site, 0 < room →
      (callRule rules fuel site : Parser Silent Value).Mannered text False (room - 1))
    (hfuel : room < fuel) :
    (g.parser fuel (callRule rules fuel) spot : Parser Silent Value).Mannered text False room := by
  -- whatever stands behind a guard may refer to rules, since a scalar is gone by then
  have hbehind : ∀ {g : Grammar} {spot : Spot}, g.Mannered → 0 < room →
      (g.parser fuel (callRule rules fuel) spot : Parser Silent Value).Mannered text False
        (room - 1) :=
    fun hg hroom => parser_mannered hg (fun name s _ => hcall (s.site name) hroom)
      (.inr (by omega))
  induction hg generalizing spot with
  | free h => exact parser_mannered h (fun _ _ hname => hname.elim) (.inr hfuel)
  | charactersUntil _ ih => exact Parser.mannered_map (Parser.mannered_charactersUntil ih)
  | map _ ih => exact Parser.mannered_map ih
  | bind _ _ ih ihnext =>
      refine Parser.mannered_bind ih fun c value rest hc hlen hreach _ => ?_
      exact ihnext value rest (hc.of_reaches hreach) (Nat.le_trans hreach.length_le hlen)
  | bindBehind _ hguard hnext ih =>
      refine Parser.mannered_bind_of_consumes ih hguard.consumes fun value hroom c hc hlen => ?_
      exact hbehind (hnext value) hroom c hc hlen
  | zip _ ih =>
      refine Parser.mannered_map (Parser.mannered_sequence fun p hp => ?_)
      obtain ⟨g, hg, spot', rfl⟩ := mem_parsers hp
      exact ih g hg
  | zipBehind _ hguard hmembers ih =>
      simp only [parser, parsers_append]
      refine Parser.mannered_map (Parser.mannered_sequence_of_consumes ?_ ?_ ?_)
      · intro p hp
        obtain ⟨g, hg, spot', rfl⟩ := mem_parsers hp
        exact ih g hg
      · intro p hp
        obtain ⟨g, hg, spot', rfl⟩ := mem_parsers hp
        exact hbehind (hmembers g hg)
      · obtain ⟨g, hg, hconsuming⟩ := hguard
        obtain ⟨spot', hmem⟩ := mem_parsers_of_mem hg
        exact ⟨_, hmem, hconsuming.consumes⟩
  | first _ ih =>
      refine Parser.mannered_first fun p hp => ?_
      obtain ⟨g, hg, spot', rfl⟩ := mem_parsers hp
      exact ih g hg
  | longest _ ih =>
      refine Parser.mannered_longest fun p hp => ?_
      obtain ⟨g, hg, spot', rfl⟩ := mem_parsers hp
      exact ih g hg
  | many _ _ ihe ihd =>
      exact Parser.mannered_map (Parser.mannered_zeroOrMore ihe ihd (.inr hfuel))
  | boxed _ ih => exact ih
  | shared _ ih => exact ih

/-- A reference with `room` scalars to go needs a bound of `room + 2`. -/
theorem callRule_guarded (hrules : ∀ rule ∈ rules, rule.2.body.Guarded rules) (site : Site)
    (hfuel : room + 2 ≤ fuel) :
    (callRule rules fuel site : Parser Silent Value).Mannered text False room := by
  -- on the number of references that may still be nested, one for each scalar to go
  induction fuel generalizing room site with
  | zero => omega
  | succ fuel ih =>
      intro c hc hlen
      exact parser_guarded (body_of_rules (.free .never) hrules site.rule)
        (fun site hroom => ih site (by omega)) (by omega) c hc hlen

/-- With `n` scalars left, a bound of `n + 2` is enough. -/
theorem interpret_ends {g : Grammar} {c : Cursor}
    (h : (∀ rule ∈ rules, rule.2.body.Guarded rules) ∧ g.Mannered ∨ g.ReferenceFree)
    (hc : c.Valid text) (hfuel : c.rest.length + 2 ≤ fuel) :
    Ends False (Reply.Mannered c) (Parser.parse (g.interpret rules fuel) c) := by
  have hrounds : False ∨ c.rest.length < fuel := .inr (by omega)
  rcases h with ⟨hrules, hg⟩ | hg
  · exact parser_mannered hg (fun name s _ => callRule_guarded hrules (s.site name) hfuel)
      hrounds c hc (Nat.le_refl _)
  · exact parser_mannered hg (fun _ _ hname => hname.elim) hrounds c hc (Nat.le_refl _)

/-- The reference in `nesting` stands behind a parenthesis. -/
theorem guarded_nesting : nesting.Guarded rules := by
  refine .first fun g hg => ?_
  simp only [List.mem_cons, List.not_mem_nil, or_false] at hg
  rcases hg with rfl | rfl
  · have hopen : ∀ g ∈ [literal "("], g.Guarded rules := by
      intro g hg
      rw [List.mem_singleton.mp hg]
      exact .free (.literal "(")
    refine .map (.zipBehind hopen ⟨literal "(", List.mem_cons_self, ?_⟩ fun g hg => ?_)
    · exact consuming_literal (by decide)
    · simp only [List.mem_cons, List.not_mem_nil, or_false] at hg
      rcases hg with rfl | rfl
      · exact .deferred trivial
      · exact .literal ")"
  · exact .free (.always (.int 0))

/-- Numbers and marks by turns, each of which goes on with the other. -/
def turnRules : Rules :=
  [("number", ⟨"unicomb_parsers::combinator::boxed::Boxed<()>",
      bind integer fun _ => deferred "mark"⟩),
    ("mark", ⟨"unicomb_parsers::combinator::boxed::Boxed<()>",
      (zip [anyChar, deferred "number"]).or (always .unit)⟩)]

theorem guarded_turnRules : ∀ rule ∈ turnRules, rule.2.body.Guarded rules := by
  intro rule hrule
  simp only [turnRules, List.mem_cons, List.not_mem_nil, or_false] at hrule
  rcases hrule with rfl | rfl
  · exact .bindBehind (.free .integer) consuming_integer fun _ => .deferred trivial
  · refine .first fun g hg => ?_
    simp only [List.mem_cons, List.not_mem_nil, or_false] at hg
    rcases hg with rfl | rfl
    · have hlead : ∀ g ∈ [anyChar], g.Guarded rules := by
        intro g hg
        rw [List.mem_singleton.mp hg]
        exact .free .anyChar
      refine .zipBehind hlead ⟨anyChar, List.mem_cons_self, consuming_anyChar⟩ fun g hg => ?_
      rw [List.mem_singleton.mp hg]
      exact .deferred trivial
    · exact .free (.always .unit)

end Grammar

namespace Session

/-- **Guarded rules terminate.** A parser over guarded rules, or one without references over
any rules, has a reply at every place of every text. With `n` scalars left, every bound of
at least `n + 2` leads to it, whatever was asked before.

A grammar is well-founded, its continuations included: a continuation gives grammars that are
smaller than the `bind` it stands in. So one that returns the parser around it is no grammar
here, and goes round through a rule instead, where `Guarded` asks that it consumes something. -/
theorem parse_terminates {rules : Rules} {root : Grammar}
    (h : (∀ rule ∈ rules, rule.2.body.Guarded rules) ∧ root.Mannered ∨ root.ReferenceFree)
    {text : Source} {offset : Nat} (hoffset : offset ≤ text.length) :
    ∃ reply, ∀ fuel, text.length - offset + 2 ≤ fuel → ∀ earlier : List Call,
      (((fresh rules root fuel).calls earlier).2.call (.parse text offset)).1.result =
        .ok (.reply reply) := by
  obtain ⟨entry, hlocate, hvalid, hposition⟩ := Cursor.locate_eq_ok hoffset
  have hlen : entry.rest.length = text.length - offset := by rw [hvalid.length_rest, hposition]
  obtain ⟨reply, hreply, -⟩ := (Grammar.interpret_ends h hvalid (Nat.le_refl _)).exists_ok
  refine ⟨reply, fun fuel hfuel earlier => ?_⟩
  rw [call_calls_result (consistent_fresh rules root fuel), perform_parse hlocate]
  rw [← hlen] at hfuel
  exact congrArg _ (Grammar.interpret_eq_of_parser_eq root hfuel hreply)

/-- Parentheses and turns over rules with guards of all kinds, and blanks repeated without
end over a rule that only refers to itself. -/
theorem parse_terminates_nesting :
    (∃ reply, ∀ fuel, 6 ≤ fuel → ∀ earlier : List Call,
      (((fresh (Grammar.nestingRules ++ Grammar.turnRules)
          (.many (.deferred "nesting") (.deferred "number")) fuel).calls
        earlier).2.call (.parse "(()1(" 1)).1.result = .ok (.reply reply)) ∧
    ∃ reply, ∀ fuel, 4 ≤ fuel → ∀ earlier : List Call,
      (((fresh [("loop", ⟨"unicomb_parsers::combinator::boxed::Boxed<()>", .deferred "loop"⟩)]
          (.many (.many .blank (.always .unit)) (.always .unit)) fuel).calls
        earlier).2.call (.parse "  é" 1)).1.result = .ok (.reply reply) := by
  constructor
  · have hrules : ∀ rule ∈ Grammar.nestingRules ++ Grammar.turnRules,
        rule.2.body.Guarded (Grammar.nestingRules ++ Grammar.turnRules) := by
      intro rule hrule
      rcases List.mem_append.mp hrule with hnesting | hturn
      · rw [List.mem_singleton.mp hnesting]
        exact Grammar.guarded_nesting
      · exact Grammar.guarded_turnRules rule hturn
    have hoffset : 1 ≤ Source.length "(()1(" := by decide
    exact parse_terminates (.inl ⟨hrules, .many (.deferred trivial) (.deferred trivial)⟩) hoffset
  · have hoffset : 1 ≤ Source.length "  é" := by decide
    exact parse_terminates (.inr (.many (.many .blank (.always _)) (.always _))) hoffset

end Session

end Backtrack
