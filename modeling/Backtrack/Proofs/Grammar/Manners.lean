import Backtrack.Proofs.Grammar.Forgetting
import Backtrack.Proofs.Manners

/-!
# Backtrack.Proofs.Grammar.Manners

**Every grammar of the library keeps the manners.** The lemmas on single combinators add
up: the parser of a grammar never faults, ends its matches ahead of the entry and leaves
its failures there. References are no exception, since a rule is a grammar as well; how
deep they nest is bounded by the fuel, and that is the induction.

Parsers written as functions may take part if they keep the manners themselves
(`Grammar.KeepsManners`). They are asked for that at the places of a text only and can do
as they like elsewhere, so the statement also says that no part of a grammar is ever run
at a cursor whose counts do not fit its text.
-/

namespace Backtrack

namespace Grammar

variable {text : Source} {mayExhaust : Prop} {room fuel : Nat}
variable {refs : String → Prop} {rules : Rules}

/-- At every place of a text, a custom parser replies, and with manners. -/
def KeepsManners (reply : Custom) : Prop :=
  ∀ (text : Source) (c : Cursor), c.Valid text → ∃ r, reply c = .ok r ∧ r.Mannered c

/-- Put together from the library's parsers, over any rules. -/
abbrev Mannered (g : Grammar) : Prop := g.Composed (fun _ => True) KeepsManners

theorem mem_parsers {call : Site → Parser Silent Value} {spot : Spot} {index : Nat}
    {gs : List Grammar} {p : Parser Silent Value} (h : p ∈ parsers fuel call spot index gs) :
    ∃ g ∈ gs, ∃ spot', p = g.parser fuel call spot' := by
  induction gs generalizing index with
  | nil => cases h
  | cons g gs ih =>
      rcases List.mem_cons.mp h with rfl | h
      · exact ⟨g, List.mem_cons_self, _, rfl⟩
      · obtain ⟨g', hg', hp⟩ := ih h
        exact ⟨g', List.mem_cons_of_mem g hg', hp⟩

/-- A grammar keeps the manners if the references in it do and the fuel is more than the
rounds of a repetition can take. -/
theorem parser_mannered {call : Site → Parser Silent Value} {g : Grammar} {spot : Spot}
    (hg : g.Composed refs KeepsManners)
    (hcall : ∀ name (s : Spot), refs name → (call (s.site name)).Mannered text mayExhaust room)
    (hfuel : mayExhaust ∨ room < fuel) :
    (g.parser fuel call spot).Mannered text mayExhaust room := by
  induction hg generalizing spot with
  | anyChar => exact Parser.mannered_map Parser.mannered_anyChar
  | literal expected => exact Parser.mannered_map (Parser.mannered_literal expected)
  | integer => exact Parser.mannered_map Parser.mannered_nonNegativeInteger
  | blank => exact Parser.mannered_map Parser.mannered_skipBlank
  | charactersUntil _ ih => exact Parser.mannered_map (Parser.mannered_charactersUntil ih)
  | always value => exact Parser.mannered_always value
  | never => exact Parser.mannered_never
  | map _ ih => exact Parser.mannered_map ih
  | bind _ _ ih ihnext =>
      refine Parser.mannered_bind ih fun c value rest hc hlen hreach _ => ?_
      exact ihnext value rest (hc.of_reaches hreach) (Nat.le_trans hreach.length_le hlen)
  | zip _ ih =>
      refine Parser.mannered_map (Parser.mannered_sequence fun p hp => ?_)
      obtain ⟨g, hg, spot', rfl⟩ := mem_parsers hp
      exact ih g hg
  | first _ ih =>
      refine Parser.mannered_first fun p hp => ?_
      obtain ⟨g, hg, spot', rfl⟩ := mem_parsers hp
      exact ih g hg
  | longest _ ih =>
      refine Parser.mannered_longest fun p hp => ?_
      obtain ⟨g, hg, spot', rfl⟩ := mem_parsers hp
      exact ih g hg
  | many _ _ ihe ihd => exact Parser.mannered_map (Parser.mannered_zeroOrMore ihe ihd hfuel)
  | boxed _ ih => exact ih
  | shared _ ih => exact ih
  | deferred hname => exact hcall _ spot hname
  | @custom reply hreply =>
      intro c hc _
      obtain ⟨r, hr, hmannered⟩ := hreply text c hc
      simp only [parser, hr]
      exact ends_pure hmannered

theorem callRule_mannered (hrules : ∀ name, (rules.body name).Mannered) (site : Site) :
    (callRule rules fuel site : Parser Silent Value).Mannered text True room := by
  induction fuel generalizing site with
  | zero => exact fun _ _ _ => trivial
  | succ fuel ih =>
      -- without a memory, a reference is the body of its rule
      intro c hc hlen
      exact parser_mannered (hrules site.rule) (fun name s _ => ih (s.site name)) (.inl trivial)
        c hc hlen

theorem interpret_mannered {g : Grammar} (hrules : ∀ rule ∈ rules, rule.2.body.Mannered)
    (hg : g.Mannered) :
    (g.interpret rules fuel : Parser Silent Value).Mannered text True room :=
  parser_mannered hg
    (fun name s _ => callRule_mannered (body_of_rules .never hrules) (s.site name)) (.inl trivial)

/-! ### Calls -/

/-- Words and nestings between commas, and a mark behind them. -/
def markedList : Grammar :=
  zip [commaSeparated (or
      (or (longestLiteral ["a", "é"] .unit) (firstLiteral ["b", "bc"] .unit))
      (deferred "nesting")),
    literal "!"]

end Grammar

namespace Session

/-- How a call of `parse` at the scalar `offset` of `text` may end: exhausted, or with a
reply at a place of `text`, which for a failure is exactly the entry and for a match lies
at the entry or further on. In particular it does not end with a fault. -/
def EndsMannerly (text : Source) (offset : Nat) (result : Except Halt Answer) : Prop :=
  ∃ entry, Cursor.locate text offset = .ok entry ∧ entry.Valid text ∧ entry.position = offset ∧
    (result = .error .exhausted ∨
      ∃ reply, result = .ok (.reply reply) ∧ reply.rest.Valid text ∧
        (reply.isDone = false → reply.rest = entry) ∧
        (reply.isDone = true →
          offset ≤ reply.rest.position ∧ reply.rest.position ≤ text.length))

/-- **Manners of every composition.** A parser put together from the library's parsers,
over rules of this kind, keeps the manners at every place of every text, whatever bound it
is given and whatever it was asked before. -/
theorem parse_mannered {rules : Rules} {root : Grammar}
    (hrules : ∀ rule ∈ rules, rule.2.body.Mannered) (hroot : root.Mannered) (fuel : Nat)
    (earlier : List Call) {text : Source} {offset : Nat} (hoffset : offset ≤ text.length) :
    EndsMannerly text offset
      (((fresh rules root fuel).calls earlier).2.call (.parse text offset)).1.result := by
  obtain ⟨entry, hlocate, hvalid, hposition⟩ := Cursor.locate_eq_ok hoffset
  refine ⟨entry, hlocate, hvalid, hposition, ?_⟩
  have hends : Ends True (Reply.Mannered entry) (Parser.parse (root.interpret rules fuel) entry) :=
    Grammar.interpret_mannered hrules hroot entry hvalid (Nat.le_refl _)
  rw [call_calls_result (consistent_fresh rules root fuel), perform_parse hlocate]
  rcases hends.exhausted_or_ok with hparse | ⟨reply, hparse, hreply⟩
  · exact .inl (congrArg _ hparse)
  · have hrest := hvalid.of_reaches hreply.reaches
    refine .inr ⟨reply, congrArg _ hparse, hrest, fun hfail => ?_, fun _ => ?_⟩
    · cases reply with
      | done value rest => cases hfail
      | fail rest => exact hreply
    · rw [← hposition]
      exact ⟨hreply.reaches.position_le, hrest.position_le⟩

/-- On a parser that was used before, a list without its mark: the list is read and given back,
so that the reply is a failure at the entry. With the mark, the same list is a match. -/
theorem parse_mannered_nesting :
    EndsMannerly "é, (())" 3
      (((fresh Grammar.nestingRules Grammar.markedList 9).calls [.run "((", .parse "()" 1]).2.call
        (.parse "é, (())" 3)).1.result ∧
    (((fresh Grammar.nestingRules Grammar.markedList 9).calls [.run "((", .parse "()" 1]).2.call
        (.parse "é, (())" 3)).1.result =
      .ok (.reply (.fail ⟨"é, (())", 3, 4, ['(', '(', ')', ')']⟩)) ∧
    (((fresh Grammar.nestingRules Grammar.markedList 9).calls [.run "((", .parse "()" 1]).2.call
        (.parse "é, (())!" 0)).1.result =
      .ok (.reply (.done (.tuple [.list [.unit, .int 2], .unit]) ⟨"é, (())!", 8, 9, []⟩)) := by
  have hconsistent := consistent_fresh Grammar.nestingRules Grammar.markedList 9
  have hwords : Grammar.Mannered
      (.or (.longestLiteral ["a", "é"] .unit) (.firstLiteral ["b", "bc"] .unit)) :=
    Grammar.composed_or (Grammar.composed_longestLiteral _ _) (Grammar.composed_firstLiteral _ _)
  have hroot : Grammar.markedList.Mannered := by
    refine .zip fun g hg => ?_
    simp only [List.mem_cons, List.not_mem_nil, or_false] at hg
    rcases hg with rfl | rfl
    · exact Grammar.composed_commaSeparated (Grammar.composed_or hwords (.deferred trivial))
    · exact .literal "!"
  refine ⟨parse_mannered (fun rule hrule => ?_) hroot 9 [.run "((", .parse "()" 1] (by decide),
    ?_, ?_⟩
  · rw [List.mem_singleton.mp hrule]
    exact Grammar.composed_nesting trivial
  · rw [call_calls_result hconsistent]
    decide +kernel
  · rw [call_calls_result hconsistent]
    decide +kernel

end Session

end Backtrack
