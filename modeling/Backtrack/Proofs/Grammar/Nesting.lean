import Backtrack.Proofs.Grammar.Forgetting
import Backtrack.Proofs.Places
import Backtrack.Proofs.Reading

/-!
# Backtrack.Proofs.Grammar.Nesting

**What a rule that refers to itself recognises.** `Grammar.nesting` reads a parenthesis, itself,
and a parenthesis that closes the first one, or else nothing at all. Each level is built when
the one around it gets there, and a level that finds no partner gives everything back, so that
the level around it sees nothing in its place and finds no partner either.

The reference is opened once: `Grammar.interpret_nesting_succ` says that a nesting is an
`enclosed` nesting with a smaller bound. What `enclosed` does to any parser inside of it is told
by three rules, one for each way in which it can go. The rest is an induction on the number of
parentheses that are open (`Parens`).
-/

namespace Backtrack

/-! ### One level -/

namespace Parser

/-- A parenthesis, what `p` reads, and the parenthesis that closes the first one. -/
def level (p : Parser Silent Value) : Parser Silent (List Value) :=
  sequence [(literal "(").as .unit, p, (literal ")").as .unit]

/-- A level around `p`, which counts for one more, or nothing at all. -/
def enclosed (p : Parser Silent Value) : Parser Silent Value :=
  first [((level p).map .tuple).map Mapping.successor.apply, always (.int 0)]

variable {p : Parser Silent Value} {run rest cs : List Char} {depth : Nat} {value : Value}

theorem reads_opening (rest : List Char) : ((literal "(").as Value.unit).Reads ['('] .unit rest :=
  (reads_scalar "(" '(' rfl rest).map

theorem reads_closing (rest : List Char) : ((literal ")").as Value.unit).Reads [')'] .unit rest :=
  (reads_scalar ")" ')' rfl rest).map

theorem enclosed_reads_of_refuses (h : (level p).Refuses cs) :
    (enclosed p).Reads [] (.int 0) cs :=
  h.map.map.reads_first (reads_always (Value.int 0) cs).first

theorem enclosed_reads_nothing (p : Parser Silent Value) (h : cs.head? ≠ some '(') :
    (enclosed p).Reads [] (.int 0) cs := by
  have hopening : ((literal "(").as Value.unit).Refuses cs := (refuses_scalar "(" '(' rfl h).map
  exact enclosed_reads_of_refuses hopening.sequence

theorem enclosed_reads_level (hp : p.Reads run (.int depth) (')' :: rest)) :
    (enclosed p).Reads ('(' :: (run ++ [')'])) (.int (depth + 1)) rest := by
  have hlevel := (reads_opening _).sequence_three hp (reads_closing rest)
  have hdepth : Mapping.successor.apply (.tuple [.unit, .int depth, .unit]) = .int (depth + 1) := by
    simp [Mapping.apply, Value.sum, Value.sumAll]
  have hreads := hlevel.map (f := Value.tuple)
  have hreads' := hreads.map (f := Mapping.successor.apply)
  rw [hdepth] at hreads'
  exact hreads'.first

/-- Without a partner, the whole level is given back. -/
theorem enclosed_gives_back (hp : p.Reads run value rest) (h : rest.head? ≠ some ')') :
    (enclosed p).Reads [] (.int 0) ('(' :: (run ++ rest)) := by
  have hclosing : ((literal ")").as Value.unit).Refuses rest := (refuses_scalar ")" ')' rfl h).map
  exact enclosed_reads_of_refuses (Refuses.sequence_third (reads_opening _) hp hclosing)

end Parser

/-! ### Parentheses at the start of a text -/

namespace Grammar

/-- `cs` begins with exactly `opened` opening parentheses, then come exactly `closed` closing
ones, and `tail` is what is left. -/
structure Parens (opened closed : Nat) (cs tail : List Char) : Prop where
  eq_append : cs = List.replicate opened '(' ++ (List.replicate closed ')' ++ tail)
  none_opened : closed = 0 → tail.head? ≠ some '('
  none_closed : tail.head? ≠ some ')'

/-- A text can be split behind the scalars `ch` that it begins with. -/
theorem exists_replicate_append (ch : Char) (cs : List Char) :
    ∃ count tail, cs = List.replicate count ch ++ tail ∧ tail.head? ≠ some ch := by
  induction cs with
  | nil => exact ⟨0, [], rfl, by simp⟩
  | cons next cs ih =>
      by_cases h : next = ch
      · obtain ⟨count, tail, heq, htail⟩ := ih
        exact ⟨count + 1, tail, by rw [h, heq, List.replicate_succ, List.cons_append], htail⟩
      · exact ⟨0, next :: cs, rfl, by simpa using h⟩

/-- Every text begins with some parentheses, be it none. -/
theorem exists_parens (cs : List Char) : ∃ opened closed tail, Parens opened closed cs tail := by
  obtain ⟨opened, behind, rfl, hopened⟩ := exists_replicate_append '(' cs
  obtain ⟨closed, tail, rfl, hclosed⟩ := exists_replicate_append ')' behind
  refine ⟨opened, closed, tail, rfl, ?_, hclosed⟩
  rintro rfl
  simpa using hopened

/-! ### From level to level -/

/-- Inside of a nesting is a nesting, as long as references may be nested. -/
theorem interpret_nesting_succ (fuel : Nat) :
    (nesting.interpret nestingRules (fuel + 1) : Parser Silent Value) =
      .enclosed (nesting.interpret nestingRules fuel) := rfl

/-- Whatever the bound is, there is a first level. -/
theorem exists_interpret_nesting (fuel : Nat) :
    ∃ p, (nesting.interpret nestingRules fuel : Parser Silent Value) = .enclosed p := ⟨_, rfl⟩

variable {opened closed fuel : Nat} {cs tail : List Char}

theorem Parens.head?_ne (h : Parens 0 closed cs tail) : cs.head? ≠ some '(' := by
  rw [h.eq_append]
  cases closed with
  | zero => simpa using h.none_opened rfl
  | succ closed => simp [List.replicate_succ]

/-- Behind the first opening parenthesis, one less is open. -/
theorem Parens.inside (h : Parens (opened + 1) closed cs tail) :
    ∃ inner, cs = '(' :: inner ∧ Parens opened closed inner tail :=
  ⟨_, h.eq_append, rfl, h.none_opened, h.none_closed⟩

theorem replicate_level (opened : Nat) :
    '(' :: ((List.replicate opened '(' ++ List.replicate opened ')') ++ [')']) =
      List.replicate (opened + 1) '(' ++ List.replicate (opened + 1) ')' := by
  rw [List.replicate_succ (a := '('), List.replicate_succ' (a := ')'), List.cons_append,
    List.append_assoc]

/-- Where enough parentheses are closed, each of those that are open has its partner. Else the
outermost one has none, and nothing is read. -/
theorem Parens.nesting_reads (h : Parens opened closed cs tail) (hfuel : opened ≤ fuel) :
    (opened ≤ closed →
      (nesting.interpret nestingRules fuel).Reads
        (List.replicate opened '(' ++ List.replicate opened ')') (.int opened)
        (List.replicate (closed - opened) ')' ++ tail)) ∧
    (closed < opened →
      (nesting.interpret nestingRules fuel).Reads [] (.int 0) cs) := by
  induction opened generalizing fuel cs with
  | zero =>
      obtain ⟨p, hp⟩ := exists_interpret_nesting fuel
      rw [hp]
      have hnothing := Parser.enclosed_reads_nothing p h.head?_ne
      rw [h.eq_append] at hnothing
      exact ⟨fun _ => hnothing, fun hlt => absurd hlt (Nat.not_lt_zero closed)⟩
  | succ opened ih =>
      obtain ⟨fuel, rfl⟩ : ∃ k, fuel = k + 1 := ⟨fuel - 1, by omega⟩
      rw [interpret_nesting_succ]
      obtain ⟨inner, rfl, hinner⟩ := h.inside
      obtain ⟨hpairs, hnone⟩ := ih hinner (Nat.le_of_succ_le_succ hfuel)
      constructor
      · intro hle
        have hreads := hpairs (Nat.le_of_succ_le hle)
        -- the inner levels leave a partner for this one
        obtain ⟨spare, hspare⟩ : ∃ spare, closed - opened = spare + 1 :=
          ⟨closed - opened - 1, by omega⟩
        have hleft : closed - (opened + 1) = spare := by omega
        rw [hspare, List.replicate_succ, List.cons_append] at hreads
        rw [hleft, ← replicate_level]
        exact Parser.enclosed_reads_level hreads
      · intro hlt
        rcases Nat.lt_succ_iff_lt_or_eq.mp hlt with hlt | rfl
        · -- the level inside has read nothing, so this one still sees it open
          have hopen : inner.head? ≠ some ')' := by
            obtain ⟨opened, rfl⟩ : ∃ k, opened = k + 1 := ⟨opened - 1, by omega⟩
            obtain ⟨innermost, rfl, -⟩ := hinner.inside
            simp
          exact Parser.enclosed_gives_back (hnone hlt) hopen
        · -- the levels inside have taken all the partners there were
          have hreads := hpairs (Nat.le_refl closed)
          rw [Nat.sub_self, List.replicate_zero, List.nil_append] at hreads
          have hback := Parser.enclosed_gives_back hreads h.none_closed
          rwa [List.append_assoc, ← hinner.eq_append] at hback

/-- Where enough parentheses are closed, the pairs come first. -/
theorem Parens.eq_pairs_append (h : Parens opened closed cs tail) (hle : opened ≤ closed) :
    cs = (List.replicate opened '(' ++ List.replicate opened ')') ++
      (List.replicate (closed - opened) ')' ++ tail) := by
  have hclosed : List.replicate closed ')' =
      List.replicate opened ')' ++ List.replicate (closed - opened) ')' := by
    rw [List.replicate_append_replicate, Nat.add_sub_cancel' hle]
  rw [h.eq_append, hclosed]
  simp only [List.append_assoc]

theorem Parens.length_le (h : Parens opened closed cs tail) : opened ≤ cs.length := by
  rw [h.eq_append]
  simp only [List.length_append, List.length_replicate]
  omega

/-- Wherever it stands, a nesting reads some pairs of parentheses, and gives their number. -/
theorem exists_nesting_reads (hfuel : cs.length ≤ fuel) :
    ∃ n rest, cs = (List.replicate n '(' ++ List.replicate n ')') ++ rest ∧
      (nesting.interpret nestingRules fuel).Reads
        (List.replicate n '(' ++ List.replicate n ')') (.int n) rest := by
  obtain ⟨opened, closed, tail, hparens⟩ := exists_parens cs
  obtain ⟨hpairs, hnone⟩ := hparens.nesting_reads (Nat.le_trans hparens.length_le hfuel)
  by_cases hle : opened ≤ closed
  · exact ⟨opened, _, hparens.eq_pairs_append hle, hpairs hle⟩
  · exact ⟨0, cs, rfl, hnone (Nat.lt_of_not_le hle)⟩

/-- A whole text is a nesting if it is made of pairs. -/
theorem run_nesting {text : Source} (hfuel : text.length ≤ fuel) :
    ∃ answer, (nesting.interpret nestingRules fuel).run text = (.ok answer : Silent _) ∧
      ∀ value, answer = some value ↔ ∃ n, value = .int n ∧
        text.toList = List.replicate n '(' ++ List.replicate n ')' := by
  rw [← Source.length_toList] at hfuel
  obtain ⟨n, rest, htext, hreads⟩ := exists_nesting_reads hfuel
  refine ⟨_, hreads.run_eq htext, fun value => ?_⟩
  constructor
  · intro hvalue
    by_cases hrest : rest = []
    · rw [if_pos hrest, Option.some.injEq] at hvalue
      exact ⟨n, hvalue.symm, by rw [htext, hrest, List.append_nil]⟩
    · rw [if_neg hrest] at hvalue
      cases hvalue
  · rintro ⟨k, rfl, hpairs⟩
    have hparens : Parens k k text.toList [] := ⟨by simpa using hpairs, by simp, by simp⟩
    have hall := (hparens.nesting_reads (Nat.le_trans hparens.length_le hfuel)).1 (Nat.le_refl k)
    rw [Nat.sub_self, List.replicate_zero, List.nil_append] at hall
    have hrun := hall.run_eq (by rw [hpairs, List.append_nil])
    rw [hreads.run_eq htext, if_pos rfl] at hrun
    exact Except.ok.inj hrun

end Grammar

namespace Session

open Grammar (nesting nestingRules Parens)

/-- What a parser reads off the scalars ahead, a call at any place of a text answers. -/
theorem call_parse_of_reads {rules : Rules} {root : Grammar} {fuel : Nat} {run rest : List Char}
    {value : Value} (h : (root.interpret rules fuel).Reads run value rest) (earlier : List Call)
    {text : Source} {offset : Nat} {entry : Cursor}
    (hlocate : Cursor.locate text offset = .ok entry) (hentry : entry.rest = run ++ rest) :
    (((fresh rules root fuel).calls earlier).2.call (.parse text offset)).1.result =
      .ok (.reply (.done value (entry.advance run))) := by
  rw [call_calls_result (consistent_fresh rules root fuel), perform_parse hlocate]
  exact congrArg _ (h entry hentry)

/-- **A nesting is read exactly.** As a whole text, nestings are `n` opening parentheses and
then `n` closing ones, for any `n`, and their value is `n`. At any place of any text: if at
least as many parentheses are closed as were opened, the match takes as many of both as were
opened; else nothing is read, whatever the levels inside have found. The bound is any that
allows for the parentheses that are open, and so is what was asked before. -/
theorem nesting_reads_pairs (fuel : Nat) (earlier : List Call) (text : Source) :
    (text.length ≤ fuel → ∃ answer,
      (((fresh nestingRules nesting fuel).calls earlier).2.call (.run text)).1.result =
        .ok (.wholeMatch answer) ∧
      ∀ value, answer = some value ↔ ∃ n, value = .int n ∧
        text.toList = List.replicate n '(' ++ List.replicate n ')') ∧
    ∀ (offset : Nat) (entry : Cursor) (opened closed : Nat) (tail : List Char),
      Cursor.locate text offset = .ok entry → Parens opened closed entry.rest tail →
      opened ≤ fuel →
      (opened ≤ closed → ∃ rest, Cursor.locate text (offset + 2 * opened) = .ok rest ∧
        (((fresh nestingRules nesting fuel).calls earlier).2.call (.parse text offset)).1.result =
          .ok (.reply (.done (.int opened) rest))) ∧
      (closed < opened →
        (((fresh nestingRules nesting fuel).calls earlier).2.call (.parse text offset)).1.result =
          .ok (.reply (.done (.int 0) entry))) := by
  constructor
  · intro hfuel
    obtain ⟨answer, hrun, hanswer⟩ := Grammar.run_nesting hfuel
    refine ⟨answer, ?_, hanswer⟩
    rw [call_calls_result (consistent_fresh nestingRules nesting fuel)]
    exact congrArg (Except.map Answer.wholeMatch) hrun
  · intro offset entry opened closed tail hlocate hparens hfuel
    obtain ⟨hpairs, hnone⟩ := hparens.nesting_reads hfuel
    constructor
    · intro hle
      have hentry := hparens.eq_pairs_append hle
      refine ⟨_, ?_, call_parse_of_reads (hpairs hle) earlier hlocate hentry⟩
      have hbehind := Cursor.locate_advance hlocate ⟨_, hentry.symm⟩
      rwa [List.length_append, List.length_replicate, List.length_replicate, ← Nat.two_mul]
        at hbehind
    · intro hlt
      have hcall := call_parse_of_reads (hnone hlt) earlier hlocate (List.nil_append _).symm
      rwa [Cursor.advance_nil] at hcall

/-- Two levels behind a scalar of two bytes, on a parser that was used before. Of three levels
with two partners, none is read. -/
theorem nesting_reads_pairs_levels :
    Parens 2 3 ['(', '(', ')', ')', ')'] [] ∧
    (((fresh nestingRules nesting 6).calls [.run "(("]).2.call (.parse "é(()))" 1)).1.result =
      .ok (.reply (.done (.int 2) ⟨"é(()))", 5, 6, [')']⟩)) ∧
    (((fresh nestingRules nesting 6).calls [.run "(("]).2.call (.parse "é((())" 1)).1.result =
      .ok (.reply (.done (.int 0) ⟨"é((())", 1, 2, ['(', '(', '(', ')', ')']⟩)) ∧
    (((fresh nestingRules nesting 6).calls [.run "(("]).2.call (.run "((()))")).1.result =
      .ok (.wholeMatch (some (.int 3))) := by
  have htwo : Parens 2 3 ['(', '(', ')', ')', ')'] [] := ⟨rfl, by simp, by simp⟩
  have hthree : Parens 3 2 ['(', '(', '(', ')', ')'] [] := ⟨rfl, by simp, by simp⟩
  refine ⟨htwo, ?_, ?_, ?_⟩
  · obtain ⟨rest, hrest, hcall⟩ := ((nesting_reads_pairs 6 [.run "(("] "é(()))").2 1 _ 2 3 []
      rfl htwo (by decide)).1 (by decide)
    rw [hcall, ← Except.ok.inj hrest]
    rfl
  · exact ((nesting_reads_pairs 6 [.run "(("] "é((())").2 1 _ 3 2 [] rfl hthree
      (by decide)).2 (by decide)
  · obtain ⟨answer, hcall, hanswer⟩ := (nesting_reads_pairs 6 [.run "(("] "((()))").1 (by decide)
    rw [hcall, (hanswer (.int 3)).mpr ⟨3, rfl, rfl⟩]

end Session

end Backtrack
