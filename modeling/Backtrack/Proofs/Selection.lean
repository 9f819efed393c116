import Backtrack.Proofs.Conduct
import Backtrack.Proofs.Flattening
import Mathlib.Order.Bounds.Basic

/-!
# Backtrack.Proofs.Selection

**Which candidate a choice takes.** `longest` goes through its candidates with the best match
so far. What it ends up with can be said without the scan: the match of the least candidate
among those that reach furthest (`Leads`). Failures do not count wherever they are left, and
neither does a match that went back unless there is no better one. Where several candidates
end together, their order decides which of them is taken, but not how far the choice gets.

`first` takes the least candidate that matches, provided that those before it have failed in
place. For such candidates the two choices accept the same texts, and they differ exactly if
a candidate behind the first match goes further (`first_agrees_with_longest`).
-/

namespace Backtrack.Parser

variable {α : Type} {text : Source} {c : Cursor} {p : Parser Silent α}
variable {ps ps' : List (Parser Silent α)} {index other : Nat} {value value' : α}
variable {rest rest' : Cursor}

/-! ### Candidates by number -/

/-- The candidate `index` matches at `c`, with `value` and up to `rest`. -/
def MatchesAt (c : Cursor) (ps : List (Parser Silent α)) (index : Nat) (value : α)
    (rest : Cursor) : Prop :=
  ∃ p, ps[index]? = some p ∧ p.parse c = .ok (.done value rest)

/-- The candidates that match at `c`. -/
def matching (c : Cursor) (ps : List (Parser Silent α)) : Set Nat :=
  {index | ∃ value rest, MatchesAt c ps index value rest}

/-- The candidates whose match at `c` ends at the furthest position that any of them ends at. -/
def reachingFurthest (c : Cursor) (ps : List (Parser Silent α)) : Set Nat :=
  {index | ∃ value rest, MatchesAt c ps index value rest ∧ ∀ other value' rest',
    MatchesAt c ps other value' rest' → rest'.position ≤ rest.position}

@[simp] theorem matchesAt_zero :
    MatchesAt c (p :: ps) 0 value rest ↔ p.parse c = .ok (.done value rest) := by
  simp [MatchesAt]

@[simp] theorem matchesAt_succ :
    MatchesAt c (p :: ps) (index + 1) value rest ↔ MatchesAt c ps index value rest := by
  simp [MatchesAt]

theorem exists_matchesAt_iff :
    (∃ index, MatchesAt c ps index value rest) ↔ ∃ p ∈ ps, p.parse c = .ok (.done value rest) := by
  constructor
  · rintro ⟨index, p, hp, hparse⟩
    exact ⟨p, List.mem_of_getElem? hp, hparse⟩
  · rintro ⟨p, hp, hparse⟩
    obtain ⟨index, hindex⟩ := List.mem_iff_getElem?.mp hp
    exact ⟨index, p, hindex, hparse⟩

theorem MatchesAt.unique (h : MatchesAt c ps index value rest)
    (h' : MatchesAt c ps index value' rest') : value' = value ∧ rest' = rest := by
  obtain ⟨p, hp, hparse⟩ := h
  obtain ⟨p', hp', hparse'⟩ := h'
  obtain rfl : p' = p := Option.some.inj (hp'.symm.trans hp)
  exact Reply.done.inj (Except.ok.inj (hparse'.symm.trans hparse))

theorem MatchesAt.not_all_fail (h : MatchesAt c ps index value rest) :
    ¬ ∀ p ∈ ps, ∃ failed, p.parse c = .ok (.fail failed) := by
  intro hfail
  obtain ⟨p, hp, hparse⟩ := h
  obtain ⟨failed, hfailed⟩ := hfail p (List.mem_of_getElem? hp)
  cases hparse.symm.trans hfailed

/-! ### The furthest match -/

/-- The candidate `index` wins: no match goes further than its own, and none of those before
it goes as far. -/
structure Leads (c : Cursor) (ps : List (Parser Silent α)) (index : Nat) (value : α)
    (rest : Cursor) : Prop where
  found : MatchesAt c ps index value rest
  furthest : ∀ {other value' rest'}, MatchesAt c ps other value' rest' →
    rest'.position ≤ rest.position
  earliest : ∀ {other value' rest'}, other < index → MatchesAt c ps other value' rest' →
    rest'.position < rest.position

theorem Leads.isLeast (h : Leads c ps index value rest) :
    IsLeast (reachingFurthest c ps) index := by
  refine ⟨⟨value, rest, h.found, fun _ _ _ => h.furthest⟩, ?_⟩
  rintro other ⟨value', rest', hother, hfurthest⟩
  by_contra hlt
  have hbefore := h.earliest (Nat.lt_of_not_le hlt) hother
  have hbehind := hfurthest _ _ _ h.found
  omega

theorem leads_head (hp : p.parse c = .ok (.done value rest))
    (hps : ∀ other value' rest', MatchesAt c ps other value' rest' →
      rest'.position ≤ rest.position) : Leads c (p :: ps) 0 value rest where
  found := matchesAt_zero.mpr hp
  furthest := by
    intro other value' rest' hother
    cases other with
    | zero =>
        obtain ⟨rfl, rfl⟩ := (matchesAt_zero.mpr hp).unique hother
        exact Nat.le_refl _
    | succ other => exact hps other value' rest' (matchesAt_succ.mp hother)
  earliest := fun hlt => absurd hlt (Nat.not_lt_zero _)

theorem Leads.later (h : Leads c ps index value rest)
    (hp : ∀ value' rest', p.parse c = .ok (.done value' rest') → rest'.position < rest.position) :
    Leads c (p :: ps) (index + 1) value rest where
  found := matchesAt_succ.mpr h.found
  furthest := by
    intro other value' rest' hother
    cases other with
    | zero => exact Nat.le_of_lt (hp value' rest' (matchesAt_zero.mp hother))
    | succ other => exact h.furthest (matchesAt_succ.mp hother)
  earliest := by
    intro other value' rest' hlt hother
    cases other with
    | zero => exact hp value' rest' (matchesAt_zero.mp hother)
    | succ other => exact h.earliest (Nat.lt_of_succ_lt_succ hlt) (matchesAt_succ.mp hother)

/-- What a scan comes to: nothing if all candidates fail, and else the match of the winner. -/
def Selected (c : Cursor) (ps : List (Parser Silent α)) : Option (α × Cursor) → Prop
  | none => ∀ p ∈ ps, ∃ failed, p.parse c = .ok (.fail failed)
  | some (value, rest) => ∃ index, Leads c ps index value rest

theorem Selected.cons_fail {found : Option (α × Cursor)} {failed : Cursor}
    (h : Selected c ps found) (hp : p.parse c = .ok (.fail failed)) :
    Selected c (p :: ps) found := by
  rcases found with _ | ⟨value, rest⟩
  · exact List.forall_mem_cons.mpr ⟨⟨failed, hp⟩, h⟩
  · obtain ⟨index, hleads⟩ := h
    refine ⟨index + 1, hleads.later fun value' rest' hdone => ?_⟩
    cases hdone.symm.trans hp

theorem Selected.cons_done {found : Option (α × Cursor)} (h : Selected c ps found)
    (hp : p.parse c = .ok (.done value rest)) :
    Selected c (p :: ps) (furtherOf (some (value, rest)) found) := by
  rcases found with _ | ⟨value', rest'⟩
  · refine ⟨0, leads_head hp fun other value' rest' hother => ?_⟩
    exact absurd h hother.not_all_fail
  · obtain ⟨index, hleads⟩ := h
    rw [furtherOf_some, further]
    split
    case isTrue hlt =>
      refine ⟨index + 1, hleads.later fun value'' rest'' hdone => ?_⟩
      obtain ⟨rfl, rfl⟩ := Reply.done.inj (Except.ok.inj (hp.symm.trans hdone))
      exact hlt
    case isFalse hle =>
      -- the later match ends together with this one at most, so it does not replace it
      refine ⟨0, leads_head hp fun other value'' rest'' hother => ?_⟩
      exact Nat.le_trans (hleads.furthest hother) (Nat.le_of_not_lt hle)

/-- A scan from the left leaves the winner, since the winner of the candidates behind the
first one only has to be compared with that. -/
theorem furthest_selected (hps : ∀ p ∈ ps, ∃ reply, p.parse c = .ok reply) :
    ∃ found, furthest c ps none = .ok found ∧ Selected c ps found := by
  induction ps with
  | nil => exact ⟨none, rfl, by simp [Selected]⟩
  | cons p ps ih =>
      obtain ⟨⟨reply, hp⟩, hps⟩ := List.forall_mem_cons.mp hps
      obtain ⟨found, hfound, hselected⟩ := ih hps
      cases reply with
      | fail failed =>
          refine ⟨found, ?_, hselected.cons_fail hp⟩
          simp [furthest, hp, hfound]
      | done value rest =>
          refine ⟨furtherOf (some (value, rest)) found, ?_, hselected.cons_done hp⟩
          have hscan := furthest_eq_furtherOf c ps (some (value, rest))
          simp [furthest, hp, further, hscan, hfound]

theorem longest_cases (hps : ∀ p ∈ ps, ∃ reply, p.parse c = .ok reply) :
    (∀ p ∈ ps, ∃ failed, p.parse c = .ok (.fail failed)) ∧
        (longest ps).parse c = .ok (.fail c) ∨
      ∃ index value rest, Leads c ps index value rest ∧
        (longest ps).parse c = .ok (.done value rest) := by
  obtain ⟨found, hfound, hselected⟩ := furthest_selected hps
  rcases found with _ | ⟨value, rest⟩
  · exact .inl ⟨hselected, by simp [longest, hfound]⟩
  · obtain ⟨index, hleads⟩ := hselected
    exact .inr ⟨index, value, rest, hleads, by simp [longest, hfound]⟩

/-! ### Candidates in another order -/

theorem Leads.position_le (h : Leads c ps index value rest) (hsubset : ps' ⊆ ps)
    (hother : MatchesAt c ps' other value' rest') : rest'.position ≤ rest.position := by
  obtain ⟨p, hp, hparse⟩ := exists_matchesAt_iff.mp ⟨other, hother⟩
  obtain ⟨place, hplace⟩ := exists_matchesAt_iff.mpr ⟨p, hsubset hp, hparse⟩
  exact h.furthest hplace

/-- The order of the candidates does not decide whether a choice matches, nor how far. -/
theorem longest_position_of_perm (hps : ∀ p ∈ ps, ∃ reply, p.parse c = .ok reply)
    (hperm : ps'.Perm ps) :
    ∃ reply reply', (longest ps).parse c = .ok reply ∧ (longest ps').parse c = .ok reply' ∧
      reply'.isDone = reply.isDone ∧ reply'.rest.position = reply.rest.position := by
  have hps' : ∀ p ∈ ps', ∃ reply, p.parse c = .ok reply := fun p hp => hps p (hperm.subset hp)
  rcases longest_cases hps with ⟨hfail, hlongest⟩ | ⟨index, value, rest, hleads, hlongest⟩
  · rcases longest_cases hps' with ⟨-, hlongest'⟩ | ⟨index', value', rest', hleads', -⟩
    · exact ⟨_, _, hlongest, hlongest', rfl, rfl⟩
    · exact absurd (fun p hp => hfail p (hperm.subset hp)) hleads'.found.not_all_fail
  · rcases longest_cases hps' with ⟨hfail', -⟩ | ⟨index', value', rest', hleads', hlongest'⟩
    · exact absurd (fun p hp => hfail' p (hperm.symm.subset hp)) hleads.found.not_all_fail
    · refine ⟨_, _, hlongest, hlongest', rfl, ?_⟩
      exact Nat.le_antisymm (hleads.position_le hperm.subset hleads'.found)
        (hleads'.position_le hperm.symm.subset hleads.found)

/-- **`longest` takes the earliest of the furthest matches.** Whatever its candidates are, as
long as they have a reply: it fails, at its entry, exactly if they all fail; else its reply is
that of the least candidate among those that reach furthest. So how far it gets does not
depend on the order of the candidates. -/
theorem longest_takes_earliest_furthest (hps : ∀ p ∈ ps, ∃ reply, p.parse c = .ok reply) :
    ((longest ps).parse c = .ok (.fail c) ↔
      ∀ p ∈ ps, ∃ failed, p.parse c = .ok (.fail failed)) ∧
    ((¬ ∀ p ∈ ps, ∃ failed, p.parse c = .ok (.fail failed)) →
      ∃ index value rest, IsLeast (reachingFurthest c ps) index ∧
        MatchesAt c ps index value rest ∧ (longest ps).parse c = .ok (.done value rest)) ∧
    ∀ ps', ps'.Perm ps → ∃ reply reply', (longest ps).parse c = .ok reply ∧
      (longest ps').parse c = .ok reply' ∧ reply'.isDone = reply.isDone ∧
      reply'.rest.position = reply.rest.position := by
  refine ⟨?_, ?_, fun ps' hperm => longest_position_of_perm hps hperm⟩
  · rcases longest_cases hps with ⟨hfail, hlongest⟩ | ⟨index, value, rest, hleads, hlongest⟩
    · exact iff_of_true hlongest hfail
    · refine iff_of_false (fun h => ?_) hleads.found.not_all_fail
      cases hlongest.symm.trans h
  · intro hmatch
    rcases longest_cases hps with ⟨hfail, -⟩ | ⟨index, value, rest, hleads, hlongest⟩
    · exact absurd hfail hmatch
    · exact ⟨index, value, rest, hleads.isLeast, hleads.found, hlongest⟩

/-- A candidate that leaks, one that goes back, and two that end together. -/
def rivals : List (Parser Silent Value) :=
  [(Grammar.leak 2).interpret [] 0, (Grammar.jump 0).interpret [] 0,
    (Grammar.literal "bc").interpret [] 0, (Grammar.jump 3).interpret [] 0]

/-- The literal wins the tie, and the other one does if the candidates are turned around. -/
theorem longest_takes_earliest_furthest_rivals :
    (∀ p ∈ rivals, ∃ reply, p.parse ⟨"abc", 1, 1, ['b', 'c']⟩ = .ok reply) ∧
    (∃ index value rest, IsLeast (reachingFurthest ⟨"abc", 1, 1, ['b', 'c']⟩ rivals) index ∧
      MatchesAt ⟨"abc", 1, 1, ['b', 'c']⟩ rivals index value rest ∧
      (longest rivals).parse ⟨"abc", 1, 1, ['b', 'c']⟩ = .ok (.done value rest)) ∧
    (longest rivals).parse ⟨"abc", 1, 1, ['b', 'c']⟩ = .ok (.done .unit ⟨"abc", 3, 3, []⟩) ∧
    (longest rivals.reverse).parse ⟨"abc", 1, 1, ['b', 'c']⟩ =
      .ok (.done (.int 3) ⟨"abc", 3, 3, []⟩) ∧
    ∃ reply reply', (longest rivals).parse ⟨"abc", 1, 1, ['b', 'c']⟩ = .ok reply ∧
      (longest rivals.reverse).parse ⟨"abc", 1, 1, ['b', 'c']⟩ = .ok reply' ∧
      reply'.isDone = reply.isDone ∧ reply'.rest.position = reply.rest.position := by
  have hreply : ∀ p ∈ rivals, ∃ reply, p.parse ⟨"abc", 1, 1, ['b', 'c']⟩ = .ok reply := by
    simp only [rivals, List.forall_mem_cons]
    exact ⟨⟨_, rfl⟩, ⟨_, rfl⟩, ⟨_, rfl⟩, ⟨_, rfl⟩, by simp⟩
  obtain ⟨-, hmatch, hperm⟩ := longest_takes_earliest_furthest hreply
  refine ⟨hreply, hmatch fun hfail => ?_, rfl, rfl, hperm _ (List.reverse_perm rivals)⟩
  obtain ⟨failed, hfailed⟩ := hfail ((Grammar.jump 0).interpret [] 0) (by simp [rivals])
  cases hfailed

/-! ### The first match -/

theorem isLeast_matching_zero (hp : p.parse c = .ok (.done value rest)) :
    IsLeast (matching c (p :: ps)) 0 :=
  ⟨⟨value, rest, matchesAt_zero.mpr hp⟩, fun _ _ => Nat.zero_le _⟩

theorem isLeast_matching_succ {failed : Cursor} (hp : p.parse c = .ok (.fail failed))
    (h : IsLeast (matching c ps) index) : IsLeast (matching c (p :: ps)) (index + 1) := by
  obtain ⟨⟨value, rest, hfound⟩, hleast⟩ := h
  refine ⟨⟨value, rest, matchesAt_succ.mpr hfound⟩, ?_⟩
  rintro other ⟨value', rest', hother⟩
  cases other with
  | zero => cases hp.symm.trans (matchesAt_zero.mp hother)
  | succ other => exact Nat.succ_le_succ (hleast ⟨value', rest', matchesAt_succ.mp hother⟩)

/-- Candidates that fail in place are all tried at the entry. -/
theorem first_cases (hatomic : ∀ p ∈ ps, p.Atomic text) (hc : c.Valid text)
    (hps : ∀ p ∈ ps, ∃ reply, p.parse c = .ok reply) :
    (∀ p ∈ ps, p.parse c = .ok (.fail c)) ∧ (first ps).parse c = .ok (.fail c) ∨
      ∃ index value rest, IsLeast (matching c ps) index ∧ MatchesAt c ps index value rest ∧
        (first ps).parse c = .ok (.done value rest) := by
  induction ps with
  | nil => exact .inl ⟨by simp, rfl⟩
  | cons p ps ih =>
      obtain ⟨hp, hatomic⟩ := List.forall_mem_cons.mp hatomic
      obtain ⟨⟨reply, hparse⟩, hps⟩ := List.forall_mem_cons.mp hps
      cases reply with
      | done value rest =>
          refine .inr ⟨0, value, rest, isLeast_matching_zero hparse, matchesAt_zero.mpr hparse, ?_⟩
          simp [first, firstFrom, hparse]
      | fail failed =>
          -- it has failed in place, so the candidates behind it see the same entry
          obtain rfl := hp c failed hc hparse
          have hfirst : (first (p :: ps)).parse failed = (first ps).parse failed := by
            simp [first, firstFrom, hparse]
          rw [hfirst]
          rcases ih hatomic hps with ⟨hfail, hparse'⟩ |
            ⟨index, value, rest, hleast, hfound, hparse'⟩
          · exact .inl ⟨List.forall_mem_cons.mpr ⟨hparse, hfail⟩, hparse'⟩
          · exact .inr ⟨index + 1, value, rest, isLeast_matching_succ hparse hleast,
              matchesAt_succ.mpr hfound, hparse'⟩

/-- The first match is the winner, unless there is one that goes further. -/
theorem Leads.eq_iff (h : Leads c ps other value' rest') (hleast : IsLeast (matching c ps) index)
    (hfound : MatchesAt c ps index value rest) :
    value' = value ∧ rest' = rest ↔ ∀ place found reached,
      MatchesAt c ps place found reached → reached.position ≤ rest.position := by
  constructor
  · rintro ⟨rfl, rfl⟩
    exact fun _ _ _ => h.furthest
  · intro hfurthest
    have hle : rest'.position ≤ rest.position := hfurthest other value' rest' h.found
    -- the winner is not behind the first match, which would have to end before it
    have hindex : other = index := by
      refine Nat.le_antisymm ?_ (hleast.2 ⟨value', rest', h.found⟩)
      by_contra hlt
      have hbefore := h.earliest (Nat.lt_of_not_le hlt) hfound
      omega
    exact hfound.unique (hindex ▸ h.found)

theorem first_longest_cases (hatomic : ∀ p ∈ ps, p.Atomic text) (hc : c.Valid text)
    (hps : ∀ p ∈ ps, ∃ reply, p.parse c = .ok reply) :
    matching c ps = ∅ ∧ (first ps).parse c = .ok (.fail c) ∧
        (longest ps).parse c = .ok (.fail c) ∨
      ∃ index value rest other value' rest', IsLeast (matching c ps) index ∧
        MatchesAt c ps index value rest ∧ Leads c ps other value' rest' ∧
        (first ps).parse c = .ok (.done value rest) ∧
        (longest ps).parse c = .ok (.done value' rest') := by
  rcases longest_cases hps with ⟨hfail, hlongest⟩ | ⟨other, value', rest', hleads, hlongest⟩
  · have hnone : matching c ps = ∅ := by
      refine Set.eq_empty_of_forall_notMem ?_
      rintro index ⟨value, rest, hfound⟩
      exact hfound.not_all_fail hfail
    rcases first_cases hatomic hc hps with ⟨-, hfirst⟩ | ⟨index, value, rest, hleast, -⟩
    · exact .inl ⟨hnone, hfirst, hlongest⟩
    · rw [hnone] at hleast
      exact absurd hleast.1 (Set.notMem_empty index)
  · rcases first_cases hatomic hc hps with ⟨hfail, -⟩ | ⟨index, value, rest, hleast, hfound, hfirst⟩
    · exact absurd (fun p hp => ⟨c, hfail p hp⟩) hleads.found.not_all_fail
    · exact .inr ⟨index, value, rest, other, value', rest', hleast, hfound, hleads, hfirst,
        hlongest⟩

/-- **The two choices accept the same texts.** For candidates that fail in place and have a
reply: `first` matches exactly if `longest` does, and otherwise both fail at their entry.
`first` takes the least candidate that matches, `longest` gets at least as far, and they give
the same match exactly if no match goes further than the first one. -/
theorem first_agrees_with_longest (hatomic : ∀ p ∈ ps, p.Atomic text) (hc : c.Valid text)
    (hps : ∀ p ∈ ps, ∃ reply, p.parse c = .ok reply) :
    ((∃ value rest, (first ps).parse c = .ok (.done value rest)) ↔
      ∃ value rest, (longest ps).parse c = .ok (.done value rest)) ∧
    ((¬ ∃ value rest, (first ps).parse c = .ok (.done value rest)) →
      (first ps).parse c = .ok (.fail c) ∧ (longest ps).parse c = .ok (.fail c)) ∧
    (∀ value rest, (first ps).parse c = .ok (.done value rest) ↔
      ∃ index, IsLeast (matching c ps) index ∧ MatchesAt c ps index value rest) ∧
    ∀ value rest value' rest', (first ps).parse c = .ok (.done value rest) →
      (longest ps).parse c = .ok (.done value' rest') →
      rest.position ≤ rest'.position ∧
      (value' = value ∧ rest' = rest ↔ ∀ index found reached,
        MatchesAt c ps index found reached → reached.position ≤ rest.position) := by
  rcases first_longest_cases hatomic hc hps with ⟨hnone, hfirst, hlongest⟩ |
    ⟨index, value, rest, other, value', rest', hleast, hfound, hleads, hfirst, hlongest⟩
  · rw [hfirst, hlongest, hnone]
    simp [IsLeast]
  · refine ⟨iff_of_true ⟨value, rest, hfirst⟩ ⟨value', rest', hlongest⟩,
      fun hfail => absurd ⟨value, rest, hfirst⟩ hfail, fun found reached => ?_, ?_⟩
    · rw [hfirst, Except.ok.injEq, Reply.done.injEq]
      constructor
      · rintro ⟨rfl, rfl⟩
        exact ⟨index, hleast, hfound⟩
      · rintro ⟨index', hleast', hfound'⟩
        obtain rfl := hleast.unique hleast'
        exact hfound'.unique hfound
    · intro found reached found' reached' hparse hparse'
      obtain ⟨rfl, rfl⟩ := Reply.done.inj (Except.ok.inj (hfirst.symm.trans hparse))
      obtain ⟨rfl, rfl⟩ := Reply.done.inj (Except.ok.inj (hlongest.symm.trans hparse'))
      exact ⟨hleads.furthest hfound, hleads.eq_iff hleast hfound⟩

/-- Two literals, of which the first one begins the other. -/
def overlapping : List (Parser Silent Char) := [literalAs "a" 'B', literalAs "ab" 'A']

/-- Both choices match, and the results differ, so there is a match that goes further. -/
theorem first_agrees_with_longest_overlapping :
    (∀ p ∈ overlapping, p.Atomic "ab" ∧ ∃ reply, p.parse (Cursor.start "ab") = .ok reply) ∧
    (first overlapping).parse (Cursor.start "ab") = .ok (.done 'B' ⟨"ab", 1, 1, ['b']⟩) ∧
    (longest overlapping).parse (Cursor.start "ab") = .ok (.done 'A' ⟨"ab", 2, 2, []⟩) ∧
    ¬ ∀ index found reached, MatchesAt (Cursor.start "ab") overlapping index found reached →
      reached.position ≤ 1 := by
  have hatomic : ∀ p ∈ overlapping, p.Atomic "ab" := by
    have hliteral (expected : String) (value : Char) :
        (literalAs expected value : Parser Silent Char).Mannered "ab" True 2 :=
      mannered_map (mannered_literal expected)
    simp [overlapping, (hliteral _ _).atomic]
  have hreply : ∀ p ∈ overlapping, ∃ reply, p.parse (Cursor.start "ab") = .ok reply := by
    simp only [overlapping, List.forall_mem_cons]
    exact ⟨⟨_, rfl⟩, ⟨_, rfl⟩, by simp⟩
  have hchoices := first_agrees_with_longest hatomic (Cursor.valid_start "ab") hreply
  have hsame := (hchoices.2.2.2 'B' ⟨"ab", 1, 1, ['b']⟩ 'A' ⟨"ab", 2, 2, []⟩ rfl rfl).2
  refine ⟨fun p hp => ⟨hatomic p hp, hreply p hp⟩, rfl, rfl, fun hfurthest => ?_⟩
  exact absurd (hsame.mpr hfurthest).1 (by decide)

end Backtrack.Parser
