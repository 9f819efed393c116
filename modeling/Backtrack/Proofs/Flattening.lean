import Backtrack.Grammar.Custom
import Backtrack.Grammar.Interpret

/-!
# Backtrack.Proofs.Flattening

**Choices between choices.** Grouping the candidates of a choice changes nothing, for either
of the two kinds. What makes that so is different:

* `first` has one cursor, which goes through all its candidates. A group is entered where the
  one before it gave up, and gives up where its last candidate did, so a cursor that was
  leaked inside of a group is handed on exactly as it is without the groups
  (`firstFrom_append`);
* `longest` has one entry and a best match so far. A group begins without one, so its winner
  is compared with the best match only afterwards. That is the same since comparing matches
  is associative, ties included (`furtherOf_assoc`).

Nothing is asked of the candidates, and none of it depends on what the computations are: the
groups run the same candidates in the same order. So the events that they report, the
references that they build and their halts are the same as well.
-/

namespace Backtrack.Parser

variable {m : Type → Type} [ParseMonad m] [LawfulMonad m] {α : Type}

/-! ### One cursor through all groups -/

/-- The candidates behind others begin where these have given up. -/
theorem firstFrom_append (ps qs : List (Parser m α)) (c : Cursor) :
    firstFrom (ps ++ qs) c = (do
      match ← firstFrom ps c with
      | .done value rest => return .done value rest
      | .fail rest => firstFrom qs rest) := by
  induction ps generalizing c with
  | nil => simp [firstFrom]
  | cons p ps ih =>
      simp only [List.cons_append, firstFrom, bind_assoc]
      refine bind_congr fun reply => ?_
      cases reply with
      | done value rest => simp
      | fail rest => exact ih rest

theorem firstFrom_map_first (groups : List (List (Parser m α))) (c : Cursor) :
    firstFrom (groups.map first) c = firstFrom groups.flatten c := by
  induction groups generalizing c with
  | nil => rfl
  | cons ps groups ih =>
      rw [List.flatten_cons, firstFrom_append]
      show (firstFrom ps c >>= _) = _
      refine bind_congr fun reply => ?_
      cases reply with
      | done value rest => rfl
      | fail rest => exact ih rest

theorem first_map_first (groups : List (List (Parser m α))) :
    first (groups.map first) = first groups.flatten :=
  congrArg Parser.mk (funext (firstFrom_map_first groups))

/-- A choice without an alternative. -/
theorem first_singleton (p : Parser m α) : first [p] = p := by
  have hparse : firstFrom [p] = p.parse := by
    funext c
    calc firstFrom [p] c = p.parse c >>= pure := by
          refine bind_congr fun reply => ?_
          cases reply <;> rfl
      _ = p.parse c := bind_pure (p.parse c)
  exact congrArg Parser.mk hparse

theorem or_or_left (p q r : Parser m α) : (p.or q).or r = first [p, q, r] := by
  have h := first_map_first [[p, q], [r]]
  rwa [List.map_cons, List.map_cons, List.map_nil, first_singleton] at h

theorem or_or_right (p q r : Parser m α) : p.or (q.or r) = first [p, q, r] := by
  have h := first_map_first [[p], [q, r]]
  rwa [List.map_cons, List.map_cons, List.map_nil, first_singleton] at h

/-! ### Comparing the winners of groups -/

/-- Which of two matches goes further, if there are any; the former, if they end together. -/
def furtherOf (best found : Option (α × Cursor)) : Option (α × Cursor) :=
  match found with
  | none => best
  | some (value, rest) => further best value rest

@[simp] theorem furtherOf_none (best : Option (α × Cursor)) : furtherOf best none = best := rfl

@[simp] theorem furtherOf_some (best : Option (α × Cursor)) (value : α) (rest : Cursor) :
    furtherOf best (some (value, rest)) = further best value rest := rfl

@[simp] theorem none_furtherOf (found : Option (α × Cursor)) : furtherOf none found = found := by
  cases found <;> rfl

/-- It does not matter which matches are compared first. -/
theorem furtherOf_assoc (a b c : Option (α × Cursor)) :
    furtherOf (furtherOf a b) c = furtherOf a (furtherOf b c) := by
  rcases a with _ | ⟨x, i⟩
  · simp
  rcases b with _ | ⟨y, j⟩
  · simp
  rcases c with _ | ⟨z, k⟩
  · simp
  · by_cases hij : i.position < j.position <;> by_cases hjk : j.position < k.position
    · simp [further, hij, hjk, Nat.lt_trans hij hjk]
    · simp [further, hij, hjk]
    · simp [further, hij, hjk]
    · -- neither goes further than the one before it, so the first match is kept throughout
      have hik : ¬ i.position < k.position := by omega
      simp [further, hij, hjk, hik]

/-- The best match so far is compared with what is found without it. -/
theorem furthest_eq_furtherOf (c : Cursor) (ps : List (Parser m α)) (best : Option (α × Cursor)) :
    furthest c ps best = furtherOf best <$> furthest c ps none := by
  induction ps generalizing best with
  | nil => simp [furthest]
  | cons p ps ih =>
      simp only [furthest, map_bind]
      refine bind_congr fun reply => ?_
      cases reply with
      | fail rest => exact ih best
      | done value rest =>
          -- the new match is compared with the best one before, or with what is found later
          show furthest c ps (furtherOf best (some (value, rest))) =
            furtherOf best <$> furthest c ps (some (value, rest))
          rw [ih, ih (some (value, rest)), Functor.map_map]
          exact congrArg (· <$> furthest c ps none) (funext (furtherOf_assoc _ _))

theorem furthest_append (c : Cursor) (ps qs : List (Parser m α)) (best : Option (α × Cursor)) :
    furthest c (ps ++ qs) best = furthest c ps best >>= furthest c qs := by
  induction ps generalizing best with
  | nil => simp [furthest]
  | cons p ps ih =>
      simp only [List.cons_append, furthest, bind_assoc]
      refine bind_congr fun reply => ?_
      cases reply with
      | fail rest => exact ih best
      | done value rest => exact ih (further best value rest)

/-- A group counts as much as its winner. -/
theorem furthest_longest_cons (c : Cursor) (group : List (Parser m α)) (ps : List (Parser m α))
    (best : Option (α × Cursor)) :
    furthest c (longest group :: ps) best = furthest c group best >>= furthest c ps := by
  rw [furthest_eq_furtherOf c group best, bind_map_left]
  simp only [furthest, longest, bind_assoc]
  refine bind_congr fun found => ?_
  cases found with
  | none => simp
  | some kept =>
      obtain ⟨value, rest⟩ := kept
      simp

theorem furthest_map_longest (c : Cursor) (groups : List (List (Parser m α)))
    (best : Option (α × Cursor)) :
    furthest c (groups.map longest) best = furthest c groups.flatten best := by
  induction groups generalizing best with
  | nil => rfl
  | cons group groups ih =>
      rw [List.map_cons, List.flatten_cons, furthest_longest_cons, furthest_append]
      exact bind_congr ih

theorem longest_map_longest (groups : List (List (Parser m α))) :
    longest (groups.map longest) = longest groups.flatten := by
  simp only [longest, furthest_map_longest]

/-- **Nested choices flatten.** A choice between choices is the choice between all of their
candidates, in any grouping and with empty groups, for both kinds of choices. That holds
wherever the candidates leave the cursor when they fail. -/
theorem nested_choices_flatten :
    (∀ groups : List (List (Parser m α)), first (groups.map first) = first groups.flatten) ∧
    (∀ p q r : Parser m α,
      (p.or q).or r = first [p, q, r] ∧ p.or (q.or r) = first [p, q, r]) ∧
    ∀ groups : List (List (Parser m α)), longest (groups.map longest) = longest groups.flatten :=
  ⟨first_map_first, fun p q r => ⟨or_or_left p q r, or_or_right p q r⟩, longest_map_longest⟩

/-- A leaked cursor goes through an empty group to the next one, and the earlier of two groups
keeps a tie that its second candidate has reached. -/
theorem nested_choices_flatten_leak :
    (first ([[(Grammar.leak 1).interpret [] 0], [], [Grammar.anyChar.interpret [] 0]].map
      first)).parse (Cursor.start "ab") =
        (.ok (.done (.char 'b') ⟨"ab", 2, 2, []⟩) : Silent (Reply Value)) ∧
    (longest ([[literalAs "a" (.int 0), literalAs "ab" (.int 1)], [literalAs "ab" (.int 2)]].map
      longest)).parse (Cursor.start "ab") =
        (.ok (.done (.int 1) ⟨"ab", 2, 2, []⟩) : Silent (Reply Value)) := by
  obtain ⟨hfirst, -, hlongest⟩ := nested_choices_flatten (m := Silent) (α := Value)
  constructor
  · rw [hfirst]
    rfl
  · rw [hlongest]
    rfl

end Backtrack.Parser
