import Backtrack.Proofs.Selection

/-!
# Backtrack.Proofs.Literals

**Choices between fixed texts.** A choice between literals can be told without parsing: what
counts is which of the texts the rest begins with, and how long they are. `longestLiteral`
goes through all of its texts and keeps the furthest match, `firstLiteral` stops at the first
one. Both take a longest text (`TakesLongest`), the second one if its texts stand in order of
their lengths.

There is only one longest text: two texts of one length that both come next are the same,
since both are what the rest begins with (`LongestAt.unique`). So it makes no difference in
which order `longestLiteral` has its texts, nor in which order texts of one length stand in
`firstLiteral`. Lengths are numbers of scalars; the numbers of bytes can be in another order.
-/

namespace Backtrack.Parser

variable {α : Type} {texts texts' : List String} {text other : String} {cs : List Char}
variable {value : α} {c rest : Cursor}

/-! ### The longest text -/

/-- The lengths of those texts that `cs` begins with. -/
def matchingLengths (texts : List String) (cs : List Char) : Set Nat :=
  {length | ∃ text ∈ texts, text.toList <+: cs ∧ text.length = length}

/-- `cs` begins with `text`, and with none of the texts that are longer. -/
structure LongestAt (texts : List String) (cs : List Char) (text : String) : Prop where
  mem : text ∈ texts
  begins : text.toList <+: cs
  longest : ∀ other ∈ texts, other.toList <+: cs → other.length ≤ text.length

theorem LongestAt.isGreatest (h : LongestAt texts cs text) :
    IsGreatest (matchingLengths texts cs) text.length := by
  refine ⟨⟨text, h.mem, h.begins, rfl⟩, ?_⟩
  rintro _ ⟨other, hmem, hbegins, rfl⟩
  exact h.longest other hmem hbegins

theorem LongestAt.toList_eq (h : LongestAt texts cs text) : text.toList = cs.take text.length := by
  rw [← String.length_toList]
  exact List.prefix_iff_eq_take.mp h.begins

/-- Of the texts that come next, only one is the longest, however often it is listed. -/
theorem LongestAt.unique (h : LongestAt texts cs text) (h' : LongestAt texts cs other) :
    other = text := by
  have hlength : other.length = text.length :=
    Nat.le_antisymm (h.longest other h'.mem h'.begins) (h'.longest text h.mem h.begins)
  refine String.toList_inj.mp ?_
  rw [h'.toList_eq, h.toList_eq, hlength]

theorem LongestAt.of_perm (h : LongestAt texts cs text) (hperm : texts'.Perm texts) :
    LongestAt texts' cs text where
  mem := hperm.symm.subset h.mem
  begins := h.begins
  longest other hmem hbegins := h.longest other (hperm.subset hmem) hbegins

/-! ### Parsers that take it -/

/-- Takes the longest of the texts wherever one of them comes next, and fails in place
everywhere else. -/
def TakesLongest (texts : List String) (value : α) (p : Parser Silent α) : Prop :=
  ∀ c : Cursor,
    (∃ text, LongestAt texts c.rest text ∧
      p.parse c = .ok (.done value (c.advance text.toList))) ∨
    (∀ text ∈ texts, ¬ text.toList <+: c.rest) ∧ p.parse c = .ok (.fail c)

theorem TakesLongest.as {p : Parser Silent Unit} (h : p.TakesLongest texts ()) (value : α) :
    (p.as value).TakesLongest texts value := by
  intro c
  rcases h c with ⟨text, hlongest, hparse⟩ | ⟨hnone, hparse⟩
  · exact .inl ⟨text, hlongest, by simp [Parser.as, Parser.map, hparse]⟩
  · exact .inr ⟨hnone, by simp [Parser.as, Parser.map, hparse]⟩

/-- What the longest text is decides everything, so the order of the texts does not matter. -/
theorem TakesLongest.eq {p q : Parser Silent α} (hp : p.TakesLongest texts value)
    (hq : q.TakesLongest texts' value) (hperm : texts'.Perm texts) : q = p := by
  refine congrArg Parser.mk (funext fun c => ?_)
  rcases hp c with ⟨text, hlongest, hparse⟩ | ⟨hnone, hparse⟩
  · rcases hq c with ⟨other, hlongest', hparse'⟩ | ⟨hnone', -⟩
    · rw [hparse, hparse', hlongest.unique (hlongest'.of_perm hperm.symm)]
    · exact absurd hlongest.begins (hnone' text (hperm.symm.subset hlongest.mem))
  · rcases hq c with ⟨other, hlongest', -⟩ | ⟨-, hparse'⟩
    · exact absurd hlongest'.begins (hnone other (hperm.subset hlongest'.mem))
    · rw [hparse, hparse']

/-! ### The furthest of all literals -/

theorem literal_eq_done_iff :
    (literal text).parse c = (.ok (.done () rest) : Silent (Reply Unit)) ↔
      text.toList <+: c.rest ∧ rest = c.advance text.toList := by
  rw [literal_parse]
  by_cases h : text.toList <+: c.rest
  · simp [h, eq_comm]
  · simp [h]

theorem exists_matchesAt_literals :
    (∃ index, MatchesAt c (texts.map literal) index () rest) ↔
      ∃ text ∈ texts, text.toList <+: c.rest ∧ rest = c.advance text.toList := by
  simp only [exists_matchesAt_iff, List.mem_map, exists_exists_and_eq_and, literal_eq_done_iff]

theorem takesLongest_longest (texts : List String) :
    (longest (texts.map literal)).TakesLongest texts () := by
  intro c
  have hreplies : ∀ p ∈ texts.map literal, ∃ reply, p.parse c = (.ok reply : Silent _) := by
    intro p hp
    obtain ⟨text, -, rfl⟩ := List.mem_map.mp hp
    exact ⟨_, literal_parse text c⟩
  rcases longest_cases hreplies with ⟨hfail, hparse⟩ | ⟨index, result, rest, hleads, hparse⟩
  · refine .inr ⟨fun text hmem hbegins => ?_, hparse⟩
    obtain ⟨index, hfound⟩ :=
      exists_matchesAt_literals.mpr ⟨text, hmem, hbegins, rfl⟩
    exact hfound.not_all_fail hfail
  · obtain ⟨text, hmem, hbegins, rfl⟩ := exists_matchesAt_literals.mp ⟨index, hleads.found⟩
    refine .inl ⟨text, ⟨hmem, hbegins, fun other hmem' hbegins' => ?_⟩, hparse⟩
    -- both matches begin at `c`, so the one that ends further on is the longer one
    obtain ⟨index', hfound'⟩ :=
      exists_matchesAt_literals.mpr ⟨other, hmem', hbegins', rfl⟩
    have hposition := hleads.furthest hfound'
    simp only [Cursor.advance, String.length_toList] at hposition
    omega

/-! ### The first of sorted literals -/

/-- The texts stand in order of their lengths, the longest ones first. -/
def LongestFirst (texts : List String) : Prop :=
  texts.Pairwise fun text other => other.length ≤ text.length

instance (texts : List String) : Decidable (LongestFirst texts) :=
  inferInstanceAs (Decidable (texts.Pairwise _))

/-- The texts behind the first one that comes next are no longer than it. -/
theorem takesLongest_first (hsorted : LongestFirst texts) :
    (first (texts.map literal)).TakesLongest texts () := by
  intro c
  induction texts with
  | nil => exact .inr ⟨by simp, rfl⟩
  | cons text texts ih =>
      obtain ⟨hhead, htail⟩ := List.pairwise_cons.mp hsorted
      have hparse := literal_parse text c
      by_cases hbegins : text.toList <+: c.rest
      · rw [if_pos hbegins] at hparse
        refine .inl ⟨text, ⟨List.mem_cons_self, hbegins, ?_⟩, by simp [first, firstFrom, hparse]⟩
        intro other hmem _
        rcases List.mem_cons.mp hmem with rfl | hmem
        · exact Nat.le_refl _
        · exact hhead other hmem
      · -- a literal fails in place, so the texts behind it are tried at the same cursor
        rw [if_neg hbegins] at hparse
        have hrest : (first ((text :: texts).map literal)).parse c =
            ((first (texts.map literal)).parse c : Silent (Reply Unit)) := by
          simp [first, firstFrom, hparse]
        rw [hrest]
        rcases ih htail with ⟨other, hlongest, hother⟩ | ⟨hnone, hfail⟩
        · refine .inl ⟨other, ⟨List.mem_cons_of_mem text hlongest.mem, hlongest.begins, ?_⟩,
            hother⟩
          intro third hmem hthird
          rcases List.mem_cons.mp hmem with rfl | hmem
          · exact absurd hthird hbegins
          · exact hlongest.longest third hmem hthird
        · exact .inr ⟨List.forall_mem_cons.mpr ⟨hbegins, hnone⟩, hfail⟩

/-- **`longestLiteral` is `firstLiteral` on sorted texts.** It matches exactly where one of its
texts comes next, moves past as many scalars as the longest of these has, and fails in place
elsewhere. The order in which the texts are listed makes no difference to it, and it is the
same parser as `firstLiteral` on the texts in any order that begins with the longest ones. -/
theorem longestLiteral_eq_firstLiteral (texts : List String) (value : α) :
    (∀ c : Cursor,
      ((∃ value' rest,
          (longestLiteral texts value).parse c = (.ok (.done value' rest) : Silent (Reply α))) ↔
        ∃ text ∈ texts, text.toList <+: c.rest) ∧
      (∀ value' rest,
        (longestLiteral texts value).parse c = (.ok (.done value' rest) : Silent (Reply α)) →
        value' = value ∧ ∃ length, IsGreatest (matchingLengths texts c.rest) length ∧
          rest = c.advance (c.rest.take length) ∧ rest.position = c.position + length) ∧
      ((¬ ∃ text ∈ texts, text.toList <+: c.rest) →
        (longestLiteral texts value).parse c = (.ok (.fail c) : Silent (Reply α)))) ∧
    (∀ texts' : List String, texts'.Perm texts →
      longestLiteral texts' value = (longestLiteral texts value : Parser Silent α)) ∧
    ∀ sorted : List String, sorted.Perm texts → LongestFirst sorted →
      longestLiteral texts value = (firstLiteral sorted value : Parser Silent α) := by
  have hlongest (texts : List String) :
      (longestLiteral texts value : Parser Silent α).TakesLongest texts value :=
    (takesLongest_longest texts).as value
  refine ⟨fun c => ?_, fun texts' hperm => (hlongest texts).eq (hlongest texts') hperm,
    fun sorted hperm hsorted => ?_⟩
  · rcases hlongest texts c with ⟨text, htext, hparse⟩ | ⟨hnone, hparse⟩
    · refine ⟨iff_of_true ⟨value, _, hparse⟩ ⟨text, htext.mem, htext.begins⟩, ?_, ?_⟩
      · intro value' rest hparse'
        obtain ⟨rfl, rfl⟩ := Reply.done.inj (Except.ok.inj (hparse.symm.trans hparse'))
        refine ⟨rfl, text.length, htext.isGreatest, by rw [← htext.toList_eq], ?_⟩
        simp only [Cursor.advance, String.length_toList]
      · exact fun hnone => absurd ⟨text, htext.mem, htext.begins⟩ hnone
    · rw [hparse]
      simp only [Except.ok.injEq, reduceCtorEq, exists_false, false_iff, false_implies,
        implies_true, and_self, and_true]
      rintro ⟨text, hmem, hbegins⟩
      exact hnone text hmem hbegins
  · have hfirst : (firstLiteral sorted value : Parser Silent α).TakesLongest sorted value :=
      (takesLongest_first hsorted).as value
    exact hfirst.eq (hlongest texts) hperm.symm

/-- Texts that begin each other, one of them twice, and the empty one, with scalars of two
bytes. -/
theorem longestLiteral_eq_firstLiteral_accents :
    LongestFirst ["aéa", "éé", "aé", "aé", "é", ""] ∧
    longestLiteral ["", "é", "aé", "éé", "aé", "aéa"] 'v' =
      (firstLiteral ["aéa", "éé", "aé", "aé", "é", ""] 'v' : Parser Silent Char) ∧
    (longestLiteral ["", "é", "aé", "éé", "aé", "aéa"] 'v').parse ⟨"éaéé", 1, 2, ['a', 'é', 'é']⟩ =
      (.ok (.done 'v' ⟨"éaéé", 3, 5, ['é']⟩) : Silent (Reply Char)) := by
  obtain ⟨-, -, hsorted⟩ :=
    longestLiteral_eq_firstLiteral ["", "é", "aé", "éé", "aé", "aéa"] 'v'
  have heq := hsorted ["aéa", "éé", "aé", "aé", "é", ""] (by decide) (by decide)
  refine ⟨by decide, heq, ?_⟩
  rw [heq]
  rfl

end Backtrack.Parser
