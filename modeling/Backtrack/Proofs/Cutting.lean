import Backtrack.Proofs.Reading
import Mathlib.Order.Bounds.Basic

/-!
# Backtrack.Proofs.Cutting

**Cutting a text at a separator.** The scalars up to a separator, again and again with the
separator in between, are the parts that the separator cuts the text into. Occurrences of the
separator may overlap, as those of `aa` in `aaa` do, and then there are several ways to cut.
Cutting goes from left to right: each cut is made at the first occurrence behind the one
before (`IsSplit`), which leaves one way only.

A part may be empty, and so may be the last one. The repetition gives it all the same: its
delimiter has consumed something, and the text is not at its end before the delimiter.
-/

namespace Backtrack

open Backtrack.Parser

variable {sep part rest cs : List Char} {parts : List (List Char)}

/-! ### Occurrences of a separator -/

/-- No occurrence of `sep` begins inside `part`, seen with `rest` behind it. -/
def Clear (sep part rest : List Char) : Prop :=
  ∀ before ch after, part = before ++ ch :: after → ¬ sep <+: ch :: (after ++ rest)

theorem clear_nil (sep rest : List Char) : Clear sep [] rest := by
  intro before ch after h
  simp at h

theorem Clear.cons {ch : Char} (hstart : ¬ sep <+: ch :: (part ++ rest))
    (h : Clear sep part rest) : Clear sep (ch :: part) rest := by
  intro before ch' after hsplit
  cases before with
  | nil =>
      obtain ⟨rfl, rfl⟩ := List.cons.inj hsplit
      exact hstart
  | cons first before => exact h before ch' after (List.cons.inj hsplit).2

/-- Every text goes on with a part without the separator, up to the separator or the end. -/
theorem exists_clear (sep cs : List Char) :
    ∃ part rest, cs = part ++ rest ∧ Clear sep part rest ∧ (rest = [] ∨ sep <+: rest) := by
  induction cs with
  | nil => exact ⟨[], [], rfl, clear_nil sep [], .inl rfl⟩
  | cons ch cs ih =>
      by_cases hstart : sep <+: ch :: cs
      · exact ⟨[], ch :: cs, rfl, clear_nil sep _, .inr hstart⟩
      · obtain ⟨part, rest, rfl, hclear, hstop⟩ := ih
        exact ⟨ch :: part, rest, rfl, hclear.cons hstart, hstop⟩

theorem Clear.absent (h : Clear sep part rest) (hsep : sep ≠ []) : ¬ sep <:+: part := by
  rintro ⟨before, after, rfl⟩
  obtain ⟨ch, tail, rfl⟩ := List.exists_cons_of_ne_nil hsep
  refine h before ch (tail ++ after) (by simp) ⟨after ++ rest, by simp⟩

theorem clear_of_absent (h : ¬ sep <:+: part) : Clear sep part [] := by
  rintro before ch after rfl ⟨tail, htail⟩
  refine h ⟨before, tail, ?_⟩
  rw [List.append_assoc, htail, List.append_nil]

/-- The occurrence behind `part` is the first one from the start of `part` on, where that is
`n` scalars into the text. -/
theorem isLeast_occurrence_iff {n : Nat} (hcs : cs.drop n = part ++ (sep ++ rest)) :
    IsLeast {k | n ≤ k ∧ sep <+: cs.drop k} (n + part.length) ↔ Clear sep part (sep ++ rest) := by
  have hdrop : ∀ passed, cs.drop (n + passed) = (part ++ (sep ++ rest)).drop passed := by
    intro passed
    rw [← hcs, List.drop_drop]
  constructor
  · rintro ⟨-, hleast⟩ before ch after rfl hstart
    have hfound : n + (before ++ ch :: after).length ≤ n + before.length :=
      hleast ⟨Nat.le_add_right _ _, by simpa [hdrop] using hstart⟩
    simp only [List.length_append, List.length_cons] at hfound
    omega
  · intro hclear
    refine ⟨⟨Nat.le_add_right _ _, by simp [hdrop]⟩, ?_⟩
    rintro k ⟨hk, hstart⟩
    obtain ⟨passed, rfl⟩ := Nat.exists_eq_add_of_le hk
    by_contra hlt
    have hpassed : passed < part.length := by omega
    obtain ⟨before, ch, after, rfl, rfl⟩ := exists_eq_append_cons hpassed
    exact hclear before ch after rfl (by simpa [hdrop] using hstart)

/-! ### Cutting from left to right -/

/-- Where the part behind the parts `before` starts. -/
def startBehind (sep : List Char) : List (List Char) → Nat
  | [] => 0
  | part :: before => (part ++ sep).length + startBehind sep before

/-- `parts` is what `cs` is cut into at `sep`, from left to right. -/
structure IsSplit (sep cs : List Char) (parts : List (List Char)) : Prop where
  some : parts ≠ []
  joined : sep.intercalate parts = cs
  absent : ∀ part ∈ parts, ¬ sep <:+: part
  /-- The separator behind a part is the first one from the start of that part on. -/
  leftmost : ∀ before part after, parts = before ++ part :: after → after ≠ [] →
    IsLeast {k | startBehind sep before ≤ k ∧ sep <+: cs.drop k}
      (startBehind sep before + part.length)

/-- The same, one cut after the other. -/
inductive Cuts (sep : List Char) : List Char → List (List Char) → Prop
  | last {part : List Char} (h : Clear sep part []) : Cuts sep part [part]
  | cut {part rest : List Char} {parts : List (List Char)} (h : Clear sep part (sep ++ rest))
    (hrest : Cuts sep rest parts) : Cuts sep (part ++ (sep ++ rest)) (part :: parts)

theorem exists_cuts (hsep : sep ≠ []) (cs : List Char) : ∃ parts, Cuts sep cs parts := by
  induction hlength : cs.length using Nat.strongRecOn generalizing cs with
  | _ length ih =>
      obtain ⟨part, rest, rfl, hclear, rfl | ⟨rest, rfl⟩⟩ := exists_clear sep cs
      · exact ⟨[part], by simpa using Cuts.last hclear⟩
      · have hpos := List.length_pos_iff.mpr hsep
        have hshorter : rest.length < length := by
          simp only [List.length_append] at hlength
          omega
        obtain ⟨parts, hparts⟩ := ih _ hshorter rest rfl
        exact ⟨part :: parts, .cut hclear hparts⟩

theorem Cuts.ne_nil (h : Cuts sep cs parts) : parts ≠ [] := by
  cases h with
  | last => exact List.cons_ne_nil _ _
  | cut => exact List.cons_ne_nil _ _

theorem Cuts.joined (h : Cuts sep cs parts) : sep.intercalate parts = cs := by
  induction h with
  | last => exact List.intercalate_singleton
  | cut _ hrest ih =>
      rw [List.intercalate_cons_of_ne_nil hrest.ne_nil, ih, List.append_assoc]

theorem Cuts.absent (h : Cuts sep cs parts) (hsep : sep ≠ []) :
    ∀ part ∈ parts, ¬ sep <:+: part := by
  induction h with
  | last hclear => simpa using hclear.absent hsep
  | cut hclear _ ih => exact List.forall_mem_cons.mpr ⟨hclear.absent hsep, ih⟩

theorem Cuts.clear (h : Cuts sep cs parts) {before after : List (List Char)} {part : List Char}
    (hparts : parts = before ++ part :: after) (hafter : after ≠ []) :
    Clear sep part (sep ++ sep.intercalate after) := by
  induction h generalizing before with
  | last =>
      cases before with
      | nil => exact absurd (List.cons.inj hparts).2.symm hafter
      | cons first before => simp at hparts
  | cut hclear hrest ih =>
      cases before with
      | nil =>
          obtain ⟨rfl, rfl⟩ := List.cons.inj hparts
          rwa [hrest.joined]
      | cons first before => exact ih (List.cons.inj hparts).2

theorem cuts_of_clear (hsome : parts ≠ []) (habsent : ∀ part ∈ parts, ¬ sep <:+: part)
    (hclear : ∀ before part after, parts = before ++ part :: after → after ≠ [] →
      Clear sep part (sep ++ sep.intercalate after)) :
    Cuts sep (sep.intercalate parts) parts := by
  induction parts with
  | nil => exact absurd rfl hsome
  | cons part parts ih =>
      obtain ⟨hpart, habsent⟩ := List.forall_mem_cons.mp habsent
      by_cases hparts : parts = []
      · rw [hparts, List.intercalate_singleton]
        exact .last (clear_of_absent hpart)
      · have hrest := ih hparts habsent fun before part' after hsplit =>
          hclear (part :: before) part' after (by rw [hsplit, List.cons_append])
        rw [List.intercalate_cons_of_ne_nil hparts, List.append_assoc]
        exact .cut (hclear [] part parts rfl hparts) hrest

/-- What comes behind the parts `before`. -/
theorem drop_startBehind (before : List (List Char)) {after : List (List Char)}
    (hafter : after ≠ []) :
    (sep.intercalate (before ++ part :: after)).drop (startBehind sep before) =
      part ++ (sep ++ sep.intercalate after) := by
  induction before with
  | nil =>
      rw [List.nil_append, List.intercalate_cons_of_ne_nil hafter, List.append_assoc]
      rfl
  | cons first before ih =>
      have hsome : before ++ part :: after ≠ [] := by simp
      rw [List.cons_append, List.intercalate_cons_of_ne_nil hsome, startBehind,
        List.drop_length_add_append, ih]

/-- Whether a cut is the first one possible can be told from the part before it. -/
theorem isLeast_cut_iff (hjoined : sep.intercalate parts = cs) {before after : List (List Char)}
    (hparts : parts = before ++ part :: after) (hafter : after ≠ []) :
    IsLeast {k | startBehind sep before ≤ k ∧ sep <+: cs.drop k}
        (startBehind sep before + part.length) ↔
      Clear sep part (sep ++ sep.intercalate after) := by
  subst hjoined hparts
  exact isLeast_occurrence_iff (drop_startBehind before hafter)

theorem Cuts.isSplit (h : Cuts sep cs parts) (hsep : sep ≠ []) : IsSplit sep cs parts where
  some := h.ne_nil
  joined := h.joined
  absent := h.absent hsep
  leftmost _ _ _ hparts hafter :=
    (isLeast_cut_iff h.joined hparts hafter).mpr (h.clear hparts hafter)

theorem IsSplit.cuts (h : IsSplit sep cs parts) : Cuts sep cs parts := by
  have hcuts := cuts_of_clear h.some h.absent fun before part after hparts hafter =>
    (isLeast_cut_iff h.joined hparts hafter).mp (h.leftmost before part after hparts hafter)
  rwa [h.joined] at hcuts

/-! ### The repetition -/

theorem Clear.reads {sep : String} (h : Clear sep.toList part rest)
    (hstop : rest = [] ∨ sep.toList <+: rest) :
    (charactersUntil (literal sep)).Reads part (String.ofList part) rest := by
  refine reads_charactersUntil (fun before ch after hsplit => ?_) (hstop.imp_right ?_)
  · exact refuses_literal (h before ch after hsplit)
  · rintro ⟨after, rfl⟩
    exact ⟨sep.toList, (), after, rfl, reads_literal sep after⟩

/-- The first part is an element, and each further one is a round. -/
theorem Cuts.repeats {sep : String} (h : Cuts sep.toList cs parts) (hsep : sep.toList ≠ []) :
    ∃ part more after, parts = part :: after ∧ cs = part ++ more ∧
      (charactersUntil (literal sep)).Reads part (String.ofList part) (more ++ []) ∧
      Repeats (charactersUntil (literal sep)) (literal sep) more (after.map String.ofList) [] := by
  induction h with
  | @last part hclear =>
      exact ⟨part, [], [], rfl, (List.append_nil part).symm, hclear.reads (.inl rfl), .atEnd⟩
  | @cut part rest parts hclear _ ih =>
      obtain ⟨next, more, after, rfl, rfl, hnext, hmore⟩ := ih
      refine ⟨part, sep.toList ++ (next ++ more), next :: after, rfl, rfl, ?_, ?_⟩
      · rw [List.append_nil]
        exact hclear.reads (.inr (List.prefix_append _ _))
      · exact hmore.round (reads_literal sep _) hsep hnext

theorem Cuts.run_eq {sep : String} {text : Source} (h : Cuts sep.toList text.toList parts)
    (hsep : sep.toList ≠ []) :
    (many (charactersUntil (literal sep)) (literal sep)).run text =
      (.ok (some (parts.map String.ofList)) : Silent _) := by
  obtain ⟨part, more, after, rfl, htext, hpart, hmore⟩ := h.repeats hsep
  exact (hmore.reads_many hpart).run_eq (by rw [htext, List.append_nil])

/-- The parts can be told from what the repetition gives. -/
theorem parts_unique {found : Silent (Option (List String))} {others : List (List Char)}
    (h : found = .ok (some (parts.map String.ofList)))
    (hothers : found = .ok (some (others.map String.ofList))) : parts = others := by
  have hsame := Option.some.inj (Except.ok.inj (h.symm.trans hothers))
  exact (List.map_inj_right fun _ _ => String.ofList_injective).mp hsame

/-- **The scalars up to a separator, repeated, cut the text at the separator.** For every text
and every separator that is not empty, the whole text is read. The parts joined with the
separator are the text, no part contains the separator, and each cut is made at the first
occurrence behind the cut before it. There is only one such list of parts. -/
theorem many_charactersUntil_splits (sep : String) (hsep : sep ≠ "") (text : Source) :
    ∃ parts, (many (charactersUntil (literal sep)) (literal sep)).run text =
        (.ok (some (parts.map String.ofList)) : Silent _) ∧
      sep.intercalate (parts.map String.ofList) = text.contents ∧
      IsSplit sep.toList text.toList parts ∧
      ∀ others, IsSplit sep.toList text.toList others → others = parts := by
  have hsome : sep.toList ≠ [] := fun hnil => hsep (String.toList_eq_nil_iff.mp hnil)
  obtain ⟨parts, hcuts⟩ := exists_cuts hsome text.toList
  have hrun := hcuts.run_eq hsome
  refine ⟨parts, hrun, ?_, hcuts.isSplit hsome, fun others hothers => ?_⟩
  · rw [← String.toList_inj, String.toList_intercalate, List.map_map, String.toList_comp_ofList,
      List.map_id, hcuts.joined]
  · -- both are what the repetition gives
    exact parts_unique (hothers.cuts.run_eq hsome) hrun

/-- Occurrences that overlap, and empty parts at the start and at the end. The text can be cut
elsewhere as well, but then not from left to right. -/
theorem many_charactersUntil_splits_overlapping :
    (many (charactersUntil (literal "aa")) (literal "aa")).run "aaaéaa" =
      (.ok (some ["", "aé", ""]) : Silent _) ∧
    IsSplit "aa".toList "aaaéaa".toList [[], ['a', 'é'], []] ∧
    "aa".toList.intercalate [['a'], ['é'], []] = "aaaéaa".toList ∧
    ¬ IsSplit "aa".toList "aaaéaa".toList [['a'], ['é'], []] := by
  have hparts : (many (charactersUntil (literal "aa")) (literal "aa")).run "aaaéaa" =
      (.ok (some ([[], ['a', 'é'], []].map String.ofList)) : Silent _) := by decide +kernel
  obtain ⟨parts, hrun, -, hsplit, hunique⟩ :=
    many_charactersUntil_splits "aa" (by decide) "aaaéaa"
  obtain rfl := parts_unique hparts hrun
  refine ⟨hparts, hsplit, by decide, fun hother => ?_⟩
  exact absurd (hunique _ hother) (by decide)

end Backtrack
