import Backtrack.Csv.Table
import Backtrack.Proofs.Simulation

/-!
# Backtrack.Proofs.Csv.Logging

**Tables are read alike with and without a log.** A computation that keeps its events does the
same as one that forgets them, except that its events pile up beside it: `silencing` is the
simulation of the first kind by the second. The parsers of the table grammar are alike in
every simulation, one after the other, so the table that a logged reading gives is the one
that all statements about silent readings are about (`outcome_ofText`).
-/

namespace Backtrack

/-! ### Events aside -/

namespace Logged

variable {α β : Type}

/-- The result, and all events so far if `events` came before. -/
def runOn (x : Logged α) (events : List Event) : Except Halt α × List Event := x.run.run events

theorem runOn_bind (x : Logged α) (f : α → Logged β) (events : List Event) :
    (x >>= f).runOn events =
      match x.runOn events with
      | (.ok a, events') => (f a).runOn events'
      | (.error cause, events') => (.error cause, events') := by
  simp only [runOn, ExceptT.run_bind, StateT.run_bind]
  rcases x.run.run events with ⟨result, events'⟩
  cases result <;> rfl

end Logged

/-- A run that keeps its events and one that does not. -/
def silencing : Simulation Logged Silent where
  toNearness := .same
  rel R x y := ∀ events, ResultAlike R (Logged.runOn x events).1 y
  rel_pure h _ := .ok h
  rel_bind {_ _ _ _ _ _ x y f g} hx hf events := by
    have hresult := hx events
    rw [Logged.runOn_bind]
    rcases hrun : Logged.runOn x events with ⟨result, events'⟩
    rw [hrun] at hresult
    cases hresult with
    | ok h => exact hf _ _ h events'
    | error cause => exact .error cause
  rel_halt cause _ := .error cause
  rel_stalled _ _ := .ok trivial

theorem silencing_rejects : silencing.Rejects := fun _ _ _ => .ok trivial

/-! ### The table grammar in any two computations -/

namespace Csv

open Simulation

variable {m n : Type → Type} [ParseMonad m] [ParseMonad n] {S : Simulation m n}

theorem alike_quotedField : S.Alike Eq quotedField quotedField :=
  alike_between (alike_literal "\"") (alike_charactersUntil (alike_literal "\""))
    (alike_literal "\"")

theorem alike_plainField : S.Alike Eq plainField plainField := by
  have hend : S.Alike Eq (Parser.first [Parser.literal ",", Parser.literal "\n"])
      (Parser.first [Parser.literal ",", Parser.literal "\n"]) :=
    alike_first (.cons (alike_literal ",") (.cons (alike_literal "\n") .nil))
  exact alike_charactersUntil (alike_map hend fun _ _ _ => (rfl : () = ()))

theorem alike_field : S.Alike Eq field field := by
  have heither : S.Alike Eq (Parser.first [quotedField, plainField])
      (Parser.first [quotedField, plainField]) :=
    alike_first (.cons alike_quotedField (.cons alike_plainField .nil))
  exact alike_map (alike_pair alike_notAtEnd heither) fun _ _ hpair => hpair.2

theorem alike_line : S.Alike Eq line line := by
  have hcomma : S.Alike Eq Parser.comma Parser.comma :=
    alike_map (alike_pair (alike_literal ",") alike_skipBlank) fun _ _ _ => rfl
  rw [← List.forall₂_eq_eq_eq]
  exact alike_many alike_field hcomma

theorem alike_document : S.Alike Eq document document := by
  rw [← List.forall₂_eq_eq_eq]
  exact alike_many alike_line (alike_literal "\n")

theorem rel_ofText (hsame : S.near = Eq) (hrejects : S.Rejects) (text : Source) :
    S.rel Eq (Table.ofText text : m (Except NoMatch Table)) (Table.ofText text) := by
  have htable : S.Alike Eq (Parsable.parser : Parser m Table) Parsable.parser :=
    alike_map alike_document fun _ _ hrows => congrArg Table.mk hrows
  have hstart : ResultAlike S.near (Cursor.locate text 0) (Cursor.locate text 0) := by
    rw [hsame]
    exact .refl _
  refine S.rel_bind (rel_run hrejects htable hstart) fun found found' hfound => ?_
  cases hfound with
  | none => exact S.rel_pure rfl
  | some htable => exact S.rel_pure (by rw [htable])

/-- The events that are kept make no difference to the table. -/
theorem outcome_ofText (text : Source) :
    (Table.ofText text : Logged (Except NoMatch Table)).outcome.1 = Table.ofText text :=
  (rel_ofText (S := silencing) rfl silencing_rejects text []).eq

end Csv

end Backtrack
