import Backtrack.Parser.Primitive

/-!
# Backtrack.Proofs.Silent

**Parsers as functions.** A computation that keeps no events is a result or the reason
why there is none, so a parser of such computations is a function from cursors. Its
steps are taken by rewriting here: first the binds, then the replies of the parsers
without parts.
-/

namespace Backtrack

variable {α β : Type}

/-! ### Binds -/

@[simp] theorem Silent.ok_bind (a : α) (f : α → Silent β) :
    ((.ok a : Silent α) >>= f) = f a := rfl

@[simp] theorem Silent.error_bind (cause : Halt) (f : α → Silent β) :
    ((.error cause : Silent α) >>= f) = .error cause := rfl

/-- A computation of two steps has a result if both steps have one. -/
theorem Silent.bind_eq_ok_iff {x : Silent α} {f : α → Silent β} {b : β} :
    (x >>= f) = .ok b ↔ ∃ a, x = .ok a ∧ f a = .ok b := by
  cases x with
  | ok a => simp
  | error cause => simp

@[simp] theorem Silent.pure_eq_ok (a : α) : (pure a : Silent α) = .ok a := rfl

@[simp] theorem Silent.emit_eq_ok (event : Event) :
    (ParseMonad.emit event : Silent Unit) = .ok () := rfl

namespace Parser

variable {c : Cursor}

/-! ### Replies of parsers without parts -/

theorem anyChar_parse (c : Cursor) :
    (anyChar : Parser Silent Char).parse c =
      .ok (match c.rest with
        | [] => .fail c
        | ch :: _ => .done ch (c.advance [ch])) := by
  cases hrest : c.rest <;> simp [anyChar, Cursor.next?, hrest]

theorem literal_parse (expected : String) (c : Cursor) :
    (literal expected : Parser Silent Unit).parse c =
      .ok (if expected.toList <+: c.rest then .done () (c.advance expected.toList)
        else .fail c) := by
  by_cases h : expected.toList <+: c.rest
  · have hstart : c.startsWith expected = true := List.isPrefixOf_iff_prefix.mpr h
    simp [literal, Cursor.advanceText, hstart, h]
  · have hstart : ¬ c.startsWith expected = true := fun hs => h (List.isPrefixOf_iff_prefix.mp hs)
    simp [literal, hstart, h]

theorem skipBlank_parse (c : Cursor) :
    (skipBlank : Parser Silent Unit).parse c =
      .ok (.done () (c.advance (c.rest.takeWhile Text.isBlank))) := by
  simp [skipBlank, Cursor.advanceWhile_eq]

end Parser

end Backtrack
