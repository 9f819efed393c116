import Backtrack.Text.Quoted

/-!
# Backtrack.Proofs.Quoting

**Quoted texts can be told apart.** A text may hold anything, also quotes, brackets, commas and
what looks like an escape, and it is written in the midst of other texts. A form of writing is
*self-delimiting* if what is written tells the value and also where it ends, whatever follows
(`Text.SelfDelimiting`). Then values written one after the other can be told apart as well,
as long as there is something that ends them (`SelfDelimiting.list`).

So it is enough to look at the written form of a single scalar. There are three of them
(`Text.Escaped`), and a scalar that stands for itself is neither a quote nor a backslash. From
there, texts and lists of texts are self-delimiting layer by layer, and no layer writes a
line feed.
-/

namespace Backtrack.Text

variable {α : Type} {write : α → List Char} {c d : Char} {xs ys : List Char}

/-! ### Telling apart what is written in a row -/

/-- What is written for a value tells the value and where it ends, whatever comes behind it. -/
def SelfDelimiting (write : α → List Char) : Prop :=
  ∀ ⦃a b : α⦄ ⦃xs ys : List Char⦄, write a ++ xs = write b ++ ys → a = b ∧ xs = ys

/-- Values in a row, ended by a scalar with which no value begins. -/
theorem SelfDelimiting.list (h : SelfDelimiting write) {stop : Char}
    (hstart : ∀ a rest, (write a ++ rest).head? ≠ some stop) :
    SelfDelimiting fun values : List α => values.flatMap write ++ [stop] := by
  intro as bs xs ys heq
  simp only [List.append_assoc, List.singleton_append] at heq
  induction as generalizing bs with
  | nil =>
      cases bs with
      | nil => exact ⟨rfl, (List.cons.inj heq).2⟩
      | cons b bs =>
          rw [List.flatMap_cons, List.append_assoc] at heq
          exact absurd (congrArg List.head? heq).symm (hstart b _)
  | cons a as ih =>
      rw [List.flatMap_cons, List.append_assoc] at heq
      cases bs with
      | nil => exact absurd (congrArg List.head? heq) (hstart a _)
      | cons b bs =>
          rw [List.flatMap_cons, List.append_assoc] at heq
          obtain ⟨rfl, hrest⟩ := h heq
          obtain ⟨rfl, rfl⟩ := ih hrest
          exact ⟨rfl, rfl⟩

/-- A run without `stop` is ended by it. -/
theorem eq_of_append_stop {stop : Char} {run run' : List Char} (hrun : stop ∉ run)
    (hrun' : stop ∉ run') (h : run ++ stop :: xs = run' ++ stop :: ys) :
    run = run' ∧ xs = ys := by
  have hsplit := congrArg (List.splitOn stop) h
  rw [List.splitOn_append_cons_self_of_not_mem hrun,
    List.splitOn_append_cons_self_of_not_mem hrun'] at hsplit
  obtain ⟨rfl, -⟩ := List.cons.inj hsplit
  exact ⟨rfl, (List.cons.inj (List.append_cancel_left h)).2⟩

/-! ### Digits -/

theorem not_mem_toDigits {base : Nat} (hbase : 1 < base) (hdigit : ∀ d, Nat.digitChar d ≠ c)
    (n : Nat) : c ∉ Nat.toDigits base n := by
  induction n using Nat.strongRecOn with
  | ind n ih =>
      rw [Nat.toDigits_eq_if hbase]
      split
      case isTrue => simpa using (hdigit n).symm
      case isFalse hle =>
        have hless : n / base < n := Nat.div_lt_self (by omega) hbase
        simpa [ih _ hless] using (hdigit (n % base)).symm

theorem digitChar_injective : ∀ m < 16, ∀ n < 16, m.digitChar = n.digitChar → m = n := by decide

theorem hexDigits_eq (n : Nat) :
    hexDigits n = (if n < 16 then [] else hexDigits (n / 16)) ++ [(n % 16).digitChar] := by
  unfold hexDigits
  rw [Nat.toDigits_eq_if (by decide)]
  split
  case isTrue h => rw [Nat.mod_eq_of_lt h, List.nil_append]
  case isFalse => rfl

theorem hexDigits_ne_nil (n : Nat) : hexDigits n ≠ [] := Nat.toDigits_ne_nil

/-- The last digit and the digits before it tell the number. -/
theorem hexDigits_injective {m n : Nat} (h : hexDigits m = hexDigits n) : m = n := by
  induction m using Nat.strongRecOn generalizing n with
  | ind m ih =>
      rw [hexDigits_eq m, hexDigits_eq n] at h
      obtain ⟨hleading, hlast⟩ := List.append_inj' h rfl
      have hmod : m % 16 = n % 16 :=
        digitChar_injective _ (Nat.mod_lt m (by decide)) _ (Nat.mod_lt n (by decide))
          (List.cons.inj hlast).1
      have hdiv : m / 16 = n / 16 := by
        split at hleading <;> split at hleading
        · omega
        · exact absurd hleading.symm (hexDigits_ne_nil _)
        · exact absurd hleading (hexDigits_ne_nil _)
        · exact ih (m / 16) (by omega) hleading
      omega

/-! ### Scalars -/

/-- The scalars with a short escape, each behind the code that is written for it. -/
def shortEscapes : List (Char × Char) :=
  [('"', '"'), ('\\', '\\'), ('0', '\x00'), ('t', '\t'), ('n', '\n'), ('r', '\r')]

/-- Each code stands for one scalar. -/
theorem shortEscapes_unique : ∀ p ∈ shortEscapes, ∀ q ∈ shortEscapes, p.1 = q.1 → p.2 = q.2 := by
  decide

/-- No code is the `u` of a code point. -/
theorem code_ne_u : ∀ p ∈ shortEscapes, p.1 ≠ 'u' := by decide

theorem code_ne_newline : ∀ p ∈ shortEscapes, p.1 ≠ '\n' := by decide

/-- The forms in which a scalar is written. -/
inductive Escaped : Char → List Char → Prop
  /-- A backslash and a code. -/
  | short {code c : Char} (h : (code, c) ∈ shortEscapes) : Escaped c ['\\', code]
  /-- The code point between braces. -/
  | codePoint (c : Char) : Escaped c ('\\' :: 'u' :: '\x7b' :: (hexDigits c.toNat ++ ['\x7d']))
  /-- The scalar itself, if there is no short escape for it. -/
  | plain {c : Char} (h : ∀ code, (code, c) ∉ shortEscapes) : Escaped c [c]

theorem escaped_escapeChar (c : Char) : Escaped c (escapeChar c) := by
  by_cases hshort : ∃ code, (code, c) ∈ shortEscapes
  · obtain ⟨code, hcode⟩ := hshort
    simp only [shortEscapes, List.mem_cons, Prod.mk.injEq, List.not_mem_nil, or_false] at hcode
    rcases hcode with ⟨-, rfl⟩ | ⟨-, rfl⟩ | ⟨-, rfl⟩ | ⟨-, rfl⟩ | ⟨-, rfl⟩ | ⟨-, rfl⟩
    all_goals exact .short (by decide)
  · have hplain : ∀ code, (code, c) ∉ shortEscapes := not_exists.mp hshort
    have hnone : escapeChar c =
        if isExtending c || isUnprintable c then
          ['\\', 'u', '\x7b'] ++ hexDigits c.toNat ++ ['\x7d']
        else [c] := by
      simp only [shortEscapes, List.mem_cons, Prod.mk.injEq, List.not_mem_nil, or_false, not_or,
        not_and, forall_and, forall_eq] at hplain
      simp [escapeChar, hplain]
    rw [hnone]
    split
    · exact .codePoint c
    · exact .plain hplain

/-- A scalar without a short escape differs from every scalar that has one. -/
theorem ne_of_no_short {code special : Char} (h : ∀ code, (code, c) ∉ shortEscapes)
    (hspecial : (code, special) ∈ shortEscapes) : c ≠ special := by
  intro heq
  rw [← heq] at hspecial
  exact h code hspecial

theorem ne_backslash (h : ∀ code, (code, c) ∉ shortEscapes) : c ≠ '\\' :=
  ne_of_no_short h (by decide : ('\\', '\\') ∈ shortEscapes)

theorem not_mem_hexDigits (hdigit : ∀ d, Nat.digitChar d ≠ c) (n : Nat) : c ∉ hexDigits n :=
  not_mem_toDigits (by decide) hdigit n

theorem rightBrace_not_mem (n : Nat) : '\x7d' ∉ hexDigits n :=
  not_mem_hexDigits (fun _ => Nat.digitChar_ne _ (by decide)) n

/-- The first scalar tells an escape from a scalar that stands for itself, and the second one
tells which escape it is. -/
theorem Escaped.eq_of_append {w v : List Char} (hw : Escaped c w) (hv : Escaped d v)
    (h : w ++ xs = v ++ ys) : c = d ∧ xs = ys := by
  cases hw with
  | short hc =>
      cases hv with
      | short hd =>
          obtain ⟨hcode, hrest⟩ : _ = _ ∧ xs = ys := by simpa using h
          exact ⟨shortEscapes_unique _ hc _ hd hcode, hrest⟩
      | codePoint => simp [code_ne_u _ hc] at h
      | plain hd => simp [(ne_backslash hd).symm] at h
  | codePoint =>
      cases hv with
      | short hd => simp [(code_ne_u _ hd).symm] at h
      | codePoint =>
          have hdigits : hexDigits c.toNat ++ '\x7d' :: xs = hexDigits d.toNat ++ '\x7d' :: ys := by
            simpa using h
          obtain ⟨hsame, hrest⟩ :=
            eq_of_append_stop (rightBrace_not_mem _) (rightBrace_not_mem _) hdigits
          exact ⟨Char.toNat_inj.mp (hexDigits_injective hsame), hrest⟩
      | plain hd => simp [(ne_backslash hd).symm] at h
  | plain hc =>
      cases hv with
      | short => simp [ne_backslash hc] at h
      | codePoint => simp [ne_backslash hc] at h
      | plain => simpa using h

theorem selfDelimiting_escapeChar : SelfDelimiting escapeChar :=
  fun _ _ _ _ h => (escaped_escapeChar _).eq_of_append (escaped_escapeChar _) h

/-- A quote never begins the written form of a scalar. -/
theorem Escaped.head?_ne {w : List Char} (h : Escaped c w) (rest : List Char) :
    (w ++ rest).head? ≠ some '"' := by
  cases h with
  | short => simp
  | codePoint => simp
  | plain hc => simpa using ne_of_no_short hc (by decide : ('"', '"') ∈ shortEscapes)

theorem Escaped.newline_not_mem {w : List Char} (h : Escaped c w) : '\n' ∉ w := by
  cases h with
  | short hc => simpa using (code_ne_newline _ hc).symm
  | codePoint =>
      have hdigits := not_mem_hexDigits (fun _ => Nat.digitChar_ne '\n' (by decide)) c.toNat
      simpa using hdigits
  | plain hc => simpa using (ne_of_no_short hc (by decide : ('n', '\n') ∈ shortEscapes)).symm

/-! ### Texts -/

theorem selfDelimiting_escape : SelfDelimiting fun cs => escape cs ++ ['"'] :=
  selfDelimiting_escapeChar.list fun c rest => (escaped_escapeChar c).head?_ne rest

theorem toList_quote (text : String) :
    (quote text).toList = '"' :: (escape text.toList ++ ['"']) := by
  simp [quote]

/-- The quote that ends a text is the first one that is not escaped. -/
theorem selfDelimiting_quote : SelfDelimiting fun text => (quote text).toList := by
  intro text text' xs ys h
  simp only [toList_quote, List.cons_append, List.cons.injEq, true_and] at h
  obtain ⟨hcs, hrest⟩ := selfDelimiting_escape h
  exact ⟨String.toList_inj.mp hcs, hrest⟩

theorem newline_not_mem_quote (text : String) : '\n' ∉ (quote text).toList := by
  have hescape : '\n' ∉ escape text.toList := by
    intro hmem
    obtain ⟨c, -, hc⟩ := List.mem_flatMap.mp hmem
    exact (escaped_escapeChar c).newline_not_mem hc
  simpa [toList_quote] using hescape

/-! ### Lists of texts -/

/-- A text behind another one. -/
def quoteNext (text : String) : List Char := ',' :: ' ' :: (quote text).toList

theorem toList_intercalate_quote (text : String) (texts : List String) :
    (", ".intercalate ((text :: texts).map quote)).toList =
      (quote text).toList ++ texts.flatMap quoteNext := by
  induction texts generalizing text with
  | nil => simp
  | cons next texts ih =>
      rw [List.map_cons, List.map_cons, String.intercalate_cons_cons, ← List.map_cons,
        String.toList_append, String.toList_append, ih]
      simp [quoteNext]

theorem toList_quoteList_nil : (quoteList []).toList = ['[', ']'] := by decide

theorem toList_quoteList_cons (text : String) (texts : List String) :
    (quoteList (text :: texts)).toList =
      '[' :: ((quote text).toList ++ (texts.flatMap quoteNext ++ [']'])) := by
  rw [quoteList, String.toList_append, String.toList_append, toList_intercalate_quote]
  simp

theorem selfDelimiting_quoteNext : SelfDelimiting quoteNext := by
  intro text text' xs ys h
  simp only [quoteNext, List.cons_append, List.cons.injEq, true_and] at h
  exact selfDelimiting_quote h

/-- Behind a text comes a comma or the closing bracket, and the brackets of no text at all are
not those of an empty one. -/
theorem selfDelimiting_quoteList : SelfDelimiting fun texts => (quoteList texts).toList := by
  have hnext : SelfDelimiting fun texts : List String => texts.flatMap quoteNext ++ [']'] :=
    selfDelimiting_quoteNext.list fun text rest => by simp [quoteNext]
  intro texts texts' xs ys h
  cases texts with
  | nil =>
      cases texts' with
      | nil => simpa using h
      | cons text' texts' => simp [toList_quoteList_nil, toList_quoteList_cons, toList_quote] at h
  | cons text texts =>
      cases texts' with
      | nil => simp [toList_quoteList_nil, toList_quoteList_cons, toList_quote] at h
      | cons text' texts' =>
          simp only [toList_quoteList_cons, List.cons_append, List.append_assoc, List.cons.injEq,
            true_and] at h
          obtain ⟨rfl, htail⟩ := selfDelimiting_quote h
          obtain ⟨rfl, rfl⟩ := hnext (by simpa using htail)
          exact ⟨rfl, rfl⟩

theorem newline_not_mem_quoteList (texts : List String) : '\n' ∉ (quoteList texts).toList := by
  cases texts with
  | nil => decide
  | cons text texts =>
      have hnext : '\n' ∉ texts.flatMap quoteNext := by
        intro hmem
        obtain ⟨text', -, htext⟩ := List.mem_flatMap.mp hmem
        exact newline_not_mem_quote text' (by simpa [quoteNext] using htext)
      rw [toList_quoteList_cons]
      simp [hnext, newline_not_mem_quote text]

end Backtrack.Text
