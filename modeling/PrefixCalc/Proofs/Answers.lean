import PrefixCalc.Proofs.RoundTrip
import PrefixCalc.Text.SourceLine

/-!
# Answers are one line

The answer to a command that was read from a line is one line (`OneLine`), whatever line breaks the
line itself holds. Values and counts are decimal numbers or fixed messages. The text of a term is
built from its literals and symbols and from single spaces and parentheses; terms built by hand may
hold any text there, but a term that was read is canonical, and no literal and no operator symbol
has a line break.
-/

namespace PrefixCalc

/-- Nothing in the text ends a line. -/
def Unbroken (cs : List Char) : Prop := ∀ x ∈ cs, isLineTerminator x = false

instance (cs : List Char) : Decidable (Unbroken cs) :=
  List.decidableBAll (isLineTerminator · = false) cs

/-- The text is shown as exactly one line: there is something to show, and nothing ends the line. -/
def OneLine (text : String) : Prop := text ≠ "" ∧ Unbroken text.toList

/-! ## Texts without a line break -/

section
variable {cs ds : List Char} {x : Char}

@[simp] theorem unbroken_append : Unbroken (cs ++ ds) ↔ Unbroken cs ∧ Unbroken ds := by
  simp only [Unbroken, List.mem_append, or_imp, forall_and]

/-- No character of an identifier ends a line. -/
theorem isLineTerminator_of_isIdentRest (h : Lexeme.isIdentRest x = true) :
    isLineTerminator x = false := by
  have hrange := toNat_of_isIdentRest h
  simp only [isLineTerminator, Bool.or_eq_false_iff, Bool.and_eq_false_iff, decide_eq_false_iff_not]
  omega

/-- No digit ends a line. -/
theorem isLineTerminator_of_isDigit (h : x.isDigit = true) : isLineTerminator x = false :=
  isLineTerminator_of_isIdentRest (by simp [Lexeme.isIdentRest, Char.isAlphanum, h])

/-- No literal has a line break. -/
theorem Lexeme.IsLiteral.unbroken (h : Lexeme.IsLiteral cs) : Unbroken cs := by
  obtain ⟨ds, -, hds, rfl | rfl⟩ := h
  · exact fun x hx => isLineTerminator_of_isDigit (hds x hx)
  · intro x hx
    rcases List.mem_cons.1 hx with rfl | hx
    · decide
    · exact isLineTerminator_of_isDigit (hds x hx)

/-- No identifier has a line break. -/
theorem Lexeme.IsIdentifier.unbroken (h : Lexeme.IsIdentifier cs) : Unbroken cs := by
  intro x hx
  apply isLineTerminator_of_isIdentRest
  cases cs with
  | nil => exact h.elim
  | cons y ys =>
    rcases List.mem_cons.1 hx with rfl | hx
    · have hstart := h.1
      rw [Lexeme.isIdentStart, Bool.or_eq_true] at hstart
      rw [Lexeme.isIdentRest, Char.isAlphanum, Bool.or_eq_true, Bool.or_eq_true]
      exact hstart.imp_left .inl
    · exact h.2 x hx

/-- No operator symbol has a line break. -/
theorem Term.IsSymbol.unbroken {op : String} (h : Term.IsSymbol op) : Unbroken op.toList := by
  obtain ⟨x, hx, rfl⟩ := h
  have hall : Operator.symbols.all (fun x => decide (Unbroken x.toString.toList)) = true := rfl
  simpa using List.all_eq_true.1 hall x hx

end

/-! ## Answers -/

/-- The digits of a number are one line. -/
theorem oneLine_digits (n : Nat) : OneLine (Decimal.digits n) := by
  refine ⟨?_, fun x hx => ?_⟩
  · rw [Decimal.digits, Ne, String.ofList_eq_empty_iff]
    exact Nat.toDigits_ne_nil
  · rw [Decimal.digits, String.toList_ofList] at hx
    exact isLineTerminator_of_isDigit (Nat.isDigit_of_mem_toDigits (by decide) (by decide) hx)

/-- A value is shown as one line. -/
theorem Value.oneLine_text (x : Value) : OneLine x.text := by
  cases x with
  | error e => cases e <;> exact ⟨by decide, by decide⟩
  | ok n =>
    rw [Value.text, Decimal.write]
    obtain ⟨hne, hunbroken⟩ := oneLine_digits n.toInt.natAbs
    split
    · refine ⟨?_, ?_⟩
      · intro h
        exact absurd (congrArg String.toList h) (by simp)
      · rw [String.toList_append, unbroken_append]
        exact ⟨by decide, hunbroken⟩
    · exact ⟨hne, hunbroken⟩

namespace Term

mutual

/-- The text of an operand has no line break. -/
theorem IsOperand.unbroken_text : ∀ {t : Term}, t.IsOperand → Unbroken t.text.toList
  | .number text, h => by
    rw [Term.text]
    exact Lexeme.IsLiteral.unbroken h
  | .apply .grouped op first rest, ⟨hop, hfirst, hrest⟩ => by
    rw [Term.text]
    simp only [String.toList_append, unbroken_append]
    exact ⟨⟨⟨⟨⟨by decide, hop.unbroken⟩, by decide⟩, hfirst.unbroken_text⟩,
      AreOperands.unbroken_restText hrest⟩, by decide⟩

/-- The text of further operands has no line break. -/
theorem AreOperands.unbroken_restText : ∀ {ts : List Term}, AreOperands ts →
    Unbroken (restText ts).toList
  | [], _ => by
    rw [restText]
    decide
  | t :: ts, ⟨ht, hts⟩ => by
    rw [restText]
    simp only [String.toList_append, unbroken_append]
    exact ⟨⟨by decide, ht.unbroken_text⟩, AreOperands.unbroken_restText hts⟩

end

/-- The text of a canonical term is one line. -/
theorem Canonical.oneLine_text {t : Term} (h : t.Canonical) : OneLine t.text := by
  match t, h with
  | .apply .bare op first rest, ⟨hop, hfirst, hrest⟩ =>
    rw [Term.text]
    refine ⟨?_, ?_⟩
    · intro h
      exact absurd (congrArg String.toList h) (by simp)
    · simp only [String.toList_append, unbroken_append]
      exact ⟨⟨⟨hop.unbroken, by decide⟩, hfirst.unbroken_text⟩,
        AreOperands.unbroken_restText ((areOperands_iff rest).2 hrest)⟩

end Term

/-- The answer to a command over a canonical program is one line. -/
theorem Command.oneLine_run {c : Command} (h : c.program.Canonical) : OneLine c.run := by
  rw [Command.run]
  split
  · exact Value.oneLine_text _
  · exact oneLine_digits _
  · exact oneLine_digits _
  · exact h.oneLine_text

/-- The answer to a line is one line. -/
theorem Grammar.oneLine_run_of_parse {line : String} {c : Command}
    (h : Grammar.parse line = .ok c) : OneLine c.run :=
  Command.oneLine_run (Grammar.parse_eq_ok_iff.1 h).canonical

end PrefixCalc
