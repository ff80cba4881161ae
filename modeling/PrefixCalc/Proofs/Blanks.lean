import PrefixCalc.Lexeme
import PrefixCalc.Value

/-!
# Blanks between the parts of a line

Blanks are no part of any word of a line: no digit, operator symbol, parenthesis or letter is blank.
So what stands after skipped blanks (`Cursor.skipBlanks`) is settled by the text alone: any blanks
in front of a text that does not start with one are skipped, and no more.
-/

namespace PrefixCalc

/-- A text of blanks only, or the empty text. -/
def Blanks (w : List Char) : Prop := ∀ x ∈ w, isBlank x = true

instance (w : List Char) : Decidable (Blanks w) :=
  List.decidableBAll (isBlank · = true) w

/-! ## Characters that are not blank -/

section
variable {x : Char}

/-- In ASCII, a blank is a space or a control character. -/
theorem toNat_of_isBlank (h : isBlank x = true) : x.toNat ≤ 32 ∨ 133 ≤ x.toNat := by
  simp only [isBlank, Ranges.contains, blankRanges, List.any_cons, List.any_nil, Bool.or_eq_true,
    Bool.and_eq_true, decide_eq_true_eq, Bool.or_false] at h
  omega

/-- The characters of identifiers are ASCII letters, digits and the underscore. -/
theorem toNat_of_isIdentRest (h : Lexeme.isIdentRest x = true) : 48 ≤ x.toNat ∧ x.toNat ≤ 122 := by
  have hupper (h : x.isUpper = true) : 65 ≤ x.toNat ∧ x.toNat ≤ 90 := of_decide_eq_true h
  have hlower (h : x.isLower = true) : 97 ≤ x.toNat ∧ x.toNat ≤ 122 := by
    obtain ⟨hlo, hhi⟩ := Bool.and_eq_true_iff.1 h
    exact ⟨of_decide_eq_true hlo, of_decide_eq_true hhi⟩
  have hdigit (h : x.isDigit = true) : 48 ≤ x.toNat ∧ x.toNat ≤ 57 := Char.isDigit_iff_toNat.1 h
  change (((x.isUpper || x.isLower) || x.isDigit) || x == '_') = true at h
  simp only [Bool.or_eq_true, beq_iff_eq] at h
  rcases h with ((h | h) | h) | rfl
  · have := hupper h
    omega
  · have := hlower h
    omega
  · have := hdigit h
    omega
  · decide

/-- No identifier goes on with a blank. -/
theorem isIdentRest_of_isBlank (h : isBlank x = true) : Lexeme.isIdentRest x = false := by
  cases hx : Lexeme.isIdentRest x with
  | false => rfl
  | true =>
    have := toNat_of_isBlank h
    have := toNat_of_isIdentRest hx
    omega

/-- No digit is blank. -/
theorem isBlank_of_isDigit (h : x.isDigit = true) : isBlank x = false := by
  cases hx : isBlank x with
  | false => rfl
  | true =>
    have hrest : Lexeme.isIdentRest x = true := by simp [Lexeme.isIdentRest, Char.isAlphanum, h]
    rw [isIdentRest_of_isBlank hx] at hrest
    cases hrest

/-- No operator symbol is blank. -/
theorem isBlank_of_mem_symbols (h : x ∈ Operator.symbols) : isBlank x = false := by
  have hall : Operator.symbols.all (!isBlank ·) = true := rfl
  simpa using List.all_eq_true.1 hall x h

/-- No identifier goes on with an operator symbol. -/
theorem isIdentRest_of_mem_symbols (h : x ∈ Operator.symbols) : Lexeme.isIdentRest x = false := by
  have hall : Operator.symbols.all (!Lexeme.isIdentRest ·) = true := rfl
  simpa using List.all_eq_true.1 hall x h

end

/-! ## Skipping blanks -/

section
variable {w s : List Char}

/-- Blanks in front of a text are dropped with those of the text itself. -/
theorem Blanks.dropWhile_append (hw : Blanks w) :
    (w ++ s).dropWhile isBlank = s.dropWhile isBlank :=
  List.dropWhile_append_of_pos hw

/-- A text that does not start with a blank is left as it is. -/
theorem dropWhile_isBlank (h : s.head?.any isBlank = false) : s.dropWhile isBlank = s := by
  cases s with
  | nil => rfl
  | cons x xs => exact List.dropWhile_cons_of_neg (by simpa using h)

/-- No blank is left after blanks are dropped. -/
theorem head?_dropWhile_isBlank (s : List Char) :
    (s.dropWhile isBlank).head?.any isBlank = false := by
  cases h : (s.dropWhile isBlank).head? with
  | none => rfl
  | some x => simpa [h] using List.head?_dropWhile_not isBlank s

namespace Cursor

/-- What is left after blanks are skipped. -/
@[simp] theorem rest_skipBlanks (c : Cursor) : c.skipBlanks.rest = c.rest.dropWhile isBlank := rfl

/-- The skipped characters are blank. -/
theorem exists_blanks (c : Cursor) : ∃ w, Blanks w ∧ c.rest = w ++ c.skipBlanks.rest ∧
    c.skipBlanks.pos = c.pos + w.length :=
  ⟨c.rest.takeWhile isBlank, List.all_eq_true.1 List.all_takeWhile,
    List.takeWhile_append_dropWhile.symm, rfl⟩

/-- All the blanks in front of a text are skipped. -/
theorem skipBlanks_append (hw : Blanks w) (hs : s.head?.any isBlank = false) (p : Nat) :
    skipBlanks ⟨p, w ++ s⟩ = ⟨p + w.length, s⟩ := by
  have htake : s.takeWhile isBlank = [] := by
    cases s with
    | nil => rfl
    | cons x xs => exact List.takeWhile_cons_of_neg (by simpa using hs)
  simp [skipBlanks, List.takeWhile_append_of_pos hw, htake, hw.dropWhile_append,
    dropWhile_isBlank hs]

/-- Nothing is skipped where no blank stands. -/
theorem skipBlanks_eq_self {c : Cursor} (h : c.rest.head?.any isBlank = false) :
    c.skipBlanks = c :=
  skipBlanks_append (w := []) (by simp [Blanks]) h c.pos

/-- Blanks are skipped once and for all. -/
theorem skipBlanks_skipBlanks (c : Cursor) : c.skipBlanks.skipBlanks = c.skipBlanks :=
  skipBlanks_eq_self (head?_dropWhile_isBlank c.rest)

end Cursor

end

end PrefixCalc
