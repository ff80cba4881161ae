import PrefixCalc.Proofs.Blanks
import PrefixCalc.Proofs.Lexeme

/-!
# The grammar as a system of rules

What a line is, said without a reader: `Derivation.Line s c` holds if the text `s` is a line that
stands for the command `c`. Operands and applications are parts of a text, so their judgments name
the text that follows as well: `Derivation.Operand s t rest` says that `s` is an operand that stands
for `t`, followed by `rest`. The text that follows matters for numbers only, which no digit may
follow.

Nothing here says which of several readings is taken: blanks between two operands belong to either,
and a list of operands may end before any of them. That every line still stands for one command at
most is a property of the rules: the reader reads them all, and it reads one thing
(`Grammar.parse_eq_ok_iff`).
-/

namespace PrefixCalc.Derivation

mutual

/-- An operand: a number that no digit follows, or an application in parentheses. -/
inductive Operand : List Char → Term → List Char → Prop
  | number {cs rest : List Char} : Lexeme.IsLiteral cs → rest.head?.any Char.isDigit = false →
      Operand (cs ++ rest) (.number (String.ofList cs)) rest
  | group {w s w' rest : List Char} {t : Term} : Blanks w →
      Application .grouped s t (w' ++ ')' :: rest) → Blanks w' →
      Operand ('(' :: (w ++ s)) t rest

/-- An application: an operator symbol and one or more operands. -/
inductive Application : Form → List Char → Term → List Char → Prop
  | apply {form : Form} {x : Char} {s rest : List Char} {first : Term} {others : List Term} :
      x ∈ Operator.symbols → Operands s (first :: others) rest →
      Application form (x :: s) (.apply form x.toString first others) rest

/-- Any number of operands, with blanks before and after each. -/
inductive Operands : List Char → List Term → List Char → Prop
  | nil {s : List Char} : Operands s [] s
  | cons {w s w' s' rest : List Char} {t : Term} {ts : List Term} : Blanks w →
      Operand s t (w' ++ s') → Blanks w' → Operands s' ts rest →
      Operands (w ++ s) (t :: ts) rest

end

/-- A program: an application without parentheses, with blanks before and after it. -/
inductive Program : List Char → Term → Prop
  | spaced {w s w' : List Char} {t : Term} : Blanks w → Application .bare s t w' → Blanks w' →
      Program (w ++ s) t

/-- A line: a program, which is evaluated, or a colon, a verb and a program. -/
inductive Line : List Char → Command → Prop
  | bare {s : List Char} {t : Term} : Program s t → Line s ⟨.eval, t⟩
  | request {s : List Char} {t : Term} (verb : Verb) : Program s t →
      Line (':' :: (verb.name.toList ++ s)) ⟨verb, t⟩

section
variable {s rest : List Char} {t : Term}

/-- An operand starts with a minus sign, a digit or a parenthesis. -/
theorem Operand.head (h : Operand s t rest) :
    ∃ x xs, s = x :: xs ∧ (x = '-' ∨ x.isDigit = true ∨ x = '(') := by
  cases h with
  | number hcs _ =>
    obtain ⟨x, xs, rfl, hx⟩ := hcs.head
    exact ⟨x, _, rfl, hx.elim .inl fun hx => .inr (.inl hx)⟩
  | group => exact ⟨'(', _, rfl, .inr (.inr rfl)⟩

/-- No operand starts with a blank. -/
theorem Operand.head_not_blank (h : Operand s t rest) : s.head?.any isBlank = false := by
  obtain ⟨x, xs, rfl, hx⟩ := h.head
  rcases hx with rfl | hx | rfl
  · rfl
  · simpa using isBlank_of_isDigit hx
  · rfl

/-- No application starts with a blank. -/
theorem Application.head_not_blank {form : Form} (h : Application form s t rest) :
    s.head?.any isBlank = false := by
  cases h with
  | apply hx _ => simpa using isBlank_of_mem_symbols hx

/-- A program starts with a blank or an operator symbol. -/
theorem Program.head (h : Program s t) :
    ∃ x xs, s = x :: xs ∧ (isBlank x = true ∨ x ∈ Operator.symbols) := by
  cases h with
  | @spaced w s w' t hw happ _ =>
    cases happ with
    | @apply form x s rest first others hx _ =>
      cases w with
      | nil => exact ⟨x, s, rfl, .inr hx⟩
      | cons y ys => exact ⟨y, _, rfl, .inl (hw y (.head _))⟩

/-- Blanks before a program belong to it. -/
theorem Program.blanks_append {w : List Char} (h : Program s t) (hw : Blanks w) :
    Program (w ++ s) t := by
  cases h with
  | @spaced w₁ s _ _ hw₁ happ hw' =>
    rw [← List.append_assoc]
    refine .spaced (fun x hx => ?_) happ hw'
    exact (List.mem_append.1 hx).elim (hw x) (hw₁ x)

/-- A verb ends before its program starts. -/
theorem Program.head_not_identRest (h : Program s t) :
    s.head?.any Lexeme.isIdentRest = false := by
  obtain ⟨x, xs, rfl, hx | hx⟩ := h.head
  · simpa using isIdentRest_of_isBlank hx
  · simpa using isIdentRest_of_mem_symbols hx

/-- No program starts with a colon. -/
theorem Program.head_ne_colon (h : Program s t) : s.head? ≠ some ':' := by
  obtain ⟨x, xs, rfl, hx⟩ := h.head
  intro heq
  cases heq
  rcases hx with hx | hx
  · exact absurd hx (by decide)
  · exact absurd hx (by decide)

end

mutual

/-- An operand is made up of at least one character. -/
theorem Operand.length_lt {s rest : List Char} {t : Term} :
    Operand s t rest → rest.length < s.length
  | .number hcs _ => by
    obtain ⟨x, xs, rfl, -⟩ := hcs.head
    simp only [List.length_append, List.length_cons]
    omega
  | .group _ h _ => by
    have := h.length_lt
    simp only [List.length_append, List.length_cons] at this ⊢
    omega

/-- An application is made up of at least one character. -/
theorem Application.length_lt {form : Form} {s rest : List Char} {t : Term} :
    Application form s t rest → rest.length < s.length
  | .apply _ h => by
    have := h.length_le
    simp only [List.length_cons]
    omega

/-- Operands leave no more than they find. -/
theorem Operands.length_le {s rest : List Char} {ts : List Term} :
    Operands s ts rest → rest.length ≤ s.length
  | .nil => Nat.le_refl _
  | .cons _ h _ hs => by
    have := h.length_lt
    have := hs.length_le
    simp only [List.length_append] at *
    omega

end

end PrefixCalc.Derivation
