import PrefixCalc.Proofs.Parsing

/-!
# Terms that are read back from their text

`Term.Canonical` are the terms that a line can stand for: a bare application whose operands are
number literals and grouped applications of operator symbols. A term is read back from its canonical
text exactly if it is one of them. Terms built by hand may hold any texts and bare applications at
any depth; their texts may still be read, but never as the terms they came from, since every term
that is read is canonical (`Derivation.Line.canonical`).
-/

namespace PrefixCalc

/-! ## Canonical terms -/

namespace Term

/-- A text that is a single operator symbol. -/
def IsSymbol (op : String) : Prop := ∃ x ∈ Operator.symbols, op = x.toString

mutual

/-- A term that can be an operand in a line: number literals and grouped applications throughout. -/
def IsOperand : Term → Prop
  | .number text => Lexeme.IsLiteral text.toList
  | .apply .grouped op first rest => IsSymbol op ∧ first.IsOperand ∧ AreOperands rest
  | .apply .bare _ _ _ => False

/-- `IsOperand` over the operands of an application. -/
def AreOperands : List Term → Prop
  | [] => True
  | t :: ts => t.IsOperand ∧ AreOperands ts

end

/-- `AreOperands` in the per-element form. -/
theorem areOperands_iff (ts : List Term) : AreOperands ts ↔ ∀ t ∈ ts, t.IsOperand := by
  induction ts with
  | nil => simp [AreOperands]
  | cons t ts ih => simp [AreOperands, ih]

/-- A term that a line can stand for: a bare application of an operator symbol to operands. -/
def Canonical : Term → Prop
  | .apply .bare op first rest => IsSymbol op ∧ first.IsOperand ∧ ∀ t ∈ rest, t.IsOperand
  | .apply .grouped _ _ _ => False
  | .number _ => False

end Term

/-! ## Every term that is read is canonical -/

namespace Derivation

mutual

/-- What an operand stands for can be an operand. -/
theorem Operand.isOperand {s rest : List Char} {t : Term} : Operand s t rest → t.IsOperand
  | .number hcs _ => by
    rw [Term.IsOperand, String.toList_ofList]
    exact hcs
  | .group _ h _ => by
    obtain ⟨op, first, others, rfl, hparts⟩ := h.isSymbol_areOperands
    exact hparts

/-- What an application stands for is the application of a symbol to operands, in its form. -/
theorem Application.isSymbol_areOperands {form : Form} {s rest : List Char} {t : Term} :
    Application form s t rest → ∃ op first others, t = .apply form op first others ∧
      Term.IsSymbol op ∧ Term.AreOperands (first :: others)
  | .apply hx h => ⟨_, _, _, rfl, ⟨_, hx, rfl⟩, h.areOperands⟩

/-- What operands stand for can be operands. -/
theorem Operands.areOperands {s rest : List Char} {ts : List Term} :
    Operands s ts rest → Term.AreOperands ts
  | .nil => trivial
  | .cons _ h _ hs => ⟨h.isOperand, hs.areOperands⟩

end

/-- The term of a program is canonical. -/
theorem Program.canonical {s : List Char} {t : Term} (h : Program s t) : t.Canonical := by
  cases h with
  | spaced _ happ _ =>
    obtain ⟨op, first, others, rfl, hop, hfirst, hothers⟩ := happ.isSymbol_areOperands
    exact ⟨hop, hfirst, (Term.areOperands_iff others).1 hothers⟩

/-- The term of a line is canonical. -/
theorem Line.canonical {s : List Char} {cmd : Command} (h : Line s cmd) :
    cmd.program.Canonical := by
  cases h with
  | bare h | request _ h => exact h.canonical

end Derivation

/-! ## The text of a canonical term stands for it

Canonical texts use the blanks that the grammar allows in one way: a space before each operand and
none elsewhere.
-/

namespace Derivation

section
variable {s s' rest : List Char} {t : Term} {ts : List Term}

/-- An operand after a space, followed by further operands. -/
theorem Operands.cons_space (h : Operand s t s') (hs : Operands s' ts rest) :
    Operands (' ' :: s) (t :: ts) rest :=
  @Operands.cons [' '] s [] s' rest t ts (by decide) h (by decide) hs

/-- An application right between parentheses. -/
theorem Operand.group_tight (h : Application .grouped s t (')' :: rest)) :
    Operand ('(' :: s) t rest :=
  @Operand.group [] s [] rest t (by decide) h (by decide)

/-- An application without blanks around it. -/
theorem Program.tight (h : Application .bare s t []) : Program s t :=
  @Program.spaced [] s [] t (by decide) h (by decide)

end

end Derivation

namespace Term

open PrefixCalc.Derivation

/-- The text of further operands does not go on with a digit unless what follows it does. -/
theorem head_restText (ts : List Term) {rest : List Char}
    (hrest : rest.head?.any Char.isDigit = false) :
    ((restText ts).toList ++ rest).head?.any Char.isDigit = false := by
  cases ts with
  | nil => simpa [restText] using hrest
  | cons t ts =>
    have hspace : (restText (t :: ts)).toList ++ rest =
        ' ' :: (t.text.toList ++ (restText ts).toList ++ rest) := by
      simp [restText]
    rw [hspace]
    rfl

mutual

/-- The text of an operand is an operand that stands for it. -/
theorem operand_text : ∀ (t : Term), t.IsOperand → ∀ {rest : List Char},
    rest.head?.any Char.isDigit = false → Operand (t.text.toList ++ rest) t rest
  | .number text, h, rest, hrest => by
    have hnumber := Operand.number h hrest
    rw [String.ofList_toList] at hnumber
    rw [Term.text]
    exact hnumber
  | .apply .grouped op first others, h, rest, hrest => by
    obtain ⟨⟨x, hx, rfl⟩, hfirst, hothers⟩ := h
    have hclose : (')' :: rest).head?.any Char.isDigit = false := rfl
    have hoperands := Operands.cons_space (operand_text first hfirst (head_restText others hclose))
      (operands_restText others hothers hclose)
    have htext : (Term.apply .grouped x.toString first others).text.toList ++ rest =
        '(' :: x :: ' ' :: (first.text.toList ++ ((restText others).toList ++ ')' :: rest)) := by
      simp [Term.text]
    rw [htext]
    exact .group_tight (.apply hx hoperands)

/-- The text of further operands is a list of operands that stands for them. -/
theorem operands_restText : ∀ (ts : List Term), AreOperands ts → ∀ {rest : List Char},
    rest.head?.any Char.isDigit = false → Operands ((restText ts).toList ++ rest) ts rest
  | [], _, rest, _ => by
    rw [restText]
    exact .nil
  | t :: ts, h, rest, hrest => by
    have htext : (restText (t :: ts)).toList ++ rest =
        ' ' :: (t.text.toList ++ ((restText ts).toList ++ rest)) := by
      simp [restText]
    rw [htext]
    exact .cons_space (operand_text t h.1 (head_restText ts hrest))
      (operands_restText ts h.2 hrest)

end

/-- The text of a canonical term is a program that stands for it. -/
theorem Canonical.program_text {t : Term} (h : t.Canonical) : Program t.text.toList t := by
  match t, h with
  | .apply .bare op first others, ⟨⟨x, hx, hop⟩, hfirst, hothers⟩ =>
    subst hop
    have hoperands : Operands ((restText (first :: others)).toList ++ []) (first :: others) [] :=
      operands_restText (first :: others) ⟨hfirst, (areOperands_iff others).2 hothers⟩ rfl
    have htext : (Term.apply .bare x.toString first others).text.toList =
        x :: ((restText (first :: others)).toList ++ []) := by
      simp [Term.text, restText]
    rw [htext]
    exact .tight (.apply hx hoperands)

end Term

/-! ## Reading and writing -/

namespace Grammar

open PrefixCalc.Derivation

/-- A program can be asked about with a verb and a space in front of it. -/
theorem parse_request_of_program {text : String} {t : Term} (h : Program text.toList t)
    (verb : Verb) : parse (":" ++ verb.name ++ " " ++ text) = .ok ⟨verb, t⟩ := by
  rw [parse_eq_ok_iff]
  have hprogram : Program ([' '] ++ text.toList) t := h.blanks_append (by decide)
  have htext : (":" ++ verb.name ++ " " ++ text).toList =
      ':' :: (verb.name.toList ++ ([' '] ++ text.toList)) := by
    simp
  rw [htext]
  exact .request verb hprogram

/-- A canonical term is read back from its text, also after a verb and a space. -/
theorem parse_request_text {t : Term} (h : t.Canonical) (verb : Verb) :
    parse (":" ++ verb.name ++ " " ++ t.text) = .ok ⟨verb, t⟩ :=
  parse_request_of_program h.program_text verb

/-- Reading undoes writing for the canonical terms and no others; every term that is read is
canonical; and to ask for the text of a canonical term by its text gives the text again. -/
theorem parse_text_eq_ok_iff_canonical :
    (∀ t : Term, parse t.text = .ok ⟨.eval, t⟩ ↔ t.Canonical) ∧
    (∀ line cmd, parse line = .ok cmd → cmd.program.Canonical) ∧
    ∀ t : Term, t.Canonical →
      ∃ cmd, parse (":tree " ++ t.text) = .ok cmd ∧ cmd.run = t.text := by
  have hread : ∀ line cmd, parse line = .ok cmd → cmd.program.Canonical :=
    fun line cmd h => (parse_eq_ok_iff.1 h).canonical
  refine ⟨fun t => ⟨fun h => hread t.text _ h, fun h => ?_⟩, hread, fun t h => ?_⟩
  · exact parse_eq_ok_iff.2 (.bare h.program_text)
  · exact ⟨⟨.tree, t⟩, parse_request_text h .tree, rfl⟩

end Grammar

end PrefixCalc
