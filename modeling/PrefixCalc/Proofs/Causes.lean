import PrefixCalc.Proofs.RoundTrip
import PrefixCalc.Proofs.Wrapping

/-!
# Which errors a line can have

An error that a term evaluates to has a cause in the term (`EvalError.CausedBy`): a literal that
denotes no word, or a symbol that names no operator or one that divides
(`Term.exists_causedBy_of_eval`). The other way round, an error is never lost: if a term evaluates
to a word, so does everything below it (`Term.exists_ok_of_mem_subterms`).

In a term that was read from a line every symbol is that of an operator and every literal denotes an
integer. That leaves two causes, literals out of the range of a word and divisions by zero
(`Grammar.errors_of_parse_ok`).
-/

namespace PrefixCalc

/-! ## Causes of errors -/

/-- The error that two words can come to under a symbol: it names no operator, or one that
divides. -/
def EvalError.OfSymbol (e : EvalError) (op : String) : Prop :=
  Operator.ofText? op = none ∧ e = .invalidOperator ∨
    (Operator.ofText? op = some .div ∨ Operator.ofText? op = some .rem) ∧ e = .divideByZero

/-- The error that can be created at the root of a term. -/
def EvalError.CausedBy (e : EvalError) : Term → Prop
  | .number text => Decimal.word? text = none ∧ e = .invalidNumber
  | .apply _ op _ _ => e.OfSymbol op

namespace Value

variable {x y : Value} {op : String}

/-- An error of two values under a symbol is that of one of them, or it is due to the symbol. -/
theorem combine_eq_error {e : EvalError} (h : x.combine op y = .error e) :
    x = .error e ∨ y = .error e ∨ e.OfSymbol op := by
  cases x with
  | error _ => exact .inl h
  | ok a =>
    cases y with
    | error _ => exact .inr (.inl h)
    | ok b =>
      rcases error?_combine_ok.1 (error?_eq_some_iff.2 h) with hop | ⟨hop, -, he⟩
      · exact .inr (.inr (.inl hop))
      · exact .inr (.inr (.inr ⟨hop, he⟩))

/-- Only words combine to a word. -/
theorem combine_eq_ok {n : Int64} (h : x.combine op y = .ok n) :
    (∃ a, x = .ok a) ∧ ∃ b, y = .ok b := by
  cases x with
  | error _ => cases h
  | ok a =>
    cases y with
    | error _ => cases h
    | ok b => exact ⟨⟨a, rfl⟩, b, rfl⟩

end Value

namespace Term

section
variable {op : String} {ts : List Term} {acc : Value}

/-- An error after further operands is that of the running value or of an operand, or it is due to
the symbol. -/
theorem foldl_combine_eq_error {e : EvalError}
    (h : ts.foldl (fun acc t => acc.combine op t.eval) acc = .error e) :
    acc = .error e ∨ (∃ t ∈ ts, t.eval = .error e) ∨ e.OfSymbol op := by
  induction ts generalizing acc with
  | nil => exact .inl h
  | cons t ts ih =>
    rcases ih h with hacc | ⟨s, hs, heval⟩ | hop
    · rcases Value.combine_eq_error hacc with hacc | heval | hop
      · exact .inl hacc
      · exact .inr (.inl ⟨t, .head _, heval⟩)
      · exact .inr (.inr hop)
    · exact .inr (.inl ⟨s, .tail _ hs, heval⟩)
    · exact .inr (.inr hop)

/-- A word after further operands means that the running value and all operands are words. -/
theorem foldl_combine_eq_ok {n : Int64}
    (h : ts.foldl (fun acc t => acc.combine op t.eval) acc = .ok n) :
    (∃ a, acc = .ok a) ∧ ∀ t ∈ ts, ∃ b, t.eval = .ok b := by
  induction ts generalizing acc with
  | nil => exact ⟨⟨n, h⟩, nofun⟩
  | cons t ts ih =>
    obtain ⟨⟨a, ha⟩, hts⟩ := ih h
    obtain ⟨hacc, heval⟩ := Value.combine_eq_ok ha
    exact ⟨hacc, List.forall_mem_cons.2 ⟨heval, hts⟩⟩

end

/-- An error that a term evaluates to has a cause in the term. -/
theorem exists_causedBy_of_eval {t : Term} {e : EvalError} (h : t.eval = .error e) :
    ∃ s ∈ t.subterms, e.CausedBy s := by
  induction t using inductionOnOperands with
  | number text =>
    rw [eval_number] at h
    exact ⟨_, mem_subterms_self _, Value.error?_ofLiteral.1 (Value.error?_eq_some_iff.2 h)⟩
  | apply form op first rest ihfirst ihrest =>
    have hbelow {t s : Term} (ht : t ∈ first :: rest) (hs : s ∈ t.subterms) :
        s ∈ (Term.apply form op first rest).subterms := subterms_operand_subset ht hs
    rw [eval_apply] at h
    rcases foldl_combine_eq_error h with heval | ⟨t, ht, heval⟩ | hop
    · obtain ⟨s, hs, hcause⟩ := ihfirst heval
      exact ⟨s, hbelow (.head _) hs, hcause⟩
    · obtain ⟨s, hs, hcause⟩ := ihrest t ht heval
      exact ⟨s, hbelow (.tail _ ht) hs, hcause⟩
    · exact ⟨_, mem_subterms_self _, hop⟩

/-- An error is never lost: if a term evaluates to a word, so does everything below it. -/
theorem exists_ok_of_mem_subterms {t s : Term} {n : Int64} (h : t.eval = .ok n)
    (hs : s ∈ t.subterms) : ∃ m, s.eval = .ok m := by
  induction t using inductionOnOperands generalizing n with
  | number text =>
    rw [mem_subterms_number] at hs
    exact ⟨n, hs ▸ h⟩
  | apply form op first rest ihfirst ihrest =>
    rcases mem_subterms_apply.1 hs with rfl | ⟨t, ht, hbelow⟩
    · exact ⟨n, h⟩
    · rw [eval_apply] at h
      obtain ⟨⟨a, ha⟩, hrest⟩ := foldl_combine_eq_ok h
      rcases List.mem_cons.1 ht with rfl | ht
      · exact ihfirst ha hbelow
      · obtain ⟨b, hb⟩ := hrest t ht
        exact ihrest t ht hb hbelow

/-! ## Terms that are read -/

/-- Whatever is in or below an operand of a line can be one. -/
theorem IsOperand.of_mem_subterms {t s : Term} (h : t.IsOperand) (hs : s ∈ t.subterms) :
    s.IsOperand := by
  induction t using inductionOnOperands with
  | number text =>
    rw [mem_subterms_number] at hs
    exact hs ▸ h
  | apply form op first rest ihfirst ihrest =>
    rcases mem_subterms_apply.1 hs with rfl | ⟨t, ht, hbelow⟩
    · exact h
    · cases form with
      | bare => exact h.elim
      | grouped =>
        obtain ⟨-, hfirst, hrest⟩ := h
        rcases List.mem_cons.1 ht with rfl | ht
        · exact ihfirst hfirst hbelow
        · exact ihrest t ht ((areOperands_iff rest).1 hrest t ht) hbelow

/-- A term below the root of a canonical term can be an operand of a line. -/
theorem Canonical.eq_or_isOperand {t s : Term} (h : t.Canonical) (hs : s ∈ t.subterms) :
    s = t ∨ s.IsOperand := by
  match t, h with
  | .apply .bare op first rest, ⟨_, hfirst, hrest⟩ =>
    rcases mem_subterms_apply.1 hs with rfl | ⟨t, ht, hbelow⟩
    · exact .inl rfl
    · rcases List.mem_cons.1 ht with rfl | ht
      · exact .inr (hfirst.of_mem_subterms hbelow)
      · exact .inr ((hrest t ht).of_mem_subterms hbelow)

/-- Every symbol in a canonical term is that of an operator. -/
theorem Canonical.isSymbol {t first : Term} {form : Form} {op : String} {rest : List Term}
    (h : t.Canonical) (hs : .apply form op first rest ∈ t.subterms) : IsSymbol op := by
  rcases h.eq_or_isOperand hs with rfl | hoperand
  · cases form with
    | bare => exact h.1
    | grouped => exact h.elim
  · cases form with
    | bare => exact hoperand.elim
    | grouped => exact hoperand.1

/-- Every number in a canonical term is a literal. -/
theorem Canonical.isLiteral {t : Term} {text : String} (h : t.Canonical)
    (hs : .number text ∈ t.subterms) : Lexeme.IsLiteral text.toList := by
  rcases h.eq_or_isOperand hs with rfl | hoperand
  · exact h.elim
  · exact hoperand

end Term

/-- A text names the operator whose symbol it is. -/
theorem Operator.ofText?_eq_some_iff {text : String} {op : Operator} :
    ofText? text = some op ↔ text = op.symbol.toString := by
  constructor
  · intro h
    simpa [ofText?] using List.find?_some h
  · rintro rfl
    cases op <;> rfl

/-- A symbol names an operator. -/
theorem Term.IsSymbol.exists_operator {op : String} (h : Term.IsSymbol op) :
    ∃ o, Operator.ofText? op = some o := by
  obtain ⟨x, hx, rfl⟩ := h
  obtain ⟨o, -, rfl⟩ := List.mem_map.1 hx
  exact ⟨o, Operator.ofText?_eq_some_iff.2 rfl⟩

/-! ## Literals in and out of range -/

/-- A literal denotes an integer. -/
theorem Lexeme.IsLiteral.exists_integer? {cs : List Char} (h : Lexeme.IsLiteral cs) :
    ∃ n, Decimal.integer? cs = some n := by
  obtain ⟨ds, hne, hds, heq⟩ := h
  have hmagnitude : Decimal.magnitude? ds = some (Nat.ofDigitChars 10 ds 0) := by
    simpa [Decimal.magnitude?, hne] using hds
  rcases heq with rfl | rfl
  · unfold Decimal.integer?
    split
    · exact absurd (hds '+' (.head _)) (by decide)
    · exact absurd (hds '-' (.head _)) (by decide)
    · exact ⟨_, by rw [hmagnitude]; rfl⟩
  · exact ⟨_, by rw [Decimal.integer?, hmagnitude]; rfl⟩

/-- A text that denotes an integer denotes no word exactly if the integer is out of range. -/
theorem Decimal.word?_eq_none_iff {text : String} {n : Int} (h : integer? text.toList = some n) :
    word? text = none ↔ ¬ (-2 ^ 63 ≤ n ∧ n < 2 ^ 63) := by
  have hmin : Int64.minValue.toInt = -2 ^ 63 := rfl
  have hmax : Int64.maxValue.toInt = 2 ^ 63 - 1 := rfl
  have hrange : Int64.minValue.toInt ≤ n ∧ n ≤ Int64.maxValue.toInt ↔ -2 ^ 63 ≤ n ∧ n < 2 ^ 63 := by
    omega
  rw [word?, h, Option.bind_some, ← hrange]
  simp

namespace Term

/-- Every literal of the term denotes an integer within the range of a word. -/
def InRange (t : Term) : Prop :=
  ∀ text, .number text ∈ t.subterms →
    ∃ n, Decimal.integer? text.toList = some n ∧ -2 ^ 63 ≤ n ∧ n < 2 ^ 63

/-- Some literal of the term denotes an integer out of the range of a word. -/
def OutOfRange (t : Term) : Prop :=
  ∃ text n, .number text ∈ t.subterms ∧
    Decimal.integer? text.toList = some n ∧ ¬ (-2 ^ 63 ≤ n ∧ n < 2 ^ 63)

/-- No symbol of the term divides. -/
def Undivided (t : Term) : Prop :=
  ∀ form op first rest, .apply form op first rest ∈ t.subterms → op ≠ "/" ∧ op ≠ "%"

variable {t : Term}

/-- The literals of a canonical term are all in range, or one is out of range. -/
theorem Canonical.inRange_iff (h : t.Canonical) : t.InRange ↔ ¬ t.OutOfRange := by
  constructor
  · rintro hrange ⟨text, n, htext, hn, hout⟩
    obtain ⟨m, hm, hin⟩ := hrange text htext
    rw [hn] at hm
    cases hm
    exact hout hin
  · intro hrange text htext
    obtain ⟨n, hn⟩ := (h.isLiteral htext).exists_integer?
    have hin : -2 ^ 63 ≤ n ∧ n < 2 ^ 63 := Classical.not_not.1 fun hout =>
      hrange ⟨text, n, htext, hn, hout⟩
    exact ⟨n, hn, hin⟩

/-- A literal out of range makes the value an error. -/
theorem OutOfRange.exists_error (h : t.OutOfRange) : ∃ e, t.eval = .error e := by
  obtain ⟨text, n, htext, hn, hout⟩ := h
  cases heval : t.eval with
  | error e => exact ⟨e, rfl⟩
  | ok m =>
    obtain ⟨k, hk⟩ := exists_ok_of_mem_subterms heval htext
    have hword := (Decimal.word?_eq_none_iff hn).2 hout
    rw [eval_number, Value.ofLiteral, hword] at hk
    cases hk

/-- If all literals are in range, none is the cause of an error. -/
theorem InRange.eval_ne_invalidNumber (h : t.InRange) : t.eval ≠ .error .invalidNumber := by
  intro heval
  obtain ⟨s, hs, hcause⟩ := exists_causedBy_of_eval heval
  cases s with
  | number text =>
    obtain ⟨n, hn, hin⟩ := h text hs
    exact (Decimal.word?_eq_none_iff hn).1 hcause.1 hin
  | apply form op first rest =>
    rcases hcause with ⟨-, he⟩ | ⟨-, he⟩
    · cases he
    · cases he

/-- An error of a canonical term is an invalid number, or a division by zero if there are divisions.
-/
theorem Canonical.error_cases (h : t.Canonical) {e : EvalError} (heval : t.eval = .error e) :
    e = .invalidNumber ∨ e = .divideByZero ∧ ¬ t.Undivided := by
  obtain ⟨s, hs, hcause⟩ := exists_causedBy_of_eval heval
  cases s with
  | number text => exact .inl hcause.2
  | apply form op first rest =>
    rcases hcause with ⟨hunknown, -⟩ | ⟨hop, he⟩
    · obtain ⟨o, ho⟩ := (h.isSymbol hs).exists_operator
      rw [hunknown] at ho
      cases ho
    · refine .inr ⟨he, fun hundivided => ?_⟩
      obtain ⟨hdiv, hrem⟩ := hundivided form op first rest hs
      rcases hop with hop | hop
      · exact hdiv (Operator.ofText?_eq_some_iff.1 hop)
      · exact hrem (Operator.ofText?_eq_some_iff.1 hop)

end Term

/-! ## Lines -/

namespace Grammar

/-- The literals of a line are all in range, or one is out of range. The value of its program is
never an invalid operator; it is an invalid number only if a literal is out of range, and if one is,
it is an error of some kind. Without divisions it is an invalid number in that case and a word in
any other. -/
theorem errors_of_parse_ok {line : String} {c : Command} (h : parse line = .ok c) :
    (c.program.InRange ↔ ¬ c.program.OutOfRange) ∧
    c.program.eval ≠ .error .invalidOperator ∧
    (c.program.InRange → c.program.eval ≠ .error .invalidNumber) ∧
    (c.program.OutOfRange → ∃ e, c.program.eval = .error e) ∧
    (c.program.Undivided →
      (c.program.OutOfRange → c.program.eval = .error .invalidNumber) ∧
      (¬ c.program.OutOfRange → ∃ n, c.program.eval = .ok n)) := by
  have hcanonical := (parse_eq_ok_iff.1 h).canonical
  refine ⟨hcanonical.inRange_iff, fun heval => ?_, Term.InRange.eval_ne_invalidNumber,
    Term.OutOfRange.exists_error, fun hundivided => ?_⟩
  · rcases hcanonical.error_cases heval with he | ⟨he, -⟩
    · cases he
    · cases he
  · have herror {e : EvalError} (heval : c.program.eval = .error e) : e = .invalidNumber :=
      (hcanonical.error_cases heval).resolve_right fun hdiv => hdiv.2 hundivided
    refine ⟨fun hout => ?_, fun hnone => ?_⟩
    · obtain ⟨e, heval⟩ := hout.exists_error
      rw [heval, herror heval]
    · cases heval : c.program.eval with
      | ok n => exact ⟨n, rfl⟩
      | error e =>
        rw [herror heval] at heval
        exact absurd heval (hcanonical.inRange_iff.2 hnone).eval_ne_invalidNumber

/-- A literal just out of range, alone in a group, and a product with zero around it. -/
theorem errors_of_nested_literal :
    let t : Term := .apply .bare "*" (.apply .grouped "+" (.number "-9223372036854775809") [])
      [.number "0"]
    parse ":tree *(+ -9223372036854775809) 0" = .ok ⟨.tree, t⟩ ∧ t.Undivided ∧ t.OutOfRange ∧
      t.eval = .error .invalidNumber := by
  intro t
  have hparse : parse ":tree *(+ -9223372036854775809) 0" = .ok ⟨.tree, t⟩ := rfl
  have hundivided : t.Undivided := by
    intro form op first rest hs
    simp only [t, Term.mem_subterms_apply, Term.apply.injEq, List.mem_cons, List.not_mem_nil,
      or_false, exists_eq_or_imp, exists_eq_left, Term.mem_subterms_number, reduceCtorEq,
      ↓existsAndEq, and_false] at hs
    rcases hs with ⟨-, rfl, -⟩ | ⟨-, rfl, -⟩
    · decide
    · decide
  have hout : t.OutOfRange := by
    refine ⟨"-9223372036854775809", -9223372036854775809, ?_, by decide, by decide⟩
    simp [t, Term.mem_subterms_apply, Term.mem_subterms_number]
  exact ⟨hparse, hundivided, hout, ((errors_of_parse_ok hparse).2.2.2.2 hundivided).1 hout⟩

end Grammar

end PrefixCalc
