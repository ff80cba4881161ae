import PrefixCalc.Proofs.Numerals

/-!
# Replacing a part of a term

A position in a term is the list of the places of the operands that lead to it from the root
(`Term.at?`, `Term.replaceAt`). The value of an application depends on its operands through their
values only (`Term.eval_apply_congr`), so a part of a term can be replaced by any term of the same
value, however deep it stands (`Term.eval_replaceAt`).

In particular a part that has a word for its value can be replaced by a number, with the text that
shows the word. That text is a literal, so below the root of a canonical term the replacement leaves
the term canonical (`Term.Canonical.replaceAt`), and its text is read as a line with the same
answer (`Grammar.answers_of_replaceAt`).
-/

namespace PrefixCalc

namespace Term

/-! ## Positions -/

/-- The same term with another operand in place `i`, if it has an operand there. -/
def modifyOperand (t : Term) (i : Nat) (f : Term → Term) : Term :=
  match t, i with
  | .number text, _ => .number text
  | .apply form op first rest, 0 => .apply form op (f first) rest
  | .apply form op first rest, i + 1 => .apply form op first (rest.modify i f)

/-- The term at a position: the root for the empty one, and otherwise what is at the rest of the
position in the operand that its first entry counts to. -/
def at? : Term → List Nat → Option Term
  | t, [] => some t
  | t, i :: p => t.operands[i]?.bind (·.at? p)

/-- The same term with another one at a position. -/
def replaceAt : Term → List Nat → Term → Term
  | _, [], new => new
  | t, i :: p, new => t.modifyOperand i (·.replaceAt p new)

section
variable {t s new : Term} {i : Nat} {p : List Nat} {f : Term → Term}

theorem operands_modifyOperand (t : Term) (i : Nat) (f : Term → Term) :
    (t.modifyOperand i f).operands = t.operands.modify i f := by
  cases t with
  | number text => rw [modifyOperand, operands, List.modify_nil]
  | apply form op first rest =>
    cases i with
    | zero => rfl
    | succ i => rfl

/-- An application stays one of the same symbol in the same form. -/
theorem exists_modifyOperand_eq (form : Form) (op : String) (first : Term) (rest : List Term)
    (i : Nat) (f : Term → Term) : ∃ first' rest',
      (Term.apply form op first rest).modifyOperand i f = .apply form op first' rest' ∧
      first' :: rest' = (first :: rest).modify i f := by
  cases i with
  | zero => exact ⟨f first, rest, rfl, rfl⟩
  | succ i => exact ⟨first, rest.modify i f, rfl, rfl⟩

theorem at?_cons_eq_some_iff :
    t.at? (i :: p) = some s ↔ ∃ u, t.operands[i]? = some u ∧ u.at? p = some s := by
  rw [at?, Option.bind_eq_some_iff]

/-- What was put at a position is there. -/
theorem at?_replaceAt (hs : t.at? p = some s) (new : Term) :
    (t.replaceAt p new).at? p = some new := by
  induction p generalizing t with
  | nil => rw [replaceAt, at?]
  | cons i p ih =>
    obtain ⟨u, hu, hs⟩ := at?_cons_eq_some_iff.1 hs
    refine at?_cons_eq_some_iff.2 ⟨u.replaceAt p new, ?_, ih hs⟩
    rw [replaceAt, operands_modifyOperand, List.getElem?_modify_eq, hu]
    rfl

/-! ## Values -/

/-- Applications of one symbol whose operands have the same values have the same value. -/
theorem eval_apply_congr {form form' : Form} {op : String} {first first' : Term}
    {rest rest' : List Term}
    (h : (first :: rest).map eval = (first' :: rest').map eval) :
    (Term.apply form op first rest).eval = (Term.apply form' op first' rest').eval := by
  obtain ⟨hfirst, hrest⟩ := List.cons.inj h
  rw [eval_apply_values, eval_apply_values, hfirst, hrest]

/-- Another operand of the same value leaves the value of the term as it is. -/
theorem eval_modifyOperand (h : ∀ u, t.operands[i]? = some u → (f u).eval = u.eval) :
    (t.modifyOperand i f).eval = t.eval := by
  cases t with
  | number text => rfl
  | apply form op first rest =>
    obtain ⟨first', rest', heq, hoperands⟩ := exists_modifyOperand_eq form op first rest i f
    rw [heq]
    apply eval_apply_congr
    rw [hoperands]
    apply List.ext_getElem?
    intro j
    rw [List.getElem?_map, List.getElem?_map]
    by_cases hj : i = j
    · subst hj
      rw [List.getElem?_modify_eq]
      cases hu : (first :: rest)[i]? with
      | none => rfl
      | some u => exact congrArg some (h u hu)
    · rw [List.getElem?_modify_ne f _ hj]

/-- A part of a term can be replaced by any term of the same value. -/
theorem eval_replaceAt (hs : t.at? p = some s) (hnew : new.eval = s.eval) :
    (t.replaceAt p new).eval = t.eval := by
  induction p generalizing t with
  | nil =>
    cases hs
    exact hnew
  | cons i p ih =>
    obtain ⟨u, hu, hs⟩ := at?_cons_eq_some_iff.1 hs
    rw [replaceAt]
    apply eval_modifyOperand
    intro v hv
    rw [hu] at hv
    cases hv
    exact ih hs

/-! ## Canonical terms -/

/-- What holds of all operands still does if one of them is replaced by another of which it holds. -/
theorem forall_mem_modify {motive : Term → Prop} {ts : List Term} (hts : ∀ u ∈ ts, motive u)
    (hf : ∀ u, motive u → motive (f u)) (i : Nat) : ∀ u ∈ ts.modify i f, motive u := by
  intro u hu
  obtain ⟨j, hj⟩ := List.mem_iff_getElem?.1 hu
  rw [List.getElem?_modify] at hj
  obtain ⟨v, hv, rfl⟩ := Option.map_eq_some_iff.1 hj
  have hmotive := hts v (List.mem_of_getElem? hv)
  split
  · exact hf v hmotive
  · exact hmotive

theorem isOperand_grouped_iff {op : String} {first : Term} {rest : List Term} :
    (Term.apply .grouped op first rest).IsOperand ↔
      IsSymbol op ∧ ∀ u ∈ first :: rest, u.IsOperand := by
  rw [IsOperand, areOperands_iff, List.forall_mem_cons]

theorem canonical_bare_iff {op : String} {first : Term} {rest : List Term} :
    (Term.apply .bare op first rest).Canonical ↔
      IsSymbol op ∧ ∀ u ∈ first :: rest, u.IsOperand := by
  rw [Canonical, List.forall_mem_cons]

/-- An operand of a line stays one if a part of it is replaced by one. -/
theorem IsOperand.replaceAt (hnew : new.IsOperand) (p : List Nat) :
    ∀ {t : Term}, t.IsOperand → (t.replaceAt p new).IsOperand := by
  induction p with
  | nil => exact fun _ => hnew
  | cons i p ih =>
    intro t ht
    match t, ht with
    | .number text, ht => exact ht
    | .apply .grouped op first rest, ht =>
      obtain ⟨hop, hoperands⟩ := isOperand_grouped_iff.1 ht
      obtain ⟨first', rest', heq, hmodify⟩ :=
        exists_modifyOperand_eq .grouped op first rest i (·.replaceAt p new)
      rw [Term.replaceAt, heq, isOperand_grouped_iff, hmodify]
      exact ⟨hop, forall_mem_modify hoperands (fun _ => ih) i⟩

/-- A canonical term stays one if a part below its root is replaced by an operand of a line. -/
theorem Canonical.replaceAt (ht : t.Canonical) (hnew : new.IsOperand) (hp : p ≠ []) :
    (t.replaceAt p new).Canonical := by
  obtain ⟨i, p, rfl⟩ := List.exists_cons_of_ne_nil hp
  match t, ht with
  | .apply .bare op first rest, ht =>
    obtain ⟨hop, hoperands⟩ := canonical_bare_iff.1 ht
    obtain ⟨first', rest', heq, hmodify⟩ :=
      exists_modifyOperand_eq .bare op first rest i (·.replaceAt p new)
    rw [Term.replaceAt, heq, canonical_bare_iff, hmodify]
    exact ⟨hop, forall_mem_modify hoperands (fun _ => hnew.replaceAt p) i⟩

end

end Term

/-! ## Feeding a value back -/

namespace Grammar

/-- A part of a term can be replaced by any term of the same value, a word or an error, and the value
of the whole stays as it is. So a part that has a word for its value can be replaced by the number
with the text that shows the word; and if the term is canonical and the part is not the whole of it,
the new term is canonical, is read from its own text, and gives the same answer. -/
theorem answers_of_replaceAt {t s : Term} {p : List Nat} (hs : t.at? p = some s) :
    (∀ new : Term, (t.replaceAt p new).at? p = some new ∧
      (new.eval = s.eval → (t.replaceAt p new).eval = t.eval)) ∧
    ∀ n : Int64, s.eval = .ok n →
      let fed := t.replaceAt p (.number (Value.text (.ok n)))
      fed.eval = t.eval ∧
      (t.Canonical → p ≠ [] → fed.Canonical ∧ parse fed.text = .ok ⟨.eval, fed⟩ ∧
        Command.run ⟨.eval, fed⟩ = Command.run ⟨.eval, t⟩) := by
  refine ⟨fun new => ⟨Term.at?_replaceAt hs new, Term.eval_replaceAt hs⟩, ?_⟩
  intro n hn fed
  have hnumber : (Term.number (Value.text (.ok n))).eval = s.eval := by
    rw [hn, Term.eval_number, Value.ofLiteral_text]
  have heval : fed.eval = t.eval := Term.eval_replaceAt hs hnumber
  refine ⟨heval, fun ht hp => ?_⟩
  have hfed : fed.Canonical := ht.replaceAt (Value.isLiteral_text n) hp
  refine ⟨hfed, parse_eq_ok_iff.2 (.bare hfed.program_text), ?_⟩
  rw [Command.run, Command.run, heval]

/-- The least word, which has no positive counterpart: a dividend two levels down comes to it, and it
is fed back there. -/
theorem answers_of_replaceAt_least :
    let part : Term := .apply .grouped "*" (.number "4611686018427387904") [.number "-2"]
    let t : Term := .apply .bare "-" (.number "5") [.apply .grouped "/" part [.number "-1"]]
    let fed : Term := .apply .bare "-" (.number "5")
      [.apply .grouped "/" (.number "-9223372036854775808") [.number "-1"]]
    t.Canonical ∧ t.at? [1, 0] = some part ∧ part.eval = .ok Int64.minValue ∧
      fed.Canonical ∧ parse "- 5 (/ -9223372036854775808 -1)" = .ok ⟨.eval, fed⟩ ∧
      Command.run ⟨.eval, fed⟩ = Command.run ⟨.eval, t⟩ := by
  intro part t fed
  have hparse : parse "- 5 (/ (* 4611686018427387904 -2) -1)" = .ok ⟨.eval, t⟩ := rfl
  have ht : t.Canonical := (parse_eq_ok_iff.1 hparse).canonical
  have hpart : t.at? [1, 0] = some part := rfl
  have hleast : part.eval = .ok Int64.minValue := by decide +kernel
  obtain ⟨hfed, hread, hanswer⟩ := ((answers_of_replaceAt hpart).2 _ hleast).2 ht (by decide)
  exact ⟨ht, hpart, hleast, hfed, hread, hanswer⟩

end Grammar

end PrefixCalc
