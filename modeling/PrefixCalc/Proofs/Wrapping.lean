import Mathlib.Data.Int.Bitwise
import Mathlib.Data.Int.ModEq
import PrefixCalc.Proofs.Evaluation

/-!
# Wrapping around is exact modulo 2⁶⁴

`Term.integer?` is the integer that a term of sums, differences, products and exclusive ors stands
for when no result is cut down to a word. The evaluator cuts every result down, at every depth, and
still ends with the word of that integer: cutting down commutes with each of the four operators
(`Operator.apply_ofInt`), the exclusive or of integers being that of their infinite two's
complements (`ofInt_xor`). So the value of a term is the one word that is congruent to its integer
modulo 2⁶⁴, whatever wraps around on the way (`Term.eval_eq_residue_exact`).

Quotients and remainders are left out, since they do not respect congruence.
-/

namespace PrefixCalc

/-! ## The integer of a term -/

/-- The operation on integers that an operator cuts down to words. A quotient or remainder of words
is not determined by integers modulo 2⁶⁴. -/
def Operator.onInt? : Operator → Option (Int → Int → Int)
  | add => some (· + ·)
  | sub => some (· - ·)
  | mul => some (· * ·)
  | xor => some Int.xor
  | div | rem => none

namespace Term

mutual

/-- The integer that a term stands for: the integers of its operands, from left to right under its
operator. -/
def integer? : Term → Option Int
  | .number text => Decimal.integer? text.toList
  | .apply _ op first rest => do
    let operation ← (Operator.ofText? op).bind Operator.onInt?
    let a ← first.integer?
    let bs ← integers? rest
    return bs.foldl operation a

/-- The integers of operands, in order. -/
def integers? : List Term → Option (List Int)
  | [] => some []
  | t :: ts => do
    let b ← t.integer?
    let bs ← integers? ts
    return b :: bs

end

end Term

/-! ## Cutting down to words -/

/-- The bits of the word of an integer are the lowest ones of its infinite two's complement. -/
theorem getLsbD_ofInt (w : Nat) (n : Int) (i : Nat) :
    (BitVec.ofInt w n).getLsbD i = (decide (i < w) && n.testBit i) := by
  cases n with
  | ofNat m =>
    rw [Int.ofNat_eq_natCast, BitVec.ofInt_natCast, BitVec.getLsbD_ofNat]
    rfl
  | negSucc m =>
    rw [BitVec.ofInt_negSucc_eq_not_ofNat, BitVec.getLsbD_not, BitVec.getLsbD_ofNat]
    by_cases hi : i < w
    · simp [hi, Int.testBit]
    · simp [hi]

/-- Cutting down commutes with the exclusive or, also of negative integers. -/
theorem ofInt_xor (m n : Int) : Int64.ofInt (m.xor n) = Int64.ofInt m ^^^ Int64.ofInt n := by
  apply Int64.toBitVec_inj.1
  rw [Int64.toBitVec_xor, Int64.toBitVec_ofInt, Int64.toBitVec_ofInt, Int64.toBitVec_ofInt]
  apply BitVec.eq_of_getLsbD_eq
  intro i hi
  rw [BitVec.getLsbD_xor, getLsbD_ofInt, getLsbD_ofInt, getLsbD_ofInt, Int.testBit_lxor]
  simp [hi]

/-- Cutting down commutes with the operators that have an operation on integers. -/
theorem Operator.apply_ofInt {op : Operator} {f : Int → Int → Int} (h : op.onInt? = some f)
    (m n : Int) : op.apply (.ofInt m) (.ofInt n) = .ok (.ofInt (f m n)) := by
  cases op with
  | add => cases h; exact congrArg _ (Int64.ofInt_add m n).symm
  | sub => cases h; exact congrArg _ (Int64.ofInt_sub m n).symm
  | mul => cases h; exact congrArg _ (Int64.ofInt_mul m n).symm
  | xor => cases h; exact congrArg _ (ofInt_xor m n).symm
  | div => cases h
  | rem => cases h

/-- The words of two integers combine to the word of their combination. -/
theorem Value.combine_ofInt {op : String} {f : Int → Int → Int}
    (h : (Operator.ofText? op).bind Operator.onInt? = some f) (m n : Int) :
    combine (.ok (.ofInt m)) op (.ok (.ofInt n)) = .ok (.ofInt (f m n)) := by
  obtain ⟨o, ho, hf⟩ := Option.bind_eq_some_iff.1 h
  rw [combine_ok, ho]
  exact Operator.apply_ofInt hf m n

/-- A literal within the range of a word has the word of its integer. -/
theorem Value.ofLiteral_eq_ofInt {text : String} {n : Int}
    (h : Decimal.integer? text.toList = some n) (hlo : -2 ^ 63 ≤ n) (hhi : n < 2 ^ 63) :
    ofLiteral text = .ok (.ofInt n) := by
  have hrange : Int64.minValue.toInt ≤ n ∧ n ≤ Int64.maxValue.toInt :=
    ⟨hlo, Int.le_of_lt_add_one hhi⟩
  have hword : Decimal.word? text = some (.ofInt n) := by
    rw [Decimal.word?, h, Option.bind_some, if_pos hrange]
  rw [ofLiteral, hword]

/-- A word is the one integer of its range that is congruent to the integer it was cut down from. -/
theorem eq_toInt_ofInt_iff {n r : Int} :
    r = (Int64.ofInt n).toInt ↔ -2 ^ 63 ≤ r ∧ r < 2 ^ 63 ∧ r ≡ n [ZMOD 2 ^ 64] := by
  have hdvd : ((Int64.size : Nat) : Int) ∣ r - n ↔ r ≡ n [ZMOD 2 ^ 64] :=
    (Int.modEq_comm.trans Int.modEq_iff_dvd).symm
  rw [Int64.toInt_ofInt, eq_comm, Int.bmod_eq_iff (by decide), hdvd]
  rfl

namespace Term

/-- What is in or below an operand is below the application. -/
theorem subterms_operand_subset {form : Form} {op : String} {first s : Term} {rest : List Term}
    (h : s ∈ first :: rest) : s.subterms ⊆ (Term.apply form op first rest).subterms :=
  fun _ hbelow => mem_subterms_apply.2 (.inr ⟨s, h, hbelow⟩)

/-! ## Whole terms -/

/-- A running value that is the word of an integer stays one over further operands that are. -/
theorem foldl_combine_ofInt {op : String} {f : Int → Int → Int}
    (hf : (Operator.ofText? op).bind Operator.onInt? = some f) {ts : List Term}
    (hts : ∀ t ∈ ts, ∃ n, t.integer? = some n ∧ t.eval = .ok (.ofInt n)) (a : Int) :
    ∃ bs, integers? ts = some bs ∧
      ts.foldl (fun (acc : Value) t => acc.combine op t.eval) (.ok (.ofInt a)) =
        .ok (.ofInt (bs.foldl f a)) := by
  induction ts generalizing a with
  | nil => exact ⟨[], by rw [integers?], rfl⟩
  | cons t ts ih =>
    obtain ⟨b, hb, heval⟩ := hts t (.head _)
    obtain ⟨bs, hbs, hfold⟩ := ih (fun s hs => hts s (.tail _ hs)) (f a b)
    refine ⟨b :: bs, ?_, ?_⟩
    · rw [integers?, hb, hbs]
      rfl
    · rw [List.foldl_cons, heval, Value.combine_ofInt hf, hfold]
      rfl

/-- The four operators that can be taken on integers. -/
theorem exists_onInt? {op : String} (h : op ∈ ["+", "-", "*", "^"]) :
    ∃ f, (Operator.ofText? op).bind Operator.onInt? = some f := by
  simp only [List.mem_cons, List.not_mem_nil, or_false] at h
  rcases h with rfl | rfl | rfl | rfl
  · exact ⟨_, rfl⟩
  · exact ⟨_, rfl⟩
  · exact ⟨_, rfl⟩
  · exact ⟨_, rfl⟩

/-- A term of the four operators and of literals within the range of a word has an integer, and its
value is the word of that integer. -/
theorem exists_integer?_eval_eq_ofInt (t : Term)
    (hops : ∀ form op first rest, Term.apply form op first rest ∈ t.subterms →
      op ∈ ["+", "-", "*", "^"])
    (hliterals : ∀ text, Term.number text ∈ t.subterms →
      ∃ n, Decimal.integer? text.toList = some n ∧ -2 ^ 63 ≤ n ∧ n < 2 ^ 63) :
    ∃ n, t.integer? = some n ∧ t.eval = .ok (.ofInt n) := by
  induction t using inductionOnOperands with
  | number text =>
    obtain ⟨n, hn, hlo, hhi⟩ := hliterals text (mem_subterms_self _)
    refine ⟨n, by rw [integer?, hn], ?_⟩
    rw [eval_number, Value.ofLiteral_eq_ofInt hn hlo hhi]
  | apply form op first rest ihfirst ihrest =>
    have hbelow : ∀ s ∈ first :: rest, s.subterms ⊆ (Term.apply form op first rest).subterms :=
      fun s hs => subterms_operand_subset hs
    obtain ⟨f, hf⟩ := exists_onInt? (hops form op first rest (mem_subterms_self _))
    obtain ⟨a, ha, heval⟩ := ihfirst
      (fun form' op' first' rest' h => hops form' op' first' rest' (hbelow first (.head _) h))
      (fun text h => hliterals text (hbelow first (.head _) h))
    have hoperands : ∀ s ∈ rest, ∃ n, s.integer? = some n ∧ s.eval = .ok (.ofInt n) := by
      intro s hs
      exact ihrest s hs
        (fun form' op' first' rest' h => hops form' op' first' rest' (hbelow s (.tail _ hs) h))
        (fun text h => hliterals text (hbelow s (.tail _ hs) h))
    obtain ⟨bs, hbs, hfold⟩ := foldl_combine_ofInt hf hoperands a
    refine ⟨bs.foldl f a, ?_, ?_⟩
    · rw [integer?, hf, ha, hbs]
      rfl
    · rw [eval_apply, heval, hfold]

/-- The value of a term whose operators are sums, differences, products and exclusive ors and whose
literals are within the range of a word is a word: the one that is congruent modulo 2⁶⁴ to the
integer that the term stands for when no result is cut down. -/
theorem eval_eq_residue_exact (t : Term)
    (hops : ∀ form op first rest, Term.apply form op first rest ∈ t.subterms →
      op ∈ ["+", "-", "*", "^"])
    (hliterals : ∀ text, Term.number text ∈ t.subterms →
      ∃ n, Decimal.integer? text.toList = some n ∧ -2 ^ 63 ≤ n ∧ n < 2 ^ 63) :
    ∃ n v, t.integer? = some n ∧ t.eval = .ok v ∧
      ∀ r : Int, r = v.toInt ↔ -2 ^ 63 ≤ r ∧ r < 2 ^ 63 ∧ r ≡ n [ZMOD 2 ^ 64] := by
  obtain ⟨n, hn, heval⟩ := exists_integer?_eval_eq_ofInt t hops hliterals
  exact ⟨n, .ofInt n, hn, heval, fun r => eq_toInt_ofInt_iff⟩

/-- A term whose product does not fit a word, and whose exclusive or is that of a negative integer.
-/
def overflowing : Term :=
  .apply .bare "^" (.apply .grouped "*" (.number "9223372036854775807") [.number "3"])
    [.number "-1"]

/-- The product and the exclusive or are both out of range, and the value is the residue of the
latter. -/
theorem eval_overflowing : overflowing.integer? = some (-27670116110564327422) ∧
    ∃ v, overflowing.eval = .ok v ∧ v.toInt = -9223372036854775806 := by
  have hexact : overflowing.integer? = some (-27670116110564327422) := by decide
  have hops : ∀ form op first rest, Term.apply form op first rest ∈ overflowing.subterms →
      op ∈ ["+", "-", "*", "^"] := by
    intro form op first rest h
    simp only [overflowing, subterms, subtermsOf, List.append_nil, List.cons_append,
      List.nil_append, List.mem_cons, apply.injEq, reduceCtorEq, List.not_mem_nil, or_self,
      or_false] at h
    rcases h with ⟨-, rfl, -⟩ | ⟨-, rfl, -⟩
    · decide
    · decide
  have hliterals : ∀ text, Term.number text ∈ overflowing.subterms →
      ∃ n, Decimal.integer? text.toList = some n ∧ -2 ^ 63 ≤ n ∧ n < 2 ^ 63 := by
    intro text h
    simp only [overflowing, subterms, subtermsOf, List.append_nil, List.cons_append,
      List.nil_append, List.mem_cons, reduceCtorEq, number.injEq, List.not_mem_nil, or_false,
      false_or] at h
    rcases h with rfl | rfl | rfl
    · exact ⟨9223372036854775807, by decide, by decide, by decide⟩
    · exact ⟨3, by decide, by decide, by decide⟩
    · exact ⟨-1, by decide, by decide, by decide⟩
  obtain ⟨n, v, hn, heval, hresidue⟩ := eval_eq_residue_exact overflowing hops hliterals
  rw [hexact] at hn
  cases hn
  exact ⟨hexact, v, heval, ((hresidue _).2 ⟨by decide, by decide, by decide⟩).symm⟩

end Term

end PrefixCalc
