import Mathlib.Data.List.Induction
import Mathlib.Data.Nat.Digits.Defs
import PrefixCalc.Proofs.Causes

/-!
# Numerals and the words they denote

`Decimal.Denotes` says which texts are numerals and which integer each of them denotes: an optional
sign and then digits, each of which counts by the power of ten of its place (`Decimal.positional`).
A literal has a word for its value exactly if it denotes an integer within the range of a word
(`Value.ofLiteral_eq_ok_iff`).

Of the many numerals that denote an integer, with leading zeros, with a `+` or with a `-` before a
zero, one is the shortest (`Decimal.Shortest`), and it is the one that is written
(`Decimal.shortest_write`, `Decimal.write_of_shortest`). The step behind both is that a digit put
behind a number without leading zeros is put behind its decimal form
(`Decimal.toDigits_append_digits`). So a value can be read off the line that shows it, and no two
values are shown alike (`Term.eval_numeral_exact`).
-/

namespace PrefixCalc

namespace Decimal

/-- One or more ASCII digits. -/
def Digits (ds : List Char) : Prop := ds ≠ [] ∧ ∀ d ∈ ds, d.isDigit = true

/-- The number that a digit stands for. -/
def digitValue (d : Char) : Nat := d.toNat - '0'.toNat

/-- The number that digits stand for: each counts by the power of ten of its place, and the last one
is the lowest. -/
def positional (ds : List Char) : Nat :=
  Nat.ofDigits 10 (ds.reverse.map digitValue)

/-- The text is a numeral, and this is the integer it denotes. -/
inductive Denotes : List Char → Int → Prop
  | unsigned {ds : List Char} : Digits ds → Denotes ds (positional ds)
  | plus {ds : List Char} : Digits ds → Denotes ('+' :: ds) (positional ds)
  | minus {ds : List Char} : Digits ds → Denotes ('-' :: ds) (-positional ds)

/-- A zero, or a numeral without a `+` whose first digit is not zero. -/
def Shortest (cs : List Char) : Prop :=
  cs = ['0'] ∨ ∃ d ds, d.isDigit = true ∧ d ≠ '0' ∧ (∀ x ∈ ds, x.isDigit = true) ∧
    (cs = d :: ds ∨ cs = '-' :: d :: ds)

/-! ## Reading -/

section
variable {ds cs : List Char} {n : Int}

/-- Accumulating digits from the first one on comes to what they stand for. -/
theorem ofDigitChars_eq_positional (ds : List Char) : Nat.ofDigitChars 10 ds 0 = positional ds := by
  induction ds using List.reverseRecOn with
  | nil => rfl
  | append_singleton ds d ih =>
    rw [Nat.ofDigitChars_append, ih, Nat.ofDigitChars_cons, Nat.ofDigitChars_nil, positional,
      positional, List.reverse_append, List.reverse_singleton, List.singleton_append, List.map_cons,
      Nat.ofDigits_cons, digitValue, Nat.add_comm]

/-- A magnitude is read off digits only, whatever its sign makes of it. -/
theorem map_magnitude?_eq_some_iff {sign : Nat → Int} :
    (magnitude? ds).map sign = some n ↔ Digits ds ∧ n = sign (positional ds) := by
  have hdigits : ds ≠ [] ∧ ds.all Char.isDigit ↔ Digits ds := by rw [List.all_eq_true, Digits]
  rw [magnitude?, ofDigitChars_eq_positional]
  split
  · next h => simp [hdigits.1 h, eq_comm]
  · next h => simp [mt hdigits.2 h]

/-- Digits start with neither sign. -/
theorem Digits.head_ne {x : Char} (h : Digits (x :: ds)) : x ≠ '+' ∧ x ≠ '-' := by
  have hx : x.isDigit = true := h.2 x (.head _)
  constructor
  · rintro rfl
    exact absurd hx (by decide)
  · rintro rfl
    exact absurd hx (by decide)

/-- An integer is read off a text exactly if the text denotes it. -/
theorem integer?_eq_some_iff : integer? cs = some n ↔ Denotes cs n := by
  constructor
  · intro h
    unfold integer? at h
    split at h
    · obtain ⟨hds, rfl⟩ := map_magnitude?_eq_some_iff.1 h
      exact .plus hds
    · obtain ⟨hds, rfl⟩ := map_magnitude?_eq_some_iff.1 h
      exact .minus hds
    · obtain ⟨hds, rfl⟩ := map_magnitude?_eq_some_iff.1 h
      exact .unsigned hds
  · intro h
    cases h with
    | plus hds => exact map_magnitude?_eq_some_iff.2 ⟨hds, rfl⟩
    | minus hds => exact map_magnitude?_eq_some_iff.2 ⟨hds, rfl⟩
    | unsigned hds =>
      -- Without a sign in front, the first digit has to be told from one.
      unfold integer?
      split
      · exact absurd rfl hds.head_ne.1
      · exact absurd rfl hds.head_ne.2
      · exact map_magnitude?_eq_some_iff.2 ⟨hds, rfl⟩

/-- A text denotes at most one integer. -/
theorem Denotes.unique {m : Int} (hm : Denotes cs m) (hn : Denotes cs n) : m = n :=
  Option.some.inj ((integer?_eq_some_iff.2 hm).symm.trans (integer?_eq_some_iff.2 hn))

end

/-! ## Writing -/

section
variable {ds cs : List Char} {d : Char}

theorem digitValue_lt (h : d.isDigit = true) : digitValue d < 10 := by
  obtain ⟨-, hhi⟩ : 48 ≤ d.toNat ∧ d.toNat ≤ 57 := Char.isDigit_iff_toNat.1 h
  have hvalue : digitValue d = d.toNat - 48 := rfl
  omega

/-- A digit is the character of what it stands for. -/
theorem digitChar_digitValue (h : d.isDigit = true) : (digitValue d).digitChar = d := by
  obtain ⟨hlo, -⟩ : 48 ≤ d.toNat ∧ d.toNat ≤ 57 := Char.isDigit_iff_toNat.1 h
  have hvalue : digitValue d = d.toNat - 48 := rfl
  rw [← Char.toNat_inj, Nat.toNat_digitChar_of_lt_ten (digitValue_lt h)]
  omega

/-- Only the digit zero stands for nothing. -/
theorem digitValue_pos (h : d.isDigit = true) (hzero : d ≠ '0') : 0 < digitValue d := by
  apply Nat.pos_of_ne_zero
  intro hvalue
  have hchar := digitChar_digitValue h
  rw [hvalue] at hchar
  exact hzero hchar.symm

/-- A digit is the decimal form of what it stands for. -/
theorem toDigits_digitValue (h : d.isDigit = true) : Nat.toDigits 10 (digitValue d) = [d] := by
  rw [Nat.toDigits_of_lt_base (digitValue_lt h), digitChar_digitValue h]

/-- Digits put behind the decimal form of a number other than zero are the decimal form of what they
make of it. -/
theorem toDigits_append_digits (hds : ∀ x ∈ ds, x.isDigit = true) {n : Nat} (hn : 0 < n) :
    Nat.toDigits 10 n ++ ds = Nat.toDigits 10 (Nat.ofDigitChars 10 ds n) := by
  induction ds generalizing n with
  | nil => rw [List.append_nil, Nat.ofDigitChars_nil]
  | cons d ds ih =>
    have hd := hds d (.head _)
    have hput : Nat.toDigits 10 n ++ [d] = Nat.toDigits 10 (10 * n + digitValue d) := by
      rw [← toDigits_digitValue hd]
      exact Nat.toDigits_append_toDigits (by decide) hn (digitValue_lt hd)
    calc Nat.toDigits 10 n ++ d :: ds
        = (Nat.toDigits 10 n ++ [d]) ++ ds := by simp
      _ = Nat.toDigits 10 (10 * n + digitValue d) ++ ds := by rw [hput]
      _ = Nat.toDigits 10 (Nat.ofDigitChars 10 ds (10 * n + digitValue d)) :=
        ih (fun x hx => hds x (.tail _ hx)) (by omega)
      _ = Nat.toDigits 10 (Nat.ofDigitChars 10 (d :: ds) n) := by
        rw [Nat.ofDigitChars_cons, digitValue]

/-- Digits without a leading zero are the decimal form of what they stand for. -/
theorem toDigits_positional (hd : d.isDigit = true) (hzero : d ≠ '0')
    (hds : ∀ x ∈ ds, x.isDigit = true) : Nat.toDigits 10 (positional (d :: ds)) = d :: ds := by
  have hfirst : Nat.ofDigitChars 10 (d :: ds) 0 = Nat.ofDigitChars 10 ds (digitValue d) := by
    rw [Nat.ofDigitChars_cons, Nat.mul_zero, Nat.zero_add, digitValue]
  rw [← ofDigitChars_eq_positional, hfirst, ← toDigits_append_digits hds (digitValue_pos hd hzero),
    toDigits_digitValue hd, List.singleton_append]

theorem digits_toDigits (n : Nat) : Digits (Nat.toDigits 10 n) :=
  ⟨Nat.toDigits_ne_nil, fun _ hx => Nat.isDigit_of_mem_toDigits (by decide) (by decide) hx⟩

/-- The decimal form of a number other than zero has no leading zero. -/
theorem exists_toDigits_eq_cons {n : Nat} (hn : 0 < n) :
    ∃ d ds, Nat.toDigits 10 n = d :: ds ∧ d.isDigit = true ∧ d ≠ '0' ∧
      ∀ x ∈ ds, x.isDigit = true := by
  induction n using Nat.strongRecOn with
  | ind n ih =>
    have hdigits := (digits_toDigits n).2
    have hform := Nat.toDigits_eq_if (n := n) (show 1 < 10 by decide)
    split at hform
    · next hlt =>
      refine ⟨n.digitChar, [], hform, hdigits _ (hform ▸ .head _), ?_, nofun⟩
      intro hzero
      have hcode : '0'.toNat = 48 + n := hzero ▸ Nat.toNat_digitChar_of_lt_ten hlt
      have hcode' : '0'.toNat = 48 := rfl
      omega
    · next hle =>
      obtain ⟨d, ds, hfront, hd, hzero, -⟩ := ih (n / 10) (by omega) (by omega)
      rw [hfront, List.cons_append] at hform
      exact ⟨d, _, hform, hd, hzero, fun x hx => hdigits x (hform ▸ .tail _ hx)⟩

theorem toList_write (n : Int) : (write n).toList =
    if n < 0 then '-' :: Nat.toDigits 10 n.natAbs else Nat.toDigits 10 n.natAbs := by
  rw [write, digits]
  split
  · rw [String.toList_append, String.toList_ofList, String.toList_ofList]
    rfl
  · rw [String.toList_ofList]

/-- What is written is the shortest numeral. -/
theorem shortest_write (n : Int) : Shortest (write n).toList := by
  rw [toList_write]
  by_cases hzero : n = 0
  · rw [hzero]
    exact .inl rfl
  · obtain ⟨d, ds, hform, hd, hne, hds⟩ := exists_toDigits_eq_cons (Int.natAbs_pos.2 hzero)
    rw [hform]
    refine .inr ⟨d, ds, hd, hne, hds, ?_⟩
    split
    · exact .inr rfl
    · exact .inl rfl

/-- What is written denotes the integer. -/
theorem denotes_write (n : Int) : Denotes (write n).toList n := by
  have hdigits := digits_toDigits n.natAbs
  have hvalue : positional (Nat.toDigits 10 n.natAbs) = n.natAbs := by
    rw [← ofDigitChars_eq_positional, Nat.ofDigitChars_ten_toDigits]
  rw [toList_write]
  split
  · next hneg =>
    have hminus := Denotes.minus hdigits
    rwa [hvalue, show -(n.natAbs : Int) = n by omega] at hminus
  · next hneg =>
    have hplain := Denotes.unsigned hdigits
    rwa [hvalue, show (n.natAbs : Int) = n by omega] at hplain

/-- The shortest numeral of an integer is what is written. -/
theorem write_of_shortest {n : Int} (hcs : Shortest cs) (hn : Denotes cs n) :
    (write n).toList = cs := by
  rcases hcs with rfl | ⟨d, ds, hd, hzero, hds, hsign⟩
  · obtain rfl : n = 0 := hn.unique (.unsigned ⟨nofun, by simp⟩)
    rfl
  · have hdigits : Digits (d :: ds) := ⟨nofun, List.forall_mem_cons.2 ⟨hd, hds⟩⟩
    have hform := toDigits_positional hd hzero hds
    have hpos : 0 < positional (d :: ds) := by
      apply Nat.pos_of_ne_zero
      intro heq
      rw [heq] at hform
      exact hzero (List.cons.inj hform).1.symm
    rw [toList_write]
    rcases hsign with rfl | rfl
    · obtain rfl := hn.unique (.unsigned hdigits)
      rw [if_neg (by omega), Int.natAbs_natCast, hform]
    · obtain rfl := hn.unique (.minus hdigits)
      rw [if_pos (by omega), Int.natAbs_neg, Int.natAbs_natCast, hform]

/-- What is written can stand in a line. -/
theorem isLiteral_write (n : Int) : Lexeme.IsLiteral (write n).toList := by
  obtain ⟨hne, hdigits⟩ := digits_toDigits n.natAbs
  refine ⟨Nat.toDigits 10 n.natAbs, hne, hdigits, ?_⟩
  rw [toList_write]
  split
  · exact .inr rfl
  · exact .inl rfl

end

end Decimal

/-! ## Words -/

namespace Value

/-- A literal denotes an integer within the range of a word, which is then its value, or it denotes
none and is an invalid number. -/
theorem ofLiteral_cases (text : String) :
    (∃ n, Decimal.Denotes text.toList n ∧ -2 ^ 63 ≤ n ∧ n < 2 ^ 63 ∧
      ofLiteral text = .ok (.ofInt n)) ∨
    (¬ ∃ n, Decimal.Denotes text.toList n ∧ -2 ^ 63 ≤ n ∧ n < 2 ^ 63) ∧
      ofLiteral text = .error .invalidNumber := by
  have herror (h : Decimal.word? text = none) : ofLiteral text = .error .invalidNumber := by
    rw [ofLiteral, h]
  cases hread : Decimal.integer? text.toList with
  | none =>
    refine .inr ⟨?_, herror (by rw [Decimal.word?, hread]; rfl)⟩
    rintro ⟨n, hn, -⟩
    rw [Decimal.integer?_eq_some_iff.2 hn] at hread
    cases hread
  | some n =>
    have hn := Decimal.integer?_eq_some_iff.1 hread
    by_cases hrange : -2 ^ 63 ≤ n ∧ n < 2 ^ 63
    · exact .inl ⟨n, hn, hrange.1, hrange.2, ofLiteral_eq_ofInt hread hrange.1 hrange.2⟩
    · refine .inr ⟨?_, herror ((Decimal.word?_eq_none_iff hread).2 hrange)⟩
      rintro ⟨m, hm, hin⟩
      exact hrange (hm.unique hn ▸ hin)

/-- A literal has a word for its value exactly if it denotes the integer of that word. -/
theorem ofLiteral_eq_ok_iff {text : String} {v : Int64} :
    ofLiteral text = .ok v ↔
      ∃ n, Decimal.Denotes text.toList n ∧ -2 ^ 63 ≤ n ∧ n < 2 ^ 63 ∧ v.toInt = n := by
  rcases ofLiteral_cases text with ⟨n, hn, hlo, hhi, hvalue⟩ | ⟨hnone, hvalue⟩
  · rw [hvalue]
    refine ⟨?_, ?_⟩
    · intro h
      cases h
      exact ⟨n, hn, hlo, hhi, Int64.toInt_ofInt_of_le hlo hhi⟩
    · rintro ⟨m, hm, -, -, hv⟩
      rw [← hm.unique hn, ← hv, Int64.ofInt_toInt]
  · rw [hvalue]
    refine ⟨nofun, ?_⟩
    rintro ⟨n, hn, hlo, hhi, -⟩
    exact absurd ⟨n, hn, hlo, hhi⟩ hnone

/-- A literal is an invalid number exactly if it denotes no integer within the range of a word. -/
theorem ofLiteral_eq_error_iff {text : String} : ofLiteral text = .error .invalidNumber ↔
    ¬ ∃ n, Decimal.Denotes text.toList n ∧ -2 ^ 63 ≤ n ∧ n < 2 ^ 63 := by
  rcases ofLiteral_cases text with ⟨n, hn, hlo, hhi, hvalue⟩ | ⟨hnone, hvalue⟩
  · rw [hvalue]
    exact ⟨nofun, fun hnone => absurd ⟨n, hn, hlo, hhi⟩ hnone⟩
  · exact ⟨fun _ => hnone, fun _ => hvalue⟩

/-- A word is read back from the text that shows it. -/
theorem ofLiteral_text (v : Int64) : ofLiteral (text (.ok v)) = .ok v :=
  ofLiteral_eq_ok_iff.2 ⟨v.toInt, Decimal.denotes_write v.toInt, v.le_toInt, v.toInt_lt, rfl⟩

/-- A text that shows a word can stand in a line. -/
theorem isLiteral_text (v : Int64) : Lexeme.IsLiteral (text (.ok v)).toList :=
  Decimal.isLiteral_write v.toInt

/-- The line shown for an error is no literal of a word. -/
theorem ofLiteral_message (e : EvalError) : ofLiteral e.message = .error .invalidNumber := by
  cases e <;> rfl

/-- No two values are shown alike. -/
theorem text_injective : Function.Injective Value.text := by
  have hread {v : Int64} {e : EvalError} : text (.ok v) ≠ text (.error e) := by
    intro heq
    have hliteral := ofLiteral_text v
    rw [heq, text, ofLiteral_message] at hliteral
    cases hliteral
  intro x y heq
  cases x with
  | ok v =>
    cases y with
    | ok w => rw [← ofLiteral_text v, heq, ofLiteral_text w]
    | error e => exact absurd heq hread
  | error e =>
    cases y with
    | ok w => exact absurd heq.symm hread
    | error e' => cases e <;> cases e' <;> revert heq <;> decide

end Value

/-! ## Conversion and what is shown -/

/-- A number has a word for its value exactly if its text is a numeral that denotes an integer within
the range of a word, and then it is the word of that integer; every other number is invalid. What
is shown for a word is a literal whose value is the word again; a text that has the word for its
value is shown for it exactly if it is the shortest numeral; and no two values are shown alike. -/
theorem Term.eval_numeral_exact :
    (∀ text v, (Term.number text).eval = .ok v ↔
      ∃ n, Decimal.Denotes text.toList n ∧ -2 ^ 63 ≤ n ∧ n < 2 ^ 63 ∧ v.toInt = n) ∧
    (∀ text, (Term.number text).eval = .error .invalidNumber ↔
      ¬ ∃ n, Decimal.Denotes text.toList n ∧ -2 ^ 63 ≤ n ∧ n < 2 ^ 63) ∧
    (∀ v : Int64, Lexeme.IsLiteral (Value.text (.ok v)).toList ∧
      (Term.number (Value.text (.ok v))).eval = .ok v) ∧
    (∀ text v, (Term.number text).eval = .ok v →
      (Value.text (.ok v) = text ↔ Decimal.Shortest text.toList)) ∧
    Function.Injective Value.text := by
  refine ⟨fun text v => ?_, fun text => ?_, fun v => ⟨Value.isLiteral_text v, ?_⟩,
    fun text v h => ⟨?_, fun hshortest => ?_⟩, Value.text_injective⟩
  · rw [eval_number, Value.ofLiteral_eq_ok_iff]
  · rw [eval_number, Value.ofLiteral_eq_error_iff]
  · rw [eval_number, Value.ofLiteral_text]
  · rintro rfl
    exact Decimal.shortest_write v.toInt
  · rw [eval_number] at h
    obtain ⟨n, hn, -, -, rfl⟩ := Value.ofLiteral_eq_ok_iff.1 h
    exact String.toList_inj.1 (Decimal.write_of_shortest hshortest hn)

/-- The least word behind leading zeros is in range and is not shown like that; one less is out of
range. -/
theorem Term.eval_numeral_least :
    (Term.number "-009223372036854775808").eval = .ok Int64.minValue ∧
    Value.text (.ok Int64.minValue) ≠ "-009223372036854775808" ∧
    (Term.number "-9223372036854775809").eval = .error .invalidNumber := by
  have hleast : (Term.number "-009223372036854775808").eval = .ok Int64.minValue := by
    decide +kernel
  have hlonger : ¬ Decimal.Shortest "-009223372036854775808".toList := by
    rintro (heq | ⟨d, ds, hd, hzero, -, heq | heq⟩)
    · cases heq
    · cases heq
      cases hd
    · cases heq
      exact hzero rfl
  refine ⟨hleast, fun hshown => hlonger ?_, by decide +kernel⟩
  exact (eval_numeral_exact.2.2.2.1 _ _ hleast).1 hshown

end PrefixCalc
