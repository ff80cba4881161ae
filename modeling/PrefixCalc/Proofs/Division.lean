import Mathlib.Data.Rat.Floor
import PrefixCalc.Proofs.Evaluation

/-!
# Quotients and remainders

A word has a quotient and a remainder by every word but zero. The quotient is the word of the exact
quotient cut off toward zero (`towardZero`), and the remainder is what is missing from its product
with the divisor. One quotient does not fit a word: that of the least word by minus one, which wraps
around to the least word again. The remainder is zero there, and multiplying back wraps around as
well, so the dividend is restored in that case too (`div_mul_add_mod`).
-/

namespace PrefixCalc

/-! ## Cutting off toward zero -/

/-- The integer next to a rational number on the side of zero. -/
def towardZero (r : ℚ) : ℤ := if 0 ≤ r then ⌊r⌋ else ⌈r⌉

/-- Cutting off treats both sides of zero alike. -/
theorem towardZero_neg (r : ℚ) : towardZero (-r) = -towardZero r := by
  unfold towardZero
  rcases lt_trichotomy r 0 with hr | rfl | hr
  · have hneg : 0 ≤ -r := by linarith
    rw [if_pos hneg, if_neg (not_le.2 hr), Int.floor_neg]
  · simp
  · have hneg : ¬ 0 ≤ -r := by linarith
    rw [if_neg hneg, if_pos hr.le, Int.ceil_neg]

/-- The exact quotient of two integers, cut off toward zero, is their truncated quotient. -/
theorem towardZero_div (x y : ℤ) : towardZero ((x : ℚ) / y) = x.tdiv y := by
  have hnat (m n : ℕ) : towardZero ((m : ℚ) / n) = (m : ℤ).tdiv n := by
    have hpos : (0 : ℚ) ≤ m / n := by positivity
    rw [towardZero, if_pos hpos, Rat.floor_natCast_div_natCast, ← Int.ofNat_tdiv, Int.natCast_div]
  obtain ⟨m, rfl | rfl⟩ := x.eq_nat_or_neg <;> obtain ⟨n, rfl | rfl⟩ := y.eq_nat_or_neg
  · exact hnat m n
  · rw [Int.tdiv_neg, ← hnat, ← towardZero_neg]
    push_cast
    rw [div_neg]
  · rw [Int.neg_tdiv, ← hnat, ← towardZero_neg]
    push_cast
    rw [neg_div]
  · rw [Int.neg_tdiv, Int.tdiv_neg, neg_neg, ← hnat]
    push_cast
    rw [neg_div_neg_eq]

/-! ## Words -/

section
variable (x y : Int64)

/-- A quotient of words is the word of the truncated quotient. -/
theorem div_eq_ofInt : x / y = .ofInt (x.toInt.tdiv y.toInt) := by
  rw [Int64.ofInt_tdiv x.minValue_le_toInt x.toInt_le y.minValue_le_toInt y.toInt_le,
    Int64.ofInt_toInt, Int64.ofInt_toInt]

/-- A remainder of words is the word of the truncated remainder. -/
theorem mod_eq_ofInt : x % y = .ofInt (x.toInt.tmod y.toInt) := by
  rw [Int64.ofInt_tmod x.minValue_le_toInt x.toInt_le y.minValue_le_toInt y.toInt_le,
    Int64.ofInt_toInt, Int64.ofInt_toInt]

/-- The quotient times the divisor and the remainder make up the dividend, whether or not the
quotient wraps around: the word of a sum or product is that of the words. -/
theorem div_mul_add_mod : x / y * y + x % y = x := by
  calc x / y * y + x % y
      = .ofInt (x.toInt.tdiv y.toInt) * .ofInt y.toInt + .ofInt (x.toInt.tmod y.toInt) := by
        rw [← div_eq_ofInt, ← mod_eq_ofInt, Int64.ofInt_toInt]
    _ = .ofInt (x.toInt.tdiv y.toInt * y.toInt + x.toInt.tmod y.toInt) := by
        rw [Int64.ofInt_add, Int64.ofInt_mul]
    _ = .ofInt x.toInt := by rw [Int.tdiv_mul_add_tmod]
    _ = x := Int64.ofInt_toInt x

/-- A remainder is zero or on the side of the dividend. -/
theorem mod_eq_zero_or_sign_eq : x % y = 0 ∨ (x % y).toInt.sign = x.toInt.sign := by
  have hsign := Int.sign_tmod x.toInt y.toInt
  rw [← Int64.toInt_inj, Int64.toInt_mod, Int64.toInt_zero]
  split at hsign
  · exact .inl (Int.sign_eq_zero_iff_zero.1 hsign)
  · exact .inr hsign

variable {x y}

/-- A remainder is smaller than the divisor. -/
theorem natAbs_mod_lt (hy : y ≠ 0) : (x % y).toInt.natAbs < y.toInt.natAbs := by
  have hne : y.toInt ≠ 0 := by
    rwa [← Int64.toInt_zero, ne_eq, Int64.toInt_inj]
  rw [Int64.toInt_mod, Int.natAbs_tmod]
  exact Nat.mod_lt _ (Int.natAbs_pos.2 hne)

/-- A quotient is exact up to what is cut off, unless it is that of the least word by minus one. -/
theorem toInt_div_eq_towardZero (h : ¬ (x = Int64.minValue ∧ y = -1)) :
    (x / y).toInt = towardZero ((x.toInt : ℚ) / y.toInt) := by
  rw [towardZero_div]
  by_cases hx : x = Int64.minValue
  · exact Int64.toInt_div_of_ne_right x y fun hy => h ⟨hx, hy⟩
  · exact Int64.toInt_div_of_ne_left x y hx

end

/-! ## Values -/

namespace Value

/-- The quotient and the remainder of two words are both refused if the divisor is zero, and are
words otherwise. The remainder is smaller than the divisor and zero or on the side of the dividend,
and together with the product of quotient and divisor it makes up the dividend. The quotient is
exact up to what is cut off toward zero, except for the least word by minus one, whose quotient is
the least word and whose remainder is zero. -/
theorem combine_div_rem (x y : Int64) :
    (y = 0 → combine (.ok x) "/" (.ok y) = .error .divideByZero ∧
      combine (.ok x) "%" (.ok y) = .error .divideByZero) ∧
    (y ≠ 0 → ∃ q r, combine (.ok x) "/" (.ok y) = .ok q ∧ combine (.ok x) "%" (.ok y) = .ok r ∧
      r.toInt.natAbs < y.toInt.natAbs ∧ (r = 0 ∨ r.toInt.sign = x.toInt.sign) ∧
      (∃ p, Operator.mul.apply q y = .ok p ∧ Operator.add.apply p r = .ok x) ∧
      (¬ (x = Int64.minValue ∧ y = -1) → q.toInt = towardZero ((x.toInt : ℚ) / y.toInt)) ∧
      (x = Int64.minValue ∧ y = -1 → q = Int64.minValue ∧ r = 0)) := by
  have hdiv : combine (.ok x) "/" (.ok y) =
      if y = 0 then .error .divideByZero else .ok (x / y) := rfl
  have hrem : combine (.ok x) "%" (.ok y) =
      if y = 0 then .error .divideByZero else .ok (x % y) := rfl
  refine ⟨?_, ?_⟩
  · intro hy
    rw [hdiv, hrem, if_pos hy, if_pos hy]
    exact ⟨rfl, rfl⟩
  · intro hy
    rw [if_neg hy] at hdiv hrem
    refine ⟨x / y, x % y, hdiv, hrem, natAbs_mod_lt hy, mod_eq_zero_or_sign_eq x y,
      ⟨x / y * y, rfl, ?_⟩, toInt_div_eq_towardZero, ?_⟩
    · exact congrArg Except.ok (div_mul_add_mod x y)
    · rintro ⟨rfl, rfl⟩
      exact ⟨Int64.minValue_div_neg_one, by decide⟩

/-- The least word by minus one, whose exact quotient fits no word, and a negative dividend that is
no multiple of its divisor: the quotient is cut off upwards and the remainder is negative. -/
theorem combine_div_rem_negative :
    (combine (.ok Int64.minValue) "/" (.ok (-1)) = .ok Int64.minValue ∧
      combine (.ok Int64.minValue) "%" (.ok (-1)) = .ok 0 ∧
      ∃ p, Operator.mul.apply Int64.minValue (-1) = .ok p ∧
        Operator.add.apply p 0 = .ok Int64.minValue) ∧
    ∃ q r, combine (.ok (-7)) "/" (.ok 2) = .ok q ∧ combine (.ok (-7)) "%" (.ok 2) = .ok r ∧
      q.toInt = towardZero (-7 / 2) ∧ r.toInt.natAbs < 2 ∧ (r = 0 ∨ r.toInt.sign = -1) := by
  refine ⟨?_, ?_⟩
  · obtain ⟨q, r, hdiv, hrem, -, -, hback, -, hleast⟩ :=
      (combine_div_rem Int64.minValue (-1)).2 (by decide)
    obtain ⟨rfl, rfl⟩ := hleast ⟨rfl, rfl⟩
    exact ⟨hdiv, hrem, hback⟩
  · obtain ⟨q, r, hdiv, hrem, hlt, hsign, -, hexact, -⟩ :=
      (combine_div_rem (-7) 2).2 (by decide)
    have hx : (-7 : Int64).toInt = -7 := rfl
    have hy : (2 : Int64).toInt = 2 := rfl
    have hq := hexact (by decide)
    rw [hx, hy] at hq
    exact ⟨q, r, hdiv, hrem, by exact_mod_cast hq, hlt, hsign⟩

end Value

end PrefixCalc
