/-!
# Characters and decimal numbers

A class of characters is given by the ranges of code points it covers. Blank characters are those
that separate tokens: the Unicode property White_Space. Zero-width characters such as U+200B are not
among them.

The decimal form of an integer goes in two directions. `Decimal.write` is the shortest form, with a
leading `-` for a negative number. `Decimal.integer?` reads any form: an optional single sign, then
one or more ASCII digits, leading zeros allowed. `Decimal.word?` reads what fits a signed 64-bit
word and refuses everything else.
-/

namespace PrefixCalc

/-! ## Classes of characters -/

/-- Ranges of code points, each with its first and its last one. -/
abbrev Ranges := List (Nat × Nat)

/-- Whether a character lies in one of the ranges. -/
def Ranges.contains (ranges : Ranges) (c : Char) : Bool :=
  ranges.any fun (first, last) => first ≤ c.toNat && c.toNat ≤ last

/-- The code points with the property White_Space. -/
def blankRanges : Ranges :=
  [(0x09, 0x0D), (0x20, 0x20), (0x85, 0x85), (0xA0, 0xA0), (0x1680, 0x1680), (0x2000, 0x200A),
    (0x2028, 0x2029), (0x202F, 0x202F), (0x205F, 0x205F), (0x3000, 0x3000)]

/-- Whether a character is blank. -/
def isBlank (c : Char) : Bool := blankRanges.contains c

/-- Blank characters include the white space of ASCII. -/
theorem isBlank_of_isWhitespace {c : Char} (h : c.isWhitespace) : isBlank c := by
  simp only [Char.isWhitespace, Bool.or_eq_true, decide_eq_true_eq] at h
  rcases h with ((rfl | rfl) | rfl) | rfl <;> decide

/-! ## Decimal numbers -/

namespace Decimal

/-- The digits of a natural number, without leading zeros. -/
def digits (n : Nat) : String :=
  String.ofList (Nat.toDigits 10 n)

/-- The decimal form of an integer. -/
def write (n : Int) : String :=
  if n < 0 then "-" ++ digits n.natAbs else digits n.natAbs

/-- The number that one or more ASCII digits denote; anything else denotes none. -/
def magnitude? (ds : List Char) : Option Nat :=
  if ds ≠ [] ∧ ds.all Char.isDigit then some (Nat.ofDigitChars 10 ds 0) else none

/-- The integer that an optional sign and one or more digits denote. -/
def integer? : List Char → Option Int
  | '+' :: ds => (magnitude? ds).map Int.ofNat
  | '-' :: ds => (magnitude? ds).map fun n => -Int.ofNat n
  | ds => (magnitude? ds).map Int.ofNat

/-- The signed 64-bit word that a text denotes; a number out of range denotes none. -/
def word? (text : String) : Option Int64 :=
  (integer? text.toList).bind fun n =>
    if Int64.minValue.toInt ≤ n ∧ n ≤ Int64.maxValue.toInt then some (Int64.ofInt n) else none

end Decimal

end PrefixCalc
