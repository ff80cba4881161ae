/-!
# Similarity of words

How alike two words are, between zero and one: the Jaro similarity. Characters of the two words
match if they are equal and stand at nearly the same place. The measure is the mean of three shares:
of the first word that matches, of the second word that matches, and of the matching characters that
come in the same order in both words.
-/

namespace PrefixCalc

namespace Similarity

/-- A character of the second word, and whether one of the first word has been matched with it. -/
structure Seat where
  char : Char
  taken : Bool

/-- Takes the first free seat with the character `c` at a place from `low` on and before `high`. The
seats start at place `i`. -/
def take? (c : Char) (low high : Nat) : Nat → List Seat → Option (List Seat)
  | _, [] => none
  | i, s :: seats =>
    if low ≤ i && i < high && !s.taken && s.char = c then some (⟨c, true⟩ :: seats)
    else (take? c low high (i + 1) seats).map (s :: ·)

/-- Matches the characters of a word, of which the first stands at place `i`, with seats at most
`reach` places away. The result is the matched characters of the word and the seats. -/
def seat (reach : Nat) : Nat → List Char → List Seat → List Char × List Seat
  | _, [], seats => ([], seats)
  | i, c :: cs, seats =>
    match take? c (i - reach) (i + reach + 1) 0 seats with
    | some seats => let (matched, seats) := seat reach (i + 1) cs seats; (c :: matched, seats)
    | none => seat reach (i + 1) cs seats

/-- The matching characters of two words, in the order of the first word and in that of the second.
-/
def pairing (a b : List Char) : List Char × List Char :=
  let reach := max a.length b.length / 2 - 1
  let (matched, seats) := seat reach 0 a (b.map (⟨·, false⟩))
  (matched, (seats.filter Seat.taken).map Seat.char)

end Similarity

/-- How alike two words are. -/
def similarity (a b : List Char) : Float :=
  match a, b with
  | [], [] => 1
  | _, _ =>
    let (inFirst, inSecond) := Similarity.pairing a b
    let swaps := ((inFirst.zip inSecond).countP fun (c, d) => c ≠ d) / 2
    let count := inFirst.length
    if count = 0 then 0
    else
      (count.toFloat / a.length.toFloat + count.toFloat / b.length.toFloat +
        (count - swaps).toFloat / count.toFloat) / 3

end PrefixCalc
