/-!
# Lines of a source text

A source text is divided after each line terminator: a line feed, vertical tab, form feed, carriage
return, next line, line separator or paragraph separator, where a carriage return and a line feed
together are one terminator. A line keeps its terminator, so the lines of a text, put together, are
the text. The empty text is one empty line.
-/

namespace PrefixCalc

/-- Whether a character ends a line. -/
def isLineTerminator (c : Char) : Bool :=
  (0x0A ≤ c.toNat && c.toNat ≤ 0x0D) || c.toNat = 0x85 || c.toNat = 0x2028 || c.toNat = 0x2029

/-- A line: the number of characters before it, and its characters with its terminator. -/
structure SourceLine where
  start : Nat
  chars : List Char
deriving DecidableEq, Repr

namespace SourceLine

/-- The position after a line. -/
def stop (l : SourceLine) : Nat := l.start + l.chars.length

/-- Divides a text after each terminator. -/
def split : List Char → List (List Char)
  | [] => []
  | '\r' :: '\n' :: cs => ['\r', '\n'] :: split cs
  | c :: cs =>
    if isLineTerminator c then [c] :: split cs
    else
      match split cs with
      | [] => [[c]]
      | l :: ls => (c :: l) :: ls

/-- Dividing a text loses nothing. -/
theorem flatten_split (cs : List Char) : (split cs).flatten = cs := by
  fun_induction split cs with
  | case1 => rfl
  | case2 cs ih => simp [ih]
  | case3 c cs _ _ ih => simp [ih]
  | case4 c cs _ _ h ih => simp_all
  | case5 c cs _ _ l ls h ih => simp_all

/-- Lines one after another, the first at `start`. -/
def placeFrom (start : Nat) : List (List Char) → List SourceLine
  | [] => []
  | l :: ls => ⟨start, l⟩ :: placeFrom (start + l.length) ls

/-- The lines of a text, of which there is at least one. -/
def ofText (text : String) : List SourceLine :=
  match split text.toList with
  | [] => [⟨0, []⟩]
  | ls => placeFrom 0 ls

/-- The length of the text that the lines make up. -/
def total : List SourceLine → Nat
  | [] => 0
  | l :: ls => l.chars.length + total ls

/-- The number, from zero, and the line of a position: the last line that starts at or before it. A
position after the end of the text has none. -/
def locate? (lines : List SourceLine) (pos : Nat) : Option (Nat × SourceLine) :=
  if pos ≤ total lines then
    (lines.zipIdx.filter fun (l, _) => l.start ≤ pos).getLast?.map fun (l, i) => (i, l)
  else none

end SourceLine

end PrefixCalc
