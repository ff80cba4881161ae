import PrefixCalc.Report.Mark
import PrefixCalc.Text.Basic
import PrefixCalc.Text.Width

/-!
# Rows of a report

How one source line is drawn with its marks: the text of the line, and below it, for each mark, an
arrow from the middle of the marked place to the note. Columns count characters of the line; a
column is as broad as its character on a terminal.
-/

namespace PrefixCalc

/-- A mark as it stands on one line: the columns from `start` up to but not including `stop`, and
the column in the middle that its arrow leaves from. -/
structure Arrow where
  start : Nat
  stop : Nat
  middle : Nat
  tint : Tint
  note : String
deriving DecidableEq, Repr

namespace Arrow

/-- A mark on a line, if it lies within the line. -/
def ofMark? (l : SourceLine) (m : Mark) : Option Arrow :=
  if l.start ≤ m.span.start && m.span.stop ≤ l.stop then
    some
      { start := m.span.start - l.start
        stop := m.span.stop - l.start
        middle := (m.span.start + m.span.stop) / 2 - l.start
        tint := m.tint
        note := m.note }
  else none

/-- Whether an arrow comes before another, or is level with it: by middle from left to right, and of
those with one middle the later start first. -/
def upTo (a b : Arrow) : Bool :=
  a.middle < b.middle || (a.middle = b.middle && b.start ≤ a.start)

/-- Puts an arrow in front of the first one that it comes before or is level with. -/
def insert (a : Arrow) : List Arrow → List Arrow
  | [] => [a]
  | b :: bs => if a.upTo b then a :: b :: bs else b :: insert a bs

/-- The arrows of a line in the order of their rows. -/
def ofMarks (l : SourceLine) (marks : List Mark) : List Arrow :=
  (marks.filterMap (ofMark? l)).foldr insert []

/-- Whether an arrow's place covers a column. -/
def covers (a : Arrow) (col : Nat) : Bool := a.start ≤ col && col < a.stop

/-- The arrow with the smallest place among those that cover a column, the first of several. -/
def covering? (arrows : List Arrow) (col : Nat) : Option Arrow :=
  (arrows.filter (·.covers col)).foldl
    (fun best a =>
      match best with
      | none => some a
      | some b => if a.stop - a.start < b.stop - b.start then some a else some b)
    none

end Arrow

namespace Row

/-- How many columns of a terminal the character in a column takes up. A tab runs to the next
multiple of four. -/
def width (col : Nat) (c : Char) : Nat :=
  if c = '\t' then 4 - col % 4
  else if isBlank c then 1
  else displayWidth c

/-- The characters of a line that are shown: all up to the last one that is not blank. -/
def shown (l : SourceLine) : List Char :=
  (l.chars.reverse.dropWhile isBlank).reverse

/-- The character in a column, in the tint of the arrow that covers it. A blank is shown as spaces.
-/
def glyphs (arrows : List Arrow) (col : Nat) (c : Char) : List Piece :=
  let tint := ((Arrow.covering? arrows col).map Arrow.tint).getD .unimportant
  if isBlank c then List.replicate (width col c) (.inked tint " ") else [.inked tint c.toString]

/-- The text of a line. -/
def text (l : SourceLine) (arrows : List Arrow) : List Piece :=
  (shown l).zipIdx.flatMap fun (c, col) => glyphs arrows col c

/-- The widths of the columns of a line. -/
def widths (l : SourceLine) : Array Nat :=
  ((shown l).zipIdx.map fun (c, col) => width col c).toArray

/-- What is drawn in a column: `head` in its first place and `tail` in the others. -/
structure Stroke where
  head : Piece
  tail : Piece

namespace Stroke

/-- An empty column. -/
def empty : Stroke := ⟨.plain " ", .plain " "⟩

/-- Two characters in one tint. -/
def inked (tint : Tint) (head tail : String) : Stroke := ⟨.inked tint head, .inked tint tail⟩

/-- A stroke drawn over so many columns of a terminal. -/
def spread (s : Stroke) : Nat → List Piece
  | 0 => []
  | n + 1 => s.head :: List.replicate n s.tail

end Stroke

/-- Strokes in the first `count` columns. Columns after the shown text are one wide. -/
def strokes (widths : Array Nat) (count : Nat) (draw : Nat → Stroke) : List Piece :=
  (List.range count).flatMap fun col => (draw col).spread (widths.getD col 1)

/-- The column of an arrow of row `row` or below that goes down through a column. -/
def stem? (arrows : List Arrow) (row col : Nat) : Option Arrow :=
  (arrows.drop row).find? (·.middle = col)

/-- The line above the turn of an arrow. In the first row it also underlines the marked places. -/
def stemStroke (arrows : List Arrow) (row col : Nat) : Stroke :=
  match stem? arrows row col, if row = 0 then Arrow.covering? arrows col else none with
  | some stem, some _ => .inked stem.tint "┬" "─"
  | some stem, none => .inked stem.tint "│" " "
  | none, some line => .inked line.tint "─" "─"
  | none, none => .empty

/-- The line in which an arrow turns towards its note. -/
def turnStroke (arrows : List Arrow) (row : Nat) (a : Arrow) (col : Nat) : Stroke :=
  if col = a.middle then .inked a.tint "╰" "─"
  else if a.middle < col then .inked a.tint "─" "─"
  else
    match stem? arrows row col with
    | some stem => ⟨.inked stem.tint "│", .inked a.tint " "⟩
    | none => .empty

/-- The number of columns that the arrows of a line are drawn in. -/
def reach (arrows : List Arrow) : Nat := (arrows.map Arrow.stop).max?.getD 0 + 2

/-- The two lines of the arrow in row `row`. -/
def arrowLines (l : SourceLine) (arrows : List Arrow) (row : Nat) (a : Arrow) : List (List Piece) :=
  let widths := widths l
  let count := reach arrows
  [strokes widths count (stemStroke arrows row),
    strokes widths count (turnStroke arrows row a) ++ [.plain (" " ++ a.note)]]

/-- All lines below the text of a line. -/
def drawing (l : SourceLine) (arrows : List Arrow) : List (List Piece) :=
  arrows.zipIdx.flatMap fun (a, row) => arrowLines l arrows row a

end Row

end PrefixCalc
