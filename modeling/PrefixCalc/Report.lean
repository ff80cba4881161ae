import PrefixCalc.Report.Row
import PrefixCalc.Text.Basic

/-!
# Reports

A report draws a diagnostic over the source it is about: a heading, and a framed view of the marked
lines with their numbers, where lines without a mark are left out. `Report.render?` is the text of
the reports of several diagnostics; there is none if a diagnostic has a span that runs backwards.
-/

namespace PrefixCalc.Report

/-- So many spaces. -/
def spaces (n : Nat) : String := String.ofList (List.replicate n ' ')

/-- The number of digits of a line number, for all lines up to `lastLine` counted from zero. -/
def numberWidth (lastLine : Nat) : Nat := (Decimal.digits (lastLine + 1)).length

/-- The margin of a numbered line. -/
def numberMargin (w line : Nat) : List Piece :=
  let number := Decimal.digits (line + 1)
  [.plain " ", .inked .margin (spaces (w - number.length) ++ number ++ " │"), .plain " "]

/-- The margin of a line without a number. -/
def bareMargin (w : Nat) : List Piece :=
  [.plain " ", .inked .skipped (spaces (w + 1) ++ "│"), .plain " "]

/-- An upright of the frame by itself. -/
def upright (w : Nat) : List Piece := [.plain (spaces (w + 2)), .inked .margin "│"]

/-- The line and column of a position, counted from one. -/
def location (lines : List SourceLine) (pos : Nat) : String :=
  match SourceLine.locate? lines pos with
  | some (i, l) => Decimal.digits (i + 1) ++ ":" ++ Decimal.digits (pos - l.start + 1)
  | none => "?:?"

/-- The top edge of a section, with the name of the source and the place of the fault. The first
section starts the frame and the others carry it on. -/
def topEdge (w : Nat) (isFirst : Bool) (place : String) : List Piece :=
  [.plain (spaces (w + 2)), .inked .margin (if isFirst then "╭" else "├"), .inked .margin "─",
    .inked .margin "[", .plain (" " ++ place ++ " "), .inked .margin "]"]

/-- The bottom edge of the frame. -/
def bottomEdge (w : Nat) : List Piece :=
  [.inked .margin (String.ofList (List.replicate (w + 2) '─') ++ "╯")]

/-- The source lines of a section, from the line numbered `line` on. A run of lines without a mark
is shown as one empty line; `skipped` says that the line before was of such a run. -/
def bodyLines (w : Nat) (marks : List Mark) : Nat → Bool → List SourceLine → List (List Piece)
  | _, _, [] => []
  | line, skipped, l :: ls =>
    match Arrow.ofMarks l marks with
    | [] => (if skipped then [] else [bareMargin w]) ++ bodyLines w marks (line + 1) true ls
    | arrows =>
      (numberMargin w line ++ Row.text l arrows) ::
        (Row.drawing l arrows).map (bareMargin w ++ ·) ++ bodyLines w marks (line + 1) false ls

/-- The source lines of a section. -/
def body (w : Nat) (lines : List SourceLine) (s : Section) : List (List Piece) :=
  bodyLines w s.marks s.firstLine false ((lines.take (s.lastLine + 1)).drop s.firstLine)

/-- The sections of a report, the first of them starting the frame if `isFirst`. -/
def sections (w : Nat) (lines : List SourceLine) (place : String) :
    Bool → List Section → List (List Piece)
  | _, [] => []
  | isFirst, s :: ss =>
    topEdge w isFirst place :: upright w ::
      body w lines s ++ (if ss.isEmpty then bottomEdge w else upright w) ::
        sections w lines place false ss

/-- The lines of the report of a diagnostic. -/
def lines (name source : String) (d : Diagnostic) : List (List Piece) :=
  let sourceLines := SourceLine.ofText source
  let shown := Section.ofAll sourceLines d.marks
  let w := numberWidth ((shown.map Section.lastLine).max?.getD 0)
  [.inked .red "Error:", .plain (" " ++ d.header)] ::
    sections w sourceLines (name ++ ":" ++ location sourceLines d.span.start) true shown

/-- The text of the report of a diagnostic. -/
def render (colour : Bool) (name source : String) (d : Diagnostic) : String :=
  String.join ((lines name source d).map (Piece.renderLine colour))

/-- Whether no mark of a diagnostic runs backwards. -/
def isDrawable (d : Diagnostic) : Bool := d.marks.all fun m => m.span.start ≤ m.span.stop

/-- The reports of several diagnostics, one after the other. -/
def render? (colour : Bool) (name source : String) (ds : List Diagnostic) : Option String :=
  if ds.all isDrawable then some (String.join (ds.map (render colour name source))) else none

end PrefixCalc.Report
