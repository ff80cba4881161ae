import PrefixCalc.Diagnostic
import PrefixCalc.Report.Paint
import PrefixCalc.Text.SourceLine

/-!
# Marks on a source text

A diagnostic marks one or two places in the source: the place of the fault, and the place of the
delimiter that was left open. Marks that follow each other downwards in the source are shown in one
section; a mark above the one before it starts a new section.
-/

namespace PrefixCalc

/-- A place in the source with the colour it is drawn in and what is said about it. -/
structure Mark where
  span : Span
  tint : Tint
  note : String
deriving DecidableEq, Repr

/-- The last position of a span; that of an empty span is its start. -/
def Span.last (s : Span) : Nat := if s.start < s.stop then s.stop - 1 else s.start

/-- Whether a span covers a position. -/
def Span.covers (s : Span) (pos : Nat) : Bool := s.start ≤ pos && pos < s.stop

/-- The number of positions in a span. -/
def Span.size (s : Span) : Nat := s.stop - s.start

/-- The marks of a diagnostic. -/
def Diagnostic.marks (d : Diagnostic) : List Mark :=
  ⟨d.span, .red, d.hint⟩ ::
    match d.reason with
    | .unclosed _ opened => [⟨opened, .yellow, "opened here"⟩]
    | _ => []

/-- Marks that are shown together, with the numbers, from zero, of the first and the last line that
are shown. -/
structure Section where
  marks : List Mark
  firstLine : Nat
  lastLine : Nat
deriving DecidableEq, Repr

namespace Section

/-- The number of the line that a position is on. -/
def lineNumber (lines : List SourceLine) (pos : Nat) : Nat :=
  ((SourceLine.locate? lines pos).map Prod.fst).getD 0

/-- The section of some marks: it runs from the line of the least start to that of the greatest last
position. -/
def ofMarks (lines : List SourceLine) (marks : List Mark) : Section :=
  let start := (marks.map (·.span.start)).min?.getD 0
  let stop := (marks.map (·.span.stop)).max?.getD 0
  ⟨marks, lineNumber lines start, lineNumber lines (max (stop - 1) start)⟩

/-- The sections of some marks, in order. A mark that does not lie within the text is left out. -/
def ofAll (lines : List SourceLine) (marks : List Mark) : List Section :=
  (marks.filter fun m => m.span.last ≤ SourceLine.total lines)
    |>.splitBy (fun a b => lineNumber lines a.span.last ≤ lineNumber lines b.span.last)
    |>.map (ofMarks lines)

end Section

end PrefixCalc
