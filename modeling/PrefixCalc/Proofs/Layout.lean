import PrefixCalc.Proofs.Answers
import PrefixCalc.Proofs.Placement

/-!
# Where reports are drawn

The grammar counts characters and a report counts lines and columns; what ends a line is nothing to
the grammar, for which a line terminator is a blank or a character like any other. The two fit
together because a diagnostic points at one character, at the end of the text, or at an identifier,
and only the last character of such a place can end a line (`SourceLine.exists_line_of_piece`). So
the place lies on one line of the text (`Span.LiesOn`), and the renderer finds that line both from
the start of the place and from its last position.

Hence the report of a rejected line is one section about one source line
(`Report.lines_eq_ofArrow`), its place is the line and column of the fault, and its mark is not left
out (`Grammar.report_of_parse_error`).
-/

namespace PrefixCalc

/-! ## Lines of a text -/

namespace SourceLine

theorem total_append (before after : List SourceLine) :
    total (before ++ after) = total before + total after := by
  induction before with
  | nil => simp [total]
  | cons l before ih => rw [List.cons_append, total, total, ih, Nat.add_assoc]

/-- Lines that are placed one after another take up as much as their texts. -/
theorem total_placeFrom (start : Nat) (ls : List (List Char)) :
    total (placeFrom start ls) = ls.flatten.length := by
  induction ls generalizing start with
  | nil => rfl
  | cons l ls ih => rw [placeFrom, total, ih, List.flatten_cons, List.length_append]

/-- Each line is placed where those before it end. -/
theorem placeFrom_append (start : Nat) (before after : List (List Char)) :
    placeFrom start (before ++ after) =
      placeFrom start before ++ placeFrom (start + before.flatten.length) after := by
  induction before generalizing start with
  | nil => rfl
  | cons l before ih =>
    rw [List.cons_append, placeFrom, ih, placeFrom, List.flatten_cons, List.length_append,
      Nat.add_assoc, List.cons_append]

theorem le_start_of_mem_placeFrom {start : Nat} {ls : List (List Char)} {l : SourceLine}
    (h : l ∈ placeFrom start ls) : start ≤ l.start := by
  induction ls generalizing start with
  | nil => cases h
  | cons cs ls ih =>
    rcases List.mem_cons.1 h with rfl | h
    · exact Nat.le_refl start
    · exact Nat.le_trans (Nat.le_add_right start cs.length) (ih h)

theorem ofText_eq_placeFrom {text : String} (h : split text.toList ≠ []) :
    ofText text = placeFrom 0 (split text.toList) := by
  unfold ofText
  split
  · next hnil => exact absurd hnil h
  · rfl

/-- A line of a text and the lines above and below it, where they are placed. -/
theorem ofText_of_split {text : String} {before after : List (List Char)} {l : List Char}
    (h : split text.toList = before ++ l :: after) :
    ofText text = placeFrom 0 before ++
      ⟨before.flatten.length, l⟩ :: placeFrom (before.flatten.length + l.length) after := by
  rw [ofText_eq_placeFrom (by simp [h]), h, placeFrom_append, placeFrom, Nat.zero_add]

/-- The lines of a text take up all of it. -/
theorem total_ofText (text : String) : total (ofText text) = text.toList.length := by
  by_cases h : split text.toList = []
  · rw [← flatten_split text.toList, h, ofText, h]
    rfl
  · rw [ofText_eq_placeFrom h, total_placeFrom, flatten_split]

/-- A line that another one follows ends with a terminator. -/
theorem exists_terminator_of_split {cs l k : List Char} {before after : List (List Char)}
    (h : split cs = before ++ l :: k :: after) :
    ∃ front t, l = front ++ [t] ∧ isLineTerminator t = true := by
  fun_induction split cs generalizing before l with
  | case1 => simp at h
  | case2 cs ih =>
    cases before with
    | nil =>
      obtain ⟨rfl, -⟩ := List.cons.inj h
      exact ⟨['\r'], '\n', rfl, rfl⟩
    | cons b before => exact ih (List.cons.inj h).2
  | case3 c cs _ hc ih =>
    cases before with
    | nil =>
      obtain ⟨rfl, -⟩ := List.cons.inj h
      exact ⟨[], c, rfl, hc⟩
    | cons b before => exact ih (List.cons.inj h).2
  | case4 c cs _ _ hcs ih =>
    have hlength := congrArg List.length h
    simp at hlength
    omega
  | case5 c cs _ _ first rest hcs ih =>
    cases before with
    | nil =>
      obtain ⟨rfl, rfl⟩ := List.cons.inj h
      have hfirst : split cs = [] ++ first :: k :: after := hcs
      obtain ⟨front, t, rfl, ht⟩ := ih hfirst
      exact ⟨c :: front, t, rfl, ht⟩
    | cons b before =>
      obtain ⟨-, rfl⟩ := List.cons.inj h
      have hlater : split cs = (first :: before) ++ l :: k :: after := hcs
      exact ih hlater

/-- A position before the end of some texts falls into one of them. -/
theorem exists_line_at {ls : List (List Char)} {p : Nat} (h : p < ls.flatten.length) :
    ∃ before l after, ls = before ++ l :: after ∧ before.flatten.length ≤ p ∧
      p < before.flatten.length + l.length := by
  induction ls generalizing p with
  | nil => cases h
  | cons l ls ih =>
    rw [List.flatten_cons, List.length_append] at h
    by_cases hp : p < l.length
    · exact ⟨[], l, ls, rfl, Nat.zero_le p, by simpa using hp⟩
    · obtain ⟨before, k, after, rfl, hle, hlt⟩ := ih (p := p - l.length) (by omega)
      refine ⟨l :: before, k, after, rfl, ?_⟩
      rw [List.flatten_cons, List.length_append]
      omega

/-- A piece of a text of which only the last character may end a line lies on one line. -/
theorem exists_line_of_piece {piece : List Char} (pre post : List Char) (hne : piece ≠ [])
    (hpiece : Unbroken piece.dropLast) :
    ∃ before l after, split (pre ++ (piece ++ post)) = before ++ l :: after ∧
      before.flatten.length ≤ pre.length ∧
      pre.length + piece.length ≤ before.flatten.length + l.length := by
  have hpos := List.length_pos_iff.2 hne
  have hflat := flatten_split (pre ++ (piece ++ post))
  have hinside : pre.length < (split (pre ++ (piece ++ post))).flatten.length := by
    rw [hflat, List.length_append, List.length_append]
    omega
  obtain ⟨before, l, after, hsplit, hle, hlt⟩ := exists_line_at hinside
  refine ⟨before, l, after, hsplit, hle, Nat.le_of_not_lt fun hout => ?_⟩
  rw [hsplit, List.flatten_append, List.flatten_cons] at hflat
  cases after with
  | nil =>
    have hlength := congrArg List.length hflat
    simp only [List.length_append, List.flatten_nil, List.length_nil] at hlength
    omega
  | cons k after =>
    -- The line ends within the piece, before its last character, so with no terminator.
    obtain ⟨front, t, rfl, ht⟩ := exists_terminator_of_split hsplit
    rw [List.length_append, List.length_singleton] at hlt hout
    have hindex : pre.length ≤ before.flatten.length + front.length := by omega
    have hget := congrArg (·[before.flatten.length + front.length]?) hflat
    simp only [List.getElem?_append_right hindex] at hget
    have hmem : t ∈ piece.dropLast := by
      apply List.mem_of_getElem? (i := before.flatten.length + front.length - pre.length)
      rw [List.getElem?_dropLast, if_pos (by omega), ← List.getElem?_append_left (by omega)]
      rw [← hget]
      simp
    cases (hpiece t hmem).symm.trans ht

/-- The line of a position is the last one that starts at or before it. -/
theorem locate?_append {before after : List SourceLine} {l : SourceLine} {pos : Nat}
    (hl : l.start ≤ pos) (hafter : ∀ k ∈ after, pos < k.start)
    (htotal : pos ≤ total (before ++ l :: after)) :
    locate? (before ++ l :: after) pos = some (before.length, l) := by
  have hbelow : (after.zipIdx (before.length + 1)).filter
      (fun k => decide (k.1.start ≤ pos)) = [] := by
    rw [List.filter_eq_nil_iff]
    intro k hk
    have hlt := hafter k.1 (List.fst_mem_of_mem_zipIdx hk)
    simpa using hlt
  rw [locate?, if_pos htotal, List.zipIdx_append, List.filter_append, List.zipIdx_cons]
  simp [hl, hbelow]

end SourceLine

/-! ## Places on a line -/

theorem Span.start_le_last (s : Span) : s.start ≤ s.last := by
  rw [Span.last]
  split <;> omega

theorem Span.last_le_stop {s : Span} (h : s.start ≤ s.stop) : s.last ≤ s.stop := by
  rw [Span.last]
  split <;> omega

/-- A span lies on a line of a text, with the lines `before` above it and the lines `after` below.
-/
structure Span.LiesOn (s : Span) (before : List SourceLine) (l : SourceLine)
    (after : List SourceLine) : Prop where
  start_le_stop : s.start ≤ s.stop
  start_eq : l.start = SourceLine.total before
  start_le : l.start ≤ s.start
  stop_le : s.stop ≤ l.stop
  below : ∀ k ∈ after, s.last < k.start

namespace SourceLine

/-- A piece of a text of which only the last character may end a line, as a span. -/
theorem exists_liesOn_of_piece {text : String} {pre piece post : List Char}
    (htext : text.toList = pre ++ (piece ++ post)) (hne : piece ≠ [])
    (hpiece : Unbroken piece.dropLast) :
    ∃ before l after, ofText text = before ++ l :: after ∧
      Span.LiesOn ⟨pre.length, pre.length + piece.length⟩ before l after := by
  have hpos := List.length_pos_iff.2 hne
  obtain ⟨before, l, after, hsplit, hle, hlt⟩ := exists_line_of_piece pre post hne hpiece
  rw [← htext] at hsplit
  refine ⟨_, _, _, ofText_of_split hsplit, Nat.le_add_right _ _, (total_placeFrom 0 before).symm,
    hle, hlt, fun k hk => ?_⟩
  have hk := le_start_of_mem_placeFrom hk
  rw [Span.last, if_pos (by dsimp only; omega)]
  dsimp only
  omega

/-- The end of a text lies on its last line, also if that is terminated. -/
theorem exists_liesOn_end (text : String) :
    ∃ before l, ofText text = before ++ [l] ∧
      Span.LiesOn ⟨text.toList.length, text.toList.length⟩ before l [] := by
  have hflat := flatten_split text.toList
  rcases List.eq_nil_or_concat (split text.toList) with hsplit | ⟨before, l, hsplit⟩
  · rw [hsplit] at hflat
    refine ⟨[], ⟨0, []⟩, by rw [ofText, hsplit]; rfl, ?_⟩
    rw [← hflat]
    exact ⟨Nat.le_refl _, rfl, Nat.le_refl _, Nat.le_refl _, nofun⟩
  · rw [List.concat_eq_append] at hsplit
    rw [hsplit] at hflat
    have hlength := congrArg List.length hflat
    rw [List.flatten_append, List.length_append, List.flatten_singleton] at hlength
    refine ⟨_, _, ofText_of_split hsplit, Nat.le_refl _, (total_placeFrom 0 before).symm, ?_, ?_,
      nofun⟩
    · dsimp only
      omega
    · dsimp only [stop]
      omega

end SourceLine

namespace Span.LiesOn

variable {s : Span} {before after : List SourceLine} {l : SourceLine}

theorem stop_le_total (h : s.LiesOn before l after) :
    s.stop ≤ SourceLine.total (before ++ l :: after) := by
  have hstop := h.stop_le
  rw [SourceLine.stop, h.start_eq] at hstop
  rw [SourceLine.total_append, SourceLine.total]
  omega

/-- The line is found from each position of the span. -/
theorem locate?_eq (h : s.LiesOn before l after) {pos : Nat} (hstart : s.start ≤ pos)
    (hlast : pos ≤ s.last) :
    SourceLine.locate? (before ++ l :: after) pos = some (before.length, l) := by
  have hstop := Span.last_le_stop h.start_le_stop
  refine SourceLine.locate?_append (Nat.le_trans h.start_le hstart) ?_ ?_
  · exact fun k hk => Nat.lt_of_le_of_lt hlast (h.below k hk)
  · exact Nat.le_trans hlast (Nat.le_trans hstop h.stop_le_total)

end Span.LiesOn

/-! ## The report of one mark -/

namespace Report

/-- A report with one arrow, on one line of the source, the line numbered `line` from zero: the
heading, a frame with the place, the text of the line with its number, the arrow to its note, and
nothing else. -/
def ofArrow (name heading : String) (line : Nat) (l : SourceLine) (a : Arrow) :
    List (List Piece) :=
  let w := numberWidth line
  let place := name ++ ":" ++ (Decimal.digits (line + 1) ++ ":" ++ Decimal.digits (a.start + 1))
  [.inked .red "Error:", .plain (" " ++ heading)] :: topEdge w true place :: upright w ::
    (numberMargin w line ++ Row.text l [a]) ::
      (Row.arrowLines l [a] 0 a).map (bareMargin w ++ ·) ++ [bottomEdge w]

end Report

section
variable {m : Mark} {before after : List SourceLine} {l : SourceLine} {a : Arrow}

/-- A mark on a line becomes an arrow there, from the columns of its place to its note. -/
theorem Span.LiesOn.exists_arrow (h : m.span.LiesOn before l after) :
    ∃ a, Arrow.ofMark? l m = some a ∧ l.start + a.start = m.span.start ∧
      l.start + a.stop = m.span.stop ∧ a.tint = m.tint ∧ a.note = m.note := by
  have hforth := h.start_le_stop
  have hstart := h.start_le
  have hstop := h.stop_le
  refine ⟨_, if_pos (by simp [hstart, hstop]), ?_, ?_, rfl, rfl⟩
  · dsimp only
    omega
  · dsimp only
    omega

/-- A mark on one line makes one section, which shows that line. -/
theorem Section.ofAll_singleton (h : m.span.LiesOn before l after) :
    Section.ofAll (before ++ l :: after) [m] = [⟨[m], before.length, before.length⟩] := by
  have hforth := h.start_le_stop
  have hlast : max (m.span.stop - 1) m.span.start = m.span.last := by
    rw [Span.last]
    split <;> omega
  have hfirst : lineNumber (before ++ l :: after) m.span.start = before.length := by
    rw [lineNumber, h.locate?_eq (Nat.le_refl _) m.span.start_le_last]
    rfl
  have hfinal : lineNumber (before ++ l :: after) m.span.last = before.length := by
    rw [lineNumber, h.locate?_eq m.span.start_le_last (Nat.le_refl _)]
    rfl
  have hinside : m.span.last ≤ SourceLine.total (before ++ l :: after) :=
    Nat.le_trans (Span.last_le_stop hforth) h.stop_le_total
  have hone (follows : Mark → Mark → Bool) : [m].splitBy follows = [[m]] := rfl
  simp [ofAll, hinside, hone, ofMarks, hfirst, hlast, hfinal]

/-- The body of a section with one mark: its line, with its number, and the arrow. -/
theorem Report.body_singleton (ha : Arrow.ofMark? l m = some a) (w : Nat) :
    Report.body w (before ++ l :: after) ⟨[m], before.length, before.length⟩ =
      (numberMargin w before.length ++ Row.text l [a]) ::
        (Row.arrowLines l [a] 0 a).map (bareMargin w ++ ·) := by
  have hshown : ((before ++ l :: after).take (before.length + 1)).drop before.length = [l] := by
    simp [List.take_append]
  have harrows : Arrow.ofMarks l [m] = [a] := by
    simp [Arrow.ofMarks, ha, Arrow.insert]
  rw [Report.body, hshown, Report.bodyLines, harrows]
  simp [Row.drawing, Report.bodyLines]

/-- The report of a diagnostic with one mark, on one line. -/
theorem Report.lines_eq_ofArrow {source : String} {d : Diagnostic}
    (hlines : SourceLine.ofText source = before ++ l :: after) (hmarks : d.marks = [m])
    (hspan : m.span = d.span) (h : d.span.LiesOn before l after)
    (ha : Arrow.ofMark? l m = some a) (hcol : l.start + a.start = d.span.start)
    (name : String) :
    Report.lines name source d = Report.ofArrow name d.header before.length l a := by
  have hsection := Section.ofAll_singleton (m := m) (hspan ▸ h)
  have hplace : Report.location (before ++ l :: after) d.span.start =
      Decimal.digits (before.length + 1) ++ ":" ++ Decimal.digits (a.start + 1) := by
    rw [Report.location, h.locate?_eq (Nat.le_refl _) d.span.start_le_last]
    dsimp only
    rw [← hcol, Nat.add_sub_cancel_left]
  rw [Report.lines, hlines, hmarks, hsection, hplace]
  simp [Report.sections, Report.body_singleton ha, Report.ofArrow]

end

/-! ## The reports of the grammar -/

namespace Grammar

/-- A diagnostic that points into a text points at a place on one line of it. -/
theorem exists_liesOn_of_pointsInto {text : String} {d : Diagnostic}
    (h : d.PointsInto text.toList) :
    ∃ before l after, SourceLine.ofText text = before ++ l :: after ∧
      d.span.LiesOn before l after := by
  obtain ⟨-, ⟨p, rest⟩, ⟨pre, htext, rfl⟩, hspan⟩ := h
  rcases hspan with ⟨hspan, -⟩ | ⟨word, post, rfl, hword, hspan, -⟩
  · rw [hspan]
    cases rest with
    | nil =>
      obtain ⟨before, l, hlines, hl⟩ := SourceLine.exists_liesOn_end text
      rw [htext, List.append_nil] at hl
      exact ⟨before, l, [], hlines, hl⟩
    | cons x xs =>
      have hone : text.toList = pre ++ ([x] ++ xs) := htext
      exact SourceLine.exists_liesOn_of_piece hone (by simp) nofun
  · rw [hspan]
    refine SourceLine.exists_liesOn_of_piece htext ?_ fun x hx => ?_
    · rintro rfl
      exact hword
    · exact hword.unbroken x ((List.dropLast_sublist word).subset hx)

/-- The diagnostic of a rejected line does not run backwards or beyond the line, lies on one source
line, and has a report: one section, placed at the line and column of the fault, that shows this
source line only and draws the diagnostic's one mark on it. -/
theorem report_of_parse_error {line : String} {d : Diagnostic} (h : parse line = .error d) :
    d.span.start ≤ d.span.stop ∧ d.span.stop ≤ line.length ∧
    ∃ before l after, SourceLine.ofText line = before ++ l :: after ∧
      l.start = SourceLine.total before ∧ l.start ≤ d.span.start ∧ d.span.stop ≤ l.stop ∧
      ∃ a : Arrow, SourceLine.total before + a.start = d.span.start ∧
        SourceLine.total before + a.stop = d.span.stop ∧ a.note = d.hint ∧
        ∀ name, Report.lines name line d = Report.ofArrow name d.header before.length l a ∧
          ∀ colour, Report.render? colour name line [d] = some (String.join
            ((Report.ofArrow name d.header before.length l a).map (Piece.renderLine colour))) := by
  have hpoints := pointsInto_of_parse_error h
  obtain ⟨before, l, after, hlines, hl⟩ := exists_liesOn_of_pointsInto hpoints
  obtain ⟨a, ha, hstart, hstop, -, hnote⟩ :=
    Span.LiesOn.exists_arrow (m := ⟨d.span, .red, d.hint⟩) hl
  have hreport (name : String) := Report.lines_eq_ofArrow hlines (Diagnostic.marks_of_unexpected
    hpoints.1) rfl hl ha hstart name
  have hlength : SourceLine.total (before ++ l :: after) = line.length := by
    rw [← hlines, SourceLine.total_ofText, String.length_toList]
  rw [hl.start_eq] at hstart hstop
  refine ⟨hl.start_le_stop, hlength ▸ hl.stop_le_total, before, l, after, hlines, hl.start_eq,
    hl.start_le, hl.stop_le, a, hstart, hstop, hnote, fun name => ⟨hreport name, fun colour => ?_⟩⟩
  rw [Report.render?, if_pos (by simpa using isDrawable_of_parse_error h), ← hreport name]
  simp [Report.render]

/-- A fault on the second of three lines, of which the first ends with two characters. -/
theorem report_after_crlf :
    let line := "+ 1\r\n2 x\x0b3"
    let d : Diagnostic := ⟨⟨7, 8⟩, .unexpected, some 'x', [.endOfInput, .char '-', .char '('],
      .named "number"⟩
    parse line = .error d ∧
    Report.render? false "<stdin>" line [d] = some ("Error: Unexpected 'x'\n" ++
      "   ╭─[ <stdin>:2:3 ]\n   │\n 2 │ 2 x\n   │   ┬  \n   │   ╰── expected number\n───╯\n") ∧
    ∃ before l after, SourceLine.ofText line = before ++ l :: after ∧
      l.start = SourceLine.total before ∧ l.start ≤ 7 ∧ 8 ≤ l.stop ∧
      ∃ a : Arrow, SourceLine.total before + a.start = 7 ∧
        ∀ name, Report.lines name line d = Report.ofArrow name d.header before.length l a := by
  have h : parse "+ 1\r\n2 x\x0b3" = .error ⟨⟨7, 8⟩, .unexpected, some 'x',
    [.endOfInput, .char '-', .char '('], .named "number"⟩ := rfl
  obtain ⟨-, -, before, l, after, hlines, hl, hstart, hstop, a, hcol, -, -, hreport⟩ :=
    report_of_parse_error h
  refine ⟨h, by decide +kernel, before, l, after, hlines, hl, hstart, hstop, a, hcol, ?_⟩
  exact fun name => (hreport name).1

end Grammar

end PrefixCalc
