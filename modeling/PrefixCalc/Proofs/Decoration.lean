import Mathlib.Data.List.SplitBy
import PrefixCalc.Report

/-!
# Colour is decoration

A coloured report is the plain one with colour sequences put into it. `withoutSequences` takes every
sequence out of a text again, from the escape character and a bracket to the next `m`, and what is
left of a coloured report is the plain one (`Report.render?_decorates`).

A text decorates another (`Decorates`) if it is turned into the other in this way wherever it
stands. Decorating is put together from parts: pieces make up lines, lines make up reports. A piece
without an escape character in its text decorates itself (`Piece.decorates_render`). So all there is
to show is that no piece of a report has one (`Report.clean_lines`): the pieces of a report show
characters of the source, its name, the two sentences of the diagnostic, numbers, and the strokes of
frames and arrows.
-/

namespace PrefixCalc

/-- The character that starts a colour sequence. -/
def escape : Char := '\x1b'

/-! ## Taking colour sequences out -/

/-- Takes every colour sequence out of a text. `held` are the characters of a sequence that has
begun, the last one first; a sequence that never ends is none, so its characters stay. -/
def stripSequences : (held : Option (List Char)) → List Char → List Char
  | none, [] => []
  | none, '\x1b' :: '[' :: cs => stripSequences (some ['[', '\x1b']) cs
  | none, c :: cs => c :: stripSequences none cs
  | some held, [] => held.reverse
  | some _, 'm' :: cs => stripSequences none cs
  | some held, c :: cs => stripSequences (some (c :: held)) cs

/-- A text without its colour sequences. -/
def withoutSequences (text : String) : String := String.ofList (stripSequences none text.toList)

/-- The text has no escape character in it. -/
def EscapeFree (text : String) : Prop := escape ∉ text.toList

instance (text : String) : Decidable (EscapeFree text) :=
  inferInstanceAs (Decidable (escape ∉ text.toList))

/-- A text without an escape character stays as it is. -/
theorem stripSequences_append {cs : List Char} (h : escape ∉ cs) (rest : List Char) :
    stripSequences none (cs ++ rest) = cs ++ stripSequences none rest := by
  induction cs with
  | nil => rfl
  | cons c cs ih =>
    simp only [List.mem_cons, not_or] at h
    rw [List.cons_append, stripSequences, ih h.2, List.cons_append]
    -- The first character starts no sequence.
    exact fun _ heq _ => h.1 heq.symm

/-- A sequence that has begun lasts up to the next `m`. -/
theorem stripSequences_held {code : List Char} (h : 'm' ∉ code) (held rest : List Char) :
    stripSequences (some held) (code ++ 'm' :: rest) = stripSequences none rest := by
  induction code generalizing held with
  | nil => rfl
  | cons c code ih =>
    simp only [List.mem_cons, not_or] at h
    rw [List.cons_append, stripSequences, ih h.2]
    exact fun heq => h.1 heq.symm

/-- A sequence disappears. -/
theorem stripSequences_sequence {code : String} (h : 'm' ∉ code.toList) (rest : List Char) :
    stripSequences none (("\x1b[" ++ code ++ "m").toList ++ rest) = stripSequences none rest := by
  have hchars : ("\x1b[" ++ code ++ "m").toList ++ rest =
      '\x1b' :: '[' :: (code.toList ++ 'm' :: rest) := by
    simp
  rw [hchars, stripSequences, stripSequences_held h]

/-! ## Decorated texts -/

/-- A text is another one with colour sequences put into it, whatever follows. -/
def Decorates (coloured plain : String) : Prop :=
  ∀ rest, stripSequences none (coloured.toList ++ rest) = plain.toList ++ stripSequences none rest

namespace Decorates

variable {coloured plain coloured' plain' : String}

/-- Taking the sequences out of a decorated text leaves the plain one. -/
theorem withoutSequences_eq (h : Decorates coloured plain) : withoutSequences coloured = plain := by
  have hall := h []
  rw [List.append_nil, stripSequences, List.append_nil] at hall
  rw [withoutSequences, hall, String.ofList_toList]

theorem of_escapeFree {text : String} (h : EscapeFree text) : Decorates text text :=
  stripSequences_append h

theorem sequence {code : String} (h : 'm' ∉ code.toList) : Decorates ("\x1b[" ++ code ++ "m") "" :=
  stripSequences_sequence h

theorem append (h : Decorates coloured plain) (h' : Decorates coloured' plain') :
    Decorates (coloured ++ coloured') (plain ++ plain') := by
  intro rest
  rw [String.toList_append, List.append_assoc, h, h', String.toList_append, List.append_assoc]

theorem join {α : Type} {f g : α → String} {xs : List α} (h : ∀ x ∈ xs, Decorates (f x) (g x)) :
    Decorates (String.join (xs.map f)) (String.join (xs.map g)) := by
  induction xs with
  | nil => exact fun _ => rfl
  | cons x xs ih =>
    rw [List.map_cons, List.map_cons, String.join_cons, String.join_cons]
    exact (h x (.head _)).append (ih fun y hy => h y (.tail _ hy))

end Decorates

namespace Piece

/-- There is no escape character in the text of the piece. -/
def Clean (p : Piece) : Prop := EscapeFree p.text

/-- No sequence that switches a tint on ends early. -/
theorem m_not_mem_code (tint : Tint) : 'm' ∉ tint.code.toList := by
  cases tint <;> decide

/-- A coloured piece decorates the plain one. -/
theorem decorates_render {p : Piece} (h : p.Clean) :
    Decorates (p.render true) (p.render false) := by
  obtain ⟨tint, text⟩ := p
  have htext : Decorates text text := .of_escapeFree h
  cases tint with
  | none => exact htext
  | some tint =>
    have hon := Decorates.sequence (m_not_mem_code tint)
    have hoff : Decorates ("\x1b[" ++ "0" ++ "m") "" := Decorates.sequence (by decide)
    have hall := (hon.append htext).append hoff
    rw [String.empty_append, String.append_empty] at hall
    exact hall

/-- A coloured line decorates the plain one. -/
theorem decorates_renderLine {pieces : List Piece} (h : ∀ p ∈ pieces, p.Clean) :
    Decorates (renderLine true pieces) (renderLine false pieces) :=
  (Decorates.join fun p hp => decorates_render (h p hp)).append (.of_escapeFree (by decide))

end Piece

/-! ## Texts without an escape character -/

@[simp] theorem escapeFree_append {a b : String} :
    EscapeFree (a ++ b) ↔ EscapeFree a ∧ EscapeFree b := by
  simp [EscapeFree]

theorem escapeFree_toString {c : Char} (h : c ≠ escape) : EscapeFree c.toString := by
  simpa [EscapeFree] using Ne.symm h

theorem escapeFree_replicate {c : Char} (h : c ≠ escape) (n : Nat) :
    EscapeFree (String.ofList (List.replicate n c)) := by
  rw [EscapeFree, String.toList_ofList, List.mem_replicate]
  exact fun hmem => h hmem.2.symm

/-- Numbers are written in digits. -/
theorem escapeFree_digits (n : Nat) : EscapeFree (Decimal.digits n) := by
  rw [EscapeFree, Decimal.digits, String.toList_ofList]
  intro hmem
  have hdigit := Nat.isDigit_of_mem_toDigits (by decide) (by decide) hmem
  exact absurd hdigit (by decide)

/-- Texts with a separator between them. -/
theorem escapeFree_intercalate {sep : String} {texts : List String} (hsep : EscapeFree sep)
    (h : ∀ text ∈ texts, EscapeFree text) : EscapeFree (sep.intercalate texts) := by
  induction texts with
  | nil => simp [EscapeFree]
  | cons text texts ih =>
    have htext := h text (.head _)
    have htexts := ih fun t ht => h t (.tail _ ht)
    cases texts with
    | nil => simpa using htext
    | cons next texts =>
      rw [String.intercalate_cons_cons]
      simp [htext, hsep, htexts]

/-- What the reason says has no escape character in it. -/
def Reason.EscapeFree : Reason → Prop
  | .unexpected => True
  | .unclosed delimiter _ => delimiter ≠ escape
  | .custom message => PrefixCalc.EscapeFree message

instance : (r : Reason) → Decidable r.EscapeFree
  | .unexpected => .isTrue trivial
  | .unclosed delimiter _ => inferInstanceAs (Decidable (delimiter ≠ escape))
  | .custom message => inferInstanceAs (Decidable (PrefixCalc.EscapeFree message))

/-- No text of the diagnostic has an escape character in it. -/
structure Diagnostic.EscapeFree (d : Diagnostic) : Prop where
  reason : d.reason.EscapeFree
  found : d.found ≠ some escape
  expected : .char escape ∉ d.expected
  label : ∀ name ∈ d.label.name?, PrefixCalc.EscapeFree name

instance (d : Diagnostic) : Decidable d.EscapeFree :=
  decidable_of_iff
    (d.reason.EscapeFree ∧ d.found ≠ some escape ∧ .char escape ∉ d.expected ∧
      ∀ name ∈ d.label.name?, PrefixCalc.EscapeFree name)
    ⟨fun ⟨hr, hf, he, hl⟩ => ⟨hr, hf, he, hl⟩, fun ⟨hr, hf, he, hl⟩ => ⟨hr, hf, he, hl⟩⟩

namespace Diagnostic

variable {d : Diagnostic}

/-- The sentence that heads the report. -/
theorem EscapeFree.header (h : d.EscapeFree) : PrefixCalc.EscapeFree d.header := by
  have hquoted {c : Char} (hc : c ≠ escape) {before : String}
      (hbefore : PrefixCalc.EscapeFree before) :
      PrefixCalc.EscapeFree (before ++ c.toString ++ "'") := by
    simp only [escapeFree_append]
    exact ⟨⟨hbefore, escapeFree_toString hc⟩, by decide⟩
  have hsays := h.reason
  unfold Diagnostic.header
  split
  · next hreason =>
    rw [hreason] at hsays
    exact hquoted hsays (by decide)
  · next hfound => exact hquoted (fun hc => h.found (hc ▸ hfound)) (by decide)
  · decide
  · next hreason =>
    rw [hreason] at hsays
    exact hsays

/-- The sentence at the place of the fault. -/
theorem EscapeFree.hint (h : d.EscapeFree) : PrefixCalc.EscapeFree d.hint := by
  have htexts : ∀ text ∈ Ascending.ofTexts (d.expected.map Expectation.text),
      PrefixCalc.EscapeFree text := by
    intro text hmem
    obtain ⟨e, he, rfl⟩ := List.mem_map.1 (Ascending.mem_ofTexts.1 hmem)
    cases e with
    | char c =>
      have hc : c ≠ escape := fun hc => h.expected (hc ▸ he)
      simp only [Expectation.text, escapeFree_append]
      exact ⟨⟨by decide, escapeFree_toString hc⟩, by decide⟩
    | endOfInput => decide
  unfold Diagnostic.hint
  split
  · next name hname => exact escapeFree_append.2 ⟨by decide, h.label name hname⟩
  · decide
  · exact escapeFree_append.2 ⟨by decide, escapeFree_intercalate (by decide) htexts⟩

/-- What the marks of the diagnostic say. -/
theorem EscapeFree.marks (h : d.EscapeFree) : ∀ m ∈ d.marks, PrefixCalc.EscapeFree m.note := by
  intro m hm
  unfold Diagnostic.marks at hm
  rcases List.mem_cons.1 hm with rfl | hm
  · exact h.hint
  · split at hm
    · have hopened : PrefixCalc.EscapeFree "opened here" := by decide
      rw [List.mem_singleton.1 hm]
      exact hopened
    · cases hm

end Diagnostic

namespace SourceLine

variable {l : SourceLine}

theorem chars_mem_of_mem_placeFrom {start : Nat} {ls : List (List Char)}
    (h : l ∈ placeFrom start ls) : l.chars ∈ ls := by
  induction ls generalizing start with
  | nil => cases h
  | cons cs ls ih =>
    rcases List.mem_cons.1 h with rfl | h
    · exact .head _
    · exact .tail _ (ih h)

/-- A line of a text has the characters of the text. -/
theorem mem_of_mem_ofText {text : String} {c : Char} (hl : l ∈ ofText text) (hc : c ∈ l.chars) :
    c ∈ text.toList := by
  unfold ofText at hl
  split at hl
  · rw [List.mem_singleton.1 hl] at hc
    cases hc
  · rw [← flatten_split text.toList]
    exact List.mem_flatten.2 ⟨l.chars, chars_mem_of_mem_placeFrom hl, hc⟩

end SourceLine

/-! ## Rows without an escape character -/

@[simp] theorem Piece.clean_plain {text : String} : (Piece.plain text).Clean ↔ EscapeFree text :=
  Iff.rfl

@[simp] theorem Piece.clean_inked {tint : Tint} {text : String} :
    (Piece.inked tint text).Clean ↔ EscapeFree text :=
  Iff.rfl

namespace Arrow

/-- An arrow says what its mark says. -/
theorem note_ofMark? {l : SourceLine} {m : Mark} {a : Arrow} (h : ofMark? l m = some a) :
    a.note = m.note := by
  unfold ofMark? at h
  split at h
  · cases h
    rfl
  · cases h

theorem mem_insert {a b : Arrow} {arrows : List Arrow} : b ∈ insert a arrows ↔ b ∈ a :: arrows := by
  induction arrows with
  | nil => rfl
  | cons c arrows ih =>
    rw [insert]
    split
    · rfl
    · rw [List.mem_cons, ih]
      simp only [List.mem_cons]
      tauto

/-- Every arrow of a line comes from a mark. -/
theorem exists_note_of_mem_ofMarks {l : SourceLine} {marks : List Mark} {a : Arrow}
    (h : a ∈ ofMarks l marks) : ∃ m ∈ marks, a.note = m.note := by
  have hsort (arrows : List Arrow) : a ∈ arrows.foldr insert [] → a ∈ arrows := by
    induction arrows with
    | nil => exact id
    | cons b arrows ih =>
      intro hmem
      rw [List.foldr_cons, mem_insert] at hmem
      simp only [List.mem_cons] at hmem ⊢
      exact hmem.imp_right ih
  obtain ⟨m, hm, ha⟩ := List.mem_filterMap.1 (hsort _ h)
  exact ⟨m, hm, note_ofMark? ha⟩

end Arrow

namespace Row

variable {l : SourceLine}

theorem clean_glyphs {c : Char} (h : c ≠ escape) (arrows : List Arrow) (col : Nat) :
    ∀ p ∈ glyphs arrows col c, p.Clean := by
  intro p hp
  unfold glyphs at hp
  split at hp
  · rw [List.eq_of_mem_replicate hp, Piece.clean_inked]
    decide
  · rw [List.mem_singleton.1 hp, Piece.clean_inked]
    exact escapeFree_toString h

/-- The text of a line shows characters of the line, or spaces. -/
theorem clean_text (h : escape ∉ l.chars) (arrows : List Arrow) :
    ∀ p ∈ text l arrows, p.Clean := by
  intro p hp
  obtain ⟨⟨c, col⟩, hc, hp⟩ := List.mem_flatMap.1 hp
  have hchars : c ∈ l.chars := by
    have hshown : c ∈ (shown l).reverse := List.mem_reverse.2 (List.fst_mem_of_mem_zipIdx hc)
    rw [shown, List.reverse_reverse] at hshown
    exact List.mem_reverse.1 ((List.dropWhile_sublist _).mem hshown)
  exact clean_glyphs (fun heq => h (heq ▸ hchars)) arrows col p hp

/-- Neither piece of the stroke has an escape character in it. -/
structure Stroke.Clean (s : Stroke) : Prop where
  head : s.head.Clean
  tail : s.tail.Clean

theorem Stroke.clean_empty : Stroke.empty.Clean :=
  have hspace : EscapeFree " " := by decide
  ⟨hspace, hspace⟩

theorem Stroke.clean_inked {tint : Tint} {head tail : String} (hhead : EscapeFree head)
    (htail : EscapeFree tail) : (Stroke.inked tint head tail).Clean :=
  ⟨hhead, htail⟩

theorem Stroke.Clean.spread {s : Stroke} (h : s.Clean) (n : Nat) : ∀ p ∈ s.spread n, p.Clean := by
  intro p hp
  cases n with
  | zero => cases hp
  | succ n =>
    rcases List.mem_cons.1 hp with rfl | hp
    · exact h.head
    · rw [List.eq_of_mem_replicate hp]
      exact h.tail

theorem clean_strokes {draw : Nat → Stroke} (h : ∀ col, (draw col).Clean) (widths : Array Nat)
    (count : Nat) : ∀ p ∈ strokes widths count draw, p.Clean := by
  intro p hp
  obtain ⟨col, -, hp⟩ := List.mem_flatMap.1 hp
  exact (h col).spread _ p hp

theorem clean_stemStroke (arrows : List Arrow) (row col : Nat) :
    (stemStroke arrows row col).Clean := by
  unfold stemStroke
  split
  · exact Stroke.clean_inked (by decide) (by decide)
  · exact Stroke.clean_inked (by decide) (by decide)
  · exact Stroke.clean_inked (by decide) (by decide)
  · exact Stroke.clean_empty

theorem clean_turnStroke (arrows : List Arrow) (row : Nat) (a : Arrow) (col : Nat) :
    (turnStroke arrows row a col).Clean := by
  unfold turnStroke
  split
  · exact Stroke.clean_inked (by decide) (by decide)
  split
  · exact Stroke.clean_inked (by decide) (by decide)
  split
  · have htexts : EscapeFree "│" ∧ EscapeFree " " := by decide
    exact ⟨htexts.1, htexts.2⟩
  · exact Stroke.clean_empty

/-- Below a line stand the strokes of the arrows and what the arrows say. -/
theorem clean_drawing {arrows : List Arrow} (h : ∀ a ∈ arrows, EscapeFree a.note) :
    ∀ row ∈ drawing l arrows, ∀ p ∈ row, p.Clean := by
  intro pieces hpieces
  obtain ⟨⟨a, row⟩, ha, hpieces⟩ := List.mem_flatMap.1 hpieces
  have hnote : EscapeFree (" " ++ a.note) :=
    escapeFree_append.2 ⟨by decide, h a (List.fst_mem_of_mem_zipIdx ha)⟩
  simp only [arrowLines, List.mem_cons, List.not_mem_nil, or_false] at hpieces
  rcases hpieces with rfl | rfl
  · exact clean_strokes (clean_stemStroke arrows row) _ _
  · rw [List.forall_mem_append]
    refine ⟨clean_strokes (clean_turnStroke arrows row a) _ _, ?_⟩
    simpa using hnote

end Row

/-! ## Reports -/

namespace Report

theorem escapeFree_spaces (n : Nat) : EscapeFree (spaces n) := escapeFree_replicate (by decide) n

theorem clean_numberMargin (w line : Nat) : ∀ p ∈ numberMargin w line, p.Clean := by
  have hspace : EscapeFree " " := by decide
  have hbar : EscapeFree " │" := by decide
  simp [numberMargin, escapeFree_spaces, escapeFree_digits, hspace, hbar]

theorem clean_bareMargin (w : Nat) : ∀ p ∈ bareMargin w, p.Clean := by
  have hspace : EscapeFree " " := by decide
  have hbar : EscapeFree "│" := by decide
  simp [bareMargin, escapeFree_spaces, hspace, hbar]

theorem clean_upright (w : Nat) : ∀ p ∈ upright w, p.Clean := by
  have hbar : EscapeFree "│" := by decide
  simp [upright, escapeFree_spaces, hbar]

theorem escapeFree_location (lines : List SourceLine) (pos : Nat) :
    EscapeFree (location lines pos) := by
  have hcolon : EscapeFree ":" := by decide
  unfold location
  split
  · simp [escapeFree_digits, hcolon]
  · decide

theorem clean_topEdge {place : String} (h : EscapeFree place) (w : Nat) (isFirst : Bool) :
    ∀ p ∈ topEdge w isFirst place, p.Clean := by
  have hcorner : EscapeFree (if isFirst then "╭" else "├") := by cases isFirst <;> decide
  have hedge : EscapeFree "─" ∧ EscapeFree "[" ∧ EscapeFree " " ∧ EscapeFree "]" := by decide
  simp [topEdge, escapeFree_spaces, hcorner, hedge, h]

theorem clean_bottomEdge (w : Nat) : ∀ p ∈ bottomEdge w, p.Clean := by
  have hedge (n : Nat) : EscapeFree (String.ofList (List.replicate n '─')) :=
    escapeFree_replicate (by decide) n
  have hcorner : EscapeFree "╯" := by decide
  simp [bottomEdge, hedge, hcorner]

/-- The source lines of a section are shown with what is said about them. -/
theorem clean_bodyLines {marks : List Mark} {ls : List SourceLine}
    (hmarks : ∀ m ∈ marks, EscapeFree m.note) (hls : ∀ l ∈ ls, escape ∉ l.chars) (w line : Nat)
    (skipped : Bool) : ∀ row ∈ bodyLines w marks line skipped ls, ∀ p ∈ row, p.Clean := by
  induction ls generalizing line skipped with
  | nil => exact fun _ h => nomatch h
  | cons l ls ih =>
    have hl := hls l (.head _)
    have hnotes : ∀ a ∈ Arrow.ofMarks l marks, EscapeFree a.note := by
      intro a ha
      obtain ⟨m, hm, heq⟩ := Arrow.exists_note_of_mem_ofMarks ha
      exact heq ▸ hmarks m hm
    have hrest := ih fun l' hl' => hls l' (.tail _ hl')
    unfold bodyLines
    split
    · rw [List.forall_mem_append]
      refine ⟨?_, hrest _ _⟩
      cases skipped with
      | true => exact fun _ h => nomatch h
      | false => simpa using clean_bareMargin w
    · rw [List.cons_append, List.forall_mem_cons, List.forall_mem_append, List.forall_mem_append,
        List.forall_mem_map]
      refine ⟨⟨clean_numberMargin w line, Row.clean_text hl _⟩, ?_, hrest _ _⟩
      intro row hrow
      rw [List.forall_mem_append]
      exact ⟨clean_bareMargin w, Row.clean_drawing hnotes row hrow⟩

/-- The sections of a report. -/
theorem clean_sections {ls : List SourceLine} {ss : List Section} {place : String}
    (hls : ∀ l ∈ ls, escape ∉ l.chars) (hss : ∀ s ∈ ss, ∀ m ∈ s.marks, EscapeFree m.note)
    (hplace : EscapeFree place) (w : Nat) (isFirst : Bool) :
    ∀ row ∈ sections w ls place isFirst ss, ∀ p ∈ row, p.Clean := by
  induction ss generalizing isFirst with
  | nil => exact fun _ h => nomatch h
  | cons s ss ih =>
    have hbody : ∀ row ∈ body w ls s, ∀ p ∈ row, p.Clean :=
      clean_bodyLines (hss s (.head _))
        (fun l hl => hls l (List.mem_of_mem_take (List.mem_of_mem_drop hl))) w _ _
    have hedge : ∀ p ∈ (if ss.isEmpty then bottomEdge w else upright w), p.Clean := by
      split
      · exact clean_bottomEdge w
      · exact clean_upright w
    have hrest := ih (fun s' hs' => hss s' (.tail _ hs')) false
    simp only [sections, List.cons_append, List.forall_mem_cons, List.forall_mem_append]
    exact ⟨clean_topEdge hplace w isFirst, clean_upright w, hbody, hedge, hrest⟩

/-- The sections of a report have the marks of the diagnostic. -/
theorem mem_of_mem_ofAll {ls : List SourceLine} {marks : List Mark} {s : Section} {m : Mark}
    (hs : s ∈ Section.ofAll ls marks) (hm : m ∈ s.marks) : m ∈ marks := by
  obtain ⟨group, hgroup, rfl⟩ := List.mem_map.1 hs
  -- The marks are divided into sections, so put together again they are the same.
  have hall := List.mem_flatten.2 ⟨group, hgroup, hm⟩
  rw [List.flatten_splitBy] at hall
  exact List.mem_of_mem_filter hall

section

variable {name source : String}

/-- No piece of a report has an escape character in its text. -/
theorem clean_lines {d : Diagnostic} (hname : EscapeFree name) (hsource : EscapeFree source)
    (hd : d.EscapeFree) : ∀ row ∈ lines name source d, ∀ p ∈ row, p.Clean := by
  have hheader : ∀ p ∈ [Piece.inked .red "Error:", .plain (" " ++ d.header)], p.Clean := by
    have htexts : EscapeFree "Error:" ∧ EscapeFree " " := by decide
    simp [htexts, hd.header]
  have hplace (pos : Nat) :
      EscapeFree (name ++ ":" ++ location (SourceLine.ofText source) pos) := by
    have hcolon : EscapeFree ":" := by decide
    simp [hname, hcolon, escapeFree_location]
  rw [lines, List.forall_mem_cons]
  refine ⟨hheader, clean_sections ?_ ?_ (hplace _) _ _⟩
  · exact fun l hl hmem => hsource (SourceLine.mem_of_mem_ofText hl hmem)
  · exact fun s hs m hm => hd.marks m (mem_of_mem_ofAll hs hm)

/-- A coloured report decorates the plain one. -/
theorem decorates_render {d : Diagnostic} (hname : EscapeFree name) (hsource : EscapeFree source)
    (hd : d.EscapeFree) : Decorates (render true name source d) (render false name source d) :=
  Decorates.join fun row hrow => Piece.decorates_renderLine (clean_lines hname hsource hd row hrow)

/-- Without its colour sequences a coloured text of reports is the plain one, and there is one if
and only if there is the other. -/
theorem render?_decorates {ds : List Diagnostic} (hname : EscapeFree name)
    (hsource : EscapeFree source) (hds : ∀ d ∈ ds, d.EscapeFree) :
    (render? true name source ds).map withoutSequences = render? false name source ds ∧
      (render? true name source ds = none ↔ render? false name source ds = none) := by
  have hjoin := Decorates.join fun d hd => decorates_render hname hsource (hds d hd)
  unfold render?
  split
  · exact ⟨congrArg some hjoin.withoutSequences_eq, by simp⟩
  · simp

/-- Two reports: an open delimiter whose two places lie over each other, across a tab and a wide
character, and one whose places are on two lines, the lower one first. The colours do show. -/
theorem render?_decorates_overlapping :
    let source := "(+\t漢 1\n2"
    let nested : Diagnostic :=
      ⟨⟨1, 6⟩, .unclosed '(' ⟨2, 4⟩, some '1', [.char '+', .endOfInput], .conflicting⟩
    let upwards : Diagnostic := ⟨⟨7, 8⟩, .unclosed '(' ⟨0, 1⟩, some '2', [], .named "number"⟩
    (EscapeFree "notes" ∧ EscapeFree source ∧ ∀ d ∈ [nested, upwards], d.EscapeFree) ∧
      (render? true "notes" source [nested, upwards]).map withoutSequences =
        render? false "notes" source [nested, upwards] ∧
      render? true "notes" source [nested, upwards] ≠
        render? false "notes" source [nested, upwards] := by
  intro source nested upwards
  have hname : EscapeFree "notes" := by decide
  have hsource : EscapeFree source := by decide
  have hds : ∀ d ∈ [nested, upwards], d.EscapeFree := by decide
  exact ⟨⟨hname, hsource, hds⟩, (render?_decorates hname hsource hds).1, by decide +kernel⟩

end

end Report

end PrefixCalc
