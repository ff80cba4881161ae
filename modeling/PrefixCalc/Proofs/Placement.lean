import PrefixCalc.Proofs.Lexeme
import PrefixCalc.Report

/-!
# What diagnostics point at

Every diagnostic of the grammar points into the text that was read (`Diagnostic.PointsInto`): at one
character of it or at its end, or, where the word of a verb was looked for, at an identifier in it.
That holds of every failure on the way, also of those that are given up, since ranking and merging
failures keeps the place of one of them. So it is proved rule by rule: a rule that starts at a place
of the text ends at one, and all its failures point into the text (`Rule.Points`).

In particular no span of a diagnostic runs backwards, so its report can be drawn
(`Grammar.isDrawable_of_parse_error`).
-/

namespace PrefixCalc

/-! ## Places of a text -/

/-- The place is one of the text. -/
def Cursor.In (text : List Char) (c : Cursor) : Prop :=
  ∃ before, text = before ++ c.rest ∧ c.pos = before.length

/-- The diagnostic points at the character of the text, or its end, at some place, or at an
identifier that stands there. -/
def Diagnostic.PointsInto (text : List Char) (d : Diagnostic) : Prop :=
  d.reason = .unexpected ∧ ∃ c : Cursor, c.In text ∧
    (d.span = ⟨c.pos, c.pos + (c.rest.take 1).length⟩ ∧ d.found = c.rest.head? ∨
      ∃ word rest, c.rest = word ++ rest ∧ Lexeme.IsIdentifier word ∧
        d.span = ⟨c.pos, c.pos + word.length⟩ ∧ d.found = none)

/-- A diagnostic of something unexpected has one mark. -/
theorem Diagnostic.marks_of_unexpected {d : Diagnostic} (h : d.reason = .unexpected) :
    d.marks = [⟨d.span, .red, d.hint⟩] := by
  rw [Diagnostic.marks, h]

section
variable {text : List Char} {c : Cursor}

/-- The front of a text is a place of it. -/
theorem Cursor.in_ofText (text : String) : (Cursor.ofText text).In text.toList :=
  ⟨[], rfl, rfl⟩

/-- Going past characters leads to a place of the text. -/
theorem Cursor.In.advance (hc : c.In text) {cs rest : List Char} (h : c.rest = cs ++ rest) :
    Cursor.In text ⟨c.pos + cs.length, rest⟩ := by
  obtain ⟨before, htext, hpos⟩ := hc
  refine ⟨before ++ cs, ?_, ?_⟩
  · rw [htext, h, List.append_assoc]
  · rw [hpos, List.length_append]

/-- Skipping blanks leads to a place of the text. -/
theorem Cursor.In.skipBlanks (hc : c.In text) : c.skipBlanks.In text :=
  hc.advance List.takeWhile_append_dropWhile.symm

/-- A refusal points at what stands there. -/
theorem Cursor.In.refuse (hc : c.In text) (expected : List Expectation) :
    (c.refuse expected).diagnostic.PointsInto text :=
  ⟨rfl, c, hc, .inl ⟨rfl, rfl⟩⟩

namespace Failure

variable {a b : Failure} {alt alt' : Option Failure}

/-- The further of two failures points where one of them does. -/
theorem pointsInto_further (ha : a.diagnostic.PointsInto text) (hb : b.diagnostic.PointsInto text) :
    (a.further b).diagnostic.PointsInto text := by
  unfold further
  split
  · exact hb
  · split
    · exact ha
    · exact ha

/-- There is nothing to show of an absent failure. -/
theorem pointsInto_none : ∀ f ∈ (none : Option Failure), f.diagnostic.PointsInto text := by
  intro f hf
  cases hf

/-- The furthest of failures that may be absent points where one of them does. -/
theorem pointsInto_furthest? (h : ∀ f ∈ alt, f.diagnostic.PointsInto text)
    (h' : ∀ f ∈ alt', f.diagnostic.PointsInto text) :
    ∀ f ∈ furthest? alt alt', f.diagnostic.PointsInto text := by
  intro f hf
  cases alt with
  | none => exact h' f hf
  | some a =>
    cases alt' with
    | none => exact h f hf
    | some b =>
      cases hf
      exact pointsInto_further (h' b rfl) (h a rfl)

/-- A name changes nothing about where a failure points. -/
theorem pointsInto_named (ha : a.diagnostic.PointsInto text) (name : String) :
    (a.named name).diagnostic.PointsInto text := ha

end Failure

end

/-! ## Rules -/

/-- The place after a success is one of the text, and every failure points into it. -/
def Reply.Points {α : Type} (text : List Char) : Reply α → Prop
  | .ok _ alt next => next.In text ∧ ∀ f ∈ alt, f.diagnostic.PointsInto text
  | .fail why => why.diagnostic.PointsInto text

namespace Rule

/-- From each place of the text, the rule leads to places of it and fails with diagnostics that
point into it. -/
def Points {α : Type} (text : List Char) (r : Rule α) : Prop := ∀ c, c.In text → (r c).Points text

namespace Points

variable {α β : Type} {text : List Char} {r r' : Rule α} {s : Rule β}

theorem token (accept : Char → Bool) (expected : List Expectation) :
    Points text (Rule.token accept expected) := by
  rintro ⟨p, cs⟩ hc
  cases cs with
  | nil => exact hc.refuse expected
  | cons x xs =>
    have hstep : Cursor.In text ⟨p + 1, xs⟩ := hc.advance (List.singleton_append (x := x)).symm
    by_cases hx : accept x = true
    · have htoken : Rule.token accept expected ⟨p, x :: xs⟩ = .ok x none ⟨p + 1, xs⟩ := if_pos hx
      rw [htoken]
      exact ⟨hstep, Failure.pointsInto_none⟩
    · rw [token_fail (by simpa using hx)]
      exact hc.refuse expected

theorem endOfInput : Points text Rule.endOfInput := by
  rintro ⟨p, cs⟩ hc
  cases cs with
  | nil => exact ⟨hc, Failure.pointsInto_none⟩
  | cons x xs => exact hc.refuse [.endOfInput]

theorem map (hr : r.Points text) (f : α → β) : (r.map f).Points text := by
  intro c hc
  have h := hr c hc
  rw [Rule.map]
  cases hrc : r c with
  | ok a alt next => rw [hrc] at h; exact h
  | fail why => rw [hrc] at h; exact h

theorem andThen (hr : r.Points text) (hs : s.Points text) : (r.andThen s).Points text := by
  intro c hc
  have h := hr c hc
  cases hrc : r c with
  | fail why =>
    rw [hrc] at h
    rw [andThen_fail hrc]
    exact h
  | ok a alt mid =>
    rw [hrc] at h
    have h' := hs mid h.1
    cases hsc : s mid with
    | ok b alt' next =>
      rw [hsc] at h'
      rw [andThen_ok_ok hrc hsc]
      exact ⟨h'.1, Failure.pointsInto_furthest? h.2 h'.2⟩
    | fail why =>
      rw [hsc] at h'
      cases alt with
      | none =>
        rw [andThen_ok_fail hrc hsc rfl]
        exact h'
      | some given =>
        rw [andThen_ok_fail hrc hsc rfl]
        exact Failure.pointsInto_further h' (h.2 given rfl)

theorem keepRight (hr : r.Points text) (hs : s.Points text) : (r.keepRight s).Points text :=
  (hr.andThen hs).map Prod.snd

theorem keepLeft (hr : r.Points text) (hs : s.Points text) : (r.keepLeft s).Points text :=
  (hr.andThen hs).map Prod.fst

theorem optional (hr : r.Points text) : r.optional.Points text := by
  intro c hc
  have h := hr c hc
  rw [Rule.optional]
  cases hrc : r c with
  | ok a alt next => rw [hrc] at h; exact h
  | fail why =>
    rw [hrc] at h
    exact ⟨hc, fun f hf => by cases hf; exact h⟩

theorem orElse (hr : r.Points text) (hr' : r'.Points text) : (r.orElse r').Points text := by
  intro c hc
  have h := hr c hc
  have h' := hr' c hc
  rw [Rule.orElse]
  cases hrc : r c with
  | ok a alt next => rw [hrc] at h; exact h
  | fail why =>
    rw [hrc] at h
    cases hrc' : r' c with
    | ok a alt next => rw [hrc'] at h'; exact h'
    | fail why' =>
      rw [hrc'] at h'
      exact Failure.pointsInto_further h h'

theorem choiceAfter {rs : List (Rule α)} (hrs : ∀ r ∈ rs, r.Points text) {c : Cursor}
    (hc : c.In text) {seen : Option Failure} (hseen : ∀ f ∈ seen, f.diagnostic.PointsInto text) :
    (Rule.choiceAfter seen rs c).Points text := by
  induction rs generalizing seen with
  | nil =>
    cases seen with
    | none => exact hc.refuse []
    | some f => exact hseen f rfl
  | cons r rs ih =>
    have h := hrs r (.head _) c hc
    cases hrc : r c with
    | ok a alt next =>
      rw [hrc] at h
      rw [choiceAfter_ok hrc]
      exact h
    | fail why =>
      rw [hrc] at h
      rw [choiceAfter_fail hrc]
      refine ih (fun r' hr' => hrs r' (.tail _ hr')) (Failure.pointsInto_furthest? hseen ?_)
      intro f hf
      cases hf
      exact h

theorem choice {rs : List (Rule α)} (hrs : ∀ r ∈ rs, r.Points text) :
    (Rule.choice rs).Points text :=
  fun _ hc => choiceAfter hrs hc Failure.pointsInto_none

theorem named (hr : r.Points text) (name : String) : (r.named name).Points text := by
  intro c hc
  have h := hr c hc
  rw [Rule.named]
  cases hrc : r c with
  | ok a alt next =>
    rw [hrc] at h
    refine ⟨h.1, fun f hf => ?_⟩
    obtain ⟨g, hg, rfl⟩ := Option.map_eq_some_iff.1 hf
    exact Failure.pointsInto_named (h.2 g hg) name
  | fail why =>
    rw [hrc] at h
    exact Failure.pointsInto_named h name

theorem spaced (hr : r.Points text) : r.spaced.Points text := by
  intro c hc
  have h := hr c.skipBlanks hc.skipBlanks
  rw [Rule.spaced]
  cases hrc : r c.skipBlanks with
  | ok a alt next =>
    rw [hrc] at h
    exact ⟨h.1.skipBlanks, h.2⟩
  | fail why => rw [hrc] at h; exact h

theorem manyUpTo (hr : r.Points text) (n : Nat) {alt : Option Failure} {c : Cursor}
    (hc : c.In text) (halt : ∀ f ∈ alt, f.diagnostic.PointsInto text) :
    (Rule.manyUpTo r n alt c).2.2.In text ∧
      ∀ f ∈ (Rule.manyUpTo r n alt c).2.1, f.diagnostic.PointsInto text := by
  induction n generalizing alt c with
  | zero => exact ⟨hc, halt⟩
  | succ n ih =>
    have h := hr c hc
    cases hrc : r c with
    | fail why =>
      rw [hrc] at h
      simp only [Rule.manyUpTo, hrc]
      refine ⟨hc, Failure.pointsInto_furthest? halt fun f hf => ?_⟩
      cases hf
      exact h
    | ok a alt' next =>
      rw [hrc] at h
      simp only [Rule.manyUpTo, hrc]
      exact ih h.1 (Failure.pointsInto_furthest? halt h.2)

theorem many (hr : r.Points text) : (Rule.many r).Points text :=
  fun c hc => hr.manyUpTo (c.rest.length + 1) hc Failure.pointsInto_none

theorem many1 (hr : r.Points text) : (Rule.many1 r).Points text := by
  intro c hc
  have h := hr c hc
  rw [Rule.many1]
  cases hrc : r c with
  | fail why => rw [hrc] at h; exact h
  | ok a alt next =>
    rw [hrc] at h
    exact hr.manyUpTo (next.rest.length + 1) h.1 h.2

/-- A rule that is put into itself points into the text if it does so whenever what is put in does.
-/
theorem recursive {f : Rule α → Rule α} (hf : ∀ r : Rule α, r.Points text → (f r).Points text) :
    (Rule.recursive f).Points text := by
  have hunroll : ∀ n, (Rule.unroll f n).Points text := by
    intro n
    induction n with
    | zero => exact fun c hc => hc.refuse []
    | succ n ih => exact hf _ ih
  exact fun c hc => hunroll _ c hc

end Points

end Rule

/-! ## The grammar -/

namespace Lexeme

variable {text : List Char}

/-- Where another identifier stands, the failure of a keyword points at all of it. -/
theorem points_keyword (word : String) : (keyword word).Points text := by
  rintro ⟨p, cs⟩ hc
  rcases identifier_cases cs with ⟨name, rest, rfl, hname, hrest⟩ | hcs
  · have hnext : Cursor.In text ⟨p + name.length, rest⟩ := hc.advance rfl
    by_cases heq : word.toList = name
    · subst heq
      rw [keyword_ok hname hrest]
      exact ⟨hnext, fun f hf => by cases hf; exact hnext.refuse []⟩
    · rw [keyword_fail hname hrest heq]
      exact ⟨rfl, ⟨p, name ++ rest⟩, hc, .inr ⟨name, rest, rfl, hname, rfl, rfl⟩⟩
  · rw [keyword_fail_nameless hcs]
    exact hc.refuse []

theorem points_signedDigits : signedDigits.Points text :=
  ((Rule.Points.token _ _).optional.andThen (Rule.Points.token _ _).many1).map _

end Lexeme

namespace Grammar

variable {text : List Char}

theorem points_number : number.Points text := (Lexeme.points_signedDigits.map _).named _

theorem points_operator : operator.Points text := ((Rule.Points.token _ _).map _).named _

theorem points_application (form : Form) {r : Rule Term} (hr : r.Points text) :
    (application form r).Points text :=
  ((points_operator.andThen hr.spaced).andThen hr.spaced.many).map _

theorem points_group {r : Rule Term} (hr : r.Points text) : (group r).Points text :=
  ((Rule.Points.token _ _).keepRight (points_application .grouped hr).spaced).keepLeft
    (Rule.Points.token _ _)

theorem points_program : program.Points text :=
  (points_application .bare
    (Rule.Points.recursive fun _ hr => points_number.orElse (points_group hr))).spaced

theorem points_request (verb : Verb) : (request verb).Points text :=
  (((Rule.Points.token _ _).andThen (Lexeme.points_keyword verb.name)).keepRight
    points_program).map _

/-- Lines are read from places of the text to places of it, with diagnostics that point into it. -/
theorem points_line : line.Points text := by
  refine (Rule.Points.choice fun r hr => ?_).keepLeft .endOfInput
  rcases List.mem_append.1 hr with hr | hr
  · obtain ⟨verb, -, rfl⟩ := List.mem_map.1 hr
    exact points_request verb
  · cases List.mem_singleton.1 hr
    exact points_program.map _

/-- The diagnostic of a rejected line points into the line. -/
theorem pointsInto_of_parse_error {line : String} {d : Diagnostic} (h : parse line = .error d) :
    d.PointsInto line.toList := by
  have hline := points_line (Cursor.ofText line) (Cursor.in_ofText line)
  rw [parse, Rule.read] at h
  split at h
  · cases h
  · next why hwhy =>
    cases h
    rw [hwhy] at hline
    exact hline

/-- The report of a rejected line can be drawn: its one mark does not run backwards. -/
theorem isDrawable_of_parse_error {line : String} {d : Diagnostic} (h : parse line = .error d) :
    Report.isDrawable d = true := by
  obtain ⟨hreason, c, -, hspan⟩ := pointsInto_of_parse_error h
  have hle : d.span.start ≤ d.span.stop := by
    rcases hspan with ⟨hspan, -⟩ | ⟨word, rest, -, -, hspan, -⟩
    · rw [hspan]; exact Nat.le_add_right _ _
    · rw [hspan]; exact Nat.le_add_right _ _
  rw [Report.isDrawable, Diagnostic.marks_of_unexpected hreason]
  simpa using hle

end Grammar

end PrefixCalc
