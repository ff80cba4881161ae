import PrefixCalc.Proofs.ColonLine
import PrefixCalc.Proofs.Placement

/-!
# What the header of a report says

The header of a report names the character at the fault, or says that the input ended there. It fits
the place that the report points at (`Diagnostic.HeaderFits`) if it says so exactly where the input
does end, and names the character that stands there anywhere else.

A diagnostic without a character is headed as one about the end of the input. The grammar makes such
diagnostics also where a word after a colon is refused as a whole (`Grammar.RefusedWord`): an
identifier that is the word of no verb, or the word of a verb other than the last one if no program
can start behind it. These are the only lines whose header does not fit
(`Grammar.headerFits_iff_of_parse_error`): all others are refused at one place, by what stands there
(`Grammar.Blames`).
-/

namespace PrefixCalc

/-! ## Headers that fit -/

/-- The header speaks of the end of the input exactly if the diagnostic points there, and otherwise
names the one character that the diagnostic points at. -/
def Diagnostic.HeaderFits (text : List Char) (d : Diagnostic) : Prop :=
  (d.header = "Unexpected end of input" ↔ d.span = ⟨text.length, text.length⟩) ∧
  (d.found = none ↔ d.span = ⟨text.length, text.length⟩) ∧
  (d.span ≠ ⟨text.length, text.length⟩ → ∃ p, ∃ hp : p < text.length, d.span = ⟨p, p + 1⟩ ∧
    d.header = "Unexpected '" ++ (text.get ⟨p, hp⟩).toString ++ "'")

/-- No character is spelled like the end of the input. -/
theorem quoted_ne_endOfInput (x : Char) :
    "Unexpected '" ++ x.toString ++ "'" ≠ "Unexpected end of input" := by
  intro h
  have hchars := congrArg (fun text : String => text.toList[11]?) h
  simp at hchars

section
variable {text : List Char} {c : Cursor}

/-- The header of the refusal of a place fits. -/
theorem headerFits_refuseAs (hc : c.In text) (label : Label) (expected : List Expectation) :
    (c.refuseAs label expected).diagnostic.HeaderFits text := by
  obtain ⟨before, rfl, hpos⟩ := hc
  obtain ⟨p, rest⟩ := c
  dsimp only at hpos
  subst hpos
  cases rest with
  | nil =>
    have hspan : (Cursor.refuseAs ⟨before.length, []⟩ label expected).diagnostic.span =
        ⟨(before ++ []).length, (before ++ []).length⟩ := by
      simp [Cursor.refuseAs, Cursor.refuse]
    exact ⟨iff_of_true rfl hspan, iff_of_true rfl hspan, fun hne => absurd hspan hne⟩
  | cons x rest =>
    have hspan : (Cursor.refuseAs ⟨before.length, x :: rest⟩ label expected).diagnostic.span =
        ⟨before.length, before.length + 1⟩ := rfl
    have hne : (Cursor.refuseAs ⟨before.length, x :: rest⟩ label expected).diagnostic.span ≠
        ⟨(before ++ x :: rest).length, (before ++ x :: rest).length⟩ := by
      rw [hspan]
      intro h
      injection h with hstart hstop
      omega
    refine ⟨iff_of_false (quoted_ne_endOfInput x) hne, iff_of_false (Option.some_ne_none x) hne,
      fun _ => ?_⟩
    have hlt : before.length < (before ++ x :: rest).length := by simp
    refine ⟨before.length, hlt, hspan, ?_⟩
    have hget : (before ++ x :: rest).get ⟨before.length, hlt⟩ = x := by simp
    rw [hget]
    rfl

/-- The header of the refusal of a word does not fit. -/
theorem not_headerFits_refuseWord {word : List Char} (hword : Lexeme.IsIdentifier word) (p : Nat)
    (label : Label) (expected : List Expectation) :
    ¬ (Lexeme.refuseWord p word label expected).diagnostic.HeaderFits text := by
  rintro ⟨hheader, -⟩
  have hspan : (⟨p, p + word.length⟩ : Span) = ⟨text.length, text.length⟩ := hheader.1 rfl
  cases word with
  | nil => exact hword
  | cons x xs =>
    injection hspan with hstart hstop
    rw [List.length_cons] at hstop
    omega

end

namespace Grammar

open Stage (Fails Stuck)

/-! ## Words that are refused -/

/-- The word after the colon of a line is refused as a whole: it is the word of no verb, or that of
a verb other than the last one and no program can start behind it. -/
structure RefusedWord (line word rest : List Char) : Prop where
  line_eq : line = ':' :: (word ++ rest)
  isIdentifier : Lexeme.IsIdentifier word
  ends : rest.head?.any Lexeme.isIdentRest = false
  refused : (∀ verb : Verb, verb.name.toList ≠ word) ∨ word ≠ Verb.tree.name.toList ∧
    rest.head?.any (fun x => isBlank x || Operator.symbols.contains x) = false

/-- No program can start where neither a blank nor an operator symbol stands. -/
theorem stuck_start_iff {rest : List Char} : Stuck .start rest ↔
    rest.head?.any (fun x => isBlank x || Operator.symbols.contains x) = false := by
  cases rest with
  | nil => exact iff_of_true nofun rfl
  | cons x rest =>
    show Stage.step .start x = none ↔ (isBlank x || Operator.symbols.contains x) = false
    cases hblank : isBlank x with
    | true => simp [Stage.step, Stage.start, hblank]
    | false => simp [Stage.step, Stage.start, hblank]

/-- A line has one word after its colon. -/
theorem RefusedWord.unique {word rest word' rest' : List Char}
    (h : RefusedWord (':' :: (word ++ rest)) word' rest') (hword : Lexeme.IsIdentifier word)
    (hrest : rest.head?.any Lexeme.isIdentRest = false) : word' = word ∧ rest' = rest :=
  Lexeme.identifier_unique h.isIdentifier h.ends hword hrest (List.cons.inj h.line_eq).2.symm

/-- What a diagnostic of a line is about: a place that is refused by what stands there, in a line
without a word that is refused as a whole; or such a word. -/
inductive Blames (line : List Char) (d : Diagnostic) : Prop
  | place {c : Cursor} {label : Label} {expected : List Expectation} :
      (∀ word rest, ¬ RefusedWord line word rest) → c.In line →
      d = (c.refuseAs label expected).diagnostic → Blames line d
  | word {word rest : List Char} {label : Label} {expected : List Expectation} :
      RefusedWord line word rest → d = (Lexeme.refuseWord 1 word label expected).diagnostic →
      Blames line d

section
variable {cs s word : List Char} {why : Failure} {verb : Verb}

/-- Where stages get stuck, a place is refused. -/
theorem Blames.of_fails {c : Cursor} (hnone : ∀ word rest, ¬ RefusedWord cs word rest)
    (hc : c.In cs) (h : Fails .start c why) : Blames cs why.diagnostic := by
  obtain ⟨s', c', ⟨u, hrest, hpos, -⟩, -, rfl⟩ := h
  have hc' := hc.advance hrest
  rw [← hpos] at hc'
  exact .place hnone hc' rfl

/-- A line without a colon is refused at a place. -/
theorem blames_of_no_colon (hcolon : cs.head? ≠ some ':') (h : line ⟨0, cs⟩ = .fail why) :
    Blames cs why.diagnostic := by
  have hnone : ∀ word rest, ¬ RefusedWord cs word rest := by
    rintro word rest ⟨rfl, -⟩
    exact hcolon rfl
  have hfront : Cursor.In cs ⟨0, cs⟩ := ⟨[], rfl, rfl⟩
  rcases line_outcome (c := ⟨0, cs⟩) hcolon with
    ⟨cmd, alt, next, hline, -⟩ | ⟨hline, -⟩ | ⟨why', hline, -, hfails⟩
  · cases hline.symm.trans h
  · cases hline.symm.trans h
    exact .place hnone hfront rfl
  · cases hline.symm.trans h
    exact .of_fails hnone hfront hfails

/-- Without an identifier after its colon, a line is refused at the place after the colon. -/
theorem blames_of_nameless (hs : s.head?.any Lexeme.isIdentStart = false)
    (h : line ⟨0, ':' :: s⟩ = .fail why) : Blames (':' :: s) why.diagnostic := by
  have hnone : ∀ word rest, ¬ RefusedWord (':' :: s) word rest := by
    rintro word rest ⟨heq, hword, -⟩
    cases heq
    cases word with
    | nil => exact hword
    | cons x xs =>
      have hx : Lexeme.isIdentStart x = false := by simpa using hs
      cases hx.symm.trans hword.1
  cases (line_colon_nameless hs 0).symm.trans h
  exact .place hnone ⟨[':'], rfl, rfl⟩ rfl

/-- Behind the word of a verb a line is refused at a place, unless no program can start there and
the verb is not the last one. -/
theorem blames_of_verb (hs : s.head?.any Lexeme.isIdentRest = false)
    (h : line ⟨0, ':' :: (verb.name.toList ++ s)⟩ = .fail why) :
    Blames (':' :: (verb.name.toList ++ s)) why.diagnostic := by
  have hname := Lexeme.isIdentifier_name verb
  have hafter : Cursor.In (':' :: (verb.name.toList ++ s)) ⟨0 + 1 + verb.name.toList.length, s⟩ :=
    ⟨':' :: verb.name.toList, rfl, by simp; omega⟩
  have hnone : verb = .tree ∨ ¬ Stuck .start s →
      ∀ word rest, ¬ RefusedWord (':' :: (verb.name.toList ++ s)) word rest := by
    intro hcase word rest hrefused
    obtain ⟨rfl, rfl⟩ := hrefused.unique hname hs
    rcases hrefused.refused with hunknown | ⟨hne, hstuck⟩
    · exact hunknown verb rfl
    · rcases hcase with rfl | hstart
      · exact hne rfl
      · exact hstart (stuck_start_iff.2 hstuck)
  by_cases hstuck : Stuck .start s
  · have hline := line_colon_stuck verb hs hstuck 0
    by_cases htree : verb = .tree
    · rw [if_pos htree] at hline
      cases hline.symm.trans h
      exact .place (hnone (.inl htree)) hafter rfl
    · rw [if_neg htree] at hline
      cases hline.symm.trans h
      refine .word ⟨rfl, hname, hs, .inr ⟨?_, stuck_start_iff.1 hstuck⟩⟩ rfl
      exact fun heq => htree (Lexeme.name_injective (String.toList_injective heq))
  · rcases line_colon_outcome verb hs hstuck 0 with
      ⟨cmd, alt, next, hline, -⟩ | ⟨why', hline, hfails⟩
    · cases hline.symm.trans h
    · cases hline.symm.trans h
      exact .of_fails (hnone (.inr hstuck)) hafter hfails

/-- A line that fails is refused at a place or for a word. -/
theorem blames_of_line_fail (h : line ⟨0, cs⟩ = .fail why) : Blames cs why.diagnostic := by
  by_cases hcolon : cs.head? = some ':'
  · obtain ⟨s, rfl⟩ := List.head?_eq_some_iff.1 hcolon
    rcases Lexeme.identifier_cases s with ⟨word, rest, rfl, hword, hrest⟩ | hs
    · by_cases hverb : ∃ verb : Verb, verb.name.toList = word
      · obtain ⟨verb, rfl⟩ := hverb
        exact blames_of_verb hrest h
      · have hunknown : ∀ verb : Verb, verb.name.toList ≠ word :=
          fun verb heq => hverb ⟨verb, heq⟩
        cases (line_colon_unknown hword hrest hunknown 0).symm.trans h
        exact .word ⟨rfl, hword, hrest, .inl hunknown⟩ rfl
    · exact blames_of_nameless hs h
  · exact blames_of_no_colon hcolon h

end

/-- The header of a rejected line fits the place that is pointed at if and only if no word of the
line is refused as a whole. The header over such a word speaks of the end of the input. -/
theorem headerFits_iff_of_parse_error {line : String} {d : Diagnostic}
    (h : parse line = .error d) :
    (d.HeaderFits line.toList ↔ ∀ word rest, ¬ RefusedWord line.toList word rest) ∧
    ∀ word rest, RefusedWord line.toList word rest →
      d.span = ⟨1, 1 + word.length⟩ ∧ d.header = "Unexpected end of input" := by
  have hblames : Blames line.toList d := by
    rw [parse, Rule.read] at h
    split at h
    · cases h
    · next why hwhy =>
      cases h
      exact blames_of_line_fail hwhy
  cases hblames with
  | place hnone hc hd =>
    subst hd
    refine ⟨iff_of_true (headerFits_refuseAs hc _ _) hnone, ?_⟩
    intro word rest hrefused
    exact absurd hrefused (hnone word rest)
  | @word word rest _ _ hrefused hd =>
    subst hd
    refine ⟨iff_of_false (not_headerFits_refuseWord hrefused.isIdentifier 1 _ _)
      fun hnone => hnone word rest hrefused, ?_⟩
    intro word' rest' hrefused'
    rw [hrefused.line_eq] at hrefused'
    obtain ⟨rfl, rfl⟩ := hrefused'.unique hrefused.isIdentifier hrefused.ends
    exact ⟨rfl, rfl⟩

/-- A word that no verb has, and the word of a verb with no blank or operator behind it: neither
line ends where its header says it does. -/
theorem not_headerFits_nope_leaves :
    (∃ d, parse ":nope + 1 2" = .error d ∧ d.span = ⟨1, 5⟩ ∧
      d.header = "Unexpected end of input" ∧ ¬ d.HeaderFits ":nope + 1 2".toList) ∧
    ∃ d, parse ":leaves(+ 1 2)" = .error d ∧ d.span = ⟨1, 7⟩ ∧
      d.header = "Unexpected end of input" ∧ ¬ d.HeaderFits ":leaves(+ 1 2)".toList := by
  refine ⟨⟨_, rfl, rfl, rfl, ?_⟩, ⟨_, rfl, rfl, rfl, ?_⟩⟩
  · exact fun hfits => absurd (hfits.1.1 rfl) (by decide)
  · exact fun hfits => absurd (hfits.1.1 rfl) (by decide)

/-- The same fault behind the word of the last verb is named. -/
theorem headerFits_tree_paren :
    parse ":tree(+ 1 2)" = .error ⟨⟨5, 6⟩, .unexpected, some '(',
      Operator.symbols.map .char, .named "operator"⟩ ∧
    Diagnostic.HeaderFits ":tree(+ 1 2)".toList ⟨⟨5, 6⟩, .unexpected, some '(',
      Operator.symbols.map .char, .named "operator"⟩ := by
  have h : parse ":tree(+ 1 2)" = .error ⟨⟨5, 6⟩, .unexpected, some '(',
      Operator.symbols.map .char, .named "operator"⟩ := rfl
  refine ⟨h, (headerFits_iff_of_parse_error h).1.2 ?_⟩
  intro word rest hrefused
  have hrefused' : RefusedWord (':' :: ("tree".toList ++ "(+ 1 2)".toList)) word rest := hrefused
  obtain ⟨rfl, rfl⟩ := hrefused'.unique (Lexeme.isIdentifier_name .tree) (by decide)
  rcases hrefused.refused with hunknown | ⟨hne, -⟩
  · exact hunknown .tree rfl
  · exact hne rfl

end Grammar

end PrefixCalc
