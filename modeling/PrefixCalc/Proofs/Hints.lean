import PrefixCalc.Proofs.Offers
import PrefixCalc.Report

/-!
# What hints list

A diagnostic keeps its expectations as a list that stands for a set, and nothing says in which order
the set is gone through. Its hint sorts the texts of the expectations, not the expectations. The two
orders agree (`Expectation.text_lt_text`): every quoted character starts with the same quote, so the
character behind it decides, and a quote comes before the first letter of "end of input". Since an
ascending list is determined by its members, the sorted texts are the texts of
`Diagnostic.expectations` (`Diagnostic.ofTexts_map_text`), in which the characters ascend by code
point and the end of the input is last (`Expectation.exists_chars`).

A report takes nothing but the hint from the expectations, so it does not show in which order the
set was gone through either (`Report.render?_of_reorders`).
-/

namespace PrefixCalc

/-! ## The order of expectations -/

namespace Expectation

/-- Only an equal expectation is neither before nor after another one. -/
theorem eq_of_not_before (a b : Expectation) (hab : a.before b = false)
    (hba : b.before a = false) : a = b := by
  cases a with
  | char x =>
    cases b with
    | char y =>
      have hyx : y ≤ x := Char.not_lt.1 (of_decide_eq_false hab)
      have hxy : x ≤ y := Char.not_lt.1 (of_decide_eq_false hba)
      rw [Char.le_antisymm hxy hyx]
    | endOfInput => cases hab
  | endOfInput =>
    cases b with
    | char y => cases hba
    | endOfInput => rfl

theorem before_trans (a b c : Expectation) (hab : a.before b) (hbc : b.before c) :
    a.before c := by
  cases a with
  | char x =>
    cases b with
    | char y =>
      cases c with
      | char z =>
        exact decide_eq_true (Char.lt_trans (of_decide_eq_true hab) (of_decide_eq_true hbc))
      | endOfInput => rfl
    | endOfInput => cases hbc
  | endOfInput => cases hab

/-- The texts of expectations are in the order of the expectations. -/
theorem text_lt_text {a b : Expectation} (h : a.before b) : a.text < b.text := by
  rw [String.lt_iff]
  cases a with
  | char x =>
    cases b with
    | char y =>
      have hxy : x < y := of_decide_eq_true h
      simp [text, List.cons_lt_cons_iff, hxy]
    | endOfInput => simp [text, List.cons_lt_cons_iff]
  | endOfInput => cases h

/-- Ascending expectations are characters that ascend by code point and then, if it is among them,
the end of the input. -/
theorem exists_chars {es : List Expectation} (h : es.Pairwise (before · ·)) :
    ∃ chars : List Char, chars.Pairwise (· < ·) ∧
      es = chars.map char ++ if endOfInput ∈ es then [endOfInput] else [] := by
  induction es with
  | nil => exact ⟨[], .nil, rfl⟩
  | cons e es ih =>
    obtain ⟨hfirst, hes⟩ := List.pairwise_cons.1 h
    cases e with
    | char c =>
      obtain ⟨chars, hchars, heq⟩ := ih hes
      refine ⟨c :: chars, List.pairwise_cons.2 ⟨fun x hx => ?_, hchars⟩, ?_⟩
      · have hmem : char x ∈ es := by
          rw [heq]
          exact List.mem_append_left _ (List.mem_map_of_mem hx)
        exact of_decide_eq_true (hfirst (char x) hmem)
      · simpa using heq
    | endOfInput =>
      -- Nothing comes after the end of the input.
      have hnil : es = [] := List.eq_nil_iff_forall_not_mem.2 fun e he => nomatch hfirst e he
      exact ⟨[], .nil, by simp [hnil]⟩

end Expectation

/-! ## Hints -/

namespace Diagnostic

/-- Two diagnostics that differ at most in the order in which they go through the set of what is
expected. -/
def Reorders (d d' : Diagnostic) : Prop :=
  ∃ order : List Expectation, (∀ e, e ∈ order ↔ e ∈ d.expected) ∧ d' = { d with expected := order }

section
variable {d d' : Diagnostic}

theorem mem_expectations {e : Expectation} : e ∈ d.expectations ↔ e ∈ d.expected :=
  Ascending.mem_ofList Expectation.eq_of_not_before

theorem pairwise_expectations (d : Diagnostic) :
    d.expectations.Pairwise (Expectation.before · ·) :=
  Ascending.pairwise_ofList Expectation.eq_of_not_before Expectation.before_trans d.expected

theorem expectations_eq_nil_iff : d.expectations = [] ↔ d.expected = [] := by
  simp only [List.eq_nil_iff_forall_not_mem, mem_expectations]

/-- Sorting the texts of the expectations gives the texts of the sorted expectations. -/
theorem ofTexts_map_text (d : Diagnostic) :
    Ascending.ofTexts (d.expected.map Expectation.text) =
      d.expectations.map Expectation.text := by
  have htexts : (d.expectations.map Expectation.text).Pairwise (· < ·) :=
    List.pairwise_map.2 (d.pairwise_expectations.imp Expectation.text_lt_text)
  apply List.Pairwise.eq_of_mem_iff (Ascending.pairwise_ofTexts _) htexts
  intro text
  simp only [Ascending.mem_ofTexts, List.mem_map, mem_expectations]

/-- Without a name to show, the hint lists the expectations in their order. -/
theorem hint_of_unnamed (hname : d.label.name? = none) :
    d.hint = if d.expected = [] then "not expected here"
      else "expected " ++ ", ".intercalate (d.expectations.map Expectation.text) := by
  rw [hint, hname, ofTexts_map_text]
  cases hall : d.expectations with
  | nil =>
    rw [if_pos (expectations_eq_nil_iff.1 hall)]
    rfl
  | cons e es =>
    have hne : d.expected ≠ [] := by
      rw [ne_eq, ← expectations_eq_nil_iff, hall]
      exact List.cons_ne_nil e es
    rw [if_neg hne]
    rfl

/-- The texts of the expectations: the quoted characters, ascending by code point, and behind them
that of the end of the input. -/
theorem exists_chars_of_expectations (d : Diagnostic) :
    ∃ chars : List Char, chars.Pairwise (· < ·) ∧ (∀ c, c ∈ chars ↔ .char c ∈ d.expected) ∧
      d.expectations.map Expectation.text = chars.map (fun c => "'" ++ c.toString ++ "'") ++
        if .endOfInput ∈ d.expected then ["end of input"] else [] := by
  obtain ⟨chars, hchars, heq⟩ := Expectation.exists_chars d.pairwise_expectations
  simp only [mem_expectations] at heq
  refine ⟨chars, hchars, fun c => ?_, ?_⟩
  · rw [← mem_expectations, heq]
    split <;> simp
  · rw [heq, List.map_append, List.map_map]
    congr 1
    split <;> rfl

/-- A hint that lists something is not the one that lists nothing. -/
theorem hint_eq_notExpected_iff (hname : d.label.name? = none) :
    d.hint = "not expected here" ↔ d.expected = [] := by
  rw [hint_of_unnamed hname]
  split
  · next hnil => exact iff_of_true rfl hnil
  · next hne =>
    refine iff_of_false (fun h => ?_) hne
    have hfirst := congrArg (fun text : String => text.toList[0]?) h
    simp at hfirst

/-- The hint is the same in whatever order the set of what is expected is gone through. -/
theorem Reorders.hint_eq (h : d.Reorders d') : d'.hint = d.hint := by
  obtain ⟨order, hsame, rfl⟩ := h
  have htexts : Ascending.ofTexts (order.map Expectation.text) =
      Ascending.ofTexts (d.expected.map Expectation.text) := by
    apply Ascending.ofTexts_congr
    intro text
    simp only [List.mem_map, hsame]
  rw [hint, hint, htexts]

theorem Reorders.marks_eq (h : d.Reorders d') : d'.marks = d.marks := by
  have hhint := h.hint_eq
  obtain ⟨order, -, rfl⟩ := h
  rw [marks, marks, hhint]

/-- What does not show the order for one diagnostic does not show it for several. -/
theorem Reorders.map_eq {β : Type} {f : Diagnostic → β} {ds ds' : List Diagnostic}
    (hf : ∀ d d', Reorders d d' → f d' = f d) (h : List.Forall₂ Reorders ds ds') :
    ds'.map f = ds.map f := by
  induction h with
  | nil => rfl
  | cons hd _ ih => rw [List.map_cons, List.map_cons, hf _ _ hd, ih]

end

end Diagnostic

/-! ## Reports -/

namespace Report

section
variable {d d' : Diagnostic}

/-- The report of a diagnostic does not show the order of the set either. -/
theorem render_of_reorders (h : d.Reorders d') (colour : Bool) (name source : String) :
    render colour name source d' = render colour name source d := by
  have hmarks := h.marks_eq
  obtain ⟨order, -, rfl⟩ := h
  rw [render, render, lines, lines, hmarks]
  rfl

theorem isDrawable_of_reorders (h : d.Reorders d') : isDrawable d' = isDrawable d := by
  rw [isDrawable, isDrawable, h.marks_eq]

end

/-- Diagnostics that differ one by one at most in the order of their sets have the same reports. -/
theorem render?_of_reorders {ds ds' : List Diagnostic}
    (h : List.Forall₂ Diagnostic.Reorders ds ds') (colour : Bool) (name source : String) :
    render? colour name source ds' = render? colour name source ds := by
  have hrenders := Diagnostic.Reorders.map_eq
    (fun _ _ hd => render_of_reorders hd colour name source) h
  have hdrawable := Diagnostic.Reorders.map_eq (fun _ _ hd => isDrawable_of_reorders hd) h
  have hall : ds'.all isDrawable = ds.all isDrawable := by
    simpa using congrArg (List.all · id) hdrawable
  rw [render?, render?, hall, hrenders]

end Report

namespace Diagnostic

/-- The hint of a diagnostic without a name to show says that nothing is expected exactly if that is
so, and otherwise lists the expected characters in quotes, each once and ascending by code point,
and behind them the end of the input if that is expected. Neither the hint of a diagnostic nor the
text of the reports of several depends on the order in which the sets of what is expected are gone
through. -/
theorem hint_lists_expected :
    (∀ d : Diagnostic, d.label.name? = none →
      (d.hint = "not expected here" ↔ d.expected = []) ∧
      (d.expected ≠ [] → ∃ chars : List Char, chars.Pairwise (· < ·) ∧
        (∀ c, c ∈ chars ↔ .char c ∈ d.expected) ∧
        d.hint = "expected " ++ ", ".intercalate (chars.map (fun c => "'" ++ c.toString ++ "'") ++
          if .endOfInput ∈ d.expected then ["end of input"] else []))) ∧
    (∀ d d' : Diagnostic, d.Reorders d' → d'.hint = d.hint) ∧
    ∀ ds ds' : List Diagnostic, List.Forall₂ Reorders ds ds' → ∀ colour name source,
      Report.render? colour name source ds' = Report.render? colour name source ds := by
  refine ⟨fun d hname => ⟨hint_eq_notExpected_iff hname, fun hne => ?_⟩,
    fun _ _ h => h.hint_eq, fun _ _ h => Report.render?_of_reorders h⟩
  obtain ⟨chars, hchars, hmem, htexts⟩ := d.exists_chars_of_expectations
  refine ⟨chars, hchars, hmem, ?_⟩
  rw [hint_of_unnamed hname, if_neg hne, htexts]

/-- Characters before and after the letter that "end of input" starts with, the quote itself, a
control character and characters outside ASCII, gone through in one order and in the other, under
names that met at one position. -/
theorem hint_lists_expected_mixed :
    let order : List Expectation := [.char 'é', .endOfInput, .char '\'', .char '😀', .char 'f',
      .char '\t', .char '(']
    let d : Diagnostic := ⟨⟨2, 3⟩, .unclosed '(' ⟨0, 1⟩, some 'x', order, .conflicting⟩
    let d' : Diagnostic := { d with expected := order.reverse }
    d.label.name? = none ∧ d.Reorders d' ∧
    d.hint = "expected '\t', ''', '(', 'f', 'é', '😀', end of input" ∧ d'.hint = d.hint ∧
    (∃ chars : List Char, chars.Pairwise (· < ·) ∧ (∀ c, c ∈ chars ↔ .char c ∈ order) ∧
      d.hint = "expected " ++ ", ".intercalate
        (chars.map (fun c => "'" ++ c.toString ++ "'") ++ ["end of input"])) ∧
    ∀ colour, Report.render? colour "<stdin>" "(+x" [d', d] =
      Report.render? colour "<stdin>" "(+x" [d, d'] := by
  intro order d d'
  have hreorders : d.Reorders d' := ⟨order.reverse, fun _ => List.mem_reverse, rfl⟩
  have hback : d'.Reorders d := ⟨order, fun _ => List.mem_reverse.symm, rfl⟩
  obtain ⟨hlists, hhint, hreport⟩ := hint_lists_expected
  obtain ⟨chars, hchars, hmem, hlisted⟩ := (hlists d rfl).2 (List.cons_ne_nil _ _)
  refine ⟨rfl, hreorders, by decide +kernel, hhint d d' hreorders, ⟨chars, hchars, hmem, ?_⟩, ?_⟩
  · simpa [d, order] using hlisted
  · exact fun colour =>
      hreport [d, d'] [d', d] (.cons hreorders (.cons hback .nil)) colour "<stdin>" "(+x"

end Diagnostic

end PrefixCalc
