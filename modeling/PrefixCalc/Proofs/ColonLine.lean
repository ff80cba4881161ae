import PrefixCalc.Proofs.Diagnosis

/-!
# Where lines with a colon fail

A line that starts with a colon is tried as the request of each verb in turn, and as a program at
last. What is reported when all of them fail depends on what stands after the colon:

* no identifier: what stands there is refused (`Grammar.line_colon_nameless`);
* an identifier that is the word of no verb: all of it is refused (`Grammar.line_colon_unknown`);
* the word of a verb, after which no program can start: here the refusals of the word by the other
  verbs reach as far as that of the program, and the verb that is tried last says where the fault is
  (`Grammar.line_colon_stuck`);
* the word of a verb and the beginning of a program: the refusals of the word lie behind, and the
  line fails where the program does (`Grammar.line_colon_outcome`).

In the last case the line is read along the stages of its program, and where stages get stuck does
not depend on what stands before them (`Stage.Fails.shift`). So the diagnostic of a request is that
of its program by itself, moved by the length of what stands before it
(`Grammar.parse_request_error`).
-/

namespace PrefixCalc

/-! ## Choices and stages -/

/-- A choice succeeds as one of its rules does if no other rule reads anything else. -/
theorem Rule.choiceAfter_ok_of_mem {α : Type} {r : Rule α} {rs : List (Rule α)} {c next : Cursor}
    {a : α} {alt : Option Failure} (hr : r ∈ rs) (h : r c = .ok a alt next)
    (hothers : ∀ r' ∈ rs, r' c = .ok a alt next ∨ Refuses r' c) (seen : Option Failure) :
    choiceAfter seen rs c = .ok a alt next := by
  induction rs generalizing seen with
  | nil => cases hr
  | cons q qs ih =>
    rcases hothers q (.head _) with hq | ⟨why, hq⟩
    · exact choiceAfter_ok hq seen qs
    · rw [choiceAfter_fail hq]
      refine ih ?_ (fun r' hr' => hothers r' (.tail _ hr')) _
      rcases List.mem_cons.1 hr with rfl | hr
      · cases h.symm.trans hq
      · exact hr

/-- Stages that are stuck go nowhere. -/
theorem Stage.Reaches.eq_of_stuck {s s' : Stage} {c c' : Cursor} (h : s.Reaches c s' c')
    (hstuck : s.Stuck c.rest) : s = s' := by
  obtain ⟨u, hrest, -, hrun⟩ := h
  cases u with
  | nil => exact Option.some.inj hrun
  | cons x u =>
    rw [hrest] at hstuck
    have hstep : s.step x = none := hstuck
    rw [run_cons, hstep] at hrun
    cases hrun

/-- A failure of the stages lies at the place where they start or further on. -/
theorem Stage.Fails.pos_le {s : Stage} {c : Cursor} {why : Failure} (h : s.Fails c why) :
    c.pos ≤ why.reach := by
  obtain ⟨s', c', ⟨u, -, hpos, -⟩, -, rfl⟩ := h
  show c.pos ≤ c'.pos
  omega

/-! ## Refused words -/

namespace Lexeme

section
variable {p : Nat} {word : List Char} {c : Cursor} {label : Label} {expected : List Expectation}

/-- The refusal of a word adds nothing to another refusal of it. -/
theorem refuseWord_further_refuseWord :
    (refuseWord p word .unnamed []).further (refuseWord p word label expected) =
      refuseWord p word label expected := by
  have hreach : (refuseWord p word .unnamed []).reach = (refuseWord p word label expected).reach :=
    rfl
  rw [Failure.further_eq_merge hreach]
  simp [Diagnostic.merge, refuseWord, Label.merge]

/-- The refusal of a word, met after that of the place behind it, makes it one of the word. -/
theorem refuseWord_further_refuseAs (hc : c.pos = p + word.length) :
    (refuseWord p word .unnamed []).further (c.refuseAs label expected) =
      refuseWord p word label expected := by
  rw [Failure.further_eq_merge hc.symm]
  simp [Diagnostic.merge, refuseWord, Cursor.refuseAs, Cursor.refuse, Label.merge]

/-- The refusal of the place behind a word, met after that of the word, stays one of the place. -/
theorem refuseAs_further_refuseWord (hc : c.pos = p + word.length) :
    (c.refuseAs label expected).further (refuseWord p word .unnamed []) =
      c.refuseAs label expected := by
  have hlabel : label.merge .unnamed = label := by cases label <;> rfl
  rw [Failure.further_eq_merge hc]
  simp [Diagnostic.merge, refuseWord, Cursor.refuseAs, Cursor.refuse, hlabel]

end

end Lexeme

namespace Grammar

open Stage (Reaches Fails Stuck Closes)

/-! ## Requests -/

section
variable {p : Nat} {verb : Verb} {s : List Char} {t : Term} {alt alt' : Option Failure}
  {why why' : Failure} {mid next : Cursor}

/-- After a colon, a request fails where its keyword fails. -/
theorem request_colon_fail (h : Lexeme.keyword verb.name ⟨p + 1, s⟩ = .fail why) :
    request verb ⟨p, ':' :: s⟩ = .fail why := by
  have hcolon : Rule.char ':' ⟨p, ':' :: s⟩ = .ok ':' none ⟨p + 1, s⟩ := rfl
  rw [request, Rule.map, Rule.keepRight, Rule.map,
    Rule.andThen_fail (Rule.andThen_ok_fail hcolon h rfl)]

/-- After a colon and its keyword, a request fails where its program fails. -/
theorem request_colon_ok_fail
    (h : Lexeme.keyword verb.name ⟨p + 1, s⟩ = .ok () alt mid) (hprogram : program mid = .fail why)
    (hwhy : Failure.furthest? alt (some why) = some why') :
    request verb ⟨p, ':' :: s⟩ = .fail why' := by
  have hcolon : Rule.char ':' ⟨p, ':' :: s⟩ = .ok ':' none ⟨p + 1, s⟩ := rfl
  rw [request, Rule.map, Rule.keepRight, Rule.map,
    Rule.andThen_ok_fail (Rule.andThen_ok_ok hcolon h) hprogram hwhy]

/-- After a colon and its keyword, a request is read as its program is. -/
theorem request_colon_ok_ok
    (h : Lexeme.keyword verb.name ⟨p + 1, s⟩ = .ok () alt mid)
    (hprogram : program mid = .ok t alt' next) :
    request verb ⟨p, ':' :: s⟩ = .ok ⟨verb, t⟩ (Failure.furthest? alt alt') next := by
  have hcolon : Rule.char ':' ⟨p, ':' :: s⟩ = .ok ':' none ⟨p + 1, s⟩ := rfl
  rw [request, Rule.map, Rule.keepRight, Rule.map,
    Rule.andThen_ok_ok (Rule.andThen_ok_ok hcolon h) hprogram]
  rfl

/-- Where no program can start, an operator is expected. -/
theorem program_stuck (h : Stuck .start s) (p : Nat) :
    program ⟨p, s⟩ = .fail (Stage.start.refusal ⟨p, s⟩) := by
  have houtcome := program_outcome ⟨p, s⟩
  cases hprogram : program ⟨p, s⟩ with
  | fail why =>
    rw [hprogram] at houtcome
    exact congrArg Reply.fail (houtcome.eq_refusal h)
  | ok t alt next =>
    rw [hprogram] at houtcome
    cases houtcome.1.eq_of_stuck h

end

/-! ## Lines -/

/-- A line is tried as the request of each verb, and as a program. -/
theorem mem_alternatives {r : Rule Command} :
    r ∈ alternatives ↔ (∃ verb, r = request verb) ∨ r = program.map fun t => ⟨.eval, t⟩ := by
  have hall : ∀ verb, verb ∈ Verb.all := by
    intro verb
    cases verb <;> decide
  rw [alternatives, List.mem_append, List.mem_map, List.mem_singleton]
  refine or_congr ⟨?_, ?_⟩ Iff.rfl
  · rintro ⟨verb, -, rfl⟩
    exact ⟨verb, rfl⟩
  · rintro ⟨verb, rfl⟩
    exact ⟨verb, hall verb, rfl⟩

section
variable {p : Nat} {s word : List Char} {verb : Verb} {why : Failure}

/-- At a colon, a line is no program. -/
theorem bare_colon_fail (p : Nat) (s : List Char) :
    program.map (fun t => (⟨.eval, t⟩ : Command)) ⟨p, ':' :: s⟩ =
      .fail (Stage.start.refusal ⟨p, ':' :: s⟩) := by
  have hstuck : Stuck .start (':' :: s) := rfl
  rw [Rule.map, program_stuck hstuck]

/-- At a colon, a line fails with the furthest failure of the requests. -/
theorem line_colon_fail (hall : ∀ verb, ∃ f, request verb ⟨p, ':' :: s⟩ = .fail f ∧ why.UpTo f)
    (hmet : request verb ⟨p, ':' :: s⟩ = .fail why) (hlt : p < why.reach) :
    line ⟨p, ':' :: s⟩ = .fail why := by
  refine line_of_choice_fail (Rule.choiceAfter_fail_of_upTo nofun (fun r hr => ?_)
    (.inr ⟨request verb, mem_alternatives.2 (.inl ⟨verb, rfl⟩), hmet⟩))
  rcases mem_alternatives.1 hr with ⟨verb', rfl⟩ | rfl
  · exact hall verb'
  · exact ⟨_, bare_colon_fail p s, .inr hlt⟩

/-- Where no identifier stands after a colon, what stands there is refused. -/
theorem line_colon_nameless (hs : s.head?.any Lexeme.isIdentStart = false) (p : Nat) :
    line ⟨p, ':' :: s⟩ = .fail (Cursor.refuse ⟨p + 1, s⟩ []) := by
  have hrequest : ∀ verb, request verb ⟨p, ':' :: s⟩ = .fail (Cursor.refuse ⟨p + 1, s⟩ []) :=
    fun verb => request_colon_fail (Lexeme.keyword_fail_nameless hs verb.name)
  exact line_colon_fail (fun verb => ⟨_, hrequest verb, .inl rfl⟩) (hrequest .eval)
    (Nat.lt_succ_self p)

/-- The request of a verb refuses another word as a whole. -/
theorem request_colon_word (hword : Lexeme.IsIdentifier word)
    (hs : s.head?.any Lexeme.isIdentRest = false) (hne : verb.name.toList ≠ word) (p : Nat) :
    request verb ⟨p, ':' :: (word ++ s)⟩ = .fail (Lexeme.refuseWord (p + 1) word .unnamed []) :=
  request_colon_fail (Lexeme.keyword_fail hword hs hne)

/-- An identifier after a colon that is the word of no verb is refused as a whole. -/
theorem line_colon_unknown (hword : Lexeme.IsIdentifier word)
    (hs : s.head?.any Lexeme.isIdentRest = false) (hne : ∀ verb : Verb, verb.name.toList ≠ word)
    (p : Nat) : line ⟨p, ':' :: (word ++ s)⟩ =
      .fail (Lexeme.refuseWord (p + 1) word .unnamed []) := by
  have hrequest := fun verb => request_colon_word hword hs (hne verb) p
  refine line_colon_fail (fun verb => ⟨_, hrequest verb, .inl rfl⟩) (hrequest .eval) ?_
  show p < p + 1 + word.length
  omega

/-- The request of a verb refuses the word of another verb as a whole. -/
theorem request_colon_other {verb' : Verb} (hs : s.head?.any Lexeme.isIdentRest = false)
    (hne : verb' ≠ verb) (p : Nat) : request verb' ⟨p, ':' :: (verb.name.toList ++ s)⟩ =
      .fail (Lexeme.refuseWord (p + 1) verb.name.toList .unnamed []) :=
  request_colon_word (Lexeme.isIdentifier_name verb) hs
    (fun h => hne (Lexeme.name_injective (String.toList_injective h))) p

/-- Where one request fails with `ofPlace` and the others with `ofWord`, which reach equally far,
the last of them to be tried says where the fault is: the request itself if it is that of the last
verb, and another one, which merges the two, if not. -/
theorem choice_of_requests_fail {c : Cursor} {ofWord ofPlace ofBoth : Failure}
    (hother : ∀ verb', verb' ≠ verb → request verb' c = .fail ofWord)
    (hown : request verb c = .fail ofPlace) (hbare : program c = .fail why)
    (hword : ofWord.further ofWord = ofWord) (hplace : ofPlace.further ofWord = ofPlace)
    (hmerge : ofWord.further ofPlace = ofBoth) (hboth : ofWord.further ofBoth = ofBoth)
    (hlt : why.reach < ofPlace.reach) (hlt' : why.reach < ofBoth.reach) :
    Rule.choice alternatives c = .fail (if verb = .tree then ofPlace else ofBoth) := by
  have hlast : why.further ofPlace = ofPlace := Failure.further_eq_right hlt
  have hlast' : why.further ofBoth = ofBoth := Failure.further_eq_right hlt'
  have hrequest : ∀ verb', request verb' c = .fail (if verb' = verb then ofPlace else ofWord) := by
    intro verb'
    split
    · next heq => rw [heq, hown]
    · next hne => exact hother verb' hne
  -- Which failure comes last depends on the place of the verb among the alternatives.
  cases verb <;>
    simp [Rule.choice, Rule.choiceAfter, alternatives, Verb.all, Rule.map, Failure.furthest?,
      hrequest, hbare, hword, hplace, hmerge, hboth, hlast, hlast']

/-- Where no program can start after the word of a verb, an operator is expected: at the place after
the word if the verb is the one that is tried last, and at the word for any other. -/
theorem line_colon_stuck (verb : Verb) (hs : s.head?.any Lexeme.isIdentRest = false)
    (hstuck : Stuck .start s) (p : Nat) : line ⟨p, ':' :: (verb.name.toList ++ s)⟩ = .fail
      (if verb = .tree then Stage.start.refusal ⟨p + 1 + verb.name.toList.length, s⟩
        else Lexeme.refuseWord (p + 1) verb.name.toList (.named "operator")
          Stage.start.expected) := by
  have hcolon : Stuck .start (':' :: (verb.name.toList ++ s)) := rfl
  have hown : request verb ⟨p, ':' :: (verb.name.toList ++ s)⟩ =
      .fail (Stage.start.refusal ⟨p + 1 + verb.name.toList.length, s⟩) :=
    request_colon_ok_fail (Lexeme.keyword_ok (Lexeme.isIdentifier_name verb) hs)
      (program_stuck hstuck _) (congrArg some Failure.further_refuseAs)
  have hlt : p < p + 1 + verb.name.toList.length := by omega
  exact line_of_choice_fail (choice_of_requests_fail
    (fun verb' hne => request_colon_other hs hne p) hown (program_stuck hcolon p)
    (Failure.further_self _) (Lexeme.refuseAs_further_refuseWord rfl)
    (Lexeme.refuseWord_further_refuseAs rfl) Lexeme.refuseWord_further_refuseWord hlt hlt)

/-- After the word of a verb and the beginning of a program, a line is read along the stages of the
program to the end of the text, or it fails where they get stuck. -/
theorem line_colon_outcome (verb : Verb) (hs : s.head?.any Lexeme.isIdentRest = false)
    (hstart : ¬ Stuck .start s) (p : Nat) :
    (∃ cmd alt next, line ⟨p, ':' :: (verb.name.toList ++ s)⟩ = .ok cmd alt next ∧ next.rest = [] ∧
      Reaches .start ⟨p + 1 + verb.name.toList.length, s⟩ .done next) ∨
    ∃ why, line ⟨p, ':' :: (verb.name.toList ++ s)⟩ = .fail why ∧
      Fails .start ⟨p + 1 + verb.name.toList.length, s⟩ why := by
  have hkeyword := Lexeme.keyword_ok (p := p + 1) (Lexeme.isIdentifier_name verb) hs
  have houtcome := program_outcome ⟨p + 1 + verb.name.toList.length, s⟩
  cases hprogram : program ⟨p + 1 + verb.name.toList.length, s⟩ with
  | fail why =>
    rw [hprogram] at houtcome
    have hlt : p + 1 + verb.name.toList.length < why.reach := by
      rcases houtcome.cases with ⟨hstuck, -⟩ | ⟨-, -, -, -, -, -, hlt⟩
      · exact absurd hstuck hstart
      · exact hlt
    have hown : request verb ⟨p, ':' :: (verb.name.toList ++ s)⟩ = .fail why :=
      request_colon_ok_fail hkeyword hprogram (congrArg some (Failure.further_eq_left hlt))
    -- The other verbs refuse the word, which ends before the place where the program fails.
    refine .inr ⟨why, line_colon_fail (fun verb' => ?_) hown (by omega), houtcome⟩
    by_cases hne : verb' = verb
    · subst hne
      exact ⟨why, hown, .inl rfl⟩
    · exact ⟨_, request_colon_other hs hne p, .inr hlt⟩
  | ok t alt next =>
    rw [hprogram] at houtcome
    obtain ⟨hreach, hnext, why, rfl, hfails⟩ := houtcome
    have hpos : p + 1 + verb.name.toList.length < next.pos := hreach.pos_lt (by decide)
    have hlt := Nat.lt_of_lt_of_le hpos hfails.pos_le
    have hown : request verb ⟨p, ':' :: (verb.name.toList ++ s)⟩ =
        .ok ⟨verb, t⟩ (some why) next := by
      rw [request_colon_ok_ok hkeyword hprogram]
      exact congrArg (Reply.ok _ · _) (congrArg some (Failure.further_eq_left hlt))
    have hchoice : Rule.choice alternatives ⟨p, ':' :: (verb.name.toList ++ s)⟩ =
        .ok ⟨verb, t⟩ (some why) next := by
      refine Rule.choiceAfter_ok_of_mem (mem_alternatives.2 (.inl ⟨verb, rfl⟩)) hown
        (fun r hr => ?_) none
      rcases mem_alternatives.1 hr with ⟨verb', rfl⟩ | rfl
      · by_cases hne : verb' = verb
        · subst hne
          exact .inl hown
        · exact .inr ⟨_, request_colon_other hs hne p⟩
      · exact .inr ⟨_, bare_colon_fail p _⟩
    by_cases hclose : Closes 0 next.rest
    · exact .inl ⟨_, _, next, line_of_choice_ok hchoice hclose, hclose, hreach⟩
    · exact .inr ⟨_, line_of_choice_rest hchoice hclose, hreach.fails (hfails.closer hnext hclose)⟩

end

end Grammar

/-! ## Diagnostics of requests -/

/-- The failure moved on by `k` characters. -/
def Failure.shift (k : Nat) (f : Failure) : Failure where
  reach := f.reach + k
  diagnostic :=
    { f.diagnostic with span := ⟨f.diagnostic.span.start + k, f.diagnostic.span.stop + k⟩ }

namespace Stage

variable {s : Stage} {cs : List Char} {p : Nat} {why why' : Failure}

/-- Where stages get stuck does not depend on what comes before the place where they start. -/
theorem Fails.shift (h : s.Fails ⟨p, cs⟩ why) (k : Nat) :
    s.Fails ⟨p + k, cs⟩ (why.shift k) := by
  obtain ⟨s', ⟨q, rest⟩, ⟨u, hrest, hpos, hrun⟩, hstuck, rfl⟩ := h
  dsimp only at hrest hpos
  refine ⟨s', ⟨q + k, rest⟩, ⟨u, hrest, ?_, hrun⟩, hstuck, ?_⟩
  · show q + k = p + k + u.length
    omega
  · have hstop : q + (rest.take 1).length + k = q + k + (rest.take 1).length := by omega
    simp only [refusal, Cursor.refuseAs, Cursor.refuse, Failure.shift, hstop]

/-- Stages get stuck in one way. -/
theorem Fails.unique (h : s.Fails ⟨p, cs⟩ why) (h' : s.Fails ⟨p, cs⟩ why') : why = why' := by
  induction cs generalizing s p with
  | nil =>
    rcases h.cases with ⟨hstuck, rfl⟩ | ⟨x, xs, s₁, hc, -⟩
    · exact (h'.eq_refusal hstuck).symm
    · cases hc
  | cons x cs ih =>
    rcases h.cases with ⟨hstuck, rfl⟩ | ⟨x, xs, s₁, hc, hstep, hfails, -⟩
    · exact (h'.eq_refusal hstuck).symm
    · rcases h'.cases with ⟨hstuck, rfl⟩ | ⟨x', xs', s₁', hc', hstep', hfails', -⟩
      · exact h.eq_refusal hstuck
      · cases hc
        cases hc'
        cases hstep.symm.trans hstep'
        exact ih hfails hfails'

/-- Stages that get stuck do not run to the end of a program. -/
theorem Fails.run_ne_done (h : s.Fails ⟨p, cs⟩ why) : s.run cs ≠ some done := by
  obtain ⟨s', c', ⟨u, hrest, -, hrun⟩, hstuck, -⟩ := h
  intro hdone
  dsimp only at hrest
  rw [hrest] at hdone
  obtain ⟨mid, hmid, hlast⟩ := exists_run_of_append hdone
  cases hrun.symm.trans hmid
  exact hstuck.run_ne_done hlast

end Stage

namespace Grammar

open Stage (Reaches Fails Stuck)

/-- A line without a colon that starts as a program and is rejected fails where its stages get
stuck. -/
theorem fails_of_parse_error {text : String} {d : Diagnostic}
    (hcolon : text.toList.head? ≠ some ':') (hstart : ¬ Stuck .start text.toList)
    (h : parse text = .error d) :
    ∃ why, d = why.diagnostic ∧ Fails .start ⟨0, text.toList⟩ why := by
  rw [parse, Rule.read] at h
  rcases line_outcome (c := Cursor.ofText text) hcolon with
    ⟨cmd, alt, next, hline, -⟩ | ⟨-, hstuck⟩ | ⟨why, hline, -, hfails⟩
  · rw [hline] at h
    cases h
  · exact absurd hstuck hstart
  · rw [hline] at h
    cases h
    exact ⟨why, rfl, hfails⟩

/-- A request fails as its program fails by itself, further on by the colon and the word. -/
theorem parse_request_of_fails {text : String} {why : Failure} (verb : Verb)
    (hident : text.toList.head?.any Lexeme.isIdentRest = false)
    (hstart : ¬ Stuck .start text.toList) (h : Fails .start ⟨0, text.toList⟩ why) :
    parse (":" ++ verb.name ++ text) = .error (why.shift (verb.name.length + 1)).diagnostic := by
  have hline : (":" ++ verb.name ++ text).toList =
      ':' :: (verb.name.toList ++ text.toList) := by simp
  rw [parse, Rule.read, Cursor.ofText, hline]
  rcases line_colon_outcome verb hident hstart 0 with
    ⟨cmd, alt, next, -, hnext, u, hrest, -, hrun⟩ | ⟨why', hfail, hfails⟩
  · rw [hnext, List.append_nil] at hrest
    dsimp only at hrest
    rw [← hrest] at hrun
    exact absurd hrun h.run_ne_done
  · have hplace : 0 + (verb.name.length + 1) = 0 + 1 + verb.name.toList.length := by
      rw [String.length_toList]
      omega
    have hmoved := h.shift (verb.name.length + 1)
    rw [hplace] at hmoved
    cases hmoved.unique hfails
    simp only [hfail]

/-- The diagnostic of a request is that of its program by itself, moved by the colon and the word
before it, if a blank stands between the word and the program. -/
theorem parse_request_error {word blanks text : String} {d : Diagnostic}
    (hword : word ∈ Verb.names) (hne : blanks ≠ "") (hblanks : Blanks blanks.toList)
    (h : parse (blanks ++ text) = .error d) :
    parse (":" ++ word ++ blanks ++ text) = .error
      { d with span := ⟨d.span.start + (word.length + 1), d.span.stop + (word.length + 1)⟩ } := by
  obtain ⟨verb, -, rfl⟩ := List.mem_map.1 hword
  obtain ⟨x, xs, hx, hblank⟩ : ∃ x xs, (blanks ++ text).toList = x :: xs ∧ isBlank x = true := by
    obtain ⟨x, xs, hx⟩ := List.exists_cons_of_ne_nil (mt String.toList_eq_nil_iff.1 hne)
    exact ⟨x, xs ++ text.toList, by simp [hx], hblanks x (by simp [hx])⟩
  have hcolon : (blanks ++ text).toList.head? ≠ some ':' := by
    rw [hx]
    rintro ⟨⟩
    exact absurd hblank (by decide)
  have hident : (blanks ++ text).toList.head?.any Lexeme.isIdentRest = false := by
    simpa [hx] using isIdentRest_of_isBlank hblank
  have hstart : ¬ Stuck .start (blanks ++ text).toList := by
    have hstep : Stage.start.step x = some .start := by simp [Stage.step, Stage.start, hblank]
    rw [hx]
    intro hstuck
    cases hstep.symm.trans hstuck
  obtain ⟨why, rfl, hfails⟩ := fails_of_parse_error hcolon hstart h
  have hassoc : ":" ++ verb.name ++ blanks ++ text = ":" ++ verb.name ++ (blanks ++ text) :=
    String.append_assoc
  rw [hassoc]
  exact parse_request_of_fails verb hident hstart hfails

/-- A digit is missing two levels down, behind an unusual blank. -/
theorem parse_request_missing_digit :
    "branches" ∈ Verb.names ∧ "\u2003 " ≠ "" ∧ Blanks "\u2003 ".toList ∧
    parse "\u2003 + (* 2 -x)" = .error ⟨⟨10, 11⟩, .unexpected, some 'x', [], .named "number"⟩ ∧
    parse ":branches\u2003 + (* 2 -x)" =
      .error ⟨⟨19, 20⟩, .unexpected, some 'x', [], .named "number"⟩ := by
  have hword : "branches" ∈ Verb.names := by decide
  have hblanks : Blanks "\u2003 ".toList := by decide
  have h : parse ("\u2003 " ++ "+ (* 2 -x)") =
      .error ⟨⟨10, 11⟩, .unexpected, some 'x', [], .named "number"⟩ := rfl
  exact ⟨hword, by decide, hblanks, h, parse_request_error hword (by decide) hblanks h⟩

end Grammar

end PrefixCalc
