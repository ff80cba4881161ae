import PrefixCalc.Proofs.Parsing
import PrefixCalc.Proofs.Stage

/-!
# Where the reader of programs fails

The reader of programs descends into operands, gives up on attempts and goes back; the stages of a
program go forward one character at a time. Both get stuck at the same place. `Stage.Reaches` says
that the stages go from one place to another, and `Stage.Fails` that a failure is the one reported
where they get stuck. Each rule of the grammar is shown to succeed along the stages or to fail where
they get stuck (`OperandOutcome`, `ApplicationOutcome`).

What makes this work in spite of the attempts that were given up is that the failure a success
carries along does no harm (`Harmless`): it lies behind the place that was reached, or it is the
failure to read one more digit there, which adds nothing to what is expected there anyway.
-/

namespace PrefixCalc

namespace Stage

/-- What a reader that is stuck at a place reports. -/
def refusal (s : Stage) (c : Cursor) : Failure := c.refuseAs (.named s.label) s.expected

/-- From the stage `s` at `c`, the stages go on to `s'` at `c'`. -/
def Reaches (s : Stage) (c : Cursor) (s' : Stage) (c' : Cursor) : Prop :=
  ∃ u, c.rest = u ++ c'.rest ∧ c'.pos = c.pos + u.length ∧ s.run u = some s'

/-- From the stage `s` at `c`, the stages get stuck, and `why` is what is reported there. -/
def Fails (s : Stage) (c : Cursor) (why : Failure) : Prop :=
  ∃ s' c', s.Reaches c s' c' ∧ s'.Stuck c'.rest ∧ why = s'.refusal c'

section
variable {s s' s'' : Stage} {c c' c'' : Cursor} {why : Failure} {d : Nat}

/-! ## Going from place to place -/

theorem Reaches.refl (s : Stage) (c : Cursor) : s.Reaches c s c := ⟨[], rfl, rfl, rfl⟩

theorem Reaches.trans (h : s.Reaches c s' c') (h' : s'.Reaches c' s'' c'') :
    s.Reaches c s'' c'' := by
  obtain ⟨u, hrest, hpos, hrun⟩ := h
  obtain ⟨v, hrest', hpos', hrun'⟩ := h'
  refine ⟨u ++ v, ?_, ?_, ?_⟩
  · rw [hrest, hrest', List.append_assoc]
  · rw [hpos', hpos, List.length_append, Nat.add_assoc]
  · rw [run_append, hrun]
    exact hrun'

/-- One character on. -/
theorem reaches_step {x : Char} (h : s.step x = some s') (p : Nat) (xs : List Char) :
    s.Reaches ⟨p, x :: xs⟩ s' ⟨p + 1, xs⟩ :=
  ⟨[x], rfl, rfl, by rw [run_cons, h]; rfl⟩

/-- Over blanks, except right after a minus sign. -/
theorem reaches_skipBlanks (hs : s.need ≠ .digit) (c : Cursor) : s.Reaches c s c.skipBlanks := by
  obtain ⟨w, hw, hrest, hpos⟩ := c.exists_blanks
  exact ⟨w, hrest, hpos, run_blanks hs hw⟩

/-- The stages stay where they are or go forward. -/
theorem Reaches.eq_or_lt (h : s.Reaches c s' c') : c' = c ∨ c.pos < c'.pos := by
  obtain ⟨u, hrest, hpos, -⟩ := h
  cases u with
  | nil =>
    refine .inl ?_
    obtain ⟨p, cs⟩ := c
    obtain ⟨q, ds⟩ := c'
    cases hrest
    cases hpos
    rfl
  | cons x u =>
    rw [List.length_cons] at hpos
    exact .inr (by omega)

/-- A change of stage takes a character. -/
theorem Reaches.length_lt (h : s.Reaches c s' c') (hne : s ≠ s') :
    c'.rest.length < c.rest.length := by
  obtain ⟨u, hrest, -, hrun⟩ := h
  cases u with
  | nil => exact absurd (Option.some.inj hrun) hne
  | cons x u =>
    rw [hrest, List.cons_append, List.length_cons, List.length_append]
    omega

/-- A change of stage is a step forward. -/
theorem Reaches.pos_lt (h : s.Reaches c s' c') (hne : s ≠ s') : c.pos < c'.pos := by
  rcases h.eq_or_lt with rfl | hlt
  · exact absurd (h.length_lt hne) (Nat.lt_irrefl _)
  · exact hlt

/-- No character comes back. -/
theorem Reaches.length_le (h : s.Reaches c s' c') : c'.rest.length ≤ c.rest.length := by
  obtain ⟨u, hrest, -⟩ := h
  rw [hrest, List.length_append]
  omega

/-- Getting stuck further on is getting stuck. -/
theorem Reaches.fails (h : s.Reaches c s' c') (hf : s'.Fails c' why) : s.Fails c why := by
  obtain ⟨s'', c'', h', hstuck, rfl⟩ := hf
  exact ⟨s'', c'', h.trans h', hstuck, rfl⟩

/-- Getting stuck on the spot. -/
theorem Stuck.fails (h : s.Stuck c.rest) : s.Fails c (s.refusal c) :=
  ⟨s, c, .refl s c, h, rfl⟩

/-- The stages get stuck on the spot, or one character on or later. -/
theorem Fails.cases (h : s.Fails c why) : (s.Stuck c.rest ∧ why = s.refusal c) ∨
    ∃ x xs s₁, c = ⟨c.pos, x :: xs⟩ ∧ s.step x = some s₁ ∧ s₁.Fails ⟨c.pos + 1, xs⟩ why ∧
      c.pos < why.reach := by
  obtain ⟨s', ⟨q, rest⟩, ⟨u, hrest, hpos, hrun⟩, hstuck, rfl⟩ := h
  obtain ⟨p, cs⟩ := c
  dsimp only at hrest hpos hstuck
  subst hrest hpos
  cases u with
  | nil =>
    cases hrun
    exact .inl ⟨hstuck, rfl⟩
  | cons x u =>
    rw [run_cons] at hrun
    obtain ⟨s₁, hstep, hrun⟩ := Option.bind_eq_some_iff.1 hrun
    refine .inr ⟨x, u ++ rest, s₁, rfl, hstep, ⟨s', _, ⟨u, rfl, ?_, hrun⟩, hstuck, rfl⟩, ?_⟩
    · show p + (u.length + 1) = p + 1 + u.length
      omega
    · show p < p + (u.length + 1)
      omega

/-- Stages that are stuck fail on the spot. -/
theorem Fails.eq_refusal (h : s.Fails c why) (hstuck : s.Stuck c.rest) : why = s.refusal c := by
  rcases h.cases with ⟨-, rfl⟩ | ⟨x, xs, s₁, hc, hstep, -⟩
  · rfl
  · rw [hc] at hstuck
    cases hstep.symm.trans hstuck

/-- A failed operand failed on the spot, or further on and then a further operand fails in the same
way. -/
theorem Fails.operand_cases (hc : c.rest.head?.any isBlank = false)
    (h : Fails ⟨.operand, d⟩ c why) :
    (Stuck ⟨.operand, d⟩ c.rest ∧ why = refusal ⟨.operand, d⟩ c) ∨
    (c.pos < why.reach ∧ Fails ⟨.more, d⟩ c why) := by
  rcases h.cases with hspot | ⟨x, xs, s₁, hx, hstep, hfails, hlt⟩
  · exact .inl hspot
  · rw [hx] at hc ⊢
    have hblank : isBlank x = false := by simpa using hc
    exact .inr ⟨hlt, (reaches_step (step_more_of_operand hblank hstep) _ xs).fails hfails⟩

/-- Where more operands may follow, an operand is read along the stages as the first one is. -/
theorem Reaches.more_of_operand (hc : c.rest.head?.any isBlank = false)
    (h : Reaches ⟨.operand, d⟩ c ⟨.more, d⟩ c') : Reaches ⟨.more, d⟩ c ⟨.more, d⟩ c' := by
  obtain ⟨u, hrest, hpos, hrun⟩ := h
  refine ⟨u, hrest, hpos, ?_⟩
  cases u with
  | nil => cases hrun
  | cons x u =>
    have hx : isBlank x = false := by
      rw [hrest] at hc
      simpa using hc
    rw [run_cons] at hrun ⊢
    obtain ⟨s₁, hstep, hrun⟩ := Option.bind_eq_some_iff.1 hrun
    rw [step_more_of_operand hx hstep]
    exact hrun

/-- Where neither an operand nor the end of the list of operands can be read, the failures to do
either are one failure: that of a list of operands which may go on. -/
theorem Fails.closer (hc : c.rest.head?.any isBlank = false) (h : Fails ⟨.operand, d⟩ c why)
    (hclose : ¬ Closes d c.rest) :
    Fails ⟨.more, d⟩ c ((c.refuse [Stage.closer d]).further why) := by
  rcases h.operand_cases hc with ⟨hstuck, rfl⟩ | ⟨hlt, hfails⟩
  · have hmerged : (c.refuse [Stage.closer d]).further (refusal ⟨.operand, d⟩ c) =
        refusal ⟨.more, d⟩ c := by
      rw [refusal, Cursor.refuse_eq_refuseAs, Failure.further_refuseAs]
      cases d <;> rfl
    rw [hmerged]
    exact Stuck.fails (stuck_more hc hstuck hclose)
  · rw [Failure.further_eq_right (by simpa [Cursor.refuse] using hlt)]
    exact hfails

end

end Stage

/-! ## Failures that do no harm -/

/-- The failure that a success at `c` carries along, if there is one, lies behind `c`, or it is the
failure to read one more digit at `c`. -/
def Harmless (alt : Option Failure) (c : Cursor) : Prop :=
  ∀ f ∈ alt, f.reach < c.pos ∨ f = c.refuseAs (.named "number") []

namespace Harmless

open Stage (Reaches Fails)

variable {alt alt' : Option Failure} {s s' : Stage} {c c' : Cursor} {why : Failure} {d : Nat}

/-- A success without a failure carries nothing along. -/
theorem none (c : Cursor) : Harmless .none c := by
  intro f hf
  cases hf

/-- What does no harm reaches no further than the place it comes to. -/
theorem reach_le {f : Failure} (h : Harmless alt c) (hf : f ∈ alt) : f.reach ≤ c.pos := by
  rcases h f hf with hlt | rfl
  · exact Nat.le_of_lt hlt
  · exact Nat.le_refl _

/-- What does no harm at a place does none further on. -/
theorem of_reaches (h : Harmless alt c) (hreach : s.Reaches c s' c') : Harmless alt c' := by
  rcases hreach.eq_or_lt with rfl | hlt
  · exact h
  · intro f hf
    exact .inl (Nat.lt_of_le_of_lt (h.reach_le hf) hlt)

/-- The failure that survives does no harm if the later one does none and lies beyond the earlier
place. -/
theorem furthest (h : Harmless alt c) (h' : Harmless alt' c') (hlt : c.pos < c'.pos) :
    Harmless (Failure.furthest? alt alt') c' := by
  cases alt with
  | none => exact h'
  | some a =>
    have ha : a.reach < c'.pos := Nat.lt_of_le_of_lt (h.reach_le rfl) hlt
    cases alt' with
    | none =>
      intro f hf
      cases hf
      exact .inl ha
    | some b =>
      intro f hf
      cases hf
      rcases h' b rfl with hb | rfl
      · refine .inl ?_
        rw [Failure.reach_further]
        omega
      · exact .inr (Failure.further_eq_left ha)

/-- What does no harm adds nothing to the failure to read an operand. -/
theorem furthest_fails (h : Harmless alt c) (hc : c.rest.head?.any isBlank = false)
    (hfails : Fails ⟨.operand, d⟩ c why) : Failure.furthest? alt (some why) = some why := by
  cases alt with
  | none => rfl
  | some f =>
    rcases hfails.operand_cases hc with ⟨-, rfl⟩ | ⟨hlt, -⟩
    · rcases h f rfl with hf | rfl
      · exact congrArg some (Failure.further_eq_left hf)
      · exact congrArg some Failure.further_refuseAs
    · exact congrArg some (Failure.further_eq_left (Nat.lt_of_le_of_lt (h.reach_le rfl) hlt))

end Harmless

/-! ## Outcomes along the stages -/

namespace Grammar

open Stage (Reaches Fails Stuck Closes)

/-- An operand inside of `d` parentheses is read along the stages, or fails where they get stuck. -/
def OperandOutcome (d : Nat) (c : Cursor) : Reply Term → Prop
  | .ok _ alt next => Reaches ⟨.operand, d⟩ c ⟨.more, d⟩ next ∧ Harmless alt next
  | .fail why => Fails ⟨.operand, d⟩ c why

/-- An application inside of `d` parentheses is read along the stages up to where one more operand
fails, or fails where they get stuck. -/
def ApplicationOutcome (d : Nat) (c : Cursor) : Reply Term → Prop
  | .ok _ alt next => Reaches ⟨.operator, d⟩ c ⟨.more, d⟩ next ∧
      next.rest.head?.any isBlank = false ∧ ∃ why, alt = some why ∧ Fails ⟨.operand, d⟩ next why
  | .fail why => Fails ⟨.operator, d⟩ c why

/-- The rule reads the operands of texts shorter than `n` along the stages. -/
def FollowsStages (n : Nat) (r : Rule Term) : Prop :=
  ∀ d c, c.rest.length < n → c.rest.head?.any isBlank = false → OperandOutcome d c (r c)

section
variable {r : Rule Term} {n d : Nat} {c : Cursor}

/-- A literal is an operand. -/
theorem run_literal {cs : List Char} (h : Lexeme.IsLiteral cs) :
    Stage.run ⟨.operand, d⟩ cs = some ⟨.more, d⟩ := by
  obtain ⟨ds, hne, hds, hcs⟩ := h
  obtain ⟨x, ds, rfl⟩ := List.exists_cons_of_ne_nil hne
  have hx : x.isDigit = true := hds x (.head _)
  have hminus : x ≠ '-' := by rintro rfl; exact absurd hx (by decide)
  have hlast := Stage.run_digits (d := d) fun y hy => hds y (.tail _ hy)
  rcases hcs with rfl | rfl
  · have hstep : Stage.step ⟨.operand, d⟩ x = some ⟨.more, d⟩ := by
      simp [Stage.step, Stage.enter?, isBlank_of_isDigit hx, hminus, hx]
    rw [Stage.run_cons, hstep]
    exact hlast
  · have hstep : Stage.step ⟨.digit, d⟩ x = some ⟨.more, d⟩ := by
      simp [Stage.step, hx]
    have hsign : Stage.step ⟨.operand, d⟩ '-' = some ⟨.digit, d⟩ := rfl
    rw [Stage.run_cons, hsign]
    show Stage.run ⟨.digit, d⟩ (x :: ds) = some ⟨.more, d⟩
    rw [Stage.run_cons, hstep]
    exact hlast

/-- An operator symbol is read where one stands. -/
theorem operator_ok {x : Char} (hx : x ∈ Operator.symbols) (p : Nat) (xs : List Char) :
    operator ⟨p, x :: xs⟩ = .ok x.toString none ⟨p + 1, xs⟩ := by
  simp [operator, Rule.named, Lexeme.symbol, Rule.map, Rule.oneOf, Rule.token, hx]

/-- An operator symbol is expected where none stands. -/
theorem operator_fail (h : ∀ x ∈ c.rest.head?, x ∉ Operator.symbols) :
    operator c = .fail (c.refuseAs (.named "operator") (Operator.symbols.map .char)) := by
  have hclass : c.rest.head?.any (Operator.symbols.contains ·) = false := by
    cases hx : c.rest.head? with
    | none => rfl
    | some x => simpa using h x hx
  simp only [operator, Rule.named, Lexeme.symbol, Rule.map, Rule.oneOf,
    Rule.token_fail hclass]
  rfl

/-- A group is expected where no parenthesis stands. -/
theorem group_fail (h : c.rest.head? ≠ some '(') : group r c = .fail (c.refuse [.char '(']) := by
  have hopen : (Rule.char '(').keepRight (application .grouped r).spaced c =
      .fail (c.refuse [.char '(']) := by
    rw [Rule.keepRight, Rule.map, Rule.andThen_fail (Rule.char_fail h)]
  rw [group, Rule.keepLeft, Rule.map, Rule.andThen_fail hopen]

/-- With blanks around it, an operand is read along the stages from any place. -/
theorem FollowsStages.spaced_outcome (hr : FollowsStages n r) (hn : c.rest.length < n) :
    OperandOutcome d c (r.spaced c) ∧
      ∀ t alt next, r.spaced c = .ok t alt next → next.rest.head?.any isBlank = false := by
  have hblanks := Stage.reaches_skipBlanks (s := ⟨.operand, d⟩) (by simp) c
  have houtcome := hr d c.skipBlanks (Nat.lt_of_le_of_lt hblanks.length_le hn)
    (head?_dropWhile_isBlank c.rest)
  cases hc : r c.skipBlanks with
  | fail why =>
    rw [hc] at houtcome
    rw [Rule.spaced, hc]
    refine ⟨hblanks.fails houtcome, ?_⟩
    intro t alt next h
    cases h
  | ok t alt mid =>
    rw [hc] at houtcome
    obtain ⟨hreach, hharm⟩ := houtcome
    have hafter := Stage.reaches_skipBlanks (s := ⟨.more, d⟩) (by simp) mid
    rw [Rule.spaced, hc]
    refine ⟨⟨(hblanks.trans hreach).trans hafter, hharm.of_reaches hafter⟩, ?_⟩
    intro t alt next h
    cases h
    exact head?_dropWhile_isBlank mid.rest

/-- A list of operands that may go on is read along the stages up to where one more operand fails,
and that failure is all it carries along. The bound on its length is not met, since every operand
takes a character. -/
theorem FollowsStages.manyUpTo_outcome (hr : FollowsStages n r) {k : Nat} (hk : c.rest.length < k)
    (hn : c.rest.length < n) (hc : c.rest.head?.any isBlank = false) {alt : Option Failure}
    (halt : Harmless alt c) : ∃ ts why next, Rule.manyUpTo r.spaced k alt c = (ts, some why, next) ∧
      Reaches ⟨.more, d⟩ c ⟨.more, d⟩ next ∧ next.rest.head?.any isBlank = false ∧
      Fails ⟨.operand, d⟩ next why := by
  induction k generalizing c alt with
  | zero => exact absurd hk (Nat.not_lt_zero _)
  | succ k ih =>
    obtain ⟨houtcome, hblank⟩ := hr.spaced_outcome (d := d) hn
    cases hread : r.spaced c with
    | fail why =>
      rw [hread] at houtcome
      refine ⟨[], why, c, ?_, .refl _ c, hc, houtcome⟩
      rw [Rule.manyUpTo, hread]
      simp only [halt.furthest_fails hc houtcome]
    | ok t alt₁ mid =>
      rw [hread] at houtcome
      obtain ⟨hreach, hharm⟩ := houtcome
      have hlt := hreach.length_lt (by simp)
      have hpos := hreach.pos_lt (by simp)
      obtain ⟨ts, why, next, hmany, hrest, hnext, hfails⟩ :=
        ih (by omega) (by omega) (hblank t alt₁ mid hread) (halt.furthest hharm hpos)
      refine ⟨t :: ts, why, next, ?_, (hreach.more_of_operand hc).trans hrest, hnext, hfails⟩
      rw [Rule.manyUpTo, hread]
      simp only [hmany]

/-- An application is read along the stages. -/
theorem FollowsStages.application_outcome (hr : FollowsStages n r) (hn : c.rest.length ≤ n)
    (hc : c.rest.head?.any isBlank = false) (form : Form) :
    ApplicationOutcome d c (application form r c) := by
  obtain ⟨p, cs⟩ := c
  by_cases hop : ∃ x xs, cs = x :: xs ∧ x ∈ Operator.symbols
  · obtain ⟨x, xs, rfl, hx⟩ := hop
    have hstep : Stage.step ⟨.operator, d⟩ x = some ⟨.operand, d⟩ := by
      simp [Stage.step, isBlank_of_mem_symbols hx, hx]
    have hsymbol := Stage.reaches_step hstep p xs
    have hlen : xs.length < n := hn
    obtain ⟨houtcome, hblank⟩ := hr.spaced_outcome (d := d) (c := ⟨p + 1, xs⟩) hlen
    rw [application, Rule.map]
    cases hfirst : r.spaced ⟨p + 1, xs⟩ with
    | fail why =>
      rw [hfirst] at houtcome
      rw [Rule.andThen_fail (Rule.andThen_ok_fail (operator_ok hx p xs) hfirst rfl)]
      exact hsymbol.fails houtcome
    | ok t alt mid =>
      rw [hfirst] at houtcome
      obtain ⟨hreach, hharm⟩ := houtcome
      have hle := hreach.length_le
      obtain ⟨ts, why, next, hmany, hrest, hnext, hfails⟩ := hr.manyUpTo_outcome (d := d)
        (Nat.lt_succ_self mid.rest.length) (Nat.lt_of_le_of_lt hle hlen)
        (hblank t alt mid hfirst) (.none mid)
      have hothers : Rule.many r.spaced mid = .ok ts (some why) next := by
        simp only [Rule.many, Rule.manyAfter, hmany]
      rw [Rule.andThen_ok_ok (Rule.andThen_ok_ok (operator_ok hx p xs) hfirst) hothers]
      refine ⟨(hsymbol.trans hreach).trans hrest, hnext, why, ?_, hfails⟩
      exact (hharm.of_reaches hrest).furthest_fails hnext hfails
  · have hnone : ∀ x ∈ cs.head?, x ∉ Operator.symbols := by
      intro x hx hmem
      cases cs with
      | nil => cases hx
      | cons y ys => cases hx; exact hop ⟨x, ys, rfl, hmem⟩
    rw [application, Rule.map,
      Rule.andThen_fail (Rule.andThen_fail (operator_fail (c := ⟨p, cs⟩) hnone))]
    exact Stuck.fails (Stage.stuck_operator hc hnone)

/-- With blanks around it, an application is read along the stages from any place. -/
theorem FollowsStages.spacedApplication_outcome (hr : FollowsStages n r) (hn : c.rest.length ≤ n)
    (form : Form) : ApplicationOutcome d c ((application form r).spaced c) := by
  have hblanks := Stage.reaches_skipBlanks (s := ⟨.operator, d⟩) (by simp) c
  have houtcome := hr.application_outcome (d := d) (Nat.le_trans hblanks.length_le hn)
    (head?_dropWhile_isBlank c.rest) form
  rw [Rule.spaced]
  cases hc : application form r c.skipBlanks with
  | fail why =>
    rw [hc] at houtcome
    exact hblanks.fails houtcome
  | ok t alt next =>
    rw [hc] at houtcome
    obtain ⟨hreach, hnext, hfails⟩ := houtcome
    have hsame := Cursor.skipBlanks_eq_self hnext
    show ApplicationOutcome d c (.ok t alt next.skipBlanks)
    rw [hsame]
    exact ⟨hblanks.trans hreach, hnext, hfails⟩

/-- A closing parenthesis after an application ends it, or is refused where the stages get stuck. -/
theorem FollowsStages.group_outcome (hr : FollowsStages n r) {p : Nat} {cs : List Char}
    (hn : cs.length ≤ n) : OperandOutcome d ⟨p, '(' :: cs⟩ (group r ⟨p, '(' :: cs⟩) := by
  have hopen : Reaches ⟨.operand, d⟩ ⟨p, '(' :: cs⟩ ⟨.operator, d + 1⟩ ⟨p + 1, cs⟩ :=
    Stage.reaches_step rfl p cs
  have houtcome := hr.spacedApplication_outcome (d := d + 1) (c := ⟨p + 1, cs⟩) hn .grouped
  have hbody := Rule.keepRight_char '(' (application .grouped r).spaced p cs
  rw [group, Rule.keepLeft, Rule.map]
  cases happ : (application .grouped r).spaced ⟨p + 1, cs⟩ with
  | fail why =>
    rw [happ] at houtcome hbody
    rw [Rule.andThen_fail hbody]
    exact hopen.fails houtcome
  | ok t alt next =>
    rw [happ] at houtcome hbody
    obtain ⟨hreach, hnext, why, rfl, hfails⟩ := houtcome
    by_cases hclose : Closes (d + 1) next.rest
    · obtain ⟨q, cs⟩ := next
      cases cs with
      | nil => cases hclose
      | cons x xs =>
        cases hclose
        have hparen : Rule.char ')' ⟨q, ')' :: xs⟩ = .ok ')' none ⟨q + 1, xs⟩ := rfl
        rw [Rule.andThen_ok_ok hbody hparen]
        refine ⟨(hopen.trans hreach).trans (Stage.reaches_step rfl q xs), ?_⟩
        -- No operand starts with the parenthesis, so the last attempt failed before it.
        have hstuck : Stuck ⟨.operand, d + 1⟩ (')' :: xs) := rfl
        cases hfails.eq_refusal hstuck
        intro f hf
        cases hf
        exact .inl (Nat.lt_succ_self q)
    · have hparen : Rule.char ')' next = .fail (next.refuse [.char ')']) := Rule.char_fail hclose
      rw [Rule.andThen_ok_fail hbody hparen rfl]
      exact (hopen.trans hreach).fails (hfails.closer hnext hclose)

/-- A literal is read as an operand. -/
theorem literal_outcome {p : Nat} {cs rest : List Char} (hcs : Lexeme.IsLiteral cs)
    (hrest : rest.head?.any Char.isDigit = false) :
    OperandOutcome d ⟨p, cs ++ rest⟩ (number.orElse (group r) ⟨p, cs ++ rest⟩) := by
  rw [Rule.orElse_ok (number_ok hcs hrest)]
  refine ⟨⟨cs, rfl, rfl, run_literal hcs⟩, ?_⟩
  intro f hf
  cases hf
  exact .inr rfl

/-- After a minus sign without a digit, the failure of the number is all that is reported. -/
theorem sign_outcome {p : Nat} {rest : List Char} (hrest : rest.head?.any Char.isDigit = false) :
    OperandOutcome d ⟨p, '-' :: rest⟩ (number.orElse (group r) ⟨p, '-' :: rest⟩) := by
  have hgroup := group_fail (r := r) (c := ⟨p, '-' :: rest⟩) (by simp)
  have hsign := Stage.reaches_step (s := ⟨.operand, d⟩) (x := '-') rfl p rest
  rw [Rule.orElse_fail_fail (number_fail_sign hrest) hgroup,
    Failure.further_eq_left (Nat.lt_succ_self p)]
  exact hsign.fails (Stuck.fails (Stage.stuck_digit hrest))

/-- At a parenthesis, the failure of the number lies behind all that a group reports. -/
theorem FollowsStages.paren_outcome (hr : FollowsStages n r) {p : Nat} {cs : List Char}
    (hn : cs.length ≤ n) :
    OperandOutcome d ⟨p, '(' :: cs⟩ (number.orElse (group r) ⟨p, '(' :: cs⟩) := by
  have hnumber : number ⟨p, '(' :: cs⟩ = .fail _ := number_fail (by simp) rfl
  have houtcome := hr.group_outcome (d := d) (p := p) hn
  cases hgroup : group r ⟨p, '(' :: cs⟩ with
  | ok t alt next =>
    rw [hgroup] at houtcome
    rw [Rule.orElse_fail_ok hnumber hgroup]
    exact houtcome
  | fail why =>
    rw [hgroup] at houtcome
    rw [Rule.orElse_fail_fail hnumber hgroup]
    rcases houtcome.cases with ⟨hstuck, -⟩ | ⟨-, -, -, -, -, -, hlt⟩
    · cases hstuck
    · rw [Failure.further_eq_right hlt]
      exact houtcome

/-- Where no operand starts, a number and a group are both expected. -/
theorem neither_outcome {p : Nat} {rest : List Char} (hblank : rest.head?.any isBlank = false)
    (hdigit : rest.head?.any Char.isDigit = false) (hsign : rest.head? ≠ some '-')
    (hopen : rest.head? ≠ some '(') :
    OperandOutcome d ⟨p, rest⟩ (number.orElse (group r) ⟨p, rest⟩) := by
  have hgroup := group_fail (r := r) (c := ⟨p, rest⟩) hopen
  rw [Rule.orElse_fail_fail (number_fail hsign hdigit) hgroup, Cursor.refuse_eq_refuseAs,
    Failure.further_refuseAs]
  exact Stuck.fails (Stage.stuck_operand hblank hdigit hsign hopen)

/-- However deep operands may nest, those short enough are read along the stages. -/
theorem followsStages_operandUpTo (n : Nat) : FollowsStages n (operandUpTo n) := by
  induction n with
  | zero =>
    intro d c hn
    exact absurd hn (Nat.not_lt_zero _)
  | succ n ih =>
    intro d c hn hc
    obtain ⟨p, cs⟩ := c
    rw [operandUpTo_succ]
    rcases Lexeme.literal_cases cs with ⟨ds, rest, rfl, hds, hrest⟩ | ⟨rest, rfl, hrest⟩ |
      ⟨hsign, hdigit⟩
    · exact literal_outcome hds hrest
    · exact sign_outcome hrest
    · by_cases hopen : cs.head? = some '('
      · obtain ⟨cs, rfl⟩ := List.head?_eq_some_iff.1 hopen
        exact ih.paren_outcome (Nat.le_of_lt_succ (Nat.lt_of_succ_lt hn))
      · exact neither_outcome hc hdigit hsign hopen

end

end Grammar

end PrefixCalc
