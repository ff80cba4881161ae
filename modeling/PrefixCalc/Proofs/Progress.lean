import Mathlib.Data.List.Forall2
import Mathlib.Logic.Function.Iterate
import Mathlib.Order.Basic
import PrefixCalc.Proofs.Parsing
import PrefixCalc.Proofs.Placement

/-!
# Reading goes forward and comes to an end

The places of a text are ordered, and every rule of the grammar that succeeds ends at a later place
than it started from (`Rule.Forward`). An operand refers to itself only inside of parentheses, so
what is read at a place is settled by what is read at later places (`Rule.Guarded`).

That is enough for the recursion to end, and it makes the bound that `Rule.recursive` puts on it
immaterial: unrolled more often than there are characters left, the rule does not depend on what
stands at the bottom (`Rule.Guarded.iterate_eq_recursive`), and it is the one rule that satisfies
the recursive equation without any bound (`Rule.Guarded.recursive_unique`). The bound on the number
of items of a repetition is immaterial in the same way (`Rule.Forward.manyUpTo_eq`).
-/

namespace PrefixCalc

/-! ## The order of places -/

namespace Cursor

/-- One place is at or before another one of the same text. -/
instance : Preorder Cursor where
  le c c' := ∃ cs, c.rest = cs ++ c'.rest ∧ c'.pos = c.pos + cs.length
  le_refl _ := ⟨[], rfl, rfl⟩
  le_trans := by
    rintro a b c ⟨cs, hrest, hpos⟩ ⟨cs', hrest', hpos'⟩
    refine ⟨cs ++ cs', ?_, ?_⟩
    · rw [hrest, hrest', List.append_assoc]
    · rw [hpos', hpos, List.length_append, Nat.add_assoc]

section
variable {c c' : Cursor}

theorem pos_lt_of_lt (h : c < c') : c.pos < c'.pos := by
  obtain ⟨⟨cs, hrest, hpos⟩, hnot⟩ := h
  cases cs with
  | nil => exact absurd ⟨[], hrest.symm, hpos.symm⟩ hnot
  | cons x cs =>
    rw [List.length_cons] at hpos
    omega

/-- Fewer characters are left at a later place. -/
theorem length_lt_of_lt (h : c < c') : c'.rest.length < c.rest.length := by
  have hlt := pos_lt_of_lt h
  obtain ⟨cs, hrest, hpos⟩ := h.le
  rw [hrest, List.length_append]
  omega

theorem lt_of_le_of_pos_lt (h : c ≤ c') (hpos : c.pos < c'.pos) : c < c' := by
  refine ⟨h, ?_⟩
  rintro ⟨cs, -, hback⟩
  omega

/-- One character on. -/
theorem lt_of_rest_eq_cons {x : Char} (hrest : c.rest = x :: c'.rest) (hpos : c'.pos = c.pos + 1) :
    c < c' :=
  lt_of_le_of_pos_lt ⟨[x], hrest, hpos⟩ (by omega)

theorem le_skipBlanks (c : Cursor) : c ≤ c.skipBlanks := by
  obtain ⟨w, -, hrest, hpos⟩ := c.exists_blanks
  exact ⟨w, hrest, hpos⟩

/-- A later place is one of the same text. -/
theorem In.of_le {text : List Char} (hc : c.In text) (h : c ≤ c') : c'.In text := by
  obtain ⟨cs, hrest, hpos⟩ := h
  have hin := hc.advance hrest
  rwa [← hpos] at hin

/-- No place is behind the end of the text. -/
theorem In.pos_le {text : List Char} (hc : c.In text) : c.pos ≤ text.length := by
  obtain ⟨before, htext, hpos⟩ := hc
  rw [htext, List.length_append]
  omega

theorem In.length_le {text : List Char} (hc : c.In text) : c.rest.length ≤ text.length := by
  obtain ⟨before, htext, -⟩ := hc
  rw [htext, List.length_append]
  omega

end

end Cursor

namespace Rule

variable {α β : Type}

/-! ## Rules that go forward -/

/-- Wherever the rule succeeds, it ends at a later place. -/
def Forward (r : Rule α) : Prop := ∀ c a next, Reads r c a next → c < next

/-- Started at the place, the rule ends at a later place of the text if it succeeds. -/
def AdvancesFrom (r : Rule α) (c : Cursor) (text : List Char) : Prop :=
  ∀ a alt next, r c = .ok a alt next →
    next.In text ∧ c.pos < next.pos ∧ next.pos ≤ text.length

section
variable {r r' : Rule α} {s s' : Rule β} {c next : Cursor}

theorem Forward.advancesFrom (hr : Forward r) {text : List Char} (hc : c.In text) :
    r.AdvancesFrom c text := by
  intro a alt next h
  have hlt : c < next := hr c a next ⟨alt, h⟩
  have hnext := hc.of_le hlt.le
  exact ⟨hnext, Cursor.pos_lt_of_lt hlt, hnext.pos_le⟩

theorem Forward.progresses (hr : Forward r) : Progresses r :=
  fun c a next h => Cursor.length_lt_of_lt (hr c a next h)

theorem Forward.spaced (hr : Forward r) : Forward r.spaced := by
  intro c a next h
  obtain ⟨mid, hmid, rfl⟩ := reads_spaced.1 h
  calc c ≤ c.skipBlanks := c.le_skipBlanks
    _ < mid := hr _ _ _ hmid
    _ ≤ mid.skipBlanks := mid.le_skipBlanks

/-- Items that are read one after another end at no earlier place. -/
theorem Forward.le_of_readsEach (hr : Forward r) {as : List α} (h : ReadsEach r c as next) :
    c ≤ next := by
  induction h with
  | nil _ => exact le_refl _
  | cons hread _ ih => exact (hr _ _ _ hread).le.trans ih

/-! ## Rules that agree at places -/

theorem map_congr {f : α → β} (h : r c = r' c) : map f r c = map f r' c := by
  simp only [map, h]

theorem spaced_congr (h : r c.skipBlanks = r' c.skipBlanks) : r.spaced c = r'.spaced c := by
  simp only [spaced, h]

theorem orElse_congr {q q' : Rule α} (h : r c = r' c) (hq : q c = q' c) :
    r.orElse q c = r'.orElse q' c := by
  simp only [orElse, h, hq]

/-- A sequence depends on its second part only where the first part ends. -/
theorem andThen_congr (h : r c = r' c) (hs : ∀ a next, Reads r c a next → s next = s' next) :
    r.andThen s c = r'.andThen s' c := by
  cases hrc : r c with
  | fail why => rw [andThen_fail hrc, andThen_fail (h.symm.trans hrc)]
  | ok a alt mid =>
    have hmid := hs a mid ⟨alt, hrc⟩
    rw [andThen, andThen, ← h, hrc]
    simp only [hmid]

theorem choiceAfter_congr {rs rs' : List (Rule α)}
    (h : List.Forall₂ (fun q q' => q c = q' c) rs rs') (seen : Option Failure) :
    choiceAfter seen rs c = choiceAfter seen rs' c := by
  induction h generalizing seen with
  | nil => rfl
  | cons hq _ ih => simp only [choiceAfter, hq, ih]

/-- A repetition depends on its items only from where it starts on. -/
theorem Forward.manyUpTo_congr (hr : Forward r) (h : ∀ c', c ≤ c' → r c' = r' c') (n : Nat)
    (alt : Option Failure) : manyUpTo r n alt c = manyUpTo r' n alt c := by
  induction n generalizing c alt with
  | zero => rfl
  | succ n ih =>
    have hc := h c (le_refl c)
    cases hrc : r c with
    | fail why => simp only [manyUpTo, hrc, ← hc]
    | ok a alt' mid =>
      have hlt : c < mid := hr c a mid ⟨alt', hrc⟩
      have hmid := ih (fun c' hle => h c' (hlt.le.trans hle)) (Failure.furthest? alt alt')
      simp only [manyUpTo, hrc, ← hc, hmid]

theorem Forward.many_congr (hr : Forward r) (h : ∀ c', c ≤ c' → r c' = r' c') :
    many r c = many r' c := by
  simp only [many, manyAfter, hr.manyUpTo_congr h]

/-- The bound on the number of items of a repetition is never met. -/
theorem Forward.manyUpTo_eq (hr : Forward r) {n m : Nat} (hn : c.rest.length < n)
    (hm : c.rest.length < m) (alt : Option Failure) :
    manyUpTo r n alt c = manyUpTo r m alt c := by
  induction n generalizing m c alt with
  | zero => omega
  | succ n ih =>
    obtain ⟨m, rfl⟩ : ∃ k, m = k + 1 := ⟨m - 1, by omega⟩
    cases hrc : r c with
    | fail why => simp only [manyUpTo, hrc]
    | ok a alt' mid =>
      have hlt := Cursor.length_lt_of_lt (hr c a mid ⟨alt', hrc⟩)
      simp only [manyUpTo, hrc, ih (m := m) (show mid.rest.length < n by omega) (by omega)]

end

/-! ## Recursion -/

/-- The rule that is made of another one goes forward if that one does, and what it does at a place
depends on that one at later places only. -/
structure Guarded (f : Rule α → Rule α) : Prop where
  forward {r : Rule α} : Forward r → Forward (f r)
  congr {r r' : Rule α} {c : Cursor} : Forward r → (∀ c', c < c' → r c' = r' c') → f r c = f r' c

theorem forward_never : Forward (never : Rule α) := by
  rintro c a next ⟨alt, h⟩
  cases h

theorem unroll_eq_iterate (f : Rule α → Rule α) (n : Nat) : unroll f n = f^[n] never := by
  induction n with
  | zero => rfl
  | succ n ih =>
    rw [Function.iterate_succ_apply', ← ih]
    rfl

theorem recursive_eq_iterate (f : Rule α → Rule α) (c : Cursor) :
    recursive f c = f^[c.rest.length + 1] never c := by
  rw [recursive, unroll_eq_iterate]

namespace Guarded

variable {f : Rule α → Rule α}

theorem forward_iterate (hf : Guarded f) {r : Rule α} (hr : Forward r) (n : Nat) :
    Forward (f^[n] r) := by
  induction n with
  | zero => exact hr
  | succ n ih =>
    rw [Function.iterate_succ_apply']
    exact hf.forward ih

/-- Unrolled more often than there are characters left, the rule does the same, however often that
is and whatever stands at the bottom. -/
theorem iterate_congr (hf : Guarded f) {r : Rule α} (hr : Forward r) (r' : Rule α) {n m : Nat}
    {c : Cursor} (hn : c.rest.length < n) (hm : c.rest.length < m) : f^[n] r c = f^[m] r' c := by
  induction n generalizing m c with
  | zero => omega
  | succ n ih =>
    obtain ⟨m, rfl⟩ : ∃ k, m = k + 1 := ⟨m - 1, by omega⟩
    rw [Function.iterate_succ_apply', Function.iterate_succ_apply']
    refine hf.congr (hf.forward_iterate hr n) ?_
    intro c' hlt
    have hlength := Cursor.length_lt_of_lt hlt
    exact ih (by omega) (by omega)

/-- The bottom of the recursion is never reached. -/
theorem iterate_eq_recursive (hf : Guarded f) (last : Rule α) {n : Nat} {c : Cursor}
    (hn : c.rest.length < n) : f^[n] last c = recursive f c := by
  rw [recursive_eq_iterate]
  exact (hf.iterate_congr forward_never last (Nat.lt_succ_self _) hn).symm

/-- The rule satisfies its recursive equation. -/
theorem recursive_eq (hf : Guarded f) (c : Cursor) : recursive f c = f (recursive f) c := by
  rw [recursive_eq_iterate, Function.iterate_succ_apply']
  refine hf.congr (hf.forward_iterate forward_never _) ?_
  intro c' hlt
  exact hf.iterate_eq_recursive never (Cursor.length_lt_of_lt hlt)

theorem forward_recursive (hf : Guarded f) : Forward (recursive f) := by
  rintro c a next ⟨alt, h⟩
  rw [recursive_eq_iterate] at h
  exact hf.forward_iterate forward_never _ c a next ⟨alt, h⟩

/-- No other rule satisfies the recursive equation. -/
theorem recursive_unique (hf : Guarded f) {r : Rule α} (hr : ∀ c, r c = f r c) :
    r = recursive f := by
  have hlength : ∀ n c, c.rest.length = n → recursive f c = r c := by
    intro n
    induction n using Nat.strongRecOn with
    | ind n ih =>
      rintro c rfl
      rw [hf.recursive_eq, hr]
      refine hf.congr hf.forward_recursive ?_
      intro c' hlt
      exact ih _ (Cursor.length_lt_of_lt hlt) c' rfl
  funext c
  exact (hlength _ c rfl).symm

end Guarded

end Rule

/-! ## The grammar -/

namespace Grammar

open Rule (Reads ReadsEach Forward Guarded)

section
variable {r r' : Rule Term} {c : Cursor}

theorem forward_number : Forward number := by
  intro c t next h
  obtain ⟨cs, rest, hc, hcs, -, -, rfl⟩ := reads_number.1 h
  obtain ⟨x, xs, rfl, -⟩ := hcs.head
  exact Cursor.lt_of_le_of_pos_lt ⟨x :: xs, hc, rfl⟩ (by simp)

theorem forward_operator : Forward operator := by
  intro c op next h
  obtain ⟨x, -, hrest, hpos, -⟩ := reads_operator.1 h
  exact Cursor.lt_of_rest_eq_cons hrest hpos

theorem forward_application (form : Form) (hr : Forward r) : Forward (application form r) := by
  intro c t next h
  obtain ⟨x, first, others, mid, -, hrest, hpos, heach, -⟩ := (reads_application hr.progresses).1 h
  exact (Cursor.lt_of_rest_eq_cons hrest hpos).trans_le (hr.spaced.le_of_readsEach heach)

theorem forward_group (hr : Forward r) : Forward (group r) := by
  intro c t next h
  obtain ⟨s, mid, hopen, happ, hclose, hpos⟩ := reads_group.1 h
  calc c < ⟨c.pos + 1, s⟩ := Cursor.lt_of_rest_eq_cons hopen rfl
    _ ≤ Cursor.skipBlanks ⟨c.pos + 1, s⟩ := Cursor.le_skipBlanks _
    _ < mid := forward_application .grouped hr _ _ _ happ
    _ ≤ mid.skipBlanks := mid.le_skipBlanks
    _ < next := Cursor.lt_of_rest_eq_cons hclose hpos

/-- Rules that agree at later places still do if blanks are put around them. -/
theorem agree_spaced (h : ∀ c', c < c' → r c' = r' c') :
    ∀ c', c < c' → r.spaced c' = r'.spaced c' :=
  fun c' hlt => Rule.spaced_congr (h _ (hlt.trans_le c'.le_skipBlanks))

/-- An application looks for operands behind its operator. -/
theorem application_congr (form : Form) (hr : Forward r) (h : ∀ c', c < c' → r c' = r' c') :
    application form r c = application form r' c := by
  have hspaced := agree_spaced h
  refine Rule.map_congr (Rule.andThen_congr (Rule.andThen_congr rfl ?_) ?_)
  · intro op mid hop
    exact hspaced mid (forward_operator _ _ _ hop)
  · intro v mid hv
    obtain ⟨start, hop, hfirst⟩ := Rule.reads_andThen.1 hv
    have hlt : c < mid := (forward_operator _ _ _ hop).trans (hr.spaced _ _ _ hfirst)
    exact hr.spaced.many_congr fun c' hle => hspaced c' (hlt.trans_le hle)

/-- A group looks for operands behind its parenthesis. -/
theorem group_congr (hr : Forward r) (h : ∀ c', c < c' → r c' = r' c') :
    group r c = group r' c := by
  refine Rule.map_congr (Rule.andThen_congr (Rule.map_congr (Rule.andThen_congr rfl ?_))
    fun _ _ _ => rfl)
  intro x mid hopen
  obtain ⟨-, hrest, hpos⟩ := Rule.reads_char.1 hopen
  have hlt : c < mid.skipBlanks :=
    (Cursor.lt_of_rest_eq_cons hrest hpos).trans_le mid.le_skipBlanks
  exact Rule.spaced_congr (application_congr .grouped hr fun c' hlt' => h c' (hlt.trans hlt'))

end

/-- What an operand is made of: a number, or a group of operands. -/
def operandOf (inner : Rule Term) : Rule Term := number.orElse (group inner)

theorem guarded_operandOf : Guarded operandOf where
  forward hr c t next h := by
    rcases Rule.reads_orElse.1 h with h | ⟨-, h⟩
    · exact forward_number c t next h
    · exact forward_group hr c t next h
  congr hr h := Rule.orElse_congr rfl (group_congr hr h)

theorem operand_eq_recursive : operand = Rule.recursive operandOf := rfl

theorem forward_operand : Forward operand := by
  rw [operand_eq_recursive]
  exact guarded_operandOf.forward_recursive

/-! ## Whole lines -/

/-- A program whose operands are read by the given rule. -/
def programOver (r : Rule Term) : Rule Term := (application .bare r).spaced

/-- A request whose operands are read by the given rule. -/
def requestOver (r : Rule Term) (verb : Verb) : Rule Command :=
  ((Rule.char ':').andThen (Lexeme.keyword verb.name)).keepRight (programOver r)
    |>.map fun t => ⟨verb, t⟩

/-- A line whose operands are read by the given rule. -/
def lineOver (r : Rule Term) : Rule Command :=
  (Rule.choice (Verb.all.map (requestOver r) ++
    [(programOver r).map fun t => ⟨.eval, t⟩])).keepLeft Rule.endOfInput

theorem line_eq_lineOver : line = lineOver operand := rfl

section
variable {r r' : Rule Term} {text : List Char} {c : Cursor}

theorem programOver_congr (hr : Forward r) (h : ∀ c', c'.In text → r c' = r' c')
    (hc : c.In text) : programOver r c = programOver r' c := by
  refine Rule.spaced_congr (application_congr .bare hr ?_)
  intro c' hlt
  exact h c' (hc.skipBlanks.of_le hlt.le)

theorem requestOver_congr (hr : Forward r) (h : ∀ c', c'.In text → r c' = r' c')
    (hc : c.In text) (verb : Verb) : requestOver r verb c = requestOver r' verb c := by
  have hverb : ((Rule.char ':').andThen (Lexeme.keyword verb.name)).Points text :=
    (Rule.Points.token _ _).andThen (Lexeme.points_keyword verb.name)
  refine Rule.map_congr (Rule.map_congr (Rule.andThen_congr rfl ?_))
  rintro v mid ⟨alt, hread⟩
  have hpoints := hverb c hc
  rw [hread] at hpoints
  exact programOver_congr hr h hpoints.1

/-- Rules that agree in the text read the same lines in it, with the same failures. -/
theorem lineOver_congr (hr : Forward r) (h : ∀ c', c'.In text → r c' = r' c')
    (hc : c.In text) : lineOver r c = lineOver r' c := by
  refine Rule.map_congr (Rule.andThen_congr (Rule.choiceAfter_congr ?_ none) fun _ _ _ => rfl)
  refine List.rel_append ?_ (.cons (Rule.map_congr (programOver_congr hr h hc)) .nil)
  rw [List.forall₂_map_left_iff, List.forall₂_map_right_iff, List.forall₂_same]
  intro verb _
  exact requestOver_congr hr h hc verb

end

/-- Lines are read as they are if the recursion is cut off deeper than the line is long. -/
theorem read_lineOver_iterate (text : String) (last : Rule Term) {n : Nat} (hn : text.length < n) :
    (lineOver (operandOf^[n] last)).read text = parse text := by
  have hline : line (Cursor.ofText text) = lineOver (operandOf^[n] last) (Cursor.ofText text) := by
    rw [line_eq_lineOver]
    refine lineOver_congr forward_operand ?_ (Cursor.in_ofText text)
    intro c hc
    have hlength : c.rest.length < n := by
      have hle := hc.length_le
      rw [String.length_toList] at hle
      omega
    rw [operand_eq_recursive]
    exact (guarded_operandOf.iterate_eq_recursive last hlength).symm
  rw [parse, Rule.read, Rule.read, hline]

/-- Started at any place of a text, the rules for numbers, operands, applications and programs end
at a later place of it if they succeed, and so does each item of a list of operands. What an operand
is made of depends on the operands in it at later places only. So the bounds on nesting and on the
length of a list are never met: nested one level deeper than there are characters, whatever stands
at the bottom, operands are read the same and so is the whole line. Without a bound, the recursive
equation for operands has this one solution. -/
theorem reading_goes_forward (text : String) :
    (∀ c : Cursor, c.In text.toList →
      number.AdvancesFrom c text.toList ∧ operand.AdvancesFrom c text.toList ∧
      (∀ form, (application form operand).AdvancesFrom c text.toList) ∧
      program.AdvancesFrom c text.toList ∧ operand.spaced.AdvancesFrom c text.toList ∧
      (∀ inner inner' : Rule Term, Forward inner →
        (∀ c', c'.In text.toList → c.pos < c'.pos → inner c' = inner' c') →
        operandOf inner c = operandOf inner' c) ∧
      (∀ n alt, text.length < n →
        Rule.manyUpTo operand.spaced n alt c = Rule.manyAfter operand.spaced alt c) ∧
      ∀ n last, text.length < n → operandOf^[n] last c = operand c) ∧
    (∀ n last, text.length < n → (lineOver (operandOf^[n] last)).read text = parse text) ∧
    ∀ r : Rule Term, (∀ c, r c = operandOf r c) ↔ r = operand := by
  refine ⟨?_, fun n last => read_lineOver_iterate text last, ?_⟩
  · intro c hc
    have hlength : c.rest.length ≤ text.length := by
      rw [← String.length_toList]
      exact hc.length_le
    refine ⟨forward_number.advancesFrom hc, forward_operand.advancesFrom hc,
      fun form => (forward_application form forward_operand).advancesFrom hc,
      (forward_application .bare forward_operand).spaced.advancesFrom hc,
      forward_operand.spaced.advancesFrom hc, ?_, ?_, ?_⟩
    · intro inner inner' hinner hagree
      refine guarded_operandOf.congr hinner ?_
      intro c' hlt
      exact hagree c' (hc.of_le hlt.le) (Cursor.pos_lt_of_lt hlt)
    · intro n alt hn
      exact forward_operand.spaced.manyUpTo_eq (by omega) (Nat.lt_succ_self _) alt
    · intro n last hn
      exact guarded_operandOf.iterate_eq_recursive last (by omega)
  · intro r
    constructor
    · exact guarded_operandOf.recursive_unique
    · rintro rfl
      exact guarded_operandOf.recursive_eq

/-- A group that is read from the middle of a line, and a line with unclosed groups, which is
refused the same if a rule that reads nothing stands at the bottom of the recursion. -/
theorem reading_goes_forward_nested :
    let c : Cursor := ⟨2, "(* 1 (- 2)) 3".toList⟩
    let nothing : Rule Term := fun c => .ok (.number "") none c
    c.In "+ (* 1 (- 2)) 3".toList ∧
    (∃ t alt next, operand c = .ok t alt next ∧ 2 < next.pos ∧ next.pos ≤ 15) ∧
    ∃ d, parse "+ (* (" = .error d ∧
      (lineOver (operandOf^[7] nothing)).read "+ (* (" = .error d := by
  intro c nothing
  have hc : c.In "+ (* 1 (- 2)) 3".toList := ⟨"+ ".toList, rfl, rfl⟩
  obtain ⟨t, alt, next, hread⟩ : ∃ t alt next, operand c = .ok t alt next := ⟨_, _, _, rfl⟩
  obtain ⟨-, hoperand, -⟩ := (reading_goes_forward "+ (* 1 (- 2)) 3").1 c hc
  obtain ⟨-, hlt, hle⟩ := hoperand t alt next hread
  obtain ⟨d, hd⟩ : ∃ d, parse "+ (* (" = .error d := ⟨_, rfl⟩
  refine ⟨hc, ⟨t, alt, next, hread, hlt, hle⟩, d, hd, ?_⟩
  exact ((reading_goes_forward "+ (* (").2.1 7 nothing (by decide)).trans hd

end Grammar

end PrefixCalc
