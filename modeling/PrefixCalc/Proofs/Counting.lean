import Mathlib.Algebra.GroupWithZero.Nat
import PrefixCalc.Proofs.Requests
import PrefixCalc.Proofs.RoundTrip
import PrefixCalc.Proofs.Walk

/-!
# Counts and the text of a line

The literals and the operators of a program can be counted in its text: there are as many literals
as maximal runs of digits (`digitRuns`), and, apart from the operator of the program itself, as many
operators as opening parentheses. Nothing else in a line adds to either (`Silent`): a sign is no
digit, and a blank, a symbol, a closing parenthesis and the word of a verb hold neither digits nor
opening parentheses. Two literals never share a run, since no digit may follow a literal.

Both are ways to count in a text (`Tally`), and the proof follows the derivation of the line for any
such way. Each part of the line stands before a rest of the text, so the count of a part is the
difference between that of the text from the part on and that of the text after it
(`Derivation.Operand.tally`).
-/

namespace PrefixCalc

/-! ## Runs of digits -/

/-- The maximal runs of digits in a text, in order: what stands between the characters that are no
digits, where there is anything. -/
def digitRuns (cs : List Char) : List (List Char) :=
  (cs.splitOnP (!·.isDigit)).filter (!·.isEmpty)

section
variable {cs ds rest : List Char} {x : Char}

/-- A character that is no digit belongs to no run. -/
theorem digitRuns_cons (hx : x.isDigit = false) (cs : List Char) :
    digitRuns (x :: cs) = digitRuns cs := by
  simp [digitRuns, List.splitOnP_cons_eq_if_modifyHead, hx]

/-- Digits that no digit follows are a run. -/
theorem digitRuns_append (hne : ds ≠ []) (hds : ∀ d ∈ ds, d.isDigit = true)
    (hrest : rest.head?.any Char.isDigit = false) :
    digitRuns (ds ++ rest) = ds :: digitRuns rest := by
  have hnone : ∀ d ∈ ds, (!d.isDigit) = false := by
    intro d hd
    simp [hds d hd]
  cases rest with
  | nil =>
    rw [List.append_nil, digitRuns, List.splitOnP_eq_singleton hnone]
    simp [digitRuns, hne]
  | cons x rest =>
    have hx : x.isDigit = false := by simpa using hrest
    rw [digitRuns_cons hx, digitRuns,
      List.splitOnP_append_cons_of_forall_mem hnone x (by simp [hx])]
    simp [digitRuns, hne]

/-- A literal is one run, and its sign is no part of it. -/
theorem length_digitRuns_literal (hcs : Lexeme.IsLiteral cs)
    (hrest : rest.head?.any Char.isDigit = false) :
    (digitRuns (cs ++ rest)).length = 1 + (digitRuns rest).length := by
  obtain ⟨ds, hne, hds, rfl | rfl⟩ := hcs
  · rw [digitRuns_append hne hds hrest, List.length_cons, Nat.add_comm]
  · rw [List.cons_append, digitRuns_cons rfl, digitRuns_append hne hds hrest, List.length_cons,
      Nat.add_comm]

/-- No literal opens a group. -/
theorem count_paren_literal (hcs : Lexeme.IsLiteral cs) : cs.count '(' = 0 := by
  rw [List.count_eq_zero]
  intro hmem
  obtain ⟨ds, -, hds, rfl | rfl⟩ := hcs
  · exact absurd (hds '(' hmem) (by decide)
  · rcases List.mem_cons.1 hmem with hsign | hmem
    · cases hsign
    · exact absurd (hds '(' hmem) (by decide)

/-! ## Characters that count for nothing -/

/-- No character of the text is a digit or opens a group. -/
def Silent (cs : List Char) : Prop := ∀ x ∈ cs, x.isDigit = false ∧ x ≠ '('

instance (cs : List Char) : Decidable (Silent cs) :=
  List.decidableBAll (fun x : Char => x.isDigit = false ∧ x ≠ '(') cs

theorem Silent.digitRuns_append (h : Silent cs) (rest : List Char) :
    digitRuns (cs ++ rest) = digitRuns rest := by
  induction cs with
  | nil => rfl
  | cons x cs ih =>
    rw [List.cons_append, digitRuns_cons (h x (.head _)).1]
    exact ih fun y hy => h y (.tail _ hy)

theorem Silent.count_append (h : Silent cs) (rest : List Char) :
    (cs ++ rest).count '(' = rest.count '(' := by
  have hopen : '(' ∉ cs := fun hmem => (h '(' hmem).2 rfl
  rw [List.count_append, List.count_eq_zero.2 hopen, Nat.zero_add]

/-- Blanks count for nothing. -/
theorem Blanks.silent (h : Blanks cs) : Silent cs := by
  intro x hx
  have hblank := h x hx
  constructor
  · cases hdigit : x.isDigit with
    | false => rfl
    | true => rw [isBlank_of_isDigit hdigit] at hblank; cases hblank
  · rintro rfl
    exact absurd hblank (by decide)

/-- A symbol counts for nothing. -/
theorem silent_symbol (h : x ∈ Operator.symbols) : Silent [x] := by
  obtain ⟨op, -, rfl⟩ := List.mem_map.1 h
  cases op <;> decide

/-- A closing parenthesis counts for nothing. -/
theorem silent_close : Silent [')'] := by decide

/-- A colon and the word of a verb count for nothing. -/
theorem silent_verb (verb : Verb) : Silent (':' :: verb.name.toList) := by
  cases verb <;> decide

end

/-- A way to count in a text: `literal` for each literal, `paren` for each opening parenthesis, and
nothing for all else. -/
structure Tally (count : List Char → Nat) (literal paren : Nat) : Prop where
  of_nil : count [] = 0
  of_literal {cs rest : List Char} : Lexeme.IsLiteral cs → rest.head?.any Char.isDigit = false →
    count (cs ++ rest) = literal + count rest
  of_paren (rest : List Char) : count ('(' :: rest) = paren + count rest
  of_silent {cs : List Char} : Silent cs → ∀ rest, count (cs ++ rest) = count rest

/-- Runs of digits count literals. -/
theorem tally_digitRuns : Tally (fun cs => (digitRuns cs).length) 1 0 where
  of_nil := rfl
  of_literal hcs hrest := length_digitRuns_literal hcs hrest
  of_paren rest := by rw [digitRuns_cons rfl, Nat.zero_add]
  of_silent hcs rest := by rw [hcs.digitRuns_append]

/-- Opening parentheses count themselves. -/
theorem tally_paren : Tally (fun cs => cs.count '(') 0 1 where
  of_nil := rfl
  of_literal hcs _ := by rw [List.count_append, count_paren_literal hcs]
  of_paren rest := by rw [List.count_cons_self, Nat.add_comm]
  of_silent hcs rest := hcs.count_append rest

/-! ## Counts of terms -/

namespace Term

/-- A running sum over operands. -/
theorem foldl_add_eq_sum (count : Term → Nat) (ts : List Term) (acc : Nat) :
    ts.foldl (fun acc t => acc + count t) acc = acc + (ts.map count).sum := by
  induction ts generalizing acc with
  | nil => simp
  | cons t ts ih => rw [List.foldl_cons, ih, List.map_cons, List.sum_cons, Nat.add_assoc]

theorem leaves_number (text : String) : (Term.number text).leaves = 1 := by
  rw [leaves, walk]
  rfl

theorem branches_number (text : String) : (Term.number text).branches = 0 := by
  rw [branches, walk]
  rfl

section
variable (form : Form) (op : String) (first : Term) (rest : List Term)

/-- The literals of an application are those of its operands. -/
theorem leaves_apply : (Term.apply form op first rest).leaves =
    ((first :: rest).map leaves).sum := by
  rw [leaves, walk_apply, List.map_cons, List.sum_cons]
  exact foldl_add_eq_sum leaves rest first.leaves

/-- The operators of an application are its own and those of its operands. -/
theorem branches_apply : (Term.apply form op first rest).branches =
    ((first :: rest).map branches).sum + 1 := by
  rw [branches, walk_apply, List.map_cons, List.sum_cons, Nat.add_right_comm]
  exact foldl_add_eq_sum branches rest (first.branches + 1)

end

end Term

/-! ## Counts of derivations -/

namespace Derivation

variable {count : List Char → Nat} {literal paren : Nat}

mutual

/-- In an operand each literal and each operator is counted, since each operator has its own group.
-/
theorem Operand.tally (hcount : Tally count literal paren) {s rest : List Char} {t : Term} :
    Operand s t rest → count s = literal * t.leaves + paren * t.branches + count rest
  | .number hcs hrest => by
    rw [hcount.of_literal hcs hrest, Term.leaves_number, Term.branches_number]
    omega
  | .group hw h hw' => by
    have happ := h.tally hcount
    have hclose := hcount.of_silent silent_close rest
    rw [hcount.of_silent hw'.silent, ← List.singleton_append, hclose] at happ
    -- The parenthesis of the group makes up for the operator of the application.
    rw [hcount.of_paren, hcount.of_silent hw.silent]
    omega

/-- The operator of an application has no parenthesis of its own. -/
theorem Application.tally (hcount : Tally count literal paren) {form : Form}
    {s rest : List Char} {t : Term} : Application form s t rest →
      count s + paren = literal * t.leaves + paren * t.branches + count rest
  | @Application.apply _ x s _ _ _ hx h => by
    have hsymbol : count (x :: s) = count s := hcount.of_silent (silent_symbol hx) s
    have hoperands := h.tally hcount
    rw [hsymbol, Term.leaves_apply, Term.branches_apply, Nat.mul_add]
    omega

theorem Operands.tally (hcount : Tally count literal paren) {s rest : List Char}
    {ts : List Term} : Operands s ts rest → count s =
      literal * (ts.map Term.leaves).sum + paren * (ts.map Term.branches).sum + count rest
  | .nil => by simp
  | .cons hw h hw' hs => by
    have hfirst := h.tally hcount
    have hrest := hs.tally hcount
    rw [hcount.of_silent hw'.silent] at hfirst
    simp only [hcount.of_silent hw.silent, List.map_cons, List.sum_cons, Nat.mul_add]
    omega

end

section
variable {s : List Char} {t : Term} {cmd : Command}

theorem Program.tally (hcount : Tally count literal paren) (h : Program s t) :
    count s + paren = literal * t.leaves + paren * t.branches := by
  cases h with
  | @spaced w s w' t hw happ hw' =>
    have hend := hcount.of_silent hw'.silent []
    rw [List.append_nil, hcount.of_nil] at hend
    rw [hcount.of_silent hw.silent, happ.tally hcount, hend, Nat.add_zero]

theorem Line.tally (hcount : Tally count literal paren) (h : Line s cmd) :
    count s + paren = literal * cmd.program.leaves + paren * cmd.program.branches := by
  cases h with
  | bare h => exact h.tally hcount
  | request verb h =>
    rw [← List.cons_append, hcount.of_silent (silent_verb verb)]
    exact h.tally hcount

end

end Derivation

/-! ## Lines -/

namespace Grammar

open PrefixCalc.Derivation

/-- The program of a line has as many literals as the line has maximal runs of digits, and one
operator more than the line has opening parentheses. So these are the numbers that `:leaves` and
`:branches` answer, for every text that is a program by itself. -/
theorem counts_of_parse_ok {line : String} {c : Command} (h : parse line = .ok c) :
    c.program.leaves = (digitRuns line.toList).length ∧
    c.program.branches = 1 + line.toList.count '(' ∧
    (line.toList.head? ≠ some ':' →
      (∃ asked, parse (":leaves " ++ line) = .ok asked ∧
        asked.run = Decimal.digits (digitRuns line.toList).length) ∧
      ∃ asked, parse (":branches " ++ line) = .ok asked ∧
        asked.run = Decimal.digits (1 + line.toList.count '(')) := by
  have hline := parse_eq_ok_iff.1 h
  have hleaves : c.program.leaves = (digitRuns line.toList).length := by
    have hruns := hline.tally tally_digitRuns
    omega
  have hbranches : c.program.branches = 1 + line.toList.count '(' := by
    have hparens := hline.tally tally_paren
    omega
  refine ⟨hleaves, hbranches, fun hcolon => ?_⟩
  obtain ⟨t, hprogram, rfl⟩ := (line_iff_program hcolon).1 hline
  refine ⟨⟨_, parse_request_of_program hprogram .leaves, ?_⟩,
    ⟨_, parse_request_of_program hprogram .branches, ?_⟩⟩
  · rw [← hleaves]
    rfl
  · rw [← hbranches]
    rfl

/-- Literals without blanks between them, a sign that is an operator, signs that are not, a literal
out of range, and groups of one operand. -/
theorem counts_of_dense_line :
    let line := "--1-2(*(+007))99999999999999999999"
    (∃ c, parse line = .ok c ∧ c.program.leaves = 4 ∧ c.program.branches = 3) ∧
    digitRuns line.toList = ["1".toList, "2".toList, "007".toList, "99999999999999999999".toList] ∧
    (∃ asked, parse (":leaves " ++ line) = .ok asked ∧ asked.run = "4") ∧
    ∃ asked, parse (":branches " ++ line) = .ok asked ∧ asked.run = "3" := by
  intro line
  have hruns : digitRuns line.toList =
      ["1".toList, "2".toList, "007".toList, "99999999999999999999".toList] := by decide
  have hopen : line.toList.count '(' = 2 := by decide
  obtain ⟨c, hparse⟩ : ∃ c, parse "--1-2(*(+007))99999999999999999999" = .ok c := ⟨_, rfl⟩
  obtain ⟨hleaves, hbranches, hasked⟩ := counts_of_parse_ok hparse
  rw [hruns] at hleaves hasked
  rw [hopen] at hbranches hasked
  exact ⟨⟨c, hparse, hleaves, hbranches⟩, hruns, hasked (by decide)⟩

end Grammar

end PrefixCalc
