import PrefixCalc.Proofs.Blanks

/-!
# Stages of a program

How far a program has been read, character by character: what it needs next and how many
parentheses are open (`Stage`). `Stage.step` is the stage after one more character, if the character
can stand there, and `Stage.run` after a whole text. Every stage can be completed
(`Stage.exists_completion`), so the texts that can be run from the start are the beginnings of
programs.

A stage also says what a reader that is stuck there has to report: the characters it expected
(`Stage.expected`), and whether it looked for an operator or for a number (`Stage.label`).
-/

namespace PrefixCalc

/-- What a program needs next. -/
inductive Need where
  /-- An operator symbol. -/
  | operator
  /-- The first operand of an application. -/
  | operand
  /-- The first digit of a number after its minus sign. -/
  | digit
  /-- Nothing, but more digits or operands may follow. -/
  | more
deriving DecidableEq, Repr

/-- How far a program has been read: what it needs next, and the number of open parentheses. -/
structure Stage where
  need : Need
  depth : Nat
deriving DecidableEq, Repr

namespace Stage

/-- Nothing has been read. -/
def start : Stage := ⟨.operator, 0⟩

/-- A whole program has been read. -/
def done : Stage := ⟨.more, 0⟩

/-- The stage after the first character of an operand. -/
def enter? (depth : Nat) (x : Char) : Option Stage :=
  if x = '-' then some ⟨.digit, depth⟩
  else if x.isDigit then some ⟨.more, depth⟩
  else if x = '(' then some ⟨.operator, depth + 1⟩
  else none

/-- The stage after a closing parenthesis. -/
def close? : Nat → Option Stage
  | 0 => none
  | depth + 1 => some ⟨.more, depth⟩

/-- The stage after one more character, if it can stand there. -/
def step (s : Stage) (x : Char) : Option Stage :=
  match s.need with
  | .operator =>
    if isBlank x then some s
    else if x ∈ Operator.symbols then some ⟨.operand, s.depth⟩
    else none
  | .operand => if isBlank x then some s else enter? s.depth x
  | .digit => if x.isDigit then some ⟨.more, s.depth⟩ else none
  | .more =>
    if isBlank x then some s
    else if x = ')' then close? s.depth
    else enter? s.depth x

/-- The stage after a text, if it can stand there. -/
def run (s : Stage) (u : List Char) : Option Stage := u.foldlM step s

/-- What ends a list of operands: a parenthesis, or the end of the text outside of all. -/
def closer : Nat → Expectation
  | 0 => .endOfInput
  | _ + 1 => .char ')'

/-- What a stuck reader expected. Blanks and digits are not listed. -/
def expected (s : Stage) : List Expectation :=
  match s.need with
  | .operator => Operator.symbols.map .char
  | .operand => [.char '-', .char '(']
  | .digit => []
  | .more => [closer s.depth, .char '-', .char '(']

/-- The name of what a stuck reader looked for. -/
def label (s : Stage) : String :=
  match s.need with
  | .operator => "operator"
  | _ => "number"

/-- A reader at this stage cannot go on: it is at a character that cannot stand there, or at the end
of the text with a program that is not complete. -/
def Stuck (s : Stage) (rest : List Char) : Prop :=
  match rest with
  | [] => s ≠ done
  | x :: _ => s.step x = none

/-- The text ends a list of operands inside of `depth` parentheses. -/
def Closes (depth : Nat) (rest : List Char) : Prop :=
  match depth with
  | 0 => rest = []
  | _ + 1 => rest.head? = some ')'

/-! ## Running -/

section
variable {s s' : Stage} {u v : List Char}

@[simp] theorem run_nil (s : Stage) : s.run [] = some s := rfl

/-- A run goes on from the stage after the first character. -/
theorem run_cons (s : Stage) (x : Char) (u : List Char) :
    s.run (x :: u) = (s.step x).bind fun s' => s'.run u := by
  simp [run, List.foldlM_cons]

/-- A run over two texts is a run over the second from where the first ended. -/
theorem run_append (s : Stage) (u v : List Char) :
    s.run (u ++ v) = (s.run u).bind fun s' => s'.run v := by
  simp [run, List.foldlM_append]

/-- A run can be cut anywhere. -/
theorem exists_run_of_append (h : s.run (u ++ v) = some s') :
    ∃ mid, s.run u = some mid ∧ mid.run v = some s' := by
  rw [run_append] at h
  exact Option.bind_eq_some_iff.1 h

/-- A reader that is stuck has no way to complete the program with what is left. -/
theorem Stuck.run_ne_done (h : s.Stuck v) : s.run v ≠ some done := by
  cases v with
  | nil =>
    intro heq
    exact h (Option.some.inj heq)
  | cons x v =>
    have hx : s.step x = none := h
    simp [run_cons, hx]

/-- Blanks change nothing, except right after a minus sign. -/
theorem run_blanks (hs : s.need ≠ .digit) (hu : Blanks u) : s.run u = some s := by
  induction u with
  | nil => rfl
  | cons x u ih =>
    have hx : isBlank x = true := hu x (.head _)
    have hstep : s.step x = some s := by
      obtain ⟨need, depth⟩ := s
      cases need with
      | digit => exact absurd rfl hs
      | operator | operand | more => simp [step, hx]
    rw [run_cons, hstep]
    exact ih fun y hy => hu y (.tail _ hy)

/-- Digits go on with a number. -/
theorem run_digits {d : Nat} (hu : ∀ x ∈ u, x.isDigit = true) :
    run ⟨.more, d⟩ u = some ⟨.more, d⟩ := by
  induction u with
  | nil => rfl
  | cons x u ih =>
    have hx : x.isDigit = true := hu x (.head _)
    have hminus : x ≠ '-' := by rintro rfl; exact absurd hx (by decide)
    have hclose : x ≠ ')' := by rintro rfl; exact absurd hx (by decide)
    have hstep : step ⟨.more, d⟩ x = some ⟨.more, d⟩ := by
      simp [step, enter?, isBlank_of_isDigit hx, hx, hminus, hclose]
    rw [run_cons, hstep]
    exact ih fun y hy => hu y (.tail _ hy)

/-- Where more operands may follow, they start as the first one does. -/
theorem step_more_of_operand {d : Nat} {x : Char} (hx : isBlank x = false)
    (h : step ⟨.operand, d⟩ x = some s) : step ⟨.more, d⟩ x = some s := by
  have hclose : x ≠ ')' := by rintro rfl; cases h
  simp only [step, hx, hclose] at h ⊢
  exact h

end

/-! ## Getting stuck -/

section
variable {d : Nat} {rest : List Char}

/-- A reader that needs an operator is stuck where no symbol stands. -/
theorem stuck_operator (hblank : rest.head?.any isBlank = false)
    (h : ∀ x ∈ rest.head?, x ∉ Operator.symbols) : Stuck ⟨.operator, d⟩ rest := by
  cases rest with
  | nil =>
    intro hdone
    cases hdone
  | cons x rest =>
    have hx : isBlank x = false := by simpa using hblank
    have hmem : x ∉ Operator.symbols := h x rfl
    show step ⟨.operator, d⟩ x = none
    simp [step, hx, hmem]

/-- A reader that needs a digit is stuck where none stands. -/
theorem stuck_digit (h : rest.head?.any Char.isDigit = false) : Stuck ⟨.digit, d⟩ rest := by
  cases rest with
  | nil =>
    intro hdone
    cases hdone
  | cons x rest =>
    have hx : x.isDigit = false := by simpa using h
    show step ⟨.digit, d⟩ x = none
    simp [step, hx]

/-- A reader that needs an operand is stuck where neither a number nor a parenthesis starts. -/
theorem stuck_operand (hblank : rest.head?.any isBlank = false)
    (hdigit : rest.head?.any Char.isDigit = false) (hsign : rest.head? ≠ some '-')
    (hopen : rest.head? ≠ some '(') : Stuck ⟨.operand, d⟩ rest := by
  cases rest with
  | nil =>
    intro hdone
    cases hdone
  | cons x rest =>
    have hx : isBlank x = false := by simpa using hblank
    have hx' : x.isDigit = false := by simpa using hdigit
    have hminus : x ≠ '-' := by simpa using hsign
    have hparen : x ≠ '(' := by simpa using hopen
    show step ⟨.operand, d⟩ x = none
    simp [step, enter?, hx, hx', hminus, hparen]

/-- Where more operands may follow, a reader is stuck if neither one more can be read nor the list
of them ends. -/
theorem stuck_more (hblank : rest.head?.any isBlank = false) (h : Stuck ⟨.operand, d⟩ rest)
    (hclose : ¬ Closes d rest) : Stuck ⟨.more, d⟩ rest := by
  cases rest with
  | nil =>
    intro hdone
    cases hdone
    exact hclose rfl
  | cons x rest =>
    have hx : isBlank x = false := by simpa using hblank
    have henter : enter? d x = none := by simpa [Stuck, step, hx] using h
    show step ⟨.more, d⟩ x = none
    by_cases hparen : x = ')'
    · subst hparen
      cases d with
      | zero => rfl
      | succ d => exact absurd rfl hclose
    · simp [step, hx, hparen, henter]

end

/-! ## What is expected -/

section
variable {s s' : Stage} {x : Char} {d : Nat}

/-- An operand that is no number without a sign starts with a minus sign or a parenthesis. -/
theorem exists_enter?_iff (hx : x.isDigit = false) :
    (∃ s', enter? d x = some s') ↔ x = '-' ∨ x = '(' := by
  refine ⟨fun ⟨s', h⟩ => ?_, fun h => ?_⟩
  · unfold enter? at h
    split at h
    · next hminus => exact .inl hminus
    · split at h
      · next hdigit => cases hdigit.symm.trans hx
      · split at h
        · next hopen => exact .inr hopen
        · cases h
  · rcases h with rfl | rfl
    · exact ⟨_, rfl⟩
    · exact ⟨_, rfl⟩

/-- Operator symbols and parentheses are neither blank nor digits. -/
theorem plain_of_mem (h : x ∈ Operator.symbols ++ ['(', ')']) :
    isBlank x = false ∧ x.isDigit = false := by
  have hall : (Operator.symbols ++ ['(', ')']).all (fun y => !isBlank y && !y.isDigit) = true := rfl
  simpa using List.all_eq_true.1 hall x h

/-- A stage expects the characters that it can take, apart from blanks and digits. -/
theorem char_mem_expected_iff : .char x ∈ s.expected ↔
    isBlank x = false ∧ x.isDigit = false ∧ ∃ s', s.step x = some s' := by
  obtain ⟨need, d⟩ := s
  cases need with
  | operator =>
    have hmem : .char x ∈ expected ⟨.operator, d⟩ ↔ x ∈ Operator.symbols := by simp [expected]
    rw [hmem]
    refine ⟨fun h => ?_, fun ⟨hblank, _, s', hs⟩ => ?_⟩
    · obtain ⟨hblank, hdigit⟩ := plain_of_mem (List.mem_append_left _ h)
      exact ⟨hblank, hdigit, ⟨.operand, d⟩, by simp [step, hblank, h]⟩
    · by_cases hmem : x ∈ Operator.symbols
      · exact hmem
      · simp [step, hblank, hmem] at hs
  | operand =>
    have hmem : .char x ∈ expected ⟨.operand, d⟩ ↔ x = '-' ∨ x = '(' := by simp [expected]
    rw [hmem]
    refine ⟨fun h => ?_, fun ⟨hblank, hdigit, s', hs⟩ => ?_⟩
    · obtain ⟨hblank, hdigit⟩ : isBlank x = false ∧ x.isDigit = false :=
        plain_of_mem (by rcases h with rfl | rfl <;> decide)
      obtain ⟨s', hs⟩ := (exists_enter?_iff hdigit).2 h
      exact ⟨hblank, hdigit, s', by simpa [step, hblank] using hs⟩
    · exact (exists_enter?_iff hdigit).1 ⟨s', by simpa [step, hblank] using hs⟩
  | digit =>
    refine ⟨fun h => ?_, fun ⟨_, hdigit, s', hs⟩ => ?_⟩
    · simp [expected] at h
    · simp [step, hdigit] at hs
  | more =>
    have hmem : .char x ∈ expected ⟨.more, d⟩ ↔
        (x = ')' ∧ 0 < d) ∨ x = '-' ∨ x = '(' := by
      cases d <;> simp [expected, closer]
    rw [hmem]
    refine ⟨fun h => ?_, fun ⟨hblank, hdigit, s', hs⟩ => ?_⟩
    · obtain ⟨hblank, hdigit⟩ : isBlank x = false ∧ x.isDigit = false :=
        plain_of_mem (by rcases h with ⟨rfl, -⟩ | rfl | rfl <;> decide)
      refine ⟨hblank, hdigit, ?_⟩
      rcases h with ⟨rfl, hd⟩ | h
      · obtain ⟨d, rfl⟩ := Nat.exists_eq_add_one_of_ne_zero (Nat.ne_of_gt hd)
        exact ⟨⟨.more, d⟩, rfl⟩
      · obtain ⟨s', hs⟩ := (exists_enter?_iff hdigit).2 h
        exact ⟨s', step_more_of_operand hblank (by simpa [step, hblank] using hs)⟩
    · by_cases hclose : x = ')'
      · subst hclose
        cases d with
        | zero => cases hs
        | succ d => exact .inl ⟨rfl, Nat.succ_pos d⟩
      · exact .inr ((exists_enter?_iff hdigit).1 ⟨s', by simpa [step, hblank, hclose] using hs⟩)

/-- A stage expects the end of the text if the program is complete. -/
theorem endOfInput_mem_expected_iff : .endOfInput ∈ s.expected ↔ s = done := by
  obtain ⟨need, d⟩ := s
  cases need with
  | operator => simp [expected, done]
  | operand | digit => simp [expected, done]
  | more => cases d <;> simp [expected, done, closer]

/-- A stage that takes a plus sign looks for an operator. -/
theorem label_of_step (h : s.step '+' = some s') : s.label = "operator" := by
  obtain ⟨need, d⟩ := s
  cases need with
  | operator => rfl
  | operand | digit | more => cases h

/-- A stage that takes no plus sign looks for a number. -/
theorem label_of_not_step (h : s.step '+' = none) : s.label = "number" := by
  obtain ⟨need, d⟩ := s
  cases need with
  | operator => cases h
  | operand | digit | more => rfl

end

/-! ## Completing -/

/-- Open parentheses can be closed. -/
theorem run_replicate_close (d : Nat) : run ⟨.more, d⟩ (List.replicate d ')') = some done := by
  induction d with
  | zero => rfl
  | succ d ih =>
    rw [List.replicate_succ, run_cons]
    exact ih

/-- Every stage can be completed to a program. -/
theorem exists_completion (s : Stage) : ∃ u, s.run u = some done := by
  obtain ⟨need, d⟩ := s
  have hclose := run_replicate_close d
  cases need with
  | more => exact ⟨List.replicate d ')', hclose⟩
  | digit => exact ⟨'0' :: List.replicate d ')', by rw [run_cons]; exact hclose⟩
  | operand => exact ⟨'0' :: List.replicate d ')', by rw [run_cons]; exact hclose⟩
  | operator =>
    refine ⟨'+' :: '0' :: List.replicate d ')', ?_⟩
    rw [run_cons]
    show run ⟨.operand, d⟩ ('0' :: List.replicate d ')') = some done
    rw [run_cons]
    exact hclose

end Stage

end PrefixCalc
