import PrefixCalc.Proofs.Derivation

/-!
# The reader of lines reads the lines of the grammar

`Grammar.parse` accepts a text as a command exactly if the text is a line that stands for the
command (`Derivation.Line`). One half follows the reader: whatever a rule reads is derived by the
rule of the grammar it implements (`SoundOperand`). The other half follows the derivation: an
operand is read if the reader may nest as deep as the operand is long (`CompleteOperand`), and a
list of operands is read to its end because no operand can start where the list has to end, at a
closing parenthesis or at the end of the text (`readsEach_of_operands`).
-/

namespace PrefixCalc.Grammar

open Rule (Reads Refuses ReadsEach Progresses)
open PrefixCalc.Derivation

/-- An operand nested at most `n` deep. -/
def operandUpTo (n : Nat) : Rule Term :=
  Rule.unroll (fun inner => number.orElse (group inner)) n

/-- An operand may nest as deep as there are characters left. -/
theorem operand_eq_operandUpTo (c : Cursor) : operand c = operandUpTo (c.rest.length + 1) c := rfl

/-- An operand is a number, or a group of operands nested less deep. -/
theorem operandUpTo_succ (n : Nat) :
    operandUpTo (n + 1) = number.orElse (group (operandUpTo n)) := rfl

/-- Whatever the rule reads is an operand. -/
def SoundOperand (r : Rule Term) : Prop :=
  ∀ c t next, Reads r c t next → Operand c.rest t next.rest

/-- The rule reads the operands of texts shorter than `n`. -/
def CompleteOperand (n : Nat) (r : Rule Term) : Prop :=
  ∀ p s t rest, s.length < n → Operand s t rest → ∃ q, Reads r ⟨p, s⟩ t ⟨q, rest⟩

/-- A rule that reads operands progresses. -/
theorem SoundOperand.progresses {r : Rule Term} (hr : SoundOperand r) : Progresses r :=
  fun c t next h => (hr c t next h).length_lt

/-! ## What the parts of the grammar read -/

section
variable {r : Rule Term} {c next : Cursor} {t : Term}

/-- An operator is read where its symbol stands. -/
theorem reads_operator {op : String} : Reads operator c op next ↔
    ∃ x, x ∈ Operator.symbols ∧ c.rest = x :: next.rest ∧ next.pos = c.pos + 1 ∧
      op = x.toString := by
  rw [operator, Rule.reads_named, Lexeme.symbol, Rule.reads_map]
  refine ⟨?_, ?_⟩
  · rintro ⟨x, hx, rfl⟩
    obtain ⟨hmem, hrest, hpos⟩ := Rule.reads_oneOf.1 hx
    exact ⟨x, hmem, hrest, hpos, rfl⟩
  · rintro ⟨x, hmem, hrest, hpos, rfl⟩
    exact ⟨x, Rule.reads_oneOf.2 ⟨hmem, hrest, hpos⟩, rfl⟩

/-- An application is read as its symbol and then its operands, each with blanks around it. -/
theorem reads_application (hr : Progresses r) {form : Form} :
    Reads (application form r) c t next ↔ ∃ x first others mid, x ∈ Operator.symbols ∧
      c.rest = x :: mid.rest ∧ mid.pos = c.pos + 1 ∧
      ReadsEach r.spaced mid (first :: others) next ∧
      t = .apply form x.toString first others := by
  have hspaced := hr.spaced
  rw [application, Rule.reads_map]
  refine ⟨?_, ?_⟩
  · rintro ⟨v, hv, rfl⟩
    obtain ⟨mid₂, hv₁, hothers⟩ := Rule.reads_andThen.1 hv
    obtain ⟨mid, hop, hfirst⟩ := Rule.reads_andThen.1 hv₁
    obtain ⟨x, hmem, hrest, hpos, hx⟩ := reads_operator.1 hop
    refine ⟨x, v.1.2, v.2, mid, hmem, hrest, hpos, ?_, by rw [← hx]⟩
    exact .cons hfirst ((Rule.reads_many hspaced).1 hothers)
  · rintro ⟨x, first, others, mid, hmem, hrest, hpos, heach, rfl⟩
    cases heach with
    | cons hfirst hothers =>
      refine ⟨((x.toString, first), others), ?_, rfl⟩
      refine Rule.reads_andThen.2 ⟨_, Rule.reads_andThen.2 ⟨mid, ?_, hfirst⟩, ?_⟩
      · exact reads_operator.2 ⟨x, hmem, hrest, hpos, rfl⟩
      · exact (Rule.reads_many hspaced).2 hothers

/-- A group is read as an application between parentheses, with blanks around it. -/
theorem reads_group : Reads (group r) c t next ↔ ∃ s mid, c.rest = '(' :: s ∧
    Reads (application .grouped r) (Cursor.skipBlanks ⟨c.pos + 1, s⟩) t mid ∧
    mid.skipBlanks.rest = ')' :: next.rest ∧ next.pos = mid.skipBlanks.pos + 1 := by
  rw [group, Rule.reads_keepLeft]
  refine ⟨?_, ?_⟩
  · rintro ⟨close, after, hopen, hclose⟩
    obtain ⟨x, ⟨p, s⟩, hchar, hbody⟩ := Rule.reads_keepRight.1 hopen
    obtain ⟨mid, happ, rfl⟩ := Rule.reads_spaced.1 hbody
    obtain ⟨-, hrest, hpos⟩ := Rule.reads_char.1 hchar
    dsimp only at hrest hpos
    subst hpos
    exact ⟨s, mid, hrest, happ, (Rule.reads_char.1 hclose).2⟩
  · rintro ⟨s, mid, hrest, happ, hclose⟩
    refine ⟨')', mid.skipBlanks, ?_, Rule.reads_char.2 ⟨rfl, hclose⟩⟩
    refine Rule.reads_keepRight.2 ⟨'(', ⟨c.pos + 1, s⟩, Rule.reads_char.2 ⟨rfl, hrest, rfl⟩, ?_⟩
    exact Rule.reads_spaced.2 ⟨mid, happ, rfl⟩

/-- A program is read as a bare application with blanks around it. -/
theorem reads_program : Reads program c t next ↔
    ∃ mid, Reads (application .bare operand) c.skipBlanks t mid ∧ next = mid.skipBlanks :=
  Rule.reads_spaced

/-- A request is read as a colon, the word of its verb and a program. -/
theorem reads_request {verb : Verb} {cmd : Command} : Reads (request verb) c cmd next ↔
    ∃ s t, c.rest = ':' :: (verb.name.toList ++ s) ∧ s.head?.any Lexeme.isIdentRest = false ∧
      Reads program ⟨c.pos + 1 + verb.name.toList.length, s⟩ t next ∧ cmd = ⟨verb, t⟩ := by
  have hname := Lexeme.isIdentifier_name verb
  rw [request, Rule.reads_map]
  refine ⟨?_, ?_⟩
  · rintro ⟨t, ht, rfl⟩
    obtain ⟨v, after, hv, hprogram⟩ := Rule.reads_keepRight.1 ht
    obtain ⟨mid, hcolon, hword⟩ := Rule.reads_andThen.1 hv
    obtain ⟨-, hrest, hpos⟩ := Rule.reads_char.1 hcolon
    obtain ⟨s, hmid, hs, rfl⟩ := (Lexeme.reads_keyword hname).1 hword
    rw [hmid] at hrest
    rw [hpos] at hprogram
    exact ⟨s, t, hrest, hs, hprogram, rfl⟩
  · rintro ⟨s, t, hrest, hs, hprogram, rfl⟩
    refine ⟨t, Rule.reads_keepRight.2 ⟨(':', ()), _, ?_, hprogram⟩, rfl⟩
    refine Rule.reads_andThen.2 ⟨⟨c.pos + 1, verb.name.toList ++ s⟩, ?_, ?_⟩
    · exact Rule.reads_char.2 ⟨rfl, hrest, rfl⟩
    · exact (Lexeme.reads_keyword hname).2 ⟨s, rfl, hs, rfl⟩

end

/-! ## Whatever is read is derived -/

section
variable {r : Rule Term} {c next : Cursor} {t : Term} {ts : List Term}

/-- Operands that are read one after another are operands. -/
theorem operands_of_readsEach (hr : SoundOperand r) (h : ReadsEach r.spaced c ts next) :
    Operands c.rest ts next.rest := by
  induction h with
  | nil _ => exact .nil
  | @cons c mid next t ts hread _ ih =>
    obtain ⟨after, hitem, rfl⟩ := Rule.reads_spaced.1 hread
    obtain ⟨w, hw, hc, -⟩ := c.exists_blanks
    obtain ⟨w', hw', hafter, -⟩ := after.exists_blanks
    have hoperand := hr _ _ _ hitem
    rw [hafter] at hoperand
    rw [hc]
    exact .cons hw hoperand hw' ih

/-- An application that is read is an application. -/
theorem application_of_reads (hr : SoundOperand r) {form : Form}
    (h : Reads (application form r) c t next) : Application form c.rest t next.rest := by
  obtain ⟨x, first, others, mid, hmem, hrest, -, heach, rfl⟩ :=
    (reads_application hr.progresses).1 h
  rw [hrest]
  exact .apply hmem (operands_of_readsEach hr heach)

/-- A group that is read is an operand. -/
theorem operand_of_reads_group (hr : SoundOperand r) (h : Reads (group r) c t next) :
    Operand c.rest t next.rest := by
  obtain ⟨s, mid, hrest, happ, hclose, -⟩ := reads_group.1 h
  obtain ⟨w, hw, hs, -⟩ := Cursor.exists_blanks ⟨c.pos + 1, s⟩
  obtain ⟨w', hw', hmid, -⟩ := mid.exists_blanks
  have happ := application_of_reads hr happ
  rw [hmid, hclose] at happ
  dsimp only at hs
  rw [hrest, hs]
  exact .group hw happ hw'

/-- What the rule for operands reads is an operand, however deep it may nest. -/
theorem soundOperand_operandUpTo (n : Nat) : SoundOperand (operandUpTo n) := by
  induction n with
  | zero => rintro c t next ⟨alt, h⟩; cases h
  | succ n ih =>
    intro c t next h
    rw [operandUpTo_succ, Rule.reads_orElse] at h
    rcases h with h | ⟨-, h⟩
    · obtain ⟨cs, rest, hc, hcs, hrest, rfl, rfl⟩ := reads_number.1 h
      rw [hc]
      exact .number hcs hrest
    · exact operand_of_reads_group ih h

/-- What the rule for operands reads is an operand. -/
theorem soundOperand_operand : SoundOperand operand := by
  intro c t next h
  rw [Reads, operand_eq_operandUpTo] at h
  exact soundOperand_operandUpTo (c.rest.length + 1) c t next h

/-- A text that is read to its end as a program is a program. -/
theorem program_of_reads (h : Reads program c t next) (hnext : next.rest = []) :
    Program c.rest t := by
  obtain ⟨mid, happ, rfl⟩ := reads_program.1 h
  obtain ⟨w, hw, hc, -⟩ := c.exists_blanks
  obtain ⟨w', hw', hmid, -⟩ := mid.exists_blanks
  have happ := application_of_reads soundOperand_operand happ
  rw [hmid, hnext, List.append_nil] at happ
  rw [hc]
  exact .spaced hw happ hw'

end

/-! ## Whatever is derived is read -/

/-- No operand can start in a text: it is at its end or at a closing parenthesis, apart from
blanks. -/
def Ends (s : List Char) : Prop :=
  s.dropWhile isBlank = [] ∨ ∃ rest, s.dropWhile isBlank = ')' :: rest

/-- A rule that reads operands refuses the end of a list of operands. -/
theorem SoundOperand.refuses_of_ends {r : Rule Term} (hr : SoundOperand r) {c : Cursor}
    {s : List Char} (hs : Ends s) (hc : c.rest = s.dropWhile isBlank) : Refuses r c := by
  refine Rule.refuses_of_not_reads fun t next h => ?_
  obtain ⟨x, xs, hx, hhead⟩ := (hr c t next h).head
  rw [hc] at hx
  rcases hs with hs | ⟨rest, hs⟩
  · rw [hs] at hx
    cases hx
  · rw [hs] at hx
    cases hx
    exact absurd hhead (by decide)

/-- Operands are read one after another up to the end of their list. Where the reading starts among
the blanks before them is of no account. -/
theorem readsEach_of_operands {r : Rule Term} {n : Nat} (hsound : SoundOperand r)
    (hcomplete : CompleteOperand n r) {ts : List Term} {s rest : List Char}
    (h : Operands s ts rest) (hn : s.length < n) (hend : Ends rest) {c : Cursor}
    (hc : c.skipBlanks.rest = s.dropWhile isBlank) :
    ∃ next, ReadsEach r.spaced c ts next ∧ next.skipBlanks.rest = rest.dropWhile isBlank := by
  induction ts generalizing s c with
  | nil =>
    cases h with
    | nil => exact ⟨c, .nil (Rule.refuses_spaced.2 (hsound.refuses_of_ends hend hc)), hc⟩
  | cons t ts ih =>
    cases h with
    | @cons w s w' s' _ _ _ hw hoperand hw' hothers =>
      have hlt := hoperand.length_lt
      simp only [List.length_append] at hn hlt
      rw [hw.dropWhile_append, dropWhile_isBlank hoperand.head_not_blank] at hc
      have hstart : c.skipBlanks = ⟨c.skipBlanks.pos, s⟩ := by rw [← hc]
      obtain ⟨q, hread⟩ := hcomplete c.skipBlanks.pos s t _ (by omega) hoperand
      rw [← hstart] at hread
      -- The blanks after the operand are skipped together with those before the next one.
      have hmid : (Cursor.skipBlanks ⟨q, w' ++ s'⟩).skipBlanks.rest = s'.dropWhile isBlank := by
        rw [Cursor.skipBlanks_skipBlanks, Cursor.rest_skipBlanks]
        exact hw'.dropWhile_append
      obtain ⟨next, heach, hnext⟩ := ih hothers (by omega) hmid
      exact ⟨next, .cons (Rule.reads_spaced.2 ⟨_, hread, rfl⟩) heach, hnext⟩

/-- An application is read up to the end of its operands. -/
theorem reads_of_application {r : Rule Term} {n : Nat} (hsound : SoundOperand r)
    (hcomplete : CompleteOperand n r) {form : Form} {s rest : List Char} {t : Term}
    (h : Application form s t rest) (hn : s.length ≤ n) (hend : Ends rest) (p : Nat) :
    ∃ next, Reads (application form r) ⟨p, s⟩ t next ∧
      next.skipBlanks.rest = rest.dropWhile isBlank := by
  cases h with
  | @apply _ x s _ first others hx hoperands =>
    obtain ⟨next, heach, hnext⟩ := readsEach_of_operands hsound hcomplete hoperands
      (Nat.lt_of_succ_le hn) hend (c := ⟨p + 1, s⟩) rfl
    refine ⟨next, ?_, hnext⟩
    exact (reads_application hsound.progresses).2
      ⟨x, first, others, ⟨p + 1, s⟩, hx, rfl, rfl, heach, rfl⟩

/-- No number starts with a parenthesis. -/
theorem refuses_number_paren (p : Nat) (s : List Char) : Refuses number ⟨p, '(' :: s⟩ := by
  refine Rule.refuses_of_not_reads fun t next h => ?_
  obtain ⟨cs, rest, hs, hcs, -⟩ := reads_number.1 h
  obtain ⟨x, xs, rfl, hx⟩ := hcs.head
  cases hs
  exact absurd hx (by decide)

/-- An operand is read if the reader may nest as deep as the operand is long. -/
theorem completeOperand_operandUpTo (n : Nat) : CompleteOperand n (operandUpTo n) := by
  induction n with
  | zero => intro p s t rest hn; exact absurd hn (Nat.not_lt_zero _)
  | succ n ih =>
    intro p s t rest hn h
    rw [operandUpTo_succ]
    cases h with
    | @number cs _ hcs hrest =>
      refine ⟨p + cs.length, Rule.reads_orElse.2 (.inl ?_)⟩
      exact reads_number.2 ⟨cs, rest, rfl, hcs, hrest, rfl, rfl⟩
    | @group w s w' _ _ hw happ hw' =>
      have hclose : (w' ++ ')' :: rest).dropWhile isBlank = ')' :: rest := by
        rw [hw'.dropWhile_append]
        rfl
      simp only [List.length_cons, List.length_append] at hn
      obtain ⟨mid, hread, hmid⟩ := reads_of_application (soundOperand_operandUpTo n) ih happ
        (by omega) (.inr ⟨rest, hclose⟩) (p + 1 + w.length)
      rw [hclose] at hmid
      refine ⟨mid.skipBlanks.pos + 1,
        Rule.reads_orElse.2 (.inr ⟨refuses_number_paren p (w ++ s), ?_⟩)⟩
      refine reads_group.2 ⟨w ++ s, mid, rfl, ?_, hmid, rfl⟩
      rw [Cursor.skipBlanks_append hw happ.head_not_blank]
      exact hread

/-- Every operand is read. -/
theorem completeOperand_operand (n : Nat) : CompleteOperand n operand := by
  intro p s t rest _ h
  simp only [Reads, operand_eq_operandUpTo]
  exact completeOperand_operandUpTo (s.length + 1) p s t rest (Nat.lt_succ_self _) h

/-- A program is read to the end of the text. -/
theorem reads_of_program {s : List Char} {t : Term} (h : Program s t) (p : Nat) :
    ∃ q, Reads program ⟨p, s⟩ t ⟨q, []⟩ := by
  cases h with
  | @spaced w s w' _ hw happ hw' =>
    have hend : w'.dropWhile isBlank = [] := by
      simpa using hw'.dropWhile_append (s := [])
    obtain ⟨mid, hread, hmid⟩ := reads_of_application soundOperand_operand
      (completeOperand_operand s.length) happ (Nat.le_refl _) (.inl hend) (p + w.length)
    rw [hend] at hmid
    refine ⟨mid.skipBlanks.pos, reads_program.2 ⟨mid, ?_, ?_⟩⟩
    · rw [Cursor.skipBlanks_append hw happ.head_not_blank]
      exact hread
    · rw [← hmid]

/-! ## Lines -/

section
variable {c next : Cursor} {cmd : Command}

/-- A line is read as one of the alternatives for lines. -/
theorem reads_line : Reads line c cmd next ↔ next.rest = [] ∧
    Reads (Rule.choice (Verb.all.map request ++ [program.map fun t => ⟨.eval, t⟩])) c cmd next := by
  rw [line, Rule.reads_keepLeft]
  refine ⟨?_, ?_⟩
  · rintro ⟨u, mid, hread, hend⟩
    obtain ⟨hrest, rfl⟩ := Rule.reads_endOfInput.1 hend
    exact ⟨hrest, hread⟩
  · rintro ⟨hrest, hread⟩
    exact ⟨(), next, hread, Rule.reads_endOfInput.2 ⟨hrest, rfl⟩⟩

/-- A text that is read as a line is a line. -/
theorem line_of_reads (h : Reads line c cmd next) : Line c.rest cmd := by
  obtain ⟨hrest, hchoice⟩ := reads_line.1 h
  obtain ⟨q, hq, hread⟩ := hchoice.exists_mem_of_choice
  rcases List.mem_append.1 hq with hq | hq
  · obtain ⟨verb, -, rfl⟩ := List.mem_map.1 hq
    obtain ⟨s, t, hc, -, hprogram, rfl⟩ := reads_request.1 hread
    rw [hc]
    exact .request verb (program_of_reads hprogram hrest)
  · cases List.mem_singleton.1 hq
    obtain ⟨t, hprogram, rfl⟩ := Rule.reads_map.1 hread
    exact .bare (program_of_reads hprogram hrest)

/-- No program is read at a colon. -/
theorem not_reads_program_colon {p : Nat} {s : List Char} {t : Term} :
    ¬ Reads program ⟨p, ':' :: s⟩ t next := by
  intro h
  obtain ⟨mid, happ, -⟩ := reads_program.1 h
  rw [Cursor.skipBlanks_eq_self rfl] at happ
  cases application_of_reads soundOperand_operand happ with
  | apply hx _ => exact absurd hx (by decide)

/-- A line that is a program is read to the end of the text: no request is read there. -/
theorem reads_of_bare {s : List Char} {t : Term} (h : Program s t) (p : Nat) :
    ∃ q, Reads line ⟨p, s⟩ ⟨.eval, t⟩ ⟨q, []⟩ := by
  obtain ⟨q, hprogram⟩ := reads_of_program h p
  refine ⟨q, reads_line.2 ⟨rfl, Rule.reads_choice_of_mem
    (List.mem_append_right _ (.head _)) (Rule.reads_map.2 ⟨t, hprogram, rfl⟩) ?_⟩⟩
  intro r hr cmd next hread
  rcases List.mem_append.1 hr with hr | hr
  · obtain ⟨verb, -, rfl⟩ := List.mem_map.1 hr
    obtain ⟨s', t', hs', -⟩ := reads_request.1 hread
    dsimp only at hs'
    subst hs'
    exact absurd rfl h.head_ne_colon
  · cases List.mem_singleton.1 hr
    obtain ⟨t', hprogram', rfl⟩ := Rule.reads_map.1 hread
    obtain ⟨rfl, rfl⟩ := hprogram.unique hprogram'
    exact ⟨rfl, rfl⟩

/-- A request is read to the end of the text: neither another verb nor a program is read there. -/
theorem reads_of_request {s : List Char} {t : Term} (verb : Verb) (h : Program s t) (p : Nat) :
    ∃ q, Reads line ⟨p, ':' :: (verb.name.toList ++ s)⟩ ⟨verb, t⟩ ⟨q, []⟩ := by
  obtain ⟨q, hprogram⟩ := reads_of_program h (p + 1 + verb.name.toList.length)
  have hend := h.head_not_identRest
  have hverb : request verb ∈ Verb.all.map request := by
    cases verb <;> simp [Verb.all]
  refine ⟨q, reads_line.2 ⟨rfl, Rule.reads_choice_of_mem (List.mem_append_left _ hverb)
    (reads_request.2 ⟨s, t, rfl, hend, hprogram, rfl⟩) ?_⟩⟩
  intro r hr cmd next hread
  rcases List.mem_append.1 hr with hr | hr
  · obtain ⟨verb', -, rfl⟩ := List.mem_map.1 hr
    obtain ⟨s', t', hs', hend', hprogram', rfl⟩ := reads_request.1 hread
    obtain ⟨hname, rfl⟩ := Lexeme.identifier_unique (Lexeme.isIdentifier_name verb) hend
      (Lexeme.isIdentifier_name verb') hend' (List.cons.inj hs').2
    obtain rfl := Lexeme.name_injective (String.toList_injective hname)
    obtain ⟨rfl, rfl⟩ := hprogram.unique hprogram'
    exact ⟨rfl, rfl⟩
  · cases List.mem_singleton.1 hr
    obtain ⟨t', hprogram', rfl⟩ := Rule.reads_map.1 hread
    exact absurd hprogram' not_reads_program_colon

/-- A line is read to the end of the text. -/
theorem reads_of_line {s : List Char} (h : Line s cmd) (p : Nat) :
    ∃ q, Reads line ⟨p, s⟩ cmd ⟨q, []⟩ := by
  cases h with
  | bare h => exact reads_of_bare h p
  | request verb h => exact reads_of_request verb h p

end

/-- A text is accepted as a command if and only if it is a line that stands for the command. -/
theorem parse_eq_ok_iff {text : String} {cmd : Command} :
    parse text = .ok cmd ↔ Line text.toList cmd := by
  rw [parse, Rule.read_eq_ok_iff]
  refine ⟨?_, ?_⟩
  · rintro ⟨next, h⟩
    exact line_of_reads h
  · intro h
    obtain ⟨q, hread⟩ := reads_of_line h 0
    exact ⟨⟨q, []⟩, hread⟩

/-- The reader accepts exactly the lines of the grammar, each as the command it stands for, and no
text stands for two commands. -/
theorem parse_eq_ok_iff_line (text : String) :
    (∀ cmd, parse text = .ok cmd ↔ Line text.toList cmd) ∧
    ∀ cmd cmd', Line text.toList cmd → Line text.toList cmd' → cmd = cmd' := by
  refine ⟨fun cmd => parse_eq_ok_iff, fun cmd cmd' h h' => ?_⟩
  have hread := parse_eq_ok_iff.2 h
  rw [parse_eq_ok_iff.2 h'] at hread
  exact (Except.ok.inj hread).symm

end PrefixCalc.Grammar
