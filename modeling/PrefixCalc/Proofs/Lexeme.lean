import PrefixCalc.Grammar
import PrefixCalc.Proofs.Failure
import PrefixCalc.Proofs.Reads

/-!
# What the lexemes read

The exact outcome of the rules for numbers and keywords at every place. A number literal
(`Lexeme.IsLiteral`) is read to its end, that is up to the first character that is no digit, and
leaves behind the failure to read one more digit there. A keyword is read only where it is the whole
identifier that stands there.
-/

namespace PrefixCalc

/-- A text divides at the first character outside a class. -/
theorem exists_span (accept : Char → Bool) (s : List Char) : ∃ cs rest, s = cs ++ rest ∧
    (∀ x ∈ cs, accept x = true) ∧ rest.head?.any accept = false := by
  refine ⟨s.takeWhile accept, s.dropWhile accept, List.takeWhile_append_dropWhile.symm, ?_, ?_⟩
  · exact List.all_eq_true.1 List.all_takeWhile
  · cases h : (s.dropWhile accept).head? with
    | none => rfl
    | some x => simpa [h] using List.head?_dropWhile_not accept s

namespace Rule

/-- The repetition of a character class takes the characters up to the first one outside it, and
gives up on one more there. -/
theorem manyUpTo_token {accept : Char → Bool} {cs rest : List Char}
    (hcs : ∀ x ∈ cs, accept x = true) (hrest : rest.head?.any accept = false)
    (expected : List Expectation) (n p : Nat) (hn : cs.length < n) (alt : Option Failure) :
    manyUpTo (token accept expected) n alt ⟨p, cs ++ rest⟩ =
      (cs, Failure.furthest? alt (some (Cursor.refuse ⟨p + cs.length, rest⟩ expected)),
        ⟨p + cs.length, rest⟩) := by
  induction cs generalizing n p with
  | nil =>
    obtain ⟨n, rfl⟩ : ∃ m, n = m + 1 := ⟨n - 1, by simp at hn; omega⟩
    cases rest with
    | nil => rfl
    | cons y ys =>
      have hy : accept y = false := by simpa using hrest
      simp [manyUpTo, token, hy]
  | cons x cs ih =>
    obtain ⟨n, rfl⟩ : ∃ m, n = m + 1 := ⟨n - 1, by simp at hn; omega⟩
    have hx : accept x = true := hcs x (.head _)
    have hlast := ih (fun y hy => hcs y (.tail _ hy)) n (p + 1) (by simpa using hn)
    have halt : Failure.furthest? alt none = alt := by cases alt <;> rfl
    simp only [List.cons_append, manyUpTo, token, hx, if_true, halt, hlast, List.length_cons]
    rw [Nat.add_assoc, Nat.add_comm 1]

end Rule

namespace Lexeme

/-! ## Numbers -/

/-- An optional minus sign and one or more ASCII digits. -/
def IsLiteral (cs : List Char) : Prop :=
  ∃ ds, ds ≠ [] ∧ (∀ d ∈ ds, d.isDigit = true) ∧ (cs = ds ∨ cs = '-' :: ds)

/-- A literal starts with a minus sign or a digit. -/
theorem IsLiteral.head {cs : List Char} (h : IsLiteral cs) :
    ∃ x xs, cs = x :: xs ∧ (x = '-' ∨ x.isDigit = true) := by
  obtain ⟨ds, hne, hds, rfl | rfl⟩ := h
  · obtain ⟨d, ds, rfl⟩ := List.exists_cons_of_ne_nil hne
    exact ⟨d, ds, rfl, .inr (hds d (.head _))⟩
  · exact ⟨'-', ds, rfl, .inl rfl⟩

/-- What a text can start with where a number is looked for: a literal, a minus sign without a digit
after it, or neither a minus sign nor a digit. -/
theorem literal_cases (s : List Char) :
    (∃ cs rest, s = cs ++ rest ∧ IsLiteral cs ∧ rest.head?.any Char.isDigit = false) ∨
    (∃ rest, s = '-' :: rest ∧ rest.head?.any Char.isDigit = false) ∨
    s.head? ≠ some '-' ∧ s.head?.any Char.isDigit = false := by
  by_cases hsign : s.head? = some '-'
  · obtain ⟨s, rfl⟩ := List.head?_eq_some_iff.1 hsign
    obtain ⟨ds, rest, rfl, hds, hrest⟩ := exists_span Char.isDigit s
    by_cases hne : ds = []
    · subst hne; exact .inr (.inl ⟨rest, rfl, hrest⟩)
    · exact .inl ⟨'-' :: ds, rest, rfl, ⟨ds, hne, hds, .inr rfl⟩, hrest⟩
  · obtain ⟨ds, rest, rfl, hds, hrest⟩ := exists_span Char.isDigit s
    by_cases hne : ds = []
    · subst hne; exact .inr (.inr ⟨hsign, hrest⟩)
    · exact .inl ⟨ds, rest, rfl, ⟨ds, hne, hds, .inl rfl⟩, hrest⟩

section
variable {rest : List Char} {p : Nat}

/-- Digits are read to the last one. -/
theorem many1_digit_ok {ds : List Char} (hne : ds ≠ []) (hds : ∀ d ∈ ds, d.isDigit = true)
    (hrest : rest.head?.any Char.isDigit = false) : Rule.many1 digit ⟨p, ds ++ rest⟩ =
      .ok ds (some (Cursor.refuse ⟨p + ds.length, rest⟩ [])) ⟨p + ds.length, rest⟩ := by
  obtain ⟨d, ds, rfl⟩ := List.exists_cons_of_ne_nil hne
  have hd : d.isDigit = true := hds d (.head _)
  have hfirst : digit ⟨p, d :: ds ++ rest⟩ = .ok d none ⟨p + 1, ds ++ rest⟩ := by
    simp [digit, Rule.token, hd]
  have hlast := Rule.manyUpTo_token (fun x hx => hds x (.tail _ hx)) hrest []
    ((ds ++ rest).length + 1) (p + 1) (by rw [List.length_append]; omega) none
  rw [Rule.many1, hfirst]
  simp only [Rule.manyAfter, digit, hlast, Failure.furthest?, List.length_cons]
  rw [Nat.add_assoc, Nat.add_comm 1]

/-- Digits are refused where there is none. -/
theorem many1_digit_fail (hrest : rest.head?.any Char.isDigit = false) :
    Rule.many1 digit ⟨p, rest⟩ = .fail (Cursor.refuse ⟨p, rest⟩ []) := by
  cases rest with
  | nil => rfl
  | cons x xs =>
    have hx : x.isDigit = false := by simpa using hrest
    simp [Rule.many1, digit, Rule.token, hx]

/-- A sign is optional: where there is none, only the failure to read one is kept. -/
theorem optional_sign_none (h : rest.head? ≠ some '-') : Rule.optional (Rule.char '-') ⟨p, rest⟩ =
    .ok none (some (Cursor.refuse ⟨p, rest⟩ [.char '-'])) ⟨p, rest⟩ := by
  cases rest with
  | nil => rfl
  | cons x xs =>
    have hx : x ≠ '-' := by simpa using h
    simp [Rule.optional, Rule.char, Rule.token, hx]

/-- A literal is read to its end. -/
theorem signedDigits_ok {cs : List Char} (hcs : IsLiteral cs)
    (hrest : rest.head?.any Char.isDigit = false) : signedDigits ⟨p, cs ++ rest⟩ =
      .ok (String.ofList cs) (some (Cursor.refuse ⟨p + cs.length, rest⟩ []))
        ⟨p + cs.length, rest⟩ := by
  obtain ⟨ds, hne, hds, rfl | rfl⟩ := hcs
  · have hsign : (cs ++ rest).head? ≠ some '-' := by
      obtain ⟨d, ds, rfl⟩ := List.exists_cons_of_ne_nil hne
      intro heq
      cases heq
      exact absurd (hds '-' (.head _)) (by decide)
    have hlen : 0 < cs.length := List.length_pos_iff.2 hne
    rw [signedDigits, Rule.map, Rule.andThen, optional_sign_none hsign]
    simp only [many1_digit_ok hne hds hrest]
    rw [Failure.furthest?_eq_right]
    · rfl
    · intro f hf
      cases hf
      simpa [Cursor.refuse] using hlen
  · have hsign : Rule.optional (Rule.char '-') ⟨p, '-' :: ds ++ rest⟩ =
        .ok (some '-') none ⟨p + 1, ds ++ rest⟩ := rfl
    rw [signedDigits, Rule.map, Rule.andThen, hsign]
    simp only [many1_digit_ok hne hds hrest, Failure.furthest?, List.length_cons]
    rw [Nat.add_assoc, Nat.add_comm 1]
    rfl

/-- A minus sign without a digit is refused after the sign. -/
theorem signedDigits_fail_sign (hrest : rest.head?.any Char.isDigit = false) :
    signedDigits ⟨p, '-' :: rest⟩ = .fail (Cursor.refuse ⟨p + 1, rest⟩ []) := by
  have hsign : Rule.optional (Rule.char '-') ⟨p, '-' :: rest⟩ =
      .ok (some '-') none ⟨p + 1, rest⟩ := rfl
  rw [signedDigits, Rule.map, Rule.andThen, hsign]
  simp only [many1_digit_fail hrest]

/-- Where there is neither a minus sign nor a digit, a minus sign is expected. -/
theorem signedDigits_fail (hsign : rest.head? ≠ some '-')
    (hrest : rest.head?.any Char.isDigit = false) :
    signedDigits ⟨p, rest⟩ = .fail (Cursor.refuse ⟨p, rest⟩ [.char '-']) := by
  rw [signedDigits, Rule.map, Rule.andThen, optional_sign_none hsign]
  simp only [many1_digit_fail hrest]
  rw [Cursor.refuse_eq_refuseAs, Cursor.refuse_eq_refuseAs, Failure.further_refuseAs]
  rfl

end

/-! ## Keywords -/

/-- An identifier: a letter or underscore and any number of those and digits. -/
def IsIdentifier : List Char → Prop
  | [] => False
  | x :: xs => isIdentStart x = true ∧ ∀ y ∈ xs, isIdentRest y = true

/-- The failure to read another word where `word` stands: it points at all of the word and names no
character. -/
def refuseWord (p : Nat) (word : List Char) (label : Label) (expected : List Expectation) :
    Failure where
  reach := p + word.length
  diagnostic :=
    { span := ⟨p, p + word.length⟩
      reason := .unexpected
      found := none
      expected := expected
      label := label }

/-- The words of the verbs are identifiers. -/
theorem isIdentifier_name (verb : Verb) : IsIdentifier verb.name.toList := by
  cases verb <;> exact ⟨rfl, List.all_eq_true.1 rfl⟩

/-- The words of different verbs differ. -/
theorem name_injective {verb verb' : Verb} (h : verb.name = verb'.name) : verb = verb' := by
  cases verb <;> cases verb' <;> revert h <;> decide

section
variable {rest : List Char} {p : Nat}

/-- An identifier is read to its end. -/
theorem identifier_ok {name : List Char} (hname : IsIdentifier name)
    (hrest : rest.head?.any isIdentRest = false) : identifier ⟨p, name ++ rest⟩ =
      .ok (String.ofList name) (some (Cursor.refuse ⟨p + name.length, rest⟩ []))
        ⟨p + name.length, rest⟩ := by
  cases name with
  | nil => exact hname.elim
  | cons x xs =>
    obtain ⟨hx, hxs⟩ := hname
    have hlast := Rule.manyUpTo_token hxs hrest [] ((xs ++ rest).length + 1) (p + 1)
      (by rw [List.length_append]; omega) none
    have hfirst : Rule.token isIdentStart [] ⟨p, x :: xs ++ rest⟩ =
        .ok x none ⟨p + 1, xs ++ rest⟩ := by
      simp [Rule.token, hx]
    rw [identifier, Rule.map, Rule.andThen, hfirst]
    simp only [Rule.many, Rule.manyAfter, hlast, Failure.furthest?, List.length_cons]
    rw [Nat.add_assoc, Nat.add_comm 1]

/-- No identifier is read where none starts. -/
theorem identifier_fail (hrest : rest.head?.any isIdentStart = false) :
    identifier ⟨p, rest⟩ = .fail (Cursor.refuse ⟨p, rest⟩ []) := by
  cases rest with
  | nil => rfl
  | cons x xs =>
    have hx : isIdentStart x = false := by simpa using hrest
    simp [identifier, Rule.map, Rule.andThen, Rule.token, hx]

/-- A text starts with an identifier that ends before the first other character, or with none. -/
theorem identifier_cases (s : List Char) :
    (∃ name rest, s = name ++ rest ∧ IsIdentifier name ∧ rest.head?.any isIdentRest = false) ∨
    s.head?.any isIdentStart = false := by
  cases s with
  | nil => exact .inr rfl
  | cons x s =>
    cases hx : isIdentStart x with
    | false => exact .inr (by simpa using hx)
    | true =>
      obtain ⟨xs, rest, rfl, hxs, hrest⟩ := exists_span isIdentRest s
      exact .inl ⟨x :: xs, rest, rfl, ⟨hx, hxs⟩, hrest⟩

/-- A text starts with one identifier at most that ends before the first other character. -/
theorem identifier_unique {name name' rest' : List Char} (hname : IsIdentifier name)
    (hrest : rest.head?.any isIdentRest = false) (hname' : IsIdentifier name')
    (hrest' : rest'.head?.any isIdentRest = false) (h : name ++ rest = name' ++ rest') :
    name = name' ∧ rest = rest' := by
  have hread := identifier_ok (p := 0) hname hrest
  rw [h, identifier_ok hname' hrest'] at hread
  simp only [Reply.ok.injEq, Cursor.mk.injEq] at hread
  exact ⟨(String.ofList_injective hread.1).symm, hread.2.2.2.symm⟩

/-- A keyword is read where it stands, and leaves behind the failure to go on with it. -/
theorem keyword_ok {name : String} (hname : IsIdentifier name.toList)
    (hrest : rest.head?.any isIdentRest = false) : keyword name ⟨p, name.toList ++ rest⟩ =
      .ok () (some (Cursor.refuse ⟨p + name.toList.length, rest⟩ []))
        ⟨p + name.toList.length, rest⟩ := by
  simp only [keyword, identifier_ok hname hrest, String.ofList_toList, if_true]

/-- A keyword refuses another word as a whole. -/
theorem keyword_fail {name : String} {word : List Char} (hword : IsIdentifier word)
    (hrest : rest.head?.any isIdentRest = false) (hne : name.toList ≠ word) :
    keyword name ⟨p, word ++ rest⟩ = .fail (refuseWord p word .unnamed []) := by
  have hne' : String.ofList word ≠ name := by
    rintro rfl
    exact hne String.toList_ofList
  simp only [keyword, identifier_ok hword hrest, if_neg hne']
  rfl

/-- A keyword is refused where no word starts. -/
theorem keyword_fail_nameless (hrest : rest.head?.any isIdentStart = false) (name : String) :
    keyword name ⟨p, rest⟩ = .fail (Cursor.refuse ⟨p, rest⟩ []) := by
  simp only [keyword, identifier_fail hrest]

/-- A keyword is read where it is the identifier that stands there. -/
theorem reads_keyword {word : String} (hword : IsIdentifier word.toList) {c next : Cursor}
    {u : Unit} : Rule.Reads (keyword word) c u next ↔ ∃ rest, c.rest = word.toList ++ rest ∧
      rest.head?.any isIdentRest = false ∧ next = ⟨c.pos + word.toList.length, rest⟩ := by
  obtain ⟨p, s⟩ := c
  refine ⟨?_, ?_⟩
  · rintro ⟨alt, h⟩
    rcases identifier_cases s with ⟨name, rest, rfl, hname, hrest⟩ | hs
    · by_cases heq : word.toList = name
      · subst heq
        rw [keyword_ok hname hrest] at h
        cases h
        exact ⟨rest, rfl, hrest, rfl⟩
      · rw [keyword_fail hname hrest heq] at h
        cases h
    · rw [keyword_fail_nameless hs] at h
      cases h
  · rintro ⟨rest, hs, hrest, rfl⟩
    dsimp only at hs
    subst hs
    exact ⟨_, keyword_ok hword hrest⟩

end

end Lexeme

namespace Grammar

/-! ## Numbers as operands -/

section
variable {rest : List Char} {p : Nat}

/-- A literal is a number. -/
theorem number_ok {cs : List Char} (hcs : Lexeme.IsLiteral cs)
    (hrest : rest.head?.any Char.isDigit = false) : number ⟨p, cs ++ rest⟩ =
      .ok (.number (String.ofList cs))
        (some (Cursor.refuseAs ⟨p + cs.length, rest⟩ (.named "number") []))
        ⟨p + cs.length, rest⟩ := by
  simp only [number, Rule.named, Rule.map, Lexeme.signedDigits_ok hcs hrest]
  rfl

/-- A minus sign without a digit is refused after the sign, as a number. -/
theorem number_fail_sign (hrest : rest.head?.any Char.isDigit = false) :
    number ⟨p, '-' :: rest⟩ = .fail (Cursor.refuseAs ⟨p + 1, rest⟩ (.named "number") []) := by
  simp only [number, Rule.named, Rule.map, Lexeme.signedDigits_fail_sign hrest]
  rfl

/-- Where there is neither a minus sign nor a digit, a number is expected, by its minus sign. -/
theorem number_fail (hsign : rest.head? ≠ some '-')
    (hrest : rest.head?.any Char.isDigit = false) : number ⟨p, rest⟩ =
      .fail (Cursor.refuseAs ⟨p, rest⟩ (.named "number") [.char '-']) := by
  simp only [number, Rule.named, Rule.map, Lexeme.signedDigits_fail hsign hrest]
  rfl

/-- A number is read where a literal stands, and as the whole of it. -/
theorem reads_number {c next : Cursor} {t : Term} : Rule.Reads number c t next ↔
    ∃ cs rest, c.rest = cs ++ rest ∧ Lexeme.IsLiteral cs ∧
      rest.head?.any Char.isDigit = false ∧ t = .number (String.ofList cs) ∧
      next = ⟨c.pos + cs.length, rest⟩ := by
  obtain ⟨p, s⟩ := c
  refine ⟨?_, ?_⟩
  · rintro ⟨alt, h⟩
    rcases Lexeme.literal_cases s with ⟨cs, rest, rfl, hcs, hrest⟩ | ⟨rest, rfl, hrest⟩ |
      ⟨hsign, hrest⟩
    · rw [number_ok hcs hrest] at h
      cases h
      exact ⟨cs, rest, rfl, hcs, hrest, rfl, rfl⟩
    · rw [number_fail_sign hrest] at h
      cases h
    · rw [number_fail hsign hrest] at h
      cases h
  · rintro ⟨cs, rest, hs, hcs, hrest, rfl, rfl⟩
    dsimp only at hs
    subst hs
    exact ⟨_, number_ok hcs hrest⟩

end

end Grammar

end PrefixCalc
