import PrefixCalc.Rule

/-!
# What a rule reads

`Rule.Reads r c a next` says that the rule `r` succeeds at `c`, with the value `a` and the place
`next` after it, whatever was given up on the way; `Rule.Refuses r c` says that it fails. Every
combination of rules has one law that says what it reads in terms of what its parts read, so that
what a grammar reads can be found without a look at the failures it carries along.

The repetition of a rule is greedy: it ends only where the rule refuses (`Rule.ReadsEach`). That
the bound on the number of items is never met rests on the rule reading at least one character
each time (`Rule.Progresses`).
-/

namespace PrefixCalc

namespace Rule

variable {α β : Type}

/-- The rule succeeds at `c` with the value `a` and ends at `next`. -/
def Reads (r : Rule α) (c : Cursor) (a : α) (next : Cursor) : Prop :=
  ∃ alt, r c = .ok a alt next

/-- The rule fails at `c`. -/
def Refuses (r : Rule α) (c : Cursor) : Prop := ∃ why, r c = .fail why

/-- The rule leaves fewer characters than it finds. -/
def Progresses (r : Rule α) : Prop :=
  ∀ c a next, Reads r c a next → next.rest.length < c.rest.length

section
variable {r : Rule α} {s : Rule β} {c next : Cursor} {a : α} {b : β}

/-- A rule reads one thing at a place. -/
theorem Reads.unique {a' : α} {next' : Cursor} (h : Reads r c a next) (h' : Reads r c a' next') :
    a = a' ∧ next = next' := by
  obtain ⟨alt, h⟩ := h
  obtain ⟨alt', h'⟩ := h'
  rw [h] at h'
  cases h'
  exact ⟨rfl, rfl⟩

/-- A rule that refuses a place reads nothing there. -/
theorem Refuses.not_reads (h : Refuses r c) : ¬ Reads r c a next := by
  rintro ⟨alt, ha⟩
  obtain ⟨why, hw⟩ := h
  rw [hw] at ha
  cases ha

/-- A rule that reads nothing at a place refuses it. -/
theorem refuses_of_not_reads (h : ∀ a next, ¬ Reads r c a next) : Refuses r c := by
  cases hr : r c with
  | ok a alt next => exact absurd ⟨alt, hr⟩ (h a next)
  | fail why => exact ⟨why, hr⟩

/-! ## Single characters -/

/-- A character class reads the character that stands there, if it is in the class. -/
theorem reads_token {accept : Char → Bool} {expected : List Expectation} {x : Char} :
    Reads (token accept expected) c x next ↔
      accept x = true ∧ c.rest = x :: next.rest ∧ next.pos = c.pos + 1 := by
  obtain ⟨p, cs⟩ := c
  obtain ⟨q, ds⟩ := next
  refine ⟨?_, ?_⟩
  · rintro ⟨alt, h⟩
    cases cs with
    | nil => simp [token] at h
    | cons y ys =>
      simp only [token] at h
      split at h
      · next hy => cases h; exact ⟨hy, rfl, rfl⟩
      · cases h
  · rintro ⟨hx, hcs, hq⟩
    dsimp only at hcs hq
    subst hcs hq
    exact ⟨none, by simp [token, hx]⟩

/-- A single character is read where it stands. -/
theorem reads_char {x y : Char} :
    Reads (char x) c y next ↔ y = x ∧ c.rest = x :: next.rest ∧ next.pos = c.pos + 1 := by
  rw [char, reads_token, beq_iff_eq]
  refine ⟨?_, ?_⟩
  · rintro ⟨rfl, h⟩; exact ⟨rfl, h⟩
  · rintro ⟨rfl, h⟩; exact ⟨rfl, h⟩

/-- One of several characters is read where it stands. -/
theorem reads_oneOf {xs : List Char} {x : Char} :
    Reads (oneOf xs) c x next ↔ x ∈ xs ∧ c.rest = x :: next.rest ∧ next.pos = c.pos + 1 := by
  rw [oneOf, reads_token, List.contains_iff_mem]

/-- The end of the text is read where nothing is left. -/
theorem reads_endOfInput {u : Unit} : Reads endOfInput c u next ↔ c.rest = [] ∧ next = c := by
  obtain ⟨p, cs⟩ := c
  cases cs with
  | nil => simp [Reads, endOfInput, eq_comm]
  | cons y ys => simp [Reads, endOfInput]

/-! ## Combinations -/

/-- A rule under another value reads what the rule reads. -/
theorem reads_map {f : α → β} : Reads (map f r) c b next ↔ ∃ a, Reads r c a next ∧ b = f a := by
  refine ⟨?_, ?_⟩
  · rintro ⟨alt, h⟩
    rw [map] at h
    split at h
    · next a alt' next' hr => cases h; exact ⟨a, ⟨_, hr⟩, rfl⟩
    · cases h
  · rintro ⟨a, ⟨alt, hr⟩, rfl⟩
    exact ⟨alt, by rw [map, hr]⟩

/-- A sequence reads what its second part reads after the first. -/
theorem reads_andThen {v : α × β} :
    Reads (r.andThen s) c v next ↔ ∃ mid, Reads r c v.1 mid ∧ Reads s mid v.2 next := by
  refine ⟨?_, ?_⟩
  · rintro ⟨alt, h⟩
    rw [andThen] at h
    split at h
    · cases h
    · next a alt₁ mid hr =>
      split at h
      · cases h
      · cases h
      · next b alt₂ next' hs => cases h; exact ⟨mid, ⟨_, hr⟩, ⟨_, hs⟩⟩
  · rintro ⟨mid, ⟨alt₁, hr⟩, ⟨alt₂, hs⟩⟩
    exact ⟨Failure.furthest? alt₁ alt₂, by rw [andThen, hr]; simp only [hs]⟩

/-- A sequence whose second value is kept. -/
theorem reads_keepRight :
    Reads (r.keepRight s) c b next ↔ ∃ a mid, Reads r c a mid ∧ Reads s mid b next := by
  rw [keepRight, reads_map]
  refine ⟨?_, ?_⟩
  · rintro ⟨v, hv, rfl⟩
    obtain ⟨mid, h⟩ := reads_andThen.1 hv
    exact ⟨v.1, mid, h⟩
  · rintro ⟨a, mid, h⟩
    exact ⟨(a, b), reads_andThen.2 ⟨mid, h⟩, rfl⟩

/-- A sequence whose first value is kept. -/
theorem reads_keepLeft :
    Reads (r.keepLeft s) c a next ↔ ∃ b mid, Reads r c a mid ∧ Reads s mid b next := by
  rw [keepLeft, reads_map]
  refine ⟨?_, ?_⟩
  · rintro ⟨v, hv, rfl⟩
    obtain ⟨mid, h⟩ := reads_andThen.1 hv
    exact ⟨v.2, mid, h⟩
  · rintro ⟨b, mid, h⟩
    exact ⟨(a, b), reads_andThen.2 ⟨mid, h⟩, rfl⟩

/-- An alternative reads what its first rule reads or, where that one refuses, its second. -/
theorem reads_orElse {q : Rule α} :
    Reads (r.orElse q) c a next ↔ Reads r c a next ∨ Refuses r c ∧ Reads q c a next := by
  refine ⟨?_, ?_⟩
  · rintro ⟨alt, h⟩
    rw [orElse] at h
    split at h
    · next hr => cases h; exact .inl ⟨_, hr⟩
    · next why hr =>
      split at h
      · next hq => cases h; exact .inr ⟨⟨why, hr⟩, _, hq⟩
      · cases h
  · rintro (⟨alt, hr⟩ | ⟨⟨why, hr⟩, alt, hq⟩)
    · exact ⟨alt, by rw [orElse, hr]⟩
    · exact ⟨alt, by rw [orElse, hr]; simp only [hq]⟩

/-- What was given up before a choice changes nothing about what it reads. -/
theorem Reads.choiceAfter {rs : List (Rule α)} {seen : Option Failure}
    (h : Reads (choiceAfter seen rs) c a next) (seen' : Option Failure) :
    Reads (Rule.choiceAfter seen' rs) c a next := by
  induction rs generalizing seen seen' with
  | nil =>
    obtain ⟨alt, h⟩ := h
    cases h
  | cons q qs ih =>
    cases hq : q c with
    | ok b alt mid =>
      simp only [Reads, Rule.choiceAfter, hq] at h ⊢
      exact h
    | fail why =>
      simp only [Reads, Rule.choiceAfter, hq] at h ⊢
      exact ih h _

/-- A choice reads what its first rule reads or, where that one refuses, what the others do. -/
theorem reads_choice_cons {q : Rule α} {qs : List (Rule α)} : Reads (choice (q :: qs)) c a next ↔
    Reads q c a next ∨ Refuses q c ∧ Reads (choice qs) c a next := by
  cases hq : q c with
  | ok b alt mid =>
    have hstep : Reads (choice (q :: qs)) c a next ↔ Reads q c a next := by
      simp only [Reads, choice, choiceAfter, hq]
    have hnot : ¬ Refuses q c := fun href => href.not_reads ⟨alt, hq⟩
    rw [hstep]
    exact ⟨.inl, fun h => h.resolve_right fun h' => hnot h'.1⟩
  | fail why =>
    have hstep : Reads (choice (q :: qs)) c a next ↔
        Reads (choiceAfter (Failure.furthest? none (some why)) qs) c a next := by
      simp only [Reads, choice, choiceAfter, hq]
    have href : Refuses q c := ⟨why, hq⟩
    rw [hstep]
    refine ⟨fun h => .inr ⟨href, h.choiceAfter none⟩, fun h => ?_⟩
    rcases h with h | ⟨-, h⟩
    · exact absurd h href.not_reads
    · exact h.choiceAfter _

/-- What a choice reads is read by one of its rules. -/
theorem Reads.exists_mem_of_choice {rs : List (Rule α)} (h : Reads (choice rs) c a next) :
    ∃ q ∈ rs, Reads q c a next := by
  induction rs with
  | nil =>
    obtain ⟨alt, h⟩ := h
    cases h
  | cons q qs ih =>
    rcases reads_choice_cons.1 h with h | ⟨-, h⟩
    · exact ⟨q, .head _, h⟩
    · obtain ⟨q', hmem, h'⟩ := ih h
      exact ⟨q', .tail _ hmem, h'⟩

/-- A choice reads what one of its rules reads if no other of its rules reads anything else. -/
theorem reads_choice_of_mem {rs : List (Rule α)} {q : Rule α} (hq : q ∈ rs)
    (h : Reads q c a next) (hunique : ∀ p ∈ rs, ∀ b mid, Reads p c b mid → b = a ∧ mid = next) :
    Reads (choice rs) c a next := by
  induction rs with
  | nil => cases hq
  | cons p ps ih =>
    rw [reads_choice_cons]
    cases hp : p c with
    | ok b alt mid =>
      obtain ⟨rfl, rfl⟩ := hunique p (.head _) b mid ⟨alt, hp⟩
      exact .inl ⟨alt, hp⟩
    | fail why =>
      have href : Refuses p c := ⟨why, hp⟩
      have hmem : q ∈ ps := by
        rcases List.mem_cons.1 hq with rfl | hmem
        · exact absurd h href.not_reads
        · exact hmem
      exact .inr ⟨href, ih hmem fun p' hp' => hunique p' (.tail _ hp')⟩

/-- A name changes nothing about what is read. -/
theorem reads_named {name : String} : Reads (r.named name) c a next ↔ Reads r c a next := by
  refine ⟨?_, ?_⟩
  · rintro ⟨alt, h⟩
    rw [named] at h
    split at h
    · next hr => cases h; exact ⟨_, hr⟩
    · cases h
  · rintro ⟨alt, hr⟩
    exact ⟨alt.map (Failure.named name), by rw [named, hr]⟩

/-- A rule with blanks around it reads what the rule reads after the blanks. -/
theorem reads_spaced :
    Reads r.spaced c a next ↔ ∃ mid, Reads r c.skipBlanks a mid ∧ next = mid.skipBlanks := by
  refine ⟨?_, ?_⟩
  · rintro ⟨alt, h⟩
    rw [spaced] at h
    split at h
    · next mid hr => cases h; exact ⟨mid, ⟨_, hr⟩, rfl⟩
    · cases h
  · rintro ⟨mid, ⟨alt, hr⟩, rfl⟩
    exact ⟨alt, by rw [spaced, hr]⟩

/-- A rule with blanks around it refuses where the rule refuses after the blanks. -/
theorem refuses_spaced : Refuses r.spaced c ↔ Refuses r c.skipBlanks := by
  refine ⟨?_, ?_⟩
  · rintro ⟨why, h⟩
    rw [spaced] at h
    split at h
    · cases h
    · next hr => cases h; exact ⟨_, hr⟩
  · rintro ⟨why, hr⟩
    exact ⟨why, by rw [spaced, hr]⟩

/-- A rule with blanks around it progresses if the rule does. -/
theorem Progresses.spaced (hr : Progresses r) : Progresses r.spaced := by
  intro c a next h
  obtain ⟨mid, hmid, rfl⟩ := reads_spaced.1 h
  have hlt : mid.rest.length < c.skipBlanks.rest.length := hr _ _ _ hmid
  have hskip : ∀ d : Cursor, d.skipBlanks.rest.length ≤ d.rest.length :=
    fun d => (List.dropWhile_suffix isBlank).length_le
  exact Nat.lt_of_le_of_lt (hskip mid) (Nat.lt_of_lt_of_le hlt (hskip c))

end

/-! ## Repetition -/

/-- The rule reads the items one after another, and refuses the place after the last one. -/
inductive ReadsEach (r : Rule α) : Cursor → List α → Cursor → Prop
  | nil {c : Cursor} : Refuses r c → ReadsEach r c [] c
  | cons {c mid next : Cursor} {a : α} {as : List α} :
      Reads r c a mid → ReadsEach r mid as next → ReadsEach r c (a :: as) next

section
variable {r : Rule α} {c next : Cursor} {as : List α}

/-- A bounded repetition whose bound exceeds the characters left reads the items up to the first
refusal. -/
theorem manyUpTo_iff_readsEach (hr : Progresses r) {n : Nat} (hn : c.rest.length < n)
    (alt : Option Failure) :
    (∃ alt', manyUpTo r n alt c = (as, alt', next)) ↔ ReadsEach r c as next := by
  induction n generalizing c as alt with
  | zero => exact absurd hn (Nat.not_lt_zero _)
  | succ n ih =>
    cases hc : r c with
    | fail why =>
      simp only [manyUpTo, hc, Prod.mk.injEq]
      refine ⟨?_, ?_⟩
      · rintro ⟨alt', rfl, -, rfl⟩; exact .nil ⟨why, hc⟩
      · intro h
        cases h with
        | nil => exact ⟨_, rfl, rfl, rfl⟩
        | cons h _ => exact absurd h (Refuses.not_reads ⟨why, hc⟩)
    | ok a alt₁ mid =>
      have hmid : mid.rest.length < n :=
        Nat.lt_of_lt_of_le (hr c a mid ⟨alt₁, hc⟩) (Nat.le_of_lt_succ hn)
      simp only [manyUpTo, hc, Prod.mk.injEq]
      refine ⟨?_, ?_⟩
      · rintro ⟨alt', rfl, hlast⟩
        exact .cons ⟨alt₁, hc⟩
          ((ih hmid (Failure.furthest? alt alt₁)).1 ⟨alt', Prod.ext rfl hlast⟩)
      · intro h
        cases h with
        | nil h => exact absurd ⟨alt₁, hc⟩ h.not_reads
        | cons h hs =>
          obtain ⟨rfl, rfl⟩ := h.unique ⟨alt₁, hc⟩
          obtain ⟨alt', hm⟩ := (ih hmid (Failure.furthest? alt alt₁)).2 hs
          exact ⟨alt', by rw [hm], by rw [hm]⟩

/-- A repetition reads items up to the first refusal. -/
theorem reads_many (hr : Progresses r) : Reads (many r) c as next ↔ ReadsEach r c as next := by
  rw [← manyUpTo_iff_readsEach hr (Nat.lt_succ_self _) none]
  refine ⟨?_, ?_⟩
  · rintro ⟨alt, h⟩
    simp only [many, manyAfter, Reply.ok.injEq] at h
    exact ⟨alt, Prod.ext h.1 (Prod.ext h.2.1 h.2.2)⟩
  · rintro ⟨alt, h⟩
    exact ⟨alt, by simp only [many, manyAfter, h]⟩

end

/-- A text is read as what its front is read as. -/
theorem read_eq_ok_iff {r : Rule α} {text : String} {a : α} :
    read r text = .ok a ↔ ∃ next, Reads r (Cursor.ofText text) a next := by
  unfold read Reads
  cases r (Cursor.ofText text) with
  | ok b alt next => simp [eq_comm]
  | fail why => simp

end Rule

end PrefixCalc
