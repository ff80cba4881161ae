import PrefixCalc.Rule

/-!
# Ranking failures

Which of two failures survives. Every failure of the grammar but that of a keyword says what was
expected at a place and under which label (`Cursor.refuseAs`): of two such failures the one at the
later place survives, and two at one place become one, with the expectations of both.
-/

namespace PrefixCalc

/-- The failure to read what stands here, under a label. -/
def Cursor.refuseAs (c : Cursor) (label : Label) (expected : List Expectation) : Failure where
  reach := c.pos
  diagnostic := { (c.refuse expected).diagnostic with label := label }

/-- A plain refusal has no label. -/
theorem Cursor.refuse_eq_refuseAs (c : Cursor) (expected : List Expectation) :
    c.refuse expected = c.refuseAs .unnamed expected := rfl

namespace Failure

section
variable {a b : Failure} {c : Cursor} {l : Label} {es : List Expectation}

@[simp] theorem reach_refuseAs : (c.refuseAs l es).reach = c.pos := rfl

/-- The second failure survives if it reached further. -/
theorem further_eq_right (h : a.reach < b.reach) : a.further b = b := by
  rw [further, if_pos h]

/-- The first failure survives if it reached further. -/
theorem further_eq_left (h : b.reach < a.reach) : a.further b = a := by
  rw [further, if_neg (Nat.lt_asymm h), if_pos h]

/-- The survivor reaches as far as the one that reached further. -/
theorem reach_further : (a.further b).reach = max a.reach b.reach := by
  unfold further
  split
  · omega
  · split
    · omega
    · dsimp only; omega

/-- Two failures that reached equally far are one, which points where the first does. -/
theorem further_eq_merge (h : a.reach = b.reach) :
    a.further b = ⟨a.reach, a.diagnostic.merge b.diagnostic⟩ := by
  rw [further, h, if_neg (Nat.lt_irrefl _), if_neg (Nat.lt_irrefl _)]

/-- Two refusals of one place are one, under both labels and with the expectations of both. -/
theorem further_refuseAs {l' : Label} {es' : List Expectation} :
    (c.refuseAs l es).further (c.refuseAs l' es') =
      c.refuseAs (l.merge l') (es ++ es'.filter (· ∉ es)) := by
  have hreach : (c.refuseAs l es).reach = (c.refuseAs l' es').reach := rfl
  rw [further_eq_merge hreach]
  rfl

/-- A failure that reached less far than a later one is forgotten. -/
theorem furthest?_eq_right {alt : Option Failure} (h : ∀ f ∈ alt, f.reach < b.reach) :
    furthest? alt (some b) = some b := by
  cases alt with
  | none => rfl
  | some a => rw [furthest?, further_eq_left (h a rfl)]

end

/-- A failure met twice is one failure. -/
theorem further_self (f : Failure) : f.further f = f := by
  have hlabel : f.diagnostic.label.merge f.diagnostic.label = f.diagnostic.label := by
    cases f.diagnostic.label with
    | unnamed | conflicting => rfl
    | named name => exact if_pos rfl
  have hexpected : f.diagnostic.expected.filter (· ∉ f.diagnostic.expected) = [] := by
    rw [List.filter_eq_nil_iff]
    intro e he
    simpa using he
  rw [further_eq_merge rfl, Diagnostic.merge, hlabel, hexpected, List.append_nil]

/-- The failure is the given one, or it reached less far. -/
def UpTo (why f : Failure) : Prop := f = why ∨ f.reach < why.reach

/-- Of failures up to a given one, that one survives if it is among them. -/
theorem exists_furthest?_upTo {alt : Option Failure} {why g : Failure}
    (halt : ∀ f ∈ alt, UpTo why f) (hg : UpTo why g) : ∃ f, furthest? alt (some g) = some f ∧
      UpTo why f ∧ (alt = some why ∨ g = why → f = why) := by
  cases alt with
  | none => exact ⟨g, rfl, hg, fun h => h.resolve_left nofun⟩
  | some a =>
    rcases halt a rfl with rfl | ha <;> rcases hg with rfl | hg
    · exact ⟨g, congrArg some g.further_self, .inl rfl, fun _ => rfl⟩
    · exact ⟨a, congrArg some (further_eq_right hg), .inl rfl, fun _ => rfl⟩
    · exact ⟨g, congrArg some (further_eq_left ha), .inl rfl, fun _ => rfl⟩
    · have hlt : (g.further a).reach < why.reach := by
        rw [reach_further]
        omega
      refine ⟨g.further a, rfl, .inr hlt, ?_⟩
      rintro (h | rfl)
      · cases h
        exact absurd ha (Nat.lt_irrefl _)
      · exact absurd hg (Nat.lt_irrefl _)

end Failure

/-! ## How combinations pass failures on -/

namespace Rule

variable {α β : Type} {r : Rule α} {s : Rule β} {c mid next : Cursor} {a : α} {b : β}
  {alt alt' : Option Failure} {why why' : Failure}

/-- A sequence fails where its first part fails. -/
theorem andThen_fail (h : r c = .fail why) : r.andThen s c = .fail why := by
  rw [andThen, h]

/-- A sequence fails where its second part fails, unless the first gave up further on. -/
theorem andThen_ok_fail (h : r c = .ok a alt mid) (hs : s mid = .fail why)
    (hwhy : Failure.furthest? alt (some why) = some why') : r.andThen s c = .fail why' := by
  cases alt with
  | none => cases hwhy; rw [andThen, h]; simp only [hs]
  | some given => cases hwhy; rw [andThen, h]; simp only [hs]

/-- A sequence succeeds if both of its parts do, with the failure that one of them gave up. -/
theorem andThen_ok_ok (h : r c = .ok a alt mid) (hs : s mid = .ok b alt' next) :
    r.andThen s c = .ok (a, b) (Failure.furthest? alt alt') next := by
  rw [andThen, h]
  simp only [hs]

/-- The second rule is not tried where the first one succeeds. -/
theorem orElse_ok {r' : Rule α} (h : r c = .ok a alt next) : r.orElse r' c = .ok a alt next := by
  rw [orElse, h]

/-- Where the second rule succeeds, the failure of the first is forgotten. -/
theorem orElse_fail_ok {r' : Rule α} (h : r c = .fail why) (h' : r' c = .ok a alt next) :
    r.orElse r' c = .ok a alt next := by
  rw [orElse, h]
  simp only [h']

/-- Where both rules fail, the further failure survives. -/
theorem orElse_fail_fail {r' : Rule α} (h : r c = .fail why) (h' : r' c = .fail why') :
    r.orElse r' c = .fail (why.further why') := by
  rw [orElse, h]
  simp only [h']

/-- A choice goes on after a rule that fails, and keeps its failure. -/
theorem choiceAfter_fail (h : r c = .fail why) (seen : Option Failure) (rs : List (Rule α)) :
    choiceAfter seen (r :: rs) c = choiceAfter (Failure.furthest? seen (some why)) rs c := by
  simp only [choiceAfter, h]

/-- A choice ends with a rule that succeeds, and forgets the failures before it. -/
theorem choiceAfter_ok (h : r c = .ok a alt next) (seen : Option Failure) (rs : List (Rule α)) :
    choiceAfter seen (r :: rs) c = .ok a alt next := by
  simp only [choiceAfter, h]

/-- A choice whose rules all fail reports the failure that reached further than all others, however
often that one was met. -/
theorem choiceAfter_fail_of_upTo {rs : List (Rule α)} {seen : Option Failure}
    (hseen : ∀ f ∈ seen, why.UpTo f) (hrs : ∀ r ∈ rs, ∃ f, r c = .fail f ∧ why.UpTo f)
    (hmet : seen = some why ∨ ∃ r ∈ rs, r c = .fail why) : choiceAfter seen rs c = .fail why := by
  induction rs generalizing seen with
  | nil =>
    rcases hmet with rfl | ⟨r, hr, -⟩
    · rfl
    · cases hr
  | cons r rs ih =>
    obtain ⟨f, hf, hupTo⟩ := hrs r (.head _)
    obtain ⟨g, hg, hg', hkeep⟩ := Failure.exists_furthest?_upTo hseen hupTo
    rw [choiceAfter_fail hf, hg]
    refine ih (fun f' hf' => by cases hf'; exact hg') (fun r' hr' => hrs r' (.tail _ hr')) ?_
    rcases hmet with hmet | ⟨r', hr', hwhy⟩
    · exact .inl (congrArg some (hkeep (.inl hmet)))
    · rcases List.mem_cons.1 hr' with rfl | hr'
      · cases hf.symm.trans hwhy
        exact .inl (congrArg some (hkeep (.inr rfl)))
      · exact .inr ⟨r', hr', hwhy⟩

/-- Where its character stands, a leading character only moves the rule after it on. -/
theorem keepRight_char (x : Char) (s : Rule β) (p : Nat) (xs : List Char) :
    (char x).keepRight s ⟨p, x :: xs⟩ = s ⟨p + 1, xs⟩ := by
  have hx : char x ⟨p, x :: xs⟩ = .ok x none ⟨p + 1, xs⟩ := by simp [char, token]
  cases hs : s ⟨p + 1, xs⟩ with
  | ok b alt next => rw [keepRight, map, andThen_ok_ok hx hs]; rfl
  | fail why => rw [keepRight, map, andThen_ok_fail hx hs rfl]

/-- A character class refuses what is not in it. -/
theorem token_fail {accept : Char → Bool} (h : c.rest.head?.any accept = false)
    (expected : List Expectation) : token accept expected c = .fail (c.refuse expected) := by
  obtain ⟨p, cs⟩ := c
  cases cs with
  | nil => rfl
  | cons x xs =>
    have hx : accept x = false := by simpa using h
    simp [token, hx]

/-- A character is refused where another one stands. -/
theorem char_fail {x : Char} (h : c.rest.head? ≠ some x) :
    char x c = .fail (c.refuse [.char x]) := by
  refine token_fail ?_ _
  cases hx : c.rest.head? with
  | none => rfl
  | some y => rw [hx] at h; simpa using h

end Rule

end PrefixCalc
