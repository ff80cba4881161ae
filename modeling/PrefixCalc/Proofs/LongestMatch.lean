import PrefixCalc.Proofs.Lexeme

/-!
# Numbers are the longest literals

The rule for numbers reads the longest literal that a text starts with (`Lexeme.IsLongest`), and
fails exactly if there is none. A literal that no digit follows is the longest one
(`Lexeme.isLongest_append`), so this is a matter of where the digits end.

It also says where a text goes wrong (`Diagnostic.PointsAt`). After a lone minus sign that is behind
the sign, where only a digit could stand and nothing is listed; without a sign it is the front,
where the sign is listed as well. Where a literal is read but more text follows, the end of the text
is expected behind the literal. The failure to read one more digit there was given up at the same
place and adds nothing to that.
-/

namespace PrefixCalc

/-- The diagnostic points at the character at position `p` of a text, or at the end of the text
there, and lists what was expected instead. -/
structure Diagnostic.PointsAt (d : Diagnostic) (s : List Char) (p : Nat)
    (expected : List Expectation) : Prop where
  reason : d.reason = .unexpected
  span : d.span = ⟨p, min (p + 1) s.length⟩
  found : d.found = s[p]?
  expected : d.expected = expected
  label : d.label = .unnamed

/-- A refusal behind the characters `u` of a text blames what stands there. -/
theorem Cursor.pointsAt_refuse (u rest : List Char) (expected : List Expectation) :
    (refuse ⟨u.length, rest⟩ expected).diagnostic.PointsAt (u ++ rest) u.length expected where
  reason := rfl
  span := by
    have hstop : u.length + (rest.take 1).length = min (u.length + 1) (u ++ rest).length := by
      rw [List.length_take, List.length_append]
      omega
    simp only [refuse, hstop]
  found := by
    rw [List.getElem?_append_right (Nat.le_refl _), Nat.sub_self, ← List.head?_eq_getElem?]
    rfl
  expected := rfl
  label := rfl

namespace Rule

variable {α β : Type} {r : Rule α} {s : Rule β}

/-- A text is refused with what the failure at its front has to say. -/
theorem read_eq_error {text : String} {why : Failure} (h : r ⟨0, text.toList⟩ = .fail why) :
    r.read text = .error why.diagnostic := by
  simp only [read, Cursor.ofText, h]

/-- Where a rule fails, what was to follow it is not tried. -/
theorem keepLeft_fail {c : Cursor} {why : Failure} (h : r c = .fail why) :
    r.keepLeft s c = .fail why := by
  rw [keepLeft, map, andThen_fail h]

end Rule

namespace Lexeme

/-- The literal is the longest one that the text starts with. -/
structure IsLongest (cs s : List Char) : Prop where
  isLiteral : IsLiteral cs
  isPrefix : cs <+: s
  length_le : ∀ cs', IsLiteral cs' → cs' <+: s → cs'.length ≤ cs.length

section
variable {cs cs' ds rest s : List Char}

theorem IsLongest.unique (h : IsLongest cs s) (h' : IsLongest cs' s) : cs = cs' := by
  have hle := h.length_le cs' h'.isLiteral h'.isPrefix
  have hle' := h'.length_le cs h.isLiteral h.isPrefix
  have hlength : cs.length = cs'.length := by omega
  exact (List.prefix_of_prefix_length_le h.isPrefix h'.isPrefix hle').eq_of_length hlength

/-- Digits at the front of a text end before the first other character. -/
theorem length_le_of_digits (cs : List Char) (hds : ∀ d ∈ ds, d.isDigit = true)
    (hrest : rest.head?.any Char.isDigit = false) (h : ds <+: cs ++ rest) :
    ds.length ≤ cs.length := by
  rcases Nat.lt_or_ge cs.length ds.length with hlt | hle
  · have hfront : cs <+: ds :=
      List.prefix_of_prefix_length_le (List.prefix_append cs rest) h (by omega)
    obtain ⟨more, rfl⟩ := hfront
    obtain ⟨after, rfl⟩ := (List.prefix_append_right_inj cs).1 h
    cases more with
    | nil => simp at hlt
    | cons x more =>
      have hx : x.isDigit = true := hds x (by simp)
      simp [hx] at hrest
  · exact hle

/-- The digits of a text that starts with no sign are all that a literal can take of it. -/
theorem IsLiteral.unsigned (h : IsLiteral cs) (hfront : cs <+: s) (hs : s.head? ≠ some '-') :
    cs ≠ [] ∧ ∀ d ∈ cs, d.isDigit = true := by
  obtain ⟨ds, hne, hds, rfl | rfl⟩ := h
  · exact ⟨hne, hds⟩
  · obtain ⟨rest, rfl⟩ := hfront
    exact absurd rfl hs

/-- Behind a sign, a literal goes on with digits. -/
theorem IsLiteral.signed (h : IsLiteral cs) (hfront : cs <+: '-' :: s) :
    ∃ ds, cs = '-' :: ds ∧ ds ≠ [] ∧ (∀ d ∈ ds, d.isDigit = true) ∧ ds <+: s := by
  obtain ⟨ds, hne, hds, rfl | rfl⟩ := h
  · obtain ⟨d, ds, rfl⟩ := List.exists_cons_of_ne_nil hne
    obtain ⟨rfl, -⟩ := List.cons_prefix_cons.1 hfront
    exact absurd (hds '-' (.head _)) (by decide)
  · exact ⟨ds, rfl, hne, hds, (List.cons_prefix_cons.1 hfront).2⟩

/-- A literal that no digit follows is the longest one. -/
theorem isLongest_append (hcs : IsLiteral cs) (hrest : rest.head?.any Char.isDigit = false) :
    IsLongest cs (cs ++ rest) := by
  refine ⟨hcs, List.prefix_append cs rest, ?_⟩
  intro cs' hcs' hfront
  obtain ⟨ds, hne, hds, rfl | rfl⟩ := hcs
  · obtain ⟨d, ds, rfl⟩ := List.exists_cons_of_ne_nil hne
    have hsign : (d :: ds ++ rest).head? ≠ some '-' := by
      intro heq
      cases heq
      exact absurd (hds '-' (.head _)) (by decide)
    exact length_le_of_digits (d :: ds) (hcs'.unsigned hfront hsign).2 hrest hfront
  · obtain ⟨ds', rfl, -, hds', hfront'⟩ := hcs'.signed hfront
    have hle := length_le_of_digits ds hds' hrest hfront'
    simp only [List.length_cons]
    omega

/-- No literal starts with a lone minus sign. -/
theorem not_isPrefix_sign (hrest : rest.head?.any Char.isDigit = false) (h : IsLiteral cs) :
    ¬ cs <+: '-' :: rest := by
  intro hfront
  obtain ⟨ds, -, hne, hds, hfront'⟩ := h.signed hfront
  have hle : ds.length ≤ 0 := length_le_of_digits [] hds hrest hfront'
  exact hne (List.eq_nil_of_length_eq_zero (by omega))

/-- No literal starts with anything but a minus sign or a digit. -/
theorem not_isPrefix (hsign : s.head? ≠ some '-') (hs : s.head?.any Char.isDigit = false)
    (h : IsLiteral cs) : ¬ cs <+: s := by
  intro hfront
  obtain ⟨hne, hds⟩ := h.unsigned hfront hsign
  have hle : cs.length ≤ 0 := length_le_of_digits [] hds hs hfront
  exact hne (List.eq_nil_of_length_eq_zero (by omega))

end

/-! ## What is read and what is blamed -/

/-- A number and nothing after it. -/
def wholeNumber : Rule String := signedDigits.keepLeft Rule.endOfInput

section
variable {text : String} {cs rest : List Char}

/-- A literal is a whole number if nothing follows it, and otherwise what follows is blamed. -/
theorem read_of_literal (hs : text.toList = cs ++ rest) (hcs : IsLiteral cs)
    (hrest : rest.head?.any Char.isDigit = false) :
    signedDigits.read text = .ok (String.ofList cs) ∧
    (rest = [] → wholeNumber.read text = .ok (String.ofList cs)) ∧
    (rest ≠ [] → ∃ d, wholeNumber.read text = .error d ∧
      d.PointsAt text.toList cs.length [.endOfInput]) := by
  have hread := signedDigits_ok (p := 0) hcs hrest
  rw [← hs, Nat.zero_add] at hread
  refine ⟨Rule.read_eq_ok_iff.2 ⟨_, _, hread⟩, ?_, ?_⟩
  · rintro rfl
    have hend : Rule.Reads Rule.endOfInput ⟨cs.length, []⟩ () ⟨cs.length, []⟩ :=
      Rule.reads_endOfInput.2 ⟨rfl, rfl⟩
    exact Rule.read_eq_ok_iff.2 ⟨_, Rule.reads_keepLeft.2 ⟨(), _, ⟨_, hread⟩, hend⟩⟩
  · intro hne
    obtain ⟨x, xs, rfl⟩ := List.exists_cons_of_ne_nil hne
    have hend : Rule.endOfInput ⟨cs.length, x :: xs⟩ =
        .fail (Cursor.refuse ⟨cs.length, x :: xs⟩ [.endOfInput]) := rfl
    -- One more digit was looked for at the same place, so the two refusals are one.
    have hmerge : (Cursor.refuse ⟨cs.length, x :: xs⟩ [.endOfInput]).further
        (Cursor.refuse ⟨cs.length, x :: xs⟩ []) =
          Cursor.refuse ⟨cs.length, x :: xs⟩ [.endOfInput] := by
      rw [Cursor.refuse_eq_refuseAs, Cursor.refuse_eq_refuseAs, Failure.further_refuseAs]
      rfl
    have hwhole : wholeNumber ⟨0, text.toList⟩ =
        .fail (Cursor.refuse ⟨cs.length, x :: xs⟩ [.endOfInput]) := by
      rw [wholeNumber, Rule.keepLeft, Rule.map,
        Rule.andThen_ok_fail hread hend (congrArg some hmerge)]
    refine ⟨_, Rule.read_eq_error hwhole, ?_⟩
    rw [hs]
    exact Cursor.pointsAt_refuse cs (x :: xs) _

/-- Where no number is read, no whole number is, for the same reason. -/
theorem read_of_fail {why : Failure} (h : signedDigits ⟨0, text.toList⟩ = .fail why) :
    signedDigits.read text = .error why.diagnostic ∧
    wholeNumber.read text = .error why.diagnostic :=
  ⟨Rule.read_eq_error h, Rule.read_eq_error (Rule.keepLeft_fail h)⟩

/-- Either a text starts with a literal, and the longest one is read; or it starts with none, and
the place behind a sign or the front of the text is blamed. -/
theorem number_outcome (text : String) :
    (∃ cs rest, text.toList = cs ++ rest ∧ IsLongest cs text.toList ∧
      signedDigits.read text = .ok (String.ofList cs) ∧
      (rest = [] → wholeNumber.read text = .ok (String.ofList cs)) ∧
      (rest ≠ [] → ∃ d, wholeNumber.read text = .error d ∧
        d.PointsAt text.toList cs.length [.endOfInput])) ∨
    (∀ cs, IsLiteral cs → ¬ cs <+: text.toList) ∧
      ∃ d, signedDigits.read text = .error d ∧ wholeNumber.read text = .error d ∧
        (text.toList.head? = some '-' → d.PointsAt text.toList 1 []) ∧
        (text.toList.head? ≠ some '-' → d.PointsAt text.toList 0 [.char '-']) := by
  rcases literal_cases text.toList with ⟨cs, rest, hs, hcs, hrest⟩ | ⟨rest, hs, hrest⟩ |
    ⟨hsign, hrest⟩
  · have hlongest := isLongest_append hcs hrest
    rw [← hs] at hlongest
    exact .inl ⟨cs, rest, hs, hlongest, read_of_literal hs hcs hrest⟩
  · have hfail := signedDigits_fail_sign (p := 0) hrest
    rw [← hs] at hfail
    obtain ⟨hread, hwhole⟩ := read_of_fail hfail
    refine .inr ⟨?_, _, hread, hwhole, ?_, ?_⟩
    · intro cs hcs
      rw [hs]
      exact not_isPrefix_sign hrest hcs
    · intro _
      rw [hs]
      exact Cursor.pointsAt_refuse ['-'] rest []
    · intro hne
      rw [hs] at hne
      exact absurd rfl hne
  · obtain ⟨hread, hwhole⟩ := read_of_fail (signedDigits_fail (p := 0) hsign hrest)
    refine .inr ⟨fun cs hcs => not_isPrefix hsign hrest hcs, _, hread, hwhole, ?_, ?_⟩
    · intro heq
      exact absurd heq hsign
    · intro _
      exact Cursor.pointsAt_refuse [] text.toList [.char '-']

/-- The number that is read is the longest literal at the front of the text, as written. -/
theorem read_eq_ok_iff_isLongest {word : String} :
    signedDigits.read text = .ok word ↔ IsLongest word.toList text.toList := by
  rcases number_outcome text with ⟨cs, rest, -, hlongest, hread, -⟩ | ⟨hnone, d, hread, -⟩
  · rw [hread, Except.ok.injEq]
    constructor
    · rintro rfl
      rwa [String.toList_ofList]
    · intro h
      rw [hlongest.unique h, String.ofList_toList]
  · rw [hread]
    constructor
    · intro h
      cases h
    · intro h
      exact absurd h.isPrefix (hnone _ h.isLiteral)

/-- A number is read wherever a text starts with a literal. -/
theorem exists_read_iff :
    (∃ word, signedDigits.read text = .ok word) ↔ ∃ cs, IsLiteral cs ∧ cs <+: text.toList := by
  constructor
  · rintro ⟨word, h⟩
    have hlongest := read_eq_ok_iff_isLongest.1 h
    exact ⟨word.toList, hlongest.isLiteral, hlongest.isPrefix⟩
  · rintro ⟨cs, hcs, hfront⟩
    rcases number_outcome text with ⟨cs', rest, -, -, hread, -⟩ | ⟨hnone, -⟩
    · exact ⟨_, hread⟩
    · exact absurd hfront (hnone cs hcs)

/-- A whole number is read exactly if all of the text is a literal. -/
theorem wholeNumber_read_iff {word : String} :
    wholeNumber.read text = .ok word ↔ word = text ∧ IsLiteral text.toList := by
  rcases number_outcome text with ⟨cs, rest, hs, hlongest, -, hend, hmore⟩ |
    ⟨hnone, d, -, hwhole, -⟩
  · by_cases hrest : rest = []
    · have htext : text = String.ofList cs := by
        rw [← String.ofList_toList (s := text), hs, hrest, List.append_nil]
      have hliteral : IsLiteral text.toList := by
        rw [hs, hrest, List.append_nil]
        exact hlongest.isLiteral
      rw [hend hrest, ← htext, Except.ok.injEq, eq_comm]
      exact ⟨fun h => ⟨h, hliteral⟩, fun h => h.1⟩
    · obtain ⟨d, hwhole, -⟩ := hmore hrest
      have hnot : ¬ IsLiteral text.toList := by
        intro h
        have hle := hlongest.length_le _ h (List.prefix_refl _)
        have hpos := List.length_pos_iff.2 hrest
        rw [hs, List.length_append] at hle
        omega
      simp [hwhole, hnot]
  · have hnot : ¬ IsLiteral text.toList := fun h => hnone _ h (List.prefix_refl _)
    simp [hwhole, hnot]

/-- Where no number is read, the diagnostic points behind a sign or at the front of the text. -/
theorem pointsAt_of_read_error {d : Diagnostic} (h : signedDigits.read text = .error d) :
    wholeNumber.read text = .error d ∧
    (text.toList.head? = some '-' → d.PointsAt text.toList 1 []) ∧
    (text.toList.head? ≠ some '-' → d.PointsAt text.toList 0 [.char '-']) := by
  rcases number_outcome text with ⟨cs, rest, -, -, hread, -⟩ | ⟨-, d', hread, hwhole, hpoints⟩
  · rw [hread] at h
    cases h
  · rw [hread] at h
    cases h
    exact ⟨hwhole, hpoints⟩

/-- Where only what follows a number is in the way, the diagnostic points there. -/
theorem pointsAt_of_wholeNumber_error {word : String} {d : Diagnostic}
    (h : signedDigits.read text = .ok word) (hd : wholeNumber.read text = .error d) :
    d.PointsAt text.toList word.toList.length [.endOfInput] := by
  rcases number_outcome text with ⟨cs, rest, -, -, hread, hend, hmore⟩ | ⟨-, d', hread, -⟩
  · rw [hread] at h
    cases h
    rw [String.toList_ofList]
    by_cases hrest : rest = []
    · rw [hend hrest] at hd
      cases hd
    · obtain ⟨d', hwhole, hpoints⟩ := hmore hrest
      rw [hwhole] at hd
      cases hd
      exact hpoints
  · rw [hread] at h
    cases h

end

/-- A number is read exactly if the text starts with a literal, and then it is the longest one, as
written; a whole number exactly if all of the text is a literal. Where no number is read, the
diagnostic points behind a minus sign at the front and lists nothing, or else at the front and lists
the minus sign. Where a number is read but no whole one, it points behind the literal and lists the
end of the text. -/
theorem signedDigits_reads_longest (text : String) :
    ((∃ word, signedDigits.read text = .ok word) ↔ ∃ cs, IsLiteral cs ∧ cs <+: text.toList) ∧
    (∀ word, signedDigits.read text = .ok word ↔ IsLongest word.toList text.toList) ∧
    (∀ word, wholeNumber.read text = .ok word ↔ word = text ∧ IsLiteral text.toList) ∧
    (∀ d, signedDigits.read text = .error d → wholeNumber.read text = .error d ∧
      (text.toList.head? = some '-' → d.PointsAt text.toList 1 []) ∧
      (text.toList.head? ≠ some '-' → d.PointsAt text.toList 0 [.char '-'])) ∧
    ∀ word d, signedDigits.read text = .ok word → wholeNumber.read text = .error d →
      d.PointsAt text.toList word.toList.length [.endOfInput] :=
  ⟨exists_read_iff, fun _ => read_eq_ok_iff_isLongest, fun _ => wholeNumber_read_iff,
    fun _ => pointsAt_of_read_error, fun _ _ => pointsAt_of_wholeNumber_error⟩

/-- A sign, zeros and a digit outside ASCII: the literal ends before that digit, which is then in
the way of a whole number. Without the zeros it is in the way of any number, and so is the end of
the text. -/
theorem signedDigits_reads_zeros :
    signedDigits.read "-007٣" = .ok "-007" ∧ IsLongest "-007".toList "-007٣".toList ∧
    (∃ d, wholeNumber.read "-007٣" = .error d ∧ d.PointsAt "-007٣".toList 4 [.endOfInput]) ∧
    (∃ d, signedDigits.read "-٣" = .error d ∧ d.PointsAt "-٣".toList 1 []) ∧
    ∃ d, signedDigits.read "" = .error d ∧ d.PointsAt [] 0 [.char '-'] := by
  have hread : signedDigits.read "-007٣" = .ok "-007" := rfl
  obtain ⟨d, hwhole⟩ : ∃ d, wholeNumber.read "-007٣" = .error d := ⟨_, rfl⟩
  obtain ⟨d₁, hsign⟩ : ∃ d, signedDigits.read "-٣" = .error d := ⟨_, rfl⟩
  obtain ⟨d₀, hempty⟩ : ∃ d, signedDigits.read "" = .error d := ⟨_, rfl⟩
  obtain ⟨-, hlongest, -, -, hmore⟩ := signedDigits_reads_longest "-007٣"
  refine ⟨hread, (hlongest _).1 hread, ⟨d, hwhole, hmore _ _ hread hwhole⟩, ⟨d₁, hsign, ?_⟩,
    ⟨d₀, hempty, ?_⟩⟩
  · exact ((signedDigits_reads_longest "-٣").2.2.2.1 d₁ hsign).2.1 rfl
  · exact ((signedDigits_reads_longest "").2.2.2.1 d₀ hempty).2.2 (by simp)

end Lexeme

end PrefixCalc
