/-!
# Byte offsets

Places in a text that are counted in UTF-8 bytes. Such a place is usable only if it lies between two
characters.
-/

namespace PrefixCalc

/-- Divides a text after its first `n` bytes; there is no division if the text is shorter or byte
`n` lies inside a character. -/
def splitAtByte? : Nat → List Char → Option (List Char × List Char)
  | 0, cs => some ([], cs)
  | _ + 1, [] => none
  | n + 1, c :: cs =>
    if c.utf8Size ≤ n + 1 then
      (splitAtByte? (n + 1 - c.utf8Size) cs).map fun (before, after) => (c :: before, after)
    else none

/-- The two parts make up the text. -/
theorem append_of_splitAtByte? {n : Nat} {cs before after : List Char}
    (h : splitAtByte? n cs = some (before, after)) : before ++ after = cs := by
  fun_induction splitAtByte? n cs generalizing before after with
  | case1 => simp_all
  | case2 => simp at h
  | case3 n c cs _ ih =>
    obtain ⟨⟨front, rest⟩, hrest, heq⟩ := Option.map_eq_some_iff.1 h
    simp only [Prod.mk.injEq] at heq
    obtain ⟨rfl, rfl⟩ := heq
    simp [ih hrest]
  | case4 => simp at h

theorem utf8ByteSize_ofList_cons (c : Char) (cs : List Char) :
    (String.ofList (c :: cs)).utf8ByteSize = c.utf8Size + (String.ofList cs).utf8ByteSize := by
  have hcons : String.ofList (c :: cs) = String.singleton c ++ String.ofList cs := by
    rw [String.singleton_eq_ofList, ← String.ofList_append, List.singleton_append]
  rw [hcons, String.utf8ByteSize_append, String.utf8ByteSize_singleton]

/-- The first part has the bytes that were asked for. -/
theorem utf8ByteSize_of_splitAtByte? {n : Nat} {cs before after : List Char}
    (h : splitAtByte? n cs = some (before, after)) : (String.ofList before).utf8ByteSize = n := by
  fun_induction splitAtByte? n cs generalizing before after with
  | case1 =>
    cases h
    rfl
  | case2 => simp at h
  | case3 n c cs hle ih =>
    obtain ⟨⟨front, rest⟩, hrest, heq⟩ := Option.map_eq_some_iff.1 h
    simp only [Prod.mk.injEq] at heq
    obtain ⟨rfl, rfl⟩ := heq
    rw [utf8ByteSize_ofList_cons, ih hrest]
    omega
  | case4 => simp at h

/-- A text divides after the bytes of a first part of it. -/
theorem splitAtByte?_append (before after : List Char) :
    splitAtByte? (String.ofList before).utf8ByteSize (before ++ after) = some (before, after) := by
  induction before with
  | nil => simp [splitAtByte?]
  | cons c before ih =>
    have hpos := c.utf8Size_pos
    obtain ⟨n, hn⟩ : ∃ n, (String.ofList (c :: before)).utf8ByteSize = n + 1 :=
      Nat.exists_eq_succ_of_ne_zero (by rw [utf8ByteSize_ofList_cons]; omega)
    have hrest : n + 1 - c.utf8Size = (String.ofList before).utf8ByteSize := by
      rw [← hn, utf8ByteSize_ofList_cons, Nat.add_sub_cancel_left]
    rw [hn, List.cons_append, splitAtByte?, if_pos, hrest, ih]
    · rfl
    · rw [← hn, utf8ByteSize_ofList_cons]
      omega

/-- The text from byte `start` up to byte `stop`, if both are between characters. -/
def bytesBetween? (start stop : Nat) (cs : List Char) : Option (List Char) := do
  let (_, after) ← splitAtByte? start cs
  let (between, _) ← splitAtByte? (stop - start) after
  return between

/-- The text from byte `start` on, if it is between characters. -/
def bytesFrom? (start : Nat) (cs : List Char) : Option (List Char) :=
  (splitAtByte? start cs).map Prod.snd

end PrefixCalc
