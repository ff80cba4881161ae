import PrefixCalc.Text.GraphemeClass

/-!
# Grapheme clusters

A text divided into extended grapheme clusters, the units that a reader sees as one character: a
base with its combining marks, a Hangul syllable spelled in parts, a flag, an emoji joined from
several. Nothing is lost: the clusters of a text, put together, are the text.
-/

namespace PrefixCalc.Grapheme

open GraphemeClass

/-- How far an Indic conjunct has come: nothing, a consonant, or a consonant with a linker. -/
inductive Conjunct where
  | absent
  | consonant
  | linked
deriving DecidableEq, Repr

/-- What of the text before a place decides whether the next character starts a cluster. -/
structure Context where
  /-- The class of the last character. -/
  last : GraphemeClass
  /-- The text ends in a pictograph and extending characters. -/
  pictograph : Bool
  /-- The text ends in a pictograph, extending characters and a joiner. -/
  joined : Bool
  /-- The text ends in an odd number of regional characters. -/
  unpaired : Bool
  /-- The Indic conjunct that the text ends in. The zero-width non-joiner ends one. -/
  conjunct : Conjunct

/-- The context after a text that ends in `c`, from the one before `c`, if there is a text before.
-/
def Context.after (before : Option Context) (c : Char) : Context :=
  let here := ofChar c
  let pictographBefore := (before.map Context.pictograph).getD false
  let unpairedBefore := (before.map Context.unpaired).getD false
  let conjunctBefore := (before.map Context.conjunct).getD .absent
  { last := here
    pictograph := here = .pictograph || (pictographBefore && here = .extend)
    joined := pictographBefore && here = .joiner
    unpaired := here = .regional && !unpairedBefore
    conjunct :=
      if consonantRanges.contains c then .consonant
      else if conjunctBefore = .absent then .absent
      else if linkerRanges.contains c then .linked
      else if c.toNat = 0x200C then .absent
      else if here = .extend || here = .joiner then conjunctBefore
      else .absent }

/-- Whether a character belongs to the cluster that the text before it ends in. -/
def Context.joins (before : Context) (c : Char) : Bool :=
  match before.last, ofChar c with
  | .carriageReturn, .lineFeed => true
  | .carriageReturn, _ | .lineFeed, _ | .control, _ => false
  | _, .carriageReturn | _, .lineFeed | _, .control => false
  | .leading, .leading | .leading, .vowel => true
  | .leading, .openSyllable | .leading, .closedSyllable => true
  | .openSyllable, .vowel | .openSyllable, .trailing | .vowel, .vowel | .vowel, .trailing => true
  | .closedSyllable, .trailing | .trailing, .trailing => true
  | _, .extend | _, .joiner | _, .spacing => true
  | .prepended, _ => true
  | _, .pictograph => before.joined
  | .regional, .regional => before.unpaired
  | _, _ => before.conjunct = .linked && consonantRanges.contains c

/-- The clusters of a text that goes on after `before`, with the characters since its last boundary
as the front of the first cluster. -/
def clustersAfter (before : Context) : List Char → List Char × List (List Char)
  | [] => ([], [])
  | c :: cs =>
    let (front, later) := clustersAfter (.after (some before) c) cs
    if before.joins c then (c :: front, later) else ([], (c :: front) :: later)

/-- The clusters of a text. -/
def clusters : List Char → List (List Char)
  | [] => []
  | c :: cs =>
    let (front, later) := clustersAfter (.after none c) cs
    (c :: front) :: later

/-- The front of the first cluster and the later clusters make up the text. -/
theorem flatten_clustersAfter (before : Context) (cs : List Char) :
    (clustersAfter before cs).1 ++ (clustersAfter before cs).2.flatten = cs := by
  induction cs generalizing before with
  | nil => rfl
  | cons c cs ih =>
    have := ih (.after (some before) c)
    simp only [clustersAfter]
    split <;> simp [this]

/-- The clusters of a text make up the text. -/
theorem flatten_clusters (cs : List Char) : (clusters cs).flatten = cs := by
  cases cs with
  | nil => rfl
  | cons c cs => simp [clusters, flatten_clustersAfter]

end PrefixCalc.Grapheme
