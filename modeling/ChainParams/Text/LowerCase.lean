import ChainParams.Text.CaseTable

/-!
# ChainParams — lower-casing of whole texts

Lower-casing by the full rules of the universal character set. Three rules go
beyond one small letter per capital:

* the dotted capital I becomes two characters, `i` and a combining dot;
* the capital sigma has two small forms, and the final one is used at the end of
  a word: a letter stands before it and none directly after it;
* characters that are passed over (marks, apostrophes, full stops) do not count
  as neighbours in that rule.

## Results

* `lower_ascii` — a text of ASCII characters is lowered one by one.
-/

namespace ChainParams.Text

/-- Whether a character is passed over when the case of a neighbour is asked for. -/
def isIgnorable (c : Char) : Bool :=
  inRanges ignorableRanges c.toNat

/-- Whether a character counts as a letter with case next to a sigma. -/
def isCased (c : Char) : Bool :=
  inRanges casedRanges c.toNat

/-- The lower-case form of one character, apart from its neighbours. -/
def lowerChar (c : Char) : List Char :=
  if c = 'İ' then
    ['i', '\u0307']
  else
    match caseRuns.findSome? fun run => run.image? c.toNat with
    | some point => [Char.ofNat point]
    | none => [c]

/-- Whether the nearest character that counts, reading on, is a letter with case. -/
def startsCased (s : List Char) : Bool :=
  (s.dropWhile isIgnorable).head?.any isCased

/-- Lowers a text whose last counting character, if any, was a letter with case
exactly if `afterCased`. -/
def lowerFrom (afterCased : Bool) : List Char → List Char
  | [] => []
  | c :: rest =>
    let small :=
      if c = 'Σ' then [if afterCased && !startsCased rest then 'ς' else 'σ'] else lowerChar c
    small ++ lowerFrom (if isIgnorable c then afterCased else isCased c) rest

/-- The lower-case form of a text. -/
def lower (s : String) : String :=
  String.ofList (lowerFrom false s.toList)

-- ---------------------------------------------------------------------------
-- ASCII texts
-- ---------------------------------------------------------------------------

/-- The letters A to Z make the first run, and the others begin beyond ASCII. -/
theorem findSome?_caseRuns_ascii {point : Nat} (h : point < 128) :
    caseRuns.findSome? (fun run => run.image? point) =
      (CaseRun.mk 0x41 0x5A 1 32).image? point := by
  have hwide : ∀ run ∈ caseRuns.tail, 128 ≤ run.first := by decide +kernel
  have hnone : caseRuns.tail.findSome? (fun run => run.image? point) = none := by
    refine List.findSome?_eq_none_iff.mpr fun run hrun => ?_
    have hfirst := hwide run hrun
    rw [CaseRun.image?, if_neg]
    omega
  rw [show caseRuns = ⟨0x41, 0x5A, 1, 32⟩ :: caseRuns.tail from rfl, List.findSome?_cons, hnone]
  cases CaseRun.image? ⟨0x41, 0x5A, 1, 32⟩ point with
  | none => rfl
  | some image => rfl

/-- On ASCII characters the full rules come to the ASCII ones. -/
theorem lowerChar_ascii {c : Char} (h : c.toNat < 128) : lowerChar c = [c.toLower] := by
  have all : ∀ k : Fin 128,
      (match (CaseRun.mk 0x41 0x5A 1 32).image? (Char.ofNat k).toNat with
        | some point => [Char.ofNat point]
        | none => [Char.ofNat k]) = [(Char.ofNat k).toLower] := by
    decide +kernel
  have hdotted : c ≠ 'İ' := by
    rintro rfl
    exact absurd h (by decide)
  rw [lowerChar, if_neg hdotted, findSome?_caseRuns_ascii h]
  simpa using all ⟨c.toNat, h⟩

theorem lowerFrom_ascii {s : List Char} (h : ∀ c ∈ s, c.toNat < 128) (afterCased : Bool) :
    lowerFrom afterCased s = s.map Char.toLower := by
  induction s generalizing afterCased with
  | nil => rfl
  | cons c s ih =>
    have hc : c.toNat < 128 := h c (by simp)
    have hsigma : c ≠ 'Σ' := by
      rintro rfl
      exact absurd hc (by decide)
    simp [lowerFrom, hsigma, lowerChar_ascii hc, ih fun d hd => h d (by simp [hd])]

theorem lower_ascii {s : String} (h : ∀ c ∈ s.toList, c.toNat < 128) :
    lower s = String.ofList (s.toList.map Char.toLower) := by
  rw [lower, lowerFrom_ascii h]

end ChainParams.Text
