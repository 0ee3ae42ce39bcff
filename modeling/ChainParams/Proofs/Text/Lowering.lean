import ChainParams.Proofs.Text.LetterCase

/-!
# ChainParams — texts in lower case

Lowering a text by the full rules looks at neighbours: a capital sigma becomes one of two small
letters by what stands around it, and one capital becomes two characters. What lookups need is
all the same simple. Lowering a text in lower case changes nothing, and an uncased character
behind a text changes nothing in it.

The first rests on the table of capitals alone. No small letter of a run is a capital of a
run, nor one of the two capitals with a rule of their own (`caseRuns_miss`); so every
character that lowering writes is its own small form, whatever the neighbours of the capital
were (`small_of_mem_lowerFrom`), and a text of such characters is left as it is
(`lowerFrom_of_small`). The second rests on the rule for the sigma: it asks for the next
character that counts, and behind the last one there is none with case either way.

The table also tells which characters beyond ASCII have ASCII small forms. There is one, the
Kelvin sign, whose small form is the letter k (`caseRuns_ascii`).

## Results

* `lower_lower`            — lowering twice is lowering once.
* `lower_append_separator` — the separator behind a text is lowered apart from it.
* `exists_lower_eq_iff`    — a text is the lower-case form of some text if it is its own.
* `lower_eq_iff_of_ascii`  — what an ASCII text is the lower-case form of.
-/

namespace ChainParams.Text

-- ---------------------------------------------------------------------------
-- Runs of capitals
-- ---------------------------------------------------------------------------

namespace CaseRun

/-- The first small letter of a run. -/
def low (run : CaseRun) : Nat :=
  Int.toNat (run.first + run.offset)

/-- The last small letter of a run. -/
def high (run : CaseRun) : Nat :=
  Int.toNat (run.last + run.offset)

/-- Whether the small letters of a run are code points of characters. -/
def InRepertoire (run : CaseRun) : Prop :=
  0 ≤ run.first + run.offset ∧ (run.high < 0xD800 ∨ 0xDFFF < run.low ∧ run.high < 0x110000)

instance (run : CaseRun) : Decidable run.InRepertoire :=
  inferInstanceAs (Decidable (_ ∧ _))

/-- Whether no small letter of a run is a capital of another: they lie before its capitals,
behind them or, at the distance of two, between them. -/
def misses (a b : CaseRun) : Bool :=
  Nat.blt a.high b.first || (Nat.blt b.last a.low ||
    ((a.step == 2 || a.first == a.last) && b.step == 2 && (a.low + b.first) % 2 == 1))

/-- A capital of a run lies in it, at one of its steps, and its small letter as far along the small
letters. -/
theorem image?_eq_some {run : CaseRun} {point image : Nat} (hrun : run.InRepertoire)
    (h : run.image? point = some image) :
    run.first ≤ point ∧ point ≤ run.last ∧ (point - run.first) % run.step = 0 ∧
      image = run.low + (point - run.first) ∧ run.high = run.low + (run.last - run.first) := by
  rw [image?] at h
  split at h
  · next hpoint =>
    obtain ⟨hfirst, hlast, hstep⟩ := hpoint
    have hpos := hrun.1
    rw [Option.some.injEq] at h
    refine ⟨hfirst, hlast, hstep, ?_, ?_⟩
    · rw [← h, low]
      omega
    · rw [high, low]
      omega
  · cases h

theorem image?_isValidChar {run : CaseRun} {point image : Nat} (hrun : run.InRepertoire)
    (h : run.image? point = some image) : image.isValidChar := by
  obtain ⟨hfirst, hlast, -, himage, hhigh⟩ := image?_eq_some hrun h
  rcases hrun.2 with hbelow | ⟨habove, hend⟩
  · exact .inl (by omega)
  · exact .inr (by omega)

/-- No small letter of a run is a capital of a run that it misses. -/
theorem image?_of_misses {a b : CaseRun} {point image : Nat} (hmiss : a.misses b = true)
    (ha : a.InRepertoire) (h : a.image? point = some image) : b.image? image = none := by
  obtain ⟨hfirst, hlast, hstep, himage, hhigh⟩ := image?_eq_some ha h
  simp only [misses, Bool.or_eq_true, Bool.and_eq_true, Nat.blt_eq, beq_iff_eq] at hmiss
  rw [image?, if_neg]
  rintro ⟨hlow, hup, hplace⟩
  rcases hmiss with hbefore | hbehind | ⟨⟨hsteps, hb⟩, hodd⟩
  · omega
  · omega
  · -- both runs go by twos, and from one to the other the distance is odd
    rw [hb] at hplace
    rcases hsteps with hsteps | hsteps
    · rw [hsteps] at hstep
      omega
    · omega

end CaseRun

/-- The dotted capital I as a run of its own. -/
def dottedRun : CaseRun :=
  ⟨0x130, 0x130, 1, 0⟩

/-- All runs of the table lead to characters. -/
theorem caseRuns_inRepertoire : ∀ run ∈ caseRuns, run.InRepertoire := by
  decide +kernel

/-- No small letter of the table is one of its capitals, or the dotted capital I. -/
theorem caseRuns_miss {a b : CaseRun} (ha : a ∈ caseRuns) (hb : b ∈ dottedRun :: caseRuns) :
    a.misses b = true := by
  have all : (caseRuns.all fun a => (dottedRun :: caseRuns).all fun b => a.misses b) = true := by
    decide +kernel
  exact List.all_eq_true.mp (List.all_eq_true.mp all a ha) b hb

/-- Beyond ASCII, the Kelvin sign alone has an ASCII letter as its small letter. -/
theorem caseRuns_ascii : ∀ run ∈ caseRuns,
    run.last < 128 ∨ 128 ≤ run.low ∨ run.first = 0x212A ∧ run.last = 0x212A := by
  decide +kernel

-- ---------------------------------------------------------------------------
-- Characters that are their own small form
-- ---------------------------------------------------------------------------

theorem toNat_ofNat_of_isValidChar {n : Nat} (h : n.isValidChar) : (Char.ofNat n).toNat = n := by
  rw [Char.ofNat, dif_pos h]
  rfl

/-- The ways in which a character gets its small form. -/
theorem lowerChar_cases (c : Char) :
    (c = 'İ' ∧ lowerChar c = ['i', '\u0307']) ∨
    (∃ run ∈ caseRuns, ∃ image, run.image? c.toNat = some image ∧
      lowerChar c = [Char.ofNat image]) ∨
    lowerChar c = [c] := by
  by_cases hdotted : c = 'İ'
  · exact .inl ⟨hdotted, if_pos hdotted⟩
  · rw [lowerChar, if_neg hdotted]
    cases h : caseRuns.findSome? fun run => run.image? c.toNat with
    | none => exact .inr (.inr rfl)
    | some image =>
      obtain ⟨run, hrun, himage⟩ := List.exists_of_findSome?_eq_some h
      exact .inr (.inl ⟨run, hrun, image, himage, rfl⟩)

/-- What is no capital is its own small form. -/
theorem lowerChar_of_image?_eq_none {c : Char} (hdotted : c ≠ 'İ')
    (h : ∀ run ∈ caseRuns, run.image? c.toNat = none) : lowerChar c = [c] := by
  rw [lowerChar, if_neg hdotted, List.findSome?_eq_none_iff.mpr h]

/-- Every character that lowering writes is its own small form. -/
theorem lowerChar_of_mem_lowerChar {c d : Char} (h : d ∈ lowerChar c) : lowerChar d = [d] := by
  rcases lowerChar_cases c with ⟨-, heq⟩ | ⟨run, hrun, image, himage, heq⟩ | heq
  · rw [heq, List.mem_cons, List.mem_singleton] at h
    rcases h with rfl | rfl
    · rfl
    · rfl
  · rw [heq, List.mem_singleton] at h
    have hsound := caseRuns_inRepertoire run hrun
    have hpoint : d.toNat = image := by
      rw [h, toNat_ofNat_of_isValidChar (CaseRun.image?_isValidChar hsound himage)]
    have hnone {b : CaseRun} (hb : b ∈ dottedRun :: caseRuns) : b.image? d.toNat = none := by
      rw [hpoint]
      exact CaseRun.image?_of_misses (caseRuns_miss hrun hb) hsound himage
    refine lowerChar_of_image?_eq_none ?_ fun b hb => hnone (List.mem_cons_of_mem _ hb)
    rintro rfl
    exact absurd (hnone (List.mem_cons_self ..)) (by decide)
  · rw [heq, List.mem_singleton] at h
    rw [h, heq]

/-- What lowering writes is its own small form, whatever stood around it. -/
theorem small_of_mem_lowerFrom {afterCased : Bool} {s : List Char} {d : Char}
    (h : d ∈ lowerFrom afterCased s) : lowerChar d = [d] := by
  induction s generalizing afterCased with
  | nil => cases h
  | cons c s ih =>
    rw [lowerFrom, List.mem_append] at h
    rcases h with h | h
    · split at h
      · -- both small forms of the sigma
        rw [List.mem_singleton] at h
        split at h
        · subst h
          rfl
        · subst h
          rfl
      · exact lowerChar_of_mem_lowerChar h
    · exact ih h

/-- A text of small forms is left as it is. -/
theorem lowerFrom_of_small {s : List Char} (h : ∀ c ∈ s, lowerChar c = [c]) (afterCased : Bool) :
    lowerFrom afterCased s = s := by
  induction s generalizing afterCased with
  | nil => rfl
  | cons c s ih =>
    have hc : lowerChar c = [c] := h c (List.mem_cons_self ..)
    -- the capital sigma is no small form, so its rule is never asked
    have hsigma : c ≠ 'Σ' := by
      rintro rfl
      exact absurd hc (by decide)
    rw [lowerFrom, if_neg hsigma, hc, ih fun d hd => h d (List.mem_cons_of_mem _ hd)]
    rfl

/-- Lowering twice is lowering once. -/
theorem lower_lower (s : String) : lower (lower s) = lower s := by
  rw [lower, ← String.toList_inj, String.toList_ofList]
  refine lowerFrom_of_small (fun c hc => ?_) false
  rw [lower, String.toList_ofList] at hc
  exact small_of_mem_lowerFrom hc

/-- A text is the lower-case form of some text exactly if it is its own. -/
theorem exists_lower_eq_iff (s : String) : (∃ t, lower t = s) ↔ lower s = s := by
  constructor
  · rintro ⟨t, rfl⟩
    exact lower_lower t
  · exact fun h => ⟨s, h⟩

-- ---------------------------------------------------------------------------
-- A separator behind a text
-- ---------------------------------------------------------------------------

/-- A character without case that counts is like the end of the text to a sigma before it. -/
theorem startsCased_concat {c : Char} (hcounts : isIgnorable c = false)
    (huncased : isCased c = false) (s : List Char) : startsCased (s ++ [c]) = startsCased s := by
  rw [startsCased, startsCased, List.dropWhile_append]
  cases h : s.dropWhile isIgnorable with
  | nil => simp [hcounts, huncased]
  | cons d ds => simp

/-- A character without case behind a text is lowered apart from it. -/
theorem lowerFrom_concat {c : Char} (hcounts : isIgnorable c = false)
    (huncased : isCased c = false) (hc : lowerChar c = [c]) (s : List Char) (afterCased : Bool) :
    lowerFrom afterCased (s ++ [c]) = lowerFrom afterCased s ++ [c] := by
  -- the end of the text is seen through the sigma alone, and there it makes no difference
  induction s generalizing afterCased with
  | nil => exact lowerFrom_of_small (by simpa using hc) afterCased
  | cons d s ih =>
    rw [List.cons_append, lowerFrom, lowerFrom, startsCased_concat hcounts huncased, ih,
      List.append_assoc]

/-- The separator of segwit prefixes is lowered apart from the text before it. -/
theorem lower_append_separator (s : String) : lower (s ++ "1") = lower s ++ "1" := by
  have hone : "1".toList = ['1'] := by decide
  rw [← String.toList_inj, String.toList_append, lower, lower, String.toList_ofList,
    String.toList_ofList, String.toList_append, hone]
  exact lowerFrom_concat (by decide +kernel) rfl (lowerChar_ascii (by decide)) _ _

-- ---------------------------------------------------------------------------
-- Texts with an ASCII lower-case form
-- ---------------------------------------------------------------------------

/-- The letter for which the Kelvin sign stands in texts; others stand for themselves. -/
def withoutKelvin (c : Char) : Char :=
  if c = '\u212A' then 'k' else c

theorem withoutKelvin_of_ascii {c : Char} (h : c.toNat < 128) : withoutKelvin c = c := by
  rw [withoutKelvin, if_neg]
  rintro rfl
  exact absurd h (by decide)

theorem map_withoutKelvin {s : String} (hs : ∀ c ∈ s.toList, c.toNat < 128) :
    s.map withoutKelvin = s := by
  rw [← String.toList_inj, String.toList_map]
  exact (List.map_congr_left fun c hc => withoutKelvin_of_ascii (hs c hc)).trans (List.map_id _)

/-- A character beyond ASCII other than the Kelvin sign is not lowered into ASCII. -/
theorem exists_wide_of_lowerChar {c : Char} (hwide : 128 ≤ c.toNat) (hkelvin : c ≠ '\u212A') :
    ∃ d ∈ lowerChar c, 128 ≤ d.toNat := by
  rcases lowerChar_cases c with ⟨-, heq⟩ | ⟨run, hrun, image, himage, heq⟩ | heq
  · exact ⟨'\u0307', by simp [heq], by decide⟩
  · have hsound := caseRuns_inRepertoire run hrun
    obtain ⟨hfirst, hlast, -, hplace, -⟩ := CaseRun.image?_eq_some hsound himage
    refine ⟨Char.ofNat image, by simp [heq], ?_⟩
    rw [toNat_ofNat_of_isValidChar (CaseRun.image?_isValidChar hsound himage)]
    -- its run has ASCII capitals, or small letters beyond ASCII, or is that of the sign
    rcases caseRuns_ascii run hrun with hnarrow | hlow | ⟨hf, hl⟩
    · omega
    · omega
    · refine absurd (Char.toNat_inj.mp ?_) hkelvin
      have hpoint : c.toNat = 0x212A := by omega
      exact hpoint
  · exact ⟨c, by simp [heq], hwide⟩

/-- In a text, too, such a character leaves one beyond ASCII. -/
theorem exists_wide_of_lowerFrom (afterCased : Bool) {s : List Char} {c : Char} (hc : c ∈ s)
    (hwide : 128 ≤ c.toNat) (hkelvin : c ≠ '\u212A') :
    ∃ d ∈ lowerFrom afterCased s, 128 ≤ d.toNat := by
  induction s generalizing afterCased with
  | nil => cases hc
  | cons b s ih =>
    rw [lowerFrom]
    rcases List.mem_cons.mp hc with rfl | hc
    · split
      · split
        · exact ⟨'ς', by simp, by decide⟩
        · exact ⟨'σ', by simp, by decide⟩
      · obtain ⟨d, hd, hdwide⟩ := exists_wide_of_lowerChar hwide hkelvin
        exact ⟨d, List.mem_append_left _ hd, hdwide⟩
    · obtain ⟨d, hd, hdwide⟩ := ih (if isIgnorable b then afterCased else isCased b) hc
      exact ⟨d, List.mem_append_right _ hd, hdwide⟩

/-- Texts of ASCII characters and Kelvin signs are lowered as letters. -/
theorem lowerFrom_of_ascii_or_kelvin {s : List Char}
    (h : ∀ c ∈ s, c.toNat < 128 ∨ c = '\u212A') (afterCased : Bool) :
    lowerFrom afterCased s = (s.map withoutKelvin).map Char.toLower := by
  induction s generalizing afterCased with
  | nil => rfl
  | cons c s ih =>
    have hsigma : c ≠ 'Σ' := by
      rintro rfl
      exact absurd (h 'Σ' (List.mem_cons_self ..)) (by decide)
    have hc : lowerChar c = [(withoutKelvin c).toLower] := by
      rcases h c (List.mem_cons_self ..) with hascii | rfl
      · rw [withoutKelvin_of_ascii hascii, lowerChar_ascii hascii]
      · rfl
    rw [lowerFrom, if_neg hsigma, hc, ih fun d hd => h d (List.mem_cons_of_mem _ hd)]
    rfl

/-- An ASCII text is the lower-case form of the texts that have it as their ASCII lower-case form
once the Kelvin sign is written as a letter. -/
theorem lower_eq_iff_of_ascii {t : String} (ht : ∀ c ∈ t.toList, c.toNat < 128) (s : String) :
    lower s = t ↔ (s.map withoutKelvin).toLower = t := by
  have hmap : (s.map withoutKelvin).toLower.toList =
      (s.toList.map withoutKelvin).map Char.toLower := by
    rw [toList_toLower, String.toList_map]
  rw [lower, ← String.toList_inj, ← String.toList_inj, String.toList_ofList, hmap]
  constructor
  · intro h
    rw [← h, lowerFrom_of_ascii_or_kelvin]
    intro c hc
    -- any other character would leave one beyond ASCII in the lower-case form
    by_contra hforeign
    obtain ⟨hwide, hkelvin⟩ := not_or.mp hforeign
    obtain ⟨d, hd, hdwide⟩ :=
      exists_wide_of_lowerFrom false hc (Nat.le_of_not_lt hwide) hkelvin
    exact absurd (ht d (h ▸ hd)) (Nat.not_lt.mpr hdwide)
  · intro h
    rw [← h]
    refine lowerFrom_of_ascii_or_kelvin (fun c hc => ?_) false
    by_cases hkelvin : c = '\u212A'
    · exact .inr hkelvin
    · have hmem : (withoutKelvin c).toLower ∈ t.toList := by
        rw [← h]
        exact List.mem_map_of_mem (List.mem_map_of_mem hc)
      rw [withoutKelvin, if_neg hkelvin] at hmem
      exact .inl ((toNat_toLower_lt_iff c).mp (ht _ hmem))

end ChainParams.Text
