import ChainParams.Text.LowerCase
import Mathlib.Data.List.Forall2

/-!
# ChainParams — texts up to the case of letters

Names of networks and segwit prefixes are compared without regard to case, the ones by
lowering their ASCII letters, the others by lowering all letters that there are. This
module says what such a comparison accepts, without lowering anything: two texts are the
same up to case if they have the same characters place by place, or one is the capital of
the other among the ASCII letters.

Lowering folds exactly these pairs together (`toLower_eq_toLower_iff`): a capital goes to
its small letter, and nothing else moves.

## Results

* `sameUpToCase_iff`     — ASCII lowering decides it.
* `lower_eq_self_iff_of_ascii` — an ASCII text without capitals is in lower case.
* `lower_eq_lower`       — full lowering does not tell such texts apart, if they are ASCII.
-/

namespace ChainParams.Text

-- ---------------------------------------------------------------------------
-- Characters
-- ---------------------------------------------------------------------------

theorem isUpper_iff (c : Char) : c.isUpper = true ↔ 'A' ≤ c ∧ c ≤ 'Z' :=
  decide_eq_true_iff

theorem isLower_iff (c : Char) : c.isLower = true ↔ 'a' ≤ c ∧ c ≤ 'z' :=
  (Bool.and_eq_true_iff).trans (and_congr decide_eq_true_iff decide_eq_true_iff)

theorem isUpper_eq_false_of_isLower {c : Char} (h : c.isLower = true) : c.isUpper = false := by
  have hsmall := (isLower_iff c).mp h
  rw [← Bool.not_eq_true, isUpper_iff]
  exact fun hcapital => absurd (Char.le_trans hsmall.1 hcapital.2) (by decide)

/-- Lowering moves a capital up by 32 places, and nothing else. -/
theorem toNat_toLower (c : Char) :
    c.toLower.toNat = if 65 ≤ c.toNat ∧ c.toNat ≤ 90 then c.toNat + 32 else c.toNat := by
  have hcapital : (c.val ≥ 'A'.val ∧ c.val ≤ 'Z'.val) ↔ 65 ≤ c.toNat ∧ c.toNat ≤ 90 := Iff.rfl
  unfold Char.toLower
  split
  · next h =>
    have hrange := hcapital.mp h
    rw [if_pos hrange]
    show (c.val + 32).toNat = c.val.toNat + 32
    rw [UInt32.toNat_add]
    exact Nat.mod_eq_of_lt (Nat.lt_of_le_of_lt (Nat.add_le_add_right hrange.2 32) (by decide))
  · next h => rw [if_neg (mt hcapital.mpr h)]

/-- Raising moves a small letter down by 32 places, and nothing else. -/
theorem toNat_toUpper (c : Char) :
    c.toUpper.toNat = if 97 ≤ c.toNat ∧ c.toNat ≤ 122 then c.toNat - 32 else c.toNat := by
  have hsmall : ('a'.val ≤ c.val ∧ c.val ≤ 'z'.val) ↔ 97 ≤ c.toNat ∧ c.toNat ≤ 122 := Iff.rfl
  unfold Char.toUpper
  split
  · next h =>
    have hrange := hsmall.mp h
    -- the distance is negative, so it is added by way of the end of the word
    have hoffset : ('A'.val - 'a'.val).toNat = 2 ^ 32 - 32 := by decide
    rw [if_pos hrange]
    show (c.val + ('A'.val - 'a'.val)).toNat = c.val.toNat - 32
    rw [UInt32.toNat_add, hoffset]
    have hval : c.toNat = c.val.toNat := rfl
    omega
  · next h => rw [if_neg (mt hsmall.mpr h)]

/-- Lowering folds a letter and its capital together, and nothing else. -/
theorem toLower_eq_toLower_iff (c d : Char) :
    c.toLower = d.toLower ↔ c = d ∨ c = d.toLower ∨ c = d.toUpper := by
  simp only [← Char.toNat_inj, toNat_toLower, toNat_toUpper]
  split <;> split <;> split <;> omega

/-- What is no capital is its own small letter. -/
theorem toLower_eq_self_iff (c : Char) : c.toLower = c ↔ ¬ ('A' ≤ c ∧ c ≤ 'Z') := by
  have hcapital : ('A' ≤ c ∧ c ≤ 'Z') ↔ 65 ≤ c.toNat ∧ c.toNat ≤ 90 := Iff.rfl
  rw [← Char.toNat_inj, toNat_toLower, hcapital]
  split <;> omega

/-- Lowering does not lead into ASCII or out of it. -/
theorem toNat_toLower_lt_iff (c : Char) : c.toLower.toNat < 128 ↔ c.toNat < 128 := by
  rw [toNat_toLower]
  split <;> omega

theorem toNat_lt_of_toLower_eq {c d : Char} (h : c.toLower = d.toLower) (hd : d.toNat < 128) :
    c.toNat < 128 := by
  rw [← toNat_toLower_lt_iff, h, toNat_toLower_lt_iff]
  exact hd

-- ---------------------------------------------------------------------------
-- Texts
-- ---------------------------------------------------------------------------

theorem toList_toLower (s : String) : s.toLower.toList = s.toList.map Char.toLower :=
  String.toList_map

/-- Whether a text comes from another by changing the case of ASCII letters. -/
def SameUpToCase (s t : String) : Prop :=
  List.Forall₂ (fun c d => c = d ∨ c = d.toLower ∨ c = d.toUpper) s.toList t.toList

/-- Texts are the same up to case exactly if lowering makes them equal. -/
theorem sameUpToCase_iff (s t : String) : SameUpToCase s t ↔ s.toLower = t.toLower := by
  rw [SameUpToCase, ← String.toList_inj, toList_toLower, toList_toLower]
  simp only [← toLower_eq_toLower_iff]
  rw [← List.forall₂_eq_eq_eq, List.forall₂_map_left_iff, List.forall₂_map_right_iff]

instance (s t : String) : Decidable (SameUpToCase s t) :=
  inferInstanceAs (Decidable (List.Forall₂ _ _ _))

/-- On ASCII texts full lowering is that of ASCII. -/
theorem lower_eq_toLower {s : String} (hs : ∀ c ∈ s.toList, c.toNat < 128) :
    lower s = s.toLower := by
  rw [lower_ascii hs, ← String.toList_inj, String.toList_ofList, toList_toLower]

/-- ASCII lowering leaves the texts without capitals as they are. -/
theorem string_toLower_eq_self_iff (s : String) :
    s.toLower = s ↔ ∀ c ∈ s.toList, ¬ ('A' ≤ c ∧ c ≤ 'Z') := by
  have hmap : s.toList.map Char.toLower = s.toList ↔ ∀ c ∈ s.toList, c.toLower = c := by
    conv_lhs => rhs; rw [← List.map_id s.toList]
    exact List.map_inj_left
  rw [← String.toList_inj, toList_toLower, hmap]
  exact forall₂_congr fun c _ => toLower_eq_self_iff c

/-- An ASCII text is in lower case if it has no capitals. -/
theorem lower_eq_self_iff_of_ascii {s : String} (hs : ∀ c ∈ s.toList, c.toNat < 128) :
    lower s = s ↔ ∀ c ∈ s.toList, ¬ ('A' ≤ c ∧ c ≤ 'Z') := by
  rw [lower_eq_toLower hs, string_toLower_eq_self_iff]

/-- A character of one text has a counterpart in the other. -/
theorem SameUpToCase.exists_mem {s t : String} (h : SameUpToCase s t) {c : Char}
    (hc : c ∈ s.toList) : ∃ d ∈ t.toList, c.toLower = d.toLower := by
  have hmap := (sameUpToCase_iff s t).mp h
  rw [← String.toList_inj, toList_toLower, toList_toLower] at hmap
  have hmem : c.toLower ∈ t.toList.map Char.toLower := hmap ▸ List.mem_map_of_mem hc
  obtain ⟨d, hd, heq⟩ := List.mem_map.mp hmem
  exact ⟨d, hd, heq.symm⟩

/-- A text that is the same as an ASCII text up to case is ASCII. -/
theorem SameUpToCase.ascii {s t : String} (h : SameUpToCase s t)
    (ht : ∀ c ∈ t.toList, c.toNat < 128) : ∀ c ∈ s.toList, c.toNat < 128 := by
  intro c hc
  obtain ⟨d, hd, hcd⟩ := h.exists_mem hc
  exact toNat_lt_of_toLower_eq hcd (ht d hd)

/-- Full lowering does not see the case of ASCII letters either. -/
theorem lower_eq_lower {s t : String} (h : SameUpToCase s t)
    (ht : ∀ c ∈ t.toList, c.toNat < 128) : lower s = lower t := by
  rw [lower_eq_toLower (h.ascii ht), lower_eq_toLower ht]
  exact (sameUpToCase_iff s t).mp h

end ChainParams.Text
