import ChainParams.Hrp
import ChainParams.Proofs.Text.LetterCase

/-!
# ChainParams — the grammar of human-readable parts

A human-readable part is checked in one pass that remembers the letter cases met so far and
stops at the first fault. That pass accepts a text exactly if its characters are visible ASCII
and its letters are of one case, wherever they stand (`checkChars_eq_ok_iff`): what is
remembered counts like letters in front of the text, and never are both cases remembered.

Segwit prefixes have to be in lower case besides. Together with the check this leaves texts
without capitals, so that the rule on mixed case says nothing more.

## Results

* `check_eq_ok_iff`      — the texts that are human-readable parts.
* `check_and_lower_iff`  — those that are in lower case.
-/

namespace ChainParams.Hrp

/-- What is remembered of the letters in front of a text counts like letters in it. -/
theorem checkChars_eq_ok_iff {seen : Cases} (hseen : ¬ (seen.lower = true ∧ seen.upper = true))
    (cs : List Char) :
    checkChars seen cs = .ok () ↔
      (∀ c ∈ cs, 33 ≤ c.toNat ∧ c.toNat ≤ 126) ∧
        ¬ ((seen.lower = true ∨ ∃ c ∈ cs, c.isLower = true) ∧
          (seen.upper = true ∨ ∃ c ∈ cs, c.isUpper = true)) := by
  -- along the pass; in each case the character stops it or adds to what is remembered
  fun_induction checkChars seen cs with
  | case1 seen => simpa using hseen
  | case2 seen c cs hwide =>
    refine iff_of_false nofun fun ⟨hvisible, _⟩ => ?_
    have := hvisible c (List.mem_cons_self ..)
    omega
  | case3 seen c cs hascii hhidden =>
    refine iff_of_false nofun fun ⟨hvisible, _⟩ => ?_
    have := hvisible c (List.mem_cons_self ..)
    omega
  | case4 seen c cs hascii hvisible hlower hupper =>
    exact iff_of_false nofun fun ⟨_, hone⟩ =>
      hone ⟨.inr ⟨c, List.mem_cons_self .., hlower⟩, .inl hupper⟩
  | case5 seen c cs hascii hvisible hlower hupper ih =>
    have hrange : 33 ≤ c.toNat ∧ c.toNat ≤ 126 := by omega
    have hnot : c.isUpper = false := Text.isUpper_eq_false_of_isLower hlower
    rw [ih (by simp [hupper])]
    simp [hrange, hlower, hnot]
  | case6 seen c cs hascii hvisible hlower hupper hmixed =>
    exact iff_of_false nofun fun ⟨_, hone⟩ =>
      hone ⟨.inl hmixed, .inr ⟨c, List.mem_cons_self .., hupper⟩⟩
  | case7 seen c cs hascii hvisible hlower hupper hmixed ih =>
    have hrange : 33 ≤ c.toNat ∧ c.toNat ≤ 126 := by omega
    rw [ih (by simp [hmixed])]
    simp [hrange, hlower, hupper]
  | case8 seen c cs hascii hvisible hlower hupper ih =>
    have hrange : 33 ≤ c.toNat ∧ c.toNat ≤ 126 := by omega
    rw [ih hseen]
    simp [hrange, hlower, hupper]

/-- A human-readable part has 1 to 83 bytes, visible ASCII characters and letters of one case. -/
theorem check_eq_ok_iff (s : String) :
    check s = .ok () ↔
      1 ≤ s.utf8ByteSize ∧ s.utf8ByteSize ≤ 83 ∧
        (∀ c ∈ s.toList, 33 ≤ c.toNat ∧ c.toNat ≤ 126) ∧
        ¬ ((∃ c ∈ s.toList, c.isLower = true) ∧ ∃ c ∈ s.toList, c.isUpper = true) := by
  have hempty : s.isEmpty = true ↔ s.utf8ByteSize = 0 := by
    rw [String.isEmpty, beq_iff_eq]
  rw [check]
  split
  · next h =>
    have hsize := hempty.mp h
    exact iff_of_false nofun fun ⟨hpos, _⟩ => absurd hpos (by omega)
  next h =>
  have hsize := mt hempty.mpr h
  split
  · next hlong =>
    exact iff_of_false nofun fun ⟨_, hshort, _⟩ => absurd hlong (Nat.not_lt.mpr hshort)
  next hshort =>
  rw [checkChars_eq_ok_iff (by simp)]
  constructor
  · rintro ⟨hvisible, hone⟩
    exact ⟨by omega, Nat.not_lt.mp hshort, hvisible, by simpa using hone⟩
  · rintro ⟨-, -, hvisible, hone⟩
    exact ⟨hvisible, by simpa using hone⟩

/-- Where capitals are excluded, nothing is left for the rule on mixed case. -/
theorem check_and_lower_iff (s : String) :
    check s = .ok () ∧ Text.lower s = s ↔
      1 ≤ s.utf8ByteSize ∧ s.utf8ByteSize ≤ 83 ∧
        ∀ c ∈ s.toList, (33 ≤ c.toNat ∧ c.toNat ≤ 126) ∧ ¬ ('A' ≤ c ∧ c ≤ 'Z') := by
  -- visible characters are ASCII, so lower case means no capitals
  have hlower (hvisible : ∀ c ∈ s.toList, 33 ≤ c.toNat ∧ c.toNat ≤ 126) :
      Text.lower s = s ↔ ∀ c ∈ s.toList, ¬ ('A' ≤ c ∧ c ≤ 'Z') :=
    Text.lower_eq_self_iff_of_ascii fun c hc => Nat.lt_of_le_of_lt (hvisible c hc).2 (by decide)
  rw [check_eq_ok_iff]
  constructor
  · rintro ⟨⟨hpos, hshort, hvisible, -⟩, hsmall⟩
    exact ⟨hpos, hshort, fun c hc => ⟨hvisible c hc, (hlower hvisible).mp hsmall c hc⟩⟩
  · rintro ⟨hpos, hshort, hchars⟩
    have hvisible := fun c hc => (hchars c hc).1
    have hsmall := fun c hc => (hchars c hc).2
    refine ⟨⟨hpos, hshort, hvisible, ?_⟩, (hlower hvisible).mpr hsmall⟩
    rintro ⟨-, c, hc, hcapital⟩
    exact hsmall c hc ((Text.isUpper_iff c).mp hcapital)

end ChainParams.Hrp
