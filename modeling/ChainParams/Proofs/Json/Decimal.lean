import ChainParams.Json.Document
import ChainParams.Json.Reader
import ChainParams.Proofs.Json.NumberGrammar

/-!
# ChainParams — written numbers read back

A natural number is written in decimal digits without a leading zero, and nothing is
written behind it that could belong to a number. So the digits are the text of a number by
the grammar, the scanner takes exactly them, and their value is the number.

What is left is the test for the range of double precision, which the reader applies
before it looks at the value. It is a test on the significand alone here: below 2^64 no
digit is left out, and rounding to 53 bits at most doubles a number.

* `Numeral.spells_toDigits`   — the digits of a number are a text of the grammar.
* `Numeral.scan_toDigits`     — the scanner takes the digits of a number.
* `Numeral.overflows_ofDigits` — a number below 2^64 is in the range of double precision.
* `readNatural_toDigits`      — a number below the bound of a reader comes back.
-/

namespace ChainParams.Json

/-- The number written by digits alone. -/
def Numeral.ofDigits (ds : List Char) : Numeral :=
  ⟨false, ds, [], none⟩

-- ---------------------------------------------------------------------------
-- The digits of a number
-- ---------------------------------------------------------------------------

/-- Only the number zero is written with a zero in front, and then it is the only digit. -/
theorem toDigits_cases (n : Nat) :
    Nat.toDigits 10 n = ['0'] ∨
    ∃ d ds, Nat.toDigits 10 n = d :: ds ∧ d.isDigit = true ∧ d ≠ '0' := by
  -- on the number without its last digit, which has the same first one
  induction n using Nat.strongRecOn with
  | _ n ih =>
    rw [Nat.toDigits_eq_if (by decide)]
    split
    · next hlt =>
      by_cases hz : n = 0
      · subst hz
        exact Or.inl rfl
      · refine Or.inr ⟨n.digitChar, [], rfl, ?_, ?_⟩
        · rw [Nat.isDigit_digitChar]
          exact decide_eq_true hlt
        · simpa using hz
    · next hge =>
      refine Or.inr ?_
      rcases ih (n / 10) (by omega) with hzero | ⟨d, ds, heq, hd, hne⟩
      · -- only zero is written so, but the leading part is not zero
        have hval : n / 10 = 0 := by
          rw [← Nat.ofDigitChars_ten_toDigits (n := n / 10), hzero]
          rfl
        omega
      · exact ⟨d, ds ++ [(n % 10).digitChar], by rw [heq, List.cons_append], hd, hne⟩

theorem isDigit_of_mem_toDigits_ten {n : Nat} {c : Char} (h : c ∈ Nat.toDigits 10 n) :
    c.isDigit = true :=
  Nat.isDigit_of_mem_toDigits (by decide) (by decide) h

/-- A number starts with a digit. -/
theorem exists_toDigits_eq_cons (n : Nat) :
    ∃ d ds, Nat.toDigits 10 n = d :: ds ∧ d.isDigit = true := by
  rcases toDigits_cases n with h | ⟨d, ds, h, hd, -⟩
  · exact ⟨'0', [], h, by decide⟩
  · exact ⟨d, ds, h, hd⟩

theorem isBlank_of_isDigit {c : Char} (h : c.isDigit = true) : isBlank c = false := by
  rw [← Bool.not_eq_true]
  intro hb
  simp only [isBlank, Bool.or_eq_true, decide_eq_true_eq] at hb
  rcases hb with ((rfl | rfl) | rfl) | rfl <;> revert h <;> decide

namespace Numeral

-- ---------------------------------------------------------------------------
-- Scanning
-- ---------------------------------------------------------------------------

/-- The digits of a number are its text. -/
theorem spells_toDigits (n : Nat) :
    SpellsNumeral (ofDigits (Nat.toDigits 10 n)) (Nat.toDigits 10 n) := by
  have hdigits : IsDigits (Nat.toDigits 10 n) :=
    ⟨Nat.toDigits_ne_nil, fun c hc => isDigit_of_mem_toDigits_ten hc⟩
  have hspells := SpellsUnsigned.mk (n := ofDigits (Nat.toDigits 10 n)) hdigits .none .none
  rw [List.append_nil, List.append_nil] at hspells
  exact .plain rfl hspells

theorem isTrimmed_ofDigits_toDigits (n : Nat) : (ofDigits (Nat.toDigits 10 n)).IsTrimmed := by
  intro hzero
  rcases toDigits_cases n with h | ⟨d, ds, h, -, hne⟩
  · exact h
  · rw [ofDigits, h] at hzero
    exact absurd (Option.some.inj hzero) hne

/-- The scanner takes the digits of a number, and nothing behind them. -/
theorem scan_toDigits (n : Nat) {rest : List Char} (hrest : EndsNumber rest) :
    scan (Nat.toDigits 10 n ++ rest) = .ok (ofDigits (Nat.toDigits 10 n), rest) :=
  scan_of_spells (spells_toDigits n) (isTrimmed_ofDigits_toDigits n) hrest

-- ---------------------------------------------------------------------------
-- Values
-- ---------------------------------------------------------------------------

/-- The number that digits behind an earlier number make together with it. -/
theorem valueOf_eq_ofDigitChars (ds : List Char) : valueOf ds = Nat.ofDigitChars 10 ds 0 :=
  Nat.ofDigitChars_eq_foldl.symm

/-- The digits of a number make the number. -/
theorem valueOf_toDigits (n : Nat) : valueOf (Nat.toDigits 10 n) = n := by
  rw [valueOf_eq_ofDigitChars, Nat.ofDigitChars_ten_toDigits]

theorem natural?_ofDigits (ds : List Char) : (ofDigits ds).natural? = some (valueOf ds) := by
  simp [natural?, ofDigits]

-- ---------------------------------------------------------------------------
-- The range of double precision
-- ---------------------------------------------------------------------------

theorem le_ofDigitChars (ds : List Char) (n : Nat) : n ≤ Nat.ofDigitChars 10 ds n := by
  induction ds generalizing n with
  | nil => exact Nat.le_refl n
  | cons d ds ih =>
    rw [Nat.ofDigitChars_cons]
    have := ih (10 * n + (d.toNat - '0'.toNat))
    omega

/-- Digits that make a number below 2^64 are all kept. -/
theorem extend_of_lt {ds : List Char} {n : Nat} (h : Nat.ofDigitChars 10 ds n < UInt64.size) :
    extend n ds = (Nat.ofDigitChars 10 ds n, 0) := by
  -- digit by digit: the number before the last digit is smaller, so it was not full
  induction ds generalizing n with
  | nil => rfl
  | cons d ds ih =>
    rw [Nat.ofDigitChars_cons] at h ⊢
    have hle := le_ofDigitChars ds (10 * n + (d.toNat - '0'.toNat))
    rw [extend, if_pos (by omega), ih h]

/-- A number below 2^64 is its own significand. -/
theorem scientific_ofDigits {ds : List Char} (h : valueOf ds < UInt64.size) :
    (ofDigits ds).scientific = (valueOf ds, 0) := by
  rw [valueOf_eq_ofDigitChars] at h ⊢
  simp [scientific, ofDigits, extend_of_lt h, extend, exponentValue]

/-- Rounding at most doubles a number. -/
theorem round53_le {n : Nat} (hn : n ≠ 0) : round53 n ≤ 2 * n := by
  have hunit : 1 <<< (n.log2 - 52) ≤ n := by
    rw [Nat.shiftLeft_eq, Nat.one_mul]
    exact Nat.le_trans (Nat.pow_le_pow_right (by decide) (Nat.sub_le _ _)) (Nat.log2_self_le hn)
  have hlow := Nat.div_mul_le_self n (1 <<< (n.log2 - 52))
  rw [round53]
  split
  · rw [Nat.add_mul, Nat.one_mul]
    omega
  · omega

/-- A number below 2^64 is in the range of double precision. -/
theorem overflows_ofDigits {ds : List Char} (h : valueOf ds < UInt64.size) :
    (ofDigits ds).overflows = false := by
  rw [overflows, scientific_ofDigits h]
  by_cases hz : valueOf ds = 0
  · simp [hz]
  · -- twice the largest word is far below the largest double
    have hround := round53_le hz
    have hone : round53 (Nat.pow 10 (0 : Int).toNat) = 1 := by decide
    have hmax : 2 * UInt64.size ≤ (1 <<< 1024) - (1 <<< 970) := by decide +kernel
    simp only [hone, Nat.mul_one]
    rw [if_neg (by simp [hz]), if_neg (by decide)]
    refine decide_eq_false ?_
    omega

end Numeral

-- ---------------------------------------------------------------------------
-- Reading
-- ---------------------------------------------------------------------------

/-- A number below 2^64 is read from its digits. -/
theorem readNumeral_toDigits {n : Nat} (hn : n < UInt64.size) {rest : List Char}
    (hrest : EndsNumber rest) :
    readNumeral (Nat.toDigits 10 n ++ rest) =
      .ok (Numeral.ofDigits (Nat.toDigits 10 n), rest) := by
  have hover : (Numeral.ofDigits (Nat.toDigits 10 n)).overflows = false :=
    Numeral.overflows_ofDigits (by rw [Numeral.valueOf_toDigits]; exact hn)
  rw [readNumeral, Numeral.scan_toDigits n hrest]
  simp [hover]

/-- A number below the bound of a reader, and that below 2^64, comes back. -/
theorem readNatural_toDigits {bound n : Nat} (hbound : bound ≤ UInt64.size) (hn : n < bound)
    {rest : List Char} (hrest : EndsNumber rest) :
    Reader.readNatural bound (Nat.toDigits 10 n ++ rest) = .ok (n, rest) := by
  have hread := readNumeral_toDigits (Nat.lt_of_lt_of_le hn hbound) hrest
  obtain ⟨d, ds, heq, hd⟩ := exists_toDigits_eq_cons n
  have hskip : skipBlank (Nat.toDigits 10 n ++ rest) = d :: (ds ++ rest) := by
    rw [heq, List.cons_append, skipBlank, List.dropWhile_cons, isBlank_of_isDigit hd]
    rfl
  rw [heq, List.cons_append] at hread
  rw [Reader.readNatural, hskip]
  simp only [hd, or_true, if_true, hread]
  rw [← heq, Numeral.natural?_ofDigits, Numeral.valueOf_toDigits]
  simp [hn]

end ChainParams.Json
