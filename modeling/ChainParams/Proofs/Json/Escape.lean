import ChainParams.Json.Document
import ChainParams.Json.StringLiteral

/-!
# ChainParams — written strings, character by character

A string is written character by character, and each character in one of three ways: behind a
backslash by a letter, by four hexadecimal digits, or as it is. Beside these three stand the steps
of the reader that take each of them.

* `escaped_cases`    — the three ways of writing a character.
* `readQuad_control` — the digits of a control character.
-/

namespace ChainParams.Json

-- ---------------------------------------------------------------------------
-- One step of the reader
-- ---------------------------------------------------------------------------

theorem readString_quote (s : List Char) : readString ('"' :: s) = .ok ([], s) := by
  rw [readString]
  rfl

/-- A character that needs no escape stands for itself. -/
theorem readString_plain {c : Char} (hq : c ≠ '"') (hb : c ≠ '\\') (hc : isControl c = false)
    (s : List Char) : readString (c :: s) = (readString s).map fun (ds, u) => (c :: ds, u) := by
  rw [readString]
  simp [hq, hb, hc]

/-- What an escape stands for is the next character of the string. -/
theorem readString_escape {d : Char} {s t : List Char} (h : readEscape s = .ok (d, t)) :
    readString ('\\' :: s) = (readString t).map fun (ds, u) => (d :: ds, u) := by
  rw [readString]
  simp only [Char.reduceEq, if_false, if_true]
  split
  · next f hf =>
    rw [h] at hf
    cases hf
  · next d' t' ht =>
    rw [h] at ht
    cases ht
    rfl

/-- A letter behind a backslash stands for what it is known for. -/
theorem readEscape_letter {c d : Char} (h : letterEscape? c = some d) (s : List Char) :
    readEscape (c :: s) = .ok (d, s) := by
  rw [readEscape, h]

/-- Four digits stand for a character by themselves unless they are half of a pair. -/
theorem readEscape_quad {s t : List Char} {n : Nat} (h : readQuad s = .ok (n, t))
    (hlow : isLowHalf n = false) (hhigh : isHighHalf n = false) :
    readEscape ('u' :: s) = .ok (Char.ofNat n, t) := by
  have hu : letterEscape? 'u' = none := by decide
  rw [readEscape, hu]
  simp [h, hlow, hhigh]

-- ---------------------------------------------------------------------------
-- One character
-- ---------------------------------------------------------------------------

/-- A character is written by a letter, by digits or as it is. -/
theorem escaped_cases (c : Char) :
    (∃ letter, escaped c = ['\\', letter] ∧ letterEscape? letter = some c) ∨
    (c.toNat < 0x20 ∧ escaped c =
      ['\\', 'u', '0', '0', Hex.digit (c.toNat / 16), Hex.digit (c.toNat % 16)]) ∨
    (escaped c = [c] ∧ c ≠ '"' ∧ c ≠ '\\' ∧ isControl c = false) := by
  -- the characters with a letter, one by one
  by_cases hq : c = '"'
  · subst hq
    exact Or.inl ⟨'"', rfl, rfl⟩
  by_cases hb : c = '\\'
  · subst hb
    exact Or.inl ⟨'\\', rfl, rfl⟩
  by_cases h08 : c = '\x08'
  · subst h08
    exact Or.inl ⟨'b', rfl, rfl⟩
  by_cases h0c : c = '\x0c'
  · subst h0c
    exact Or.inl ⟨'f', rfl, rfl⟩
  by_cases hn : c = '\n'
  · subst hn
    exact Or.inl ⟨'n', rfl, rfl⟩
  by_cases hr : c = '\r'
  · subst hr
    exact Or.inl ⟨'r', rfl, rfl⟩
  by_cases ht : c = '\t'
  · subst ht
    exact Or.inl ⟨'t', rfl, rfl⟩
  refine Or.inr ?_
  rw [escaped, if_neg hq, if_neg hb, if_neg h08, if_neg h0c, if_neg hn, if_neg hr, if_neg ht]
  by_cases hctl : c.toNat < 0x20
  · rw [if_pos hctl]
    exact Or.inl ⟨hctl, rfl⟩
  · rw [if_neg hctl]
    exact Or.inr ⟨rfl, hq, hb, decide_eq_false hctl⟩

/-- The two last digits of a control character are its code. -/
theorem readQuad_control {n : Nat} (hn : n < 0x20) (s : List Char) :
    readQuad ('0' :: '0' :: Hex.digit (n / 16) :: Hex.digit (n % 16) :: s) = .ok (n, s) := by
  have h0 : Hex.value? '0' = some 0 := by decide
  have hhi : Hex.value? (Hex.digit (n / 16)) = some (n / 16) := Hex.value?_digit (by omega)
  have hlo : Hex.value? (Hex.digit (n % 16)) = some (n % 16) := Hex.value?_digit (by omega)
  rw [readQuad, h0, hhi, hlo]
  simp only [Except.ok.injEq, Prod.mk.injEq, and_true]
  omega

end ChainParams.Json
