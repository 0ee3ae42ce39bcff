import ChainParams.Proofs.Digest.Text
import Mathlib.Algebra.BigOperators.Fin
import Mathlib.Data.Nat.Digits.Lemmas

/-!
# ChainParams — the number that a digest's text denotes

The text of a digest is a number in base sixteen, and the bytes of the digest are the digits
of that number in base 256, the least significant one first. The reader never computes the
number: it fills the text up, takes it apart in pairs and stores them from the last to the
first.

That both are the same number is shown pair by pair from the front. A pair in front of
`2 * k` digits counts its value times `16^(2 * k)`, and the byte that it becomes stands behind
`k` bytes and counts the same value times `256^k` (`sum_byteAt`). The zeros in front count
nothing (`number_filled`).

Which texts are read at all depends on three counts and a search for a bad character. They
come down to the grammar: at most 64 digits and nothing else (`parse_isOk_iff`), since a
character that is no digit is found by the search at the latest.

## Results

* `Hex.value?_of_isDigit` — a digit is read as its place among the sixteen.
* `parse_isOk_iff`        — the texts that are read.
* `sum_bytes`             — the bytes of a digest are the number that was read.
* `digits_and_value`      — both for every text.
-/

namespace ChainParams

namespace Hex

-- ---------------------------------------------------------------------------
-- Digits and their values
-- ---------------------------------------------------------------------------

/-- A digit of base sixteen, of either case. -/
def IsDigit (c : Char) : Prop :=
  ('0' ≤ c ∧ c ≤ '9') ∨ ('a' ≤ c ∧ c ≤ 'f') ∨ ('A' ≤ c ∧ c ≤ 'F')

instance (c : Char) : Decidable (IsDigit c) :=
  inferInstanceAs (Decidable (_ ∨ _ ∨ _))

/-- The value of a digit: its place among the sixteen, whatever its case. -/
def digitValue (c : Char) : Nat :=
  "0123456789abcdef".toList.idxOf c.toLower

/-- The number that a run of digits denotes, the first one counting most. -/
def number (cs : List Char) : Nat :=
  Nat.ofDigits 16 (cs.map digitValue).reverse

/-- The digits that are read are those of base sixteen in either case. -/
theorem isSome_value?_iff (c : Char) : (value? c).isSome ↔ IsDigit c := by
  unfold value? IsDigit
  grind

theorem toNat_lt_of_isDigit {c : Char} (h : IsDigit c) : c.toNat < 128 := by
  rcases h with ⟨-, h⟩ | ⟨-, h⟩ | ⟨-, h⟩ <;>
    exact Nat.lt_of_le_of_lt (UInt32.le_iff_toNat_le.mp h) (by decide)

/-- A digit is read as its place among the sixteen. -/
theorem value?_of_isDigit {c : Char} (h : IsDigit c) :
    value? c = some (digitValue c) ∧ digitValue c < 16 := by
  have all : ∀ k : Fin 128, IsDigit (Char.ofNat k) →
      value? (Char.ofNat k) = some (digitValue (Char.ofNat k)) ∧
        digitValue (Char.ofNat k) < 16 := by
    decide +kernel
  have hc := all ⟨c.toNat, toNat_lt_of_isDigit h⟩
  rw [Char.ofNat_toNat] at hc
  exact hc h

/-- Signs, the mark of a prefix, blanks and all that is not ASCII are no digits. -/
theorem not_isDigit {c : Char}
    (h : 128 ≤ c.toNat ∨ c ∈ ['+', '-', 'x', 'X', ' ', '\t', '\r', '\n']) : ¬ IsDigit c := by
  intro hDigit
  rcases h with h | h
  · have := toNat_lt_of_isDigit hDigit
    omega
  · simp only [List.mem_cons, List.not_mem_nil, or_false] at h
    rcases h with rfl | rfl | rfl | rfl | rfl | rfl | rfl | rfl <;>
      exact absurd hDigit (by decide)

/-- The first digit of a run counts the most. -/
theorem number_cons (c : Char) (cs : List Char) :
    number (c :: cs) = digitValue c * 16 ^ cs.length + number cs := by
  rw [number, number, List.map_cons, List.reverse_cons, Nat.ofDigits_append,
    Nat.ofDigits_singleton, List.length_reverse, List.length_map]
  ring

/-- Zeros in front count nothing. -/
theorem number_leadingZeros (k : Nat) (cs : List Char) :
    number (List.replicate k '0' ++ cs) = number cs := by
  have hZero : digitValue '0' = 0 := by decide
  rw [number, number, List.map_append, List.map_replicate, hZero, List.reverse_append,
    List.reverse_replicate, Nat.ofDigits_append_replicate_zero]

end Hex

namespace Digest

-- ---------------------------------------------------------------------------
-- Pairs of digits
-- ---------------------------------------------------------------------------

/-- The first two digits make the first byte, the upper half first. -/
theorem byteAt_zero {a b : Char} (cs : List Char) (ha : Hex.IsDigit a) (hb : Hex.IsDigit b) :
    (byteAt (a :: b :: cs) 0).toNat = 16 * Hex.digitValue a + Hex.digitValue b := by
  obtain ⟨hva, hla⟩ := Hex.value?_of_isDigit ha
  obtain ⟨hvb, hlb⟩ := Hex.value?_of_isDigit hb
  have hFirst : digitAt (a :: b :: cs) (2 * 0) = Hex.digitValue a := by simp [digitAt, hva]
  have hSecond : digitAt (a :: b :: cs) (2 * 0 + 1) = Hex.digitValue b := by simp [digitAt, hvb]
  rw [byteAt, hFirst, hSecond]
  exact UInt8.toNat_ofNat_of_lt' (by rw [UInt8.size]; omega)

theorem byteAt_succ (a b : Char) (cs : List Char) (pair : Nat) :
    byteAt (a :: b :: cs) (pair + 1) = byteAt cs pair := rfl

/-- Pairs of digits are the bytes of the number, the last one first. -/
theorem sum_byteAt {pairs : Nat} {cs : List Char} (hlen : cs.length = 2 * pairs)
    (hDigits : ∀ c ∈ cs, Hex.IsDigit c) :
    ∑ i ∈ Finset.range pairs, (byteAt cs (pairs - 1 - i)).toNat * 256 ^ i = Hex.number cs := by
  -- a pair in front adds the highest byte, and moves no other to a different place of the sum
  induction pairs generalizing cs with
  | zero =>
    rw [List.eq_nil_of_length_eq_zero hlen]
    rfl
  | succ pairs ih =>
    match cs, hlen with
    | a :: b :: cs, hlen =>
      have hlen' : cs.length = 2 * pairs := by
        rw [List.length_cons, List.length_cons] at hlen
        omega
      have ha : Hex.IsDigit a := hDigits a (by simp)
      have hb : Hex.IsDigit b := hDigits b (by simp)
      have hRest := ih hlen' fun c hc => hDigits c (by simp [hc])
      have hShift : ∀ i ∈ Finset.range pairs,
          (byteAt (a :: b :: cs) (pairs + 1 - 1 - i)).toNat * 256 ^ i =
            (byteAt cs (pairs - 1 - i)).toNat * 256 ^ i := by
        intro i hi
        have hi' := Finset.mem_range.mp hi
        have hplace : pairs + 1 - 1 - i = pairs - 1 - i + 1 := by omega
        rw [hplace, byteAt_succ]
      have hBase : 256 ^ pairs = 16 ^ cs.length := by
        rw [hlen', pow_mul]
        rfl
      rw [Finset.sum_range_succ, Finset.sum_congr rfl hShift, hRest, Nat.add_sub_cancel,
        Nat.sub_self, byteAt_zero cs ha hb, hBase, Hex.number_cons, Hex.number_cons,
        List.length_cons]
      ring

-- ---------------------------------------------------------------------------
-- The texts that are read
-- ---------------------------------------------------------------------------

theorem number_filled (s : String) : Hex.number (filled s) = Hex.number s.toList :=
  Hex.number_leadingZeros _ _

theorem isDigit_filled {s : String} (hDigits : ∀ c ∈ s.toList, Hex.IsDigit c) :
    ∀ c ∈ filled s, Hex.IsDigit c := by
  intro c hc
  rcases mem_filled hc with rfl | hc
  · decide
  · exact hDigits c hc

/-- If the search finds nothing there are digits alone. -/
theorem isDigit_of_firstBad?_eq_none {cs : List Char} (h : firstBad? cs = none) :
    ∀ c ∈ cs, Hex.IsDigit c := by
  intro c hc
  obtain ⟨place, hplace, rfl⟩ := List.mem_iff_getElem.mp hc
  have hFine := List.find?_eq_none.mp h (cs[place], place)
    (List.mk_mem_zipIdx_iff_getElem?.mpr (List.getElem?_eq_getElem hplace))
  rw [← Hex.isSome_value?_iff, Option.isSome_iff_ne_none]
  simpa using hFine

/-- What a text that is read has passed: the count of its bytes and the search. -/
theorem checks_of_parse_eq_ok {s : String} {d : Digest} (h : parse s = .ok d) :
    s.utf8ByteSize ≤ textSize ∧ firstBad? (filled s) = none := by
  rw [parse] at h
  split at h
  · cases h
  next hshort =>
  simp only at h
  split at h
  · cases h
  split at h
  · cases h
  split at h
  · cases h
  next hFine =>
  exact ⟨Nat.le_of_not_lt hshort, hFine⟩

/-- A text without a bad character has as many characters as bytes. -/
theorem grammar_of_parse_eq_ok {s : String} {d : Digest} (h : parse s = .ok d) :
    s.length ≤ textSize ∧ ∀ c ∈ s.toList, Hex.IsDigit c := by
  obtain ⟨hshort, hFine⟩ := checks_of_parse_eq_ok h
  have hDigits : ∀ c ∈ s.toList, Hex.IsDigit c := by
    intro c hc
    exact isDigit_of_firstBad?_eq_none hFine c (List.mem_append_right _ hc)
  have hBytes := utf8ByteSize_of_digits fun c hc => (Hex.isSome_value?_iff c).mpr (hDigits c hc)
  rw [String.ofList_toList, String.length_toList] at hBytes
  rw [← hBytes]
  exact ⟨hshort, hDigits⟩

/-- At most 64 digits are read, pair by pair. -/
theorem parse_of_grammar {s : String} (hlen : s.length ≤ textSize)
    (hDigits : ∀ c ∈ s.toList, Hex.IsDigit c) :
    parse s = .ok ⟨Vector.ofFn fun i => byteAt (filled s) (size - 1 - i.val)⟩ :=
  parse_eq_ok (fun c hc => (Hex.isSome_value?_iff c).mpr (hDigits c hc)) hlen

/-- The texts that are read are those of at most 64 digits. -/
theorem parse_isOk_iff (s : String) :
    (∃ d, parse s = .ok d) ↔ s.length ≤ textSize ∧ ∀ c ∈ s.toList, Hex.IsDigit c := by
  constructor
  · rintro ⟨d, h⟩
    exact grammar_of_parse_eq_ok h
  · rintro ⟨hlen, hDigits⟩
    exact ⟨_, parse_of_grammar hlen hDigits⟩

/-- A character that is no digit makes any text be refused, however long it is. -/
theorem refused_of_not_isDigit {s : String} {c : Char} (hc : c ∈ s.toList)
    (h : ¬ Hex.IsDigit c) : ∃ e, parse s = .error e := by
  cases hparse : parse s with
  | ok d => exact absurd ((grammar_of_parse_eq_ok hparse).2 c hc) h
  | error e => exact ⟨e, rfl⟩

/-- The bytes of a digest are the number that was read. -/
theorem sum_bytes {s : String} {d : Digest} (h : parse s = .ok d) :
    ∑ i : Fin size, d.bytes[i].toNat * 256 ^ i.val = Hex.number s.toList := by
  obtain ⟨hlen, hDigits⟩ := grammar_of_parse_eq_ok h
  rw [parse_of_grammar hlen hDigits, Except.ok.injEq] at h
  subst h
  rw [← number_filled, ← sum_byteAt (length_filled hlen) (isDigit_filled hDigits),
    ← Fin.sum_univ_eq_sum_range]
  refine Finset.sum_congr rfl fun i _ => ?_
  rw [Fin.getElem_fin, Vector.getElem_ofFn]

/--
**The grammar and the value of a digest's text.** A text is read exactly if it has at most 64
characters and all of them are digits of base sixteen, of either case; the empty text is one
of them. The bytes of the digest, the first one counting least, are then the number that the
text denotes. A text of any length with a character beyond ASCII, a sign, the mark of a
prefix or a blank in it is refused.
-/
theorem digits_and_value :
    (∀ s, (∃ d, parse s = .ok d) ↔
      s.length ≤ 64 ∧ ∀ c ∈ s.toList,
        ('0' ≤ c ∧ c ≤ '9') ∨ ('a' ≤ c ∧ c ≤ 'f') ∨ ('A' ≤ c ∧ c ≤ 'F')) ∧
    (∀ s d, parse s = .ok d →
      ∑ i : Fin 32, d.bytes[i].toNat * 256 ^ i.val = Hex.number s.toList) ∧
    (∀ s, ∀ c ∈ s.toList,
      128 ≤ c.toNat ∨ c ∈ ['+', '-', 'x', 'X', ' ', '\t', '\r', '\n'] →
      ∃ e, parse s = .error e) := by
  refine ⟨parse_isOk_iff, fun s d => sum_bytes, fun s c hc hForeign => ?_⟩
  exact refused_of_not_isDigit hc (Hex.not_isDigit hForeign)

/-- A single digit is the least significant half of the first byte. -/
example : (parse "F").toOption.map (fun d => d.bytes[0]) = some 15 := by cbv

end Digest

end ChainParams
