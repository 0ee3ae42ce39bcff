import ChainParams.Proofs.Digest.Value
import ChainParams.Proofs.Text.LetterCase
import Mathlib.Data.Bool.AllAny
import Mathlib.Data.List.TakeWhile

/-!
# ChainParams — the normal form of a digest's text

A digest has one text that is written and many that are read: digits may be capitals, and
zeros in front may be left out or put in. Reading a text and writing the digest again gives
its normal form, the text in lower case with zeros in front up to 64 characters.

That is shown pair by pair from the front: the two digits that a byte is written with are
the small forms of the two that it was read from (`flatMap_byteAt`). Texts of one digest are
then those with one normal form, and since all of them have at most 64 characters, the zeros
that were filled in can be taken out again: what counts is the text from its first other
digit on (`leftpad_eq_leftpad_iff`).

## Results

* `getElem?_text`          — the digits of a byte and their places in the text.
* `text_of_parse_eq_ok`    — reading and writing gives the normal form.
* `parse_eq_parse_iff`     — texts of the same digest.
* `text_normal_form`       — both ways between digests and their texts.
-/

namespace ChainParams

-- ---------------------------------------------------------------------------
-- Runs with zeros in front
-- ---------------------------------------------------------------------------

/-- What is filled up at the front is as if nothing had been there that is filled in. -/
theorem leftpad_dropWhile {α : Type} [BEq α] [LawfulBEq α] (n : Nat) (a : α) {l : List α}
    (hl : l.length ≤ n) : (l.dropWhile (· == a)).leftpad n a = l.leftpad n a := by
  have hsplit := List.takeWhile_append_dropWhile (p := (· == a)) (l := l)
  -- what is dropped is a run of the filling, and the filling puts as many back
  have hrun : l.takeWhile (· == a) = List.replicate (l.takeWhile (· == a)).length a :=
    List.eq_replicate_of_mem fun b hb => by simpa using List.mem_takeWhile_imp hb
  have hlen : (l.takeWhile (· == a)).length + (l.dropWhile (· == a)).length = l.length := by
    rw [← List.length_append, hsplit]
  have hcount : n - (l.dropWhile (· == a)).length =
      n - l.length + (l.takeWhile (· == a)).length := by
    omega
  rw [List.leftpad, List.leftpad, hcount, List.replicate_add, List.append_assoc, ← hrun, hsplit]

/-- The filling is dropped with what it is like. -/
theorem dropWhile_leftpad {α : Type} [BEq α] [LawfulBEq α] (n : Nat) (a : α) (l : List α) :
    (l.leftpad n a).dropWhile (· == a) = l.dropWhile (· == a) := by
  have hzeros : (List.replicate (n - l.length) a).dropWhile (· == a) = [] :=
    List.dropWhile_eq_nil_iff.mpr fun b hb => beq_iff_eq.mpr (List.eq_of_mem_replicate hb)
  rw [List.leftpad, List.dropWhile_append, hzeros]
  rfl

/-- Runs that fit are filled up to the same one exactly if they are the same from their first
other element on. -/
theorem leftpad_eq_leftpad_iff {α : Type} [BEq α] [LawfulBEq α] {n : Nat} {a : α}
    {l m : List α} (hl : l.length ≤ n) (hm : m.length ≤ n) :
    l.leftpad n a = m.leftpad n a ↔ l.dropWhile (· == a) = m.dropWhile (· == a) := by
  constructor
  · intro h
    rw [← dropWhile_leftpad n a l, h, dropWhile_leftpad]
  · intro h
    rw [← leftpad_dropWhile n a hl, h, leftpad_dropWhile n a hm]

-- ---------------------------------------------------------------------------
-- Digits
-- ---------------------------------------------------------------------------

namespace Hex

/-- A written digit is one of sixteen characters. -/
theorem digit_eq {n : Nat} (h : n < 16) : some (digit n) = "0123456789abcdef".toList[n]? := by
  have all : ∀ k : Fin 16, some (digit k) = "0123456789abcdef".toList[k.val]? := by decide
  exact all ⟨n, h⟩

theorem digit_small {n : Nat} (h : n < 16) :
    ('0' ≤ digit n ∧ digit n ≤ '9') ∨ ('a' ≤ digit n ∧ digit n ≤ 'f') := by
  have all : ∀ k : Fin 16,
      ('0' ≤ digit k ∧ digit k ≤ '9') ∨ ('a' ≤ digit k ∧ digit k ≤ 'f') := by decide
  exact all ⟨n, h⟩

/-- The value of a digit is written as the digit in lower case. -/
theorem digit_digitValue {c : Char} (h : IsDigit c) : digit (digitValue c) = c.toLower := by
  -- the digits are ASCII, so one check of these characters covers them all
  have all : ∀ k : Fin 128, IsDigit (Char.ofNat k) →
      digit (digitValue (Char.ofNat k)) = (Char.ofNat k).toLower := by
    decide +kernel
  have hc := all ⟨c.toNat, toNat_lt_of_isDigit h⟩
  rw [Char.ofNat_toNat] at hc
  exact hc h

/-- The text of bytes has digits in lower case alone. -/
theorem small_of_mem_bytes {bs : List UInt8} {c : Char} (h : c ∈ bytes bs) :
    ('0' ≤ c ∧ c ≤ '9') ∨ ('a' ≤ c ∧ c ≤ 'f') := by
  obtain ⟨b, -, hc⟩ := List.mem_flatMap.mp h
  have hb := b.toNat_lt
  rw [byte, List.mem_cons, List.mem_singleton] at hc
  rcases hc with rfl | rfl
  · exact digit_small (by omega)
  · exact digit_small (by omega)

end Hex

namespace Digest

-- ---------------------------------------------------------------------------
-- From a digest to its text and back
-- ---------------------------------------------------------------------------

/-- The digits of a byte stand in the text as far from its front as the byte stands from the
end. -/
theorem getElem?_text (d : Digest) {i : Nat} (hi : i < 32) :
    ∃ b, d.bytes[31 - i]? = some b ∧
      d.text.toList[2 * i]? = "0123456789abcdef".toList[b.toNat / 16]? ∧
      d.text.toList[2 * i + 1]? = "0123456789abcdef".toList[b.toNat % 16]? := by
  have hplace : 31 - i < size := Nat.lt_of_le_of_lt (Nat.sub_le 31 i) (by decide)
  have hlen : d.bytes.toList.length = 32 := Vector.length_toList
  have hbyte : d.bytes[31 - i]? = some d.bytes[31 - i] := Vector.getElem?_eq_getElem hplace
  -- the text starts with the last byte
  have hback : d.bytes.toList.reverse[i]? = some d.bytes[31 - i] := by
    rw [List.getElem?_reverse (by omega), hlen, Vector.getElem?_toList]
    exact hbyte
  have hb := d.bytes[31 - i].toNat_lt
  refine ⟨_, hbyte, ?_⟩
  rw [text, String.toList_ofList, chars, Hex.getElem?_bytes_high, Hex.getElem?_bytes_low, hback]
  exact ⟨Hex.digit_eq (by omega), Hex.digit_eq (by omega)⟩

-- ---------------------------------------------------------------------------
-- From a text to its digest and back
-- ---------------------------------------------------------------------------

/-- The bytes read from pairs of digits are written as those digits in lower case. -/
theorem flatMap_byteAt {pairs : Nat} {cs : List Char} (hlen : cs.length = 2 * pairs)
    (hDigits : ∀ c ∈ cs, Hex.IsDigit c) :
    (List.range pairs).flatMap (fun i => Hex.byte (byteAt cs i)) = cs.map Char.toLower := by
  -- pair by pair from the front; a later pair is an earlier one of the shorter text
  induction pairs generalizing cs with
  | zero =>
    rw [List.eq_nil_of_length_eq_zero hlen]
    rfl
  | succ pairs ih =>
    match cs, hlen with
    | a :: b :: cs, hlen =>
      have hlen' : cs.length = 2 * pairs := by
        rw [List.length_cons, List.length_cons] at hlen
        omega
      have ha : Hex.IsDigit a := hDigits a (by simp)
      have hb : Hex.IsDigit b := hDigits b (by simp)
      have hFirst : Hex.byte (byteAt (a :: b :: cs) 0) = [a.toLower, b.toLower] := by
        have hvb := (Hex.value?_of_isDigit hb).2
        have hHigh : (16 * Hex.digitValue a + Hex.digitValue b) / 16 = Hex.digitValue a := by omega
        have hLow : (16 * Hex.digitValue a + Hex.digitValue b) % 16 = Hex.digitValue b := by omega
        rw [Hex.byte, byteAt_zero cs ha hb, hHigh, hLow, Hex.digit_digitValue ha,
          Hex.digit_digitValue hb]
      rw [List.range_succ_eq_map, List.flatMap_cons, List.flatMap_map, hFirst]
      simp only [Nat.succ_eq_add_one, byteAt_succ]
      rw [ih hlen' fun c hc => hDigits c (by simp [hc])]
      rfl

/-- Bytes that are filled in from the end are the pairs in their order. -/
theorem reverse_toList_ofFn {α : Type} (n : Nat) (f : Nat → α) :
    (Vector.ofFn fun i : Fin n => f (n - 1 - i.val)).toList.reverse = (List.range n).map f := by
  refine List.ext_getElem (by simp) fun i hi _ => ?_
  have hi' : i < n := by simpa using hi
  have hplace : n - 1 - (n - 1 - i) = i := by omega
  simp [hplace]

theorem map_toLower_filled (s : String) :
    (filled s).map Char.toLower = s.toLower.toList.leftpad textSize '0' := by
  have hZero : '0'.toLower = '0' := by decide
  rw [filled, Text.toList_toLower, List.leftpad, List.leftpad, List.map_append,
    List.map_replicate, hZero, List.length_map]

/-- Reading a text and writing the digest again gives the text in lower case with zeros in
front. -/
theorem text_of_parse_eq_ok {s : String} {d : Digest} (h : parse s = .ok d) :
    d.text = String.ofList (s.toLower.toList.leftpad textSize '0') := by
  obtain ⟨hlen, hDigits⟩ := grammar_of_parse_eq_ok h
  rw [parse_of_grammar hlen hDigits, Except.ok.injEq] at h
  subst h
  rw [text, chars, reverse_toList_ofFn, Hex.bytes, List.flatMap_map,
    flatMap_byteAt (length_filled hlen) (isDigit_filled hDigits), map_toLower_filled]

/-- Texts that are read give the same digest exactly if they are the same in lower case and
from their first digit other than zero on. -/
theorem parse_eq_parse_iff {s t : String} {d e : Digest} (hs : parse s = .ok d)
    (ht : parse t = .ok e) :
    d = e ↔ s.toLower.toList.dropWhile (· == '0') = t.toLower.toList.dropWhile (· == '0') := by
  -- a text that is read fits, so nothing of it is cut by the filling
  have length_le {u : String} {f : Digest} (hu : parse u = .ok f) :
      u.toLower.toList.length ≤ textSize := by
    rw [Text.toList_toLower, List.length_map, String.length_toList]
    exact (grammar_of_parse_eq_ok hu).1
  rw [← leftpad_eq_leftpad_iff (length_le hs) (length_le ht), ← String.ofList_inj,
    ← text_of_parse_eq_ok hs, ← text_of_parse_eq_ok ht]
  exact text_inj.symm

/--
**The normal form of a digest's text.** The text of a digest reads back as the digest. It has
64 characters, all of them digits in lower case, and the byte `i` places from the end of the
digest has the two digits at `2 * i`, the upper half first. A text that is read is written
again in lower case with zeros in front up to 64 characters. So texts that are read give the
same digest exactly if they are the same in lower case and without the zeros in front, and
different digests have different texts.
-/
theorem text_normal_form :
    (∀ d, parse d.text = .ok d ∧ d.text.length = 64 ∧
      (∀ c ∈ d.text.toList, ('0' ≤ c ∧ c ≤ '9') ∨ ('a' ≤ c ∧ c ≤ 'f')) ∧
      ∀ i < 32, ∃ b, d.bytes[31 - i]? = some b ∧
        d.text.toList[2 * i]? = "0123456789abcdef".toList[b.toNat / 16]? ∧
        d.text.toList[2 * i + 1]? = "0123456789abcdef".toList[b.toNat % 16]?) ∧
    (∀ s d, parse s = .ok d → d.text = String.ofList (s.toLower.toList.leftpad 64 '0')) ∧
    (∀ s t d e, parse s = .ok d → parse t = .ok e →
      (d = e ↔
        s.toLower.toList.dropWhile (· == '0') = t.toLower.toList.dropWhile (· == '0'))) ∧
    (∀ d e : Digest, d ≠ e → d.text ≠ e.text) := by
  refine ⟨fun d => ⟨parse_text d, length_text d, ?_, fun i hi => getElem?_text d hi⟩,
    fun s d => text_of_parse_eq_ok, fun s t d e => parse_eq_parse_iff, fun d e hne htext => ?_⟩
  · intro c hc
    rw [text, String.toList_ofList] at hc
    exact Hex.small_of_mem_bytes hc
  · exact hne (text_inj.mp htext)

/-- A text with zeros in front and one with other capitals and no zeros. -/
theorem text_of_two_digits :
    ∃ d, parse "00aB" = .ok d ∧ parse "Ab" = .ok d ∧
      d.text = "00000000000000000000000000000000000000000000000000000000000000ab" := by
  obtain ⟨-, hnormal, hsame, -⟩ := text_normal_form
  obtain ⟨d, hd⟩ := (parse_isOk_iff "00aB").mpr
    ⟨by decide, List.all_iff_forall_prop.mp (by decide)⟩
  obtain ⟨e, he⟩ := (parse_isOk_iff "Ab").mpr
    ⟨by decide, List.all_iff_forall_prop.mp (by decide)⟩
  have hde : d = e := (hsame _ _ d e hd he).mpr (by
    rw [Text.toList_toLower, Text.toList_toLower]
    decide)
  refine ⟨d, hd, by rw [hde, he], ?_⟩
  rw [hnormal _ d hd, Text.toList_toLower]
  decide

end Digest

end ChainParams
