import ChainParams.Digest

/-!
# ChainParams — digests and their texts

The length of a text is counted in bytes before it is filled up and again after, so the
reader accepts a text only by way of how long its characters are in UTF-8. Digits are one
byte each: a text of at most 64 of them gets through both counts, and its pairs of digits
are the bytes of the digest, from the last to the first.

## Results

* `Digest.parse_eq_ok` — a text of at most 64 digits is read, pair by pair.
* `Digest.parse_text`  — the text of a digest reads back as the digest.
* `Digest.text_inj`    — it is the text of that digest alone.
-/

namespace ChainParams

/-- The bytes of a text are those of its first character and of the rest. -/
theorem utf8ByteSize_ofList_cons (c : Char) (cs : List Char) :
    (String.ofList (c :: cs)).utf8ByteSize = c.utf8Size + (String.ofList cs).utf8ByteSize := by
  have hSplit : String.ofList (c :: cs) = String.singleton c ++ String.ofList cs := by
    simp
  rw [hSplit, String.utf8ByteSize_append, String.utf8ByteSize_singleton]

namespace Hex

-- ---------------------------------------------------------------------------
-- Digits
-- ---------------------------------------------------------------------------

/-- A digit of either case is one byte. -/
theorem utf8Size_of_isSome_value? {c : Char} (h : (value? c).isSome) : c.utf8Size = 1 := by
  have hLow : c ≤ '9' ∨ c ≤ 'f' ∨ c ≤ 'F' := by
    unfold value? at h
    grind
  rw [Char.utf8Size_eq_one_iff]
  rcases hLow with hLow | hLow | hLow <;> exact UInt32.le_trans hLow (by decide)

theorem isSome_value?_of_mem_bytes {bs : List UInt8} {c : Char} (h : c ∈ bytes bs) :
    (value? c).isSome := by
  obtain ⟨b, -, hc⟩ := List.mem_flatMap.mp h
  have hb := b.toNat_lt
  rw [byte, List.mem_cons, List.mem_singleton] at hc
  rcases hc with rfl | rfl
  · rw [value?_digit (by omega)]
    rfl
  · rw [value?_digit (by omega)]
    rfl

/-- The upper half of a byte stands at an even place. -/
theorem getElem?_bytes_high (bs : List UInt8) (i : Nat) :
    (bytes bs)[2 * i]? = bs[i]?.map fun b => digit (b.toNat / 16) := by
  induction bs generalizing i with
  | nil => rfl
  | cons b bs ih =>
    cases i with
    | zero => rfl
    | succ i => exact ih i

theorem getElem?_bytes_low (bs : List UInt8) (i : Nat) :
    (bytes bs)[2 * i + 1]? = bs[i]?.map fun b => digit (b.toNat % 16) := by
  induction bs generalizing i with
  | nil => rfl
  | cons b bs ih =>
    cases i with
    | zero => rfl
    | succ i => exact ih i

end Hex

namespace Digest

-- ---------------------------------------------------------------------------
-- Texts that are read
-- ---------------------------------------------------------------------------

/-- Among digits the search finds nothing. -/
theorem firstBad?_eq_none {cs : List Char} (h : ∀ c ∈ cs, (Hex.value? c).isSome) :
    firstBad? cs = none := by
  rw [firstBad?, List.find?_eq_none]
  rintro ⟨c, place⟩ hc
  have := h c (List.fst_mem_of_mem_zipIdx hc)
  simp [Option.isSome_iff_ne_none.mp this]

/-- Digits are as many bytes as characters. -/
theorem utf8ByteSize_of_digits {cs : List Char} (h : ∀ c ∈ cs, (Hex.value? c).isSome) :
    (String.ofList cs).utf8ByteSize = cs.length := by
  induction cs with
  | nil => rfl
  | cons c cs ih =>
    have hOne := Hex.utf8Size_of_isSome_value? (h c (List.mem_cons_self ..))
    have hRest := ih fun d hd => h d (List.mem_cons_of_mem _ hd)
    rw [utf8ByteSize_ofList_cons, hOne, hRest, List.length_cons, Nat.add_comm]

theorem mem_filled {s : String} {c : Char} (h : c ∈ filled s) : c = '0' ∨ c ∈ s.toList := by
  rcases List.mem_append.mp h with h | h
  · exact Or.inl (List.eq_of_mem_replicate h)
  · exact Or.inr h

/-- A text that fits is filled up to 64 characters. -/
theorem length_filled {s : String} (h : s.length ≤ textSize) : (filled s).length = textSize := by
  rw [filled, List.length_leftpad]
  rw [← String.length_toList] at h
  omega

/-- A text of at most 64 digits is read pair by pair. -/
theorem parse_eq_ok {s : String} (hDigits : ∀ c ∈ s.toList, (Hex.value? c).isSome)
    (hLength : s.length ≤ textSize) :
    parse s = .ok ⟨Vector.ofFn fun i => byteAt (filled s) (size - 1 - i.val)⟩ := by
  have hFilled : ∀ c ∈ filled s, (Hex.value? c).isSome := by
    intro c hc
    rcases mem_filled hc with rfl | hc
    · rfl
    · exact hDigits c hc
  -- both counts see characters of one byte each
  have hBytes : s.utf8ByteSize = s.length := by
    rw [← String.ofList_toList (s := s), utf8ByteSize_of_digits hDigits, String.length_ofList]
  have hFilledBytes := utf8ByteSize_of_digits hFilled
  rw [parse, if_neg (by omega)]
  simp only [hFilledBytes, length_filled hLength, firstBad?_eq_none hFilled]
  rfl

-- ---------------------------------------------------------------------------
-- The text of a digest
-- ---------------------------------------------------------------------------

/-- The pairs of what was written for bytes are the bytes. -/
theorem byteAt_bytes (bs : List UInt8) (i : Nat) : byteAt (Hex.bytes bs) i = bs[i]?.getD 0 := by
  rw [byteAt, digitAt, digitAt, Hex.getElem?_bytes_high, Hex.getElem?_bytes_low]
  cases bs[i]? with
  | none => rfl
  | some b =>
    have hb := b.toNat_lt
    simp only [Option.map_some, Option.bind_some, Option.getD_some,
      Hex.value?_digit (show b.toNat / 16 < 16 by omega),
      Hex.value?_digit (show b.toNat % 16 < 16 by omega)]
    rw [Nat.div_add_mod, UInt8.ofNat_toNat]

/-- The text of a digest reads back as the digest. -/
theorem parse_text (d : Digest) : parse d.text = .ok d := by
  have hFilled : filled d.text = d.chars := by
    rw [filled, text, String.toList_ofList, List.leftpad, length_chars, Nat.sub_self]
    rfl
  have hDigits : ∀ c ∈ d.text.toList, (Hex.value? c).isSome := by
    intro c hc
    rw [text, String.toList_ofList] at hc
    exact Hex.isSome_value?_of_mem_bytes hc
  rw [parse_eq_ok hDigits (Nat.le_of_eq (length_text d)), hFilled]
  -- written from the last byte to the first and read from the last pair to the first
  have hBytes : (Vector.ofFn fun i : Fin size => byteAt d.chars (size - 1 - i.val)) = d.bytes := by
    refine Vector.ext fun i hi => ?_
    have hLength : d.bytes.toList.length = size := Vector.length_toList
    have hPlace : size - 1 - (size - 1 - i) = i := by omega
    rw [Vector.getElem_ofFn, chars, byteAt_bytes, List.getElem?_reverse (by omega), hLength, hPlace,
      Vector.getElem?_toList, Vector.getElem?_eq_getElem hi, Option.getD_some]
  rw [hBytes]

/-- A text is written for one digest alone. -/
theorem text_inj {a b : Digest} : a.text = b.text ↔ a = b := by
  constructor
  · intro h
    have hparse := parse_text a
    rw [h, parse_text, Except.ok.injEq] at hparse
    exact hparse.symm
  · intro h
    rw [h]

end Digest

end ChainParams
