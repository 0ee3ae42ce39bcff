import ChainParams.Error
import ChainParams.Proofs.Digest.Value
import Mathlib.Data.Bool.AllAny

/-!
# ChainParams — why a text is no digest

A text that is refused can be at fault in several ways at once. Which of them is reported is told
here from the text as it is given, while the reader looks at the text as it is filled up.

It is filled up to 64 characters, but its bytes are counted. A character beyond ASCII takes more
than one byte, so that the filled text has 64 bytes and as many more as the text has bytes beyond
its characters (`utf8ByteSize_filled`). With one such character the count is wrong whatever
characters there are, and its parity decides which error it is. An ASCII text passes both counts,
and then the first character that is no digit is found. It is none of the zeros in front, so it is
the first such character of the text, moved by their number (`firstBad?_filled`).

## Results

* `utf8ByteSize_eq_length_iff` — bytes and characters are as many in ASCII texts alone.
* `firstBad?_filled`           — the bad character that the search finds, and its place.
* `refused_texts`              — which error is reported, for every text.
-/

namespace ChainParams

-- ---------------------------------------------------------------------------
-- Bytes and characters
-- ---------------------------------------------------------------------------

theorem length_le_utf8ByteSize_ofList (cs : List Char) :
    cs.length ≤ (String.ofList cs).utf8ByteSize := by
  induction cs with
  | nil => exact Nat.le_refl _
  | cons c cs ih =>
    have hpos := c.utf8Size_pos
    rw [utf8ByteSize_ofList_cons, List.length_cons]
    omega

/-- A text has as many bytes as characters exactly if it is ASCII. -/
theorem utf8ByteSize_ofList_eq_length_iff (cs : List Char) :
    (String.ofList cs).utf8ByteSize = cs.length ↔ ∀ c ∈ cs, c.toNat < 128 := by
  -- a character of more than one byte is a surplus that no other character makes up for
  induction cs with
  | nil => simp
  | cons c cs ih =>
    have hpos := c.utf8Size_pos
    have hle := length_le_utf8ByteSize_ofList cs
    have hone : c.utf8Size = 1 ↔ c.toNat < 128 := by
      rw [Char.utf8Size_eq_one_iff, UInt32.le_iff_toNat_le]
      exact Nat.lt_succ_iff.symm
    rw [List.forall_mem_cons, ← ih, ← hone, utf8ByteSize_ofList_cons, List.length_cons]
    omega

theorem length_le_utf8ByteSize (s : String) : s.length ≤ s.utf8ByteSize := by
  have hle := length_le_utf8ByteSize_ofList s.toList
  rw [String.ofList_toList, String.length_toList] at hle
  exact hle

/-- A text has as many bytes as characters exactly if it is ASCII. -/
theorem utf8ByteSize_eq_length_iff (s : String) :
    s.utf8ByteSize = s.length ↔ ∀ c ∈ s.toList, c.toNat < 128 := by
  rw [← utf8ByteSize_ofList_eq_length_iff, String.ofList_toList, String.length_toList]

namespace Digest

theorem utf8ByteSize_zeros (n : Nat) :
    (String.ofList (List.replicate n '0')).utf8ByteSize = n := by
  have hDigits : ∀ c ∈ List.replicate n '0', (Hex.value? c).isSome := by
    intro c hc
    rw [List.eq_of_mem_replicate hc]
    rfl
  rw [utf8ByteSize_of_digits hDigits, List.length_replicate]

/-- The zeros in front make up for characters, but not for the bytes that these have besides. -/
theorem utf8ByteSize_filled {s : String} (h : s.utf8ByteSize ≤ textSize) :
    (String.ofList (filled s)).utf8ByteSize = textSize + (s.utf8ByteSize - s.length) := by
  have hle := length_le_utf8ByteSize s
  rw [filled, List.leftpad, String.ofList_append, String.utf8ByteSize_append, utf8ByteSize_zeros,
    String.ofList_toList, String.length_toList]
  omega

-- ---------------------------------------------------------------------------
-- The first bad character
-- ---------------------------------------------------------------------------

/-- The search stops at a bad character behind digits. -/
theorem firstBad?_append {before after : List Char} {c : Char}
    (hbefore : ∀ b ∈ before, Hex.IsDigit b) (hc : ¬ Hex.IsDigit c) :
    firstBad? (before ++ c :: after) = some (c, before.length) := by
  have hnone := firstBad?_eq_none fun b hb => (Hex.isSome_value?_iff b).mpr (hbefore b hb)
  have hbad : (Hex.value? c).isNone = true := by
    rw [Option.isNone_iff_eq_none, ← Option.not_isSome_iff_eq_none, Hex.isSome_value?_iff]
    exact hc
  unfold firstBad? at *
  rw [List.zipIdx_append, List.find?_append, hnone, Option.none_or, List.zipIdx_cons, Nat.zero_add]
  exact List.find?_cons_of_pos hbad

/-- The zeros in front are passed over. -/
theorem firstBad?_filled {s : String} {before after : List Char} {c : Char}
    (hs : s.toList = before ++ c :: after) (hbefore : ∀ b ∈ before, Hex.IsDigit b)
    (hc : ¬ Hex.IsDigit c) :
    firstBad? (filled s) = some (c, textSize - s.length + before.length) := by
  have hzeros : ∀ b ∈ List.replicate (textSize - s.length) '0' ++ before, Hex.IsDigit b := by
    intro b hb
    rcases List.mem_append.mp hb with hb | hb
    · rw [List.eq_of_mem_replicate hb]
      decide
    · exact hbefore b hb
  rw [filled, List.leftpad, String.length_toList, hs, ← List.append_assoc,
    firstBad?_append hzeros hc, List.length_append, List.length_replicate]

/-- A text that is not all digits has a first character that is none. -/
theorem exists_firstBad {cs : List Char} (h : ¬ ∀ c ∈ cs, Hex.IsDigit c) :
    ∃ before c after, cs = before ++ c :: after ∧ (∀ b ∈ before, Hex.IsDigit b) ∧
      ¬ Hex.IsDigit c := by
  have hsome : cs.find? (fun c => ¬ Hex.IsDigit c) ≠ none := by
    simpa [List.find?_eq_none] using h
  obtain ⟨c, hc⟩ := Option.ne_none_iff_exists'.mp hsome
  obtain ⟨hbad, before, after, hcs, hbefore⟩ := List.find?_eq_some_iff_append.mp hc
  refine ⟨before, c, after, hcs, fun b hb => ?_, of_decide_eq_true hbad⟩
  simpa using hbefore b hb

-- ---------------------------------------------------------------------------
-- Texts that are refused
-- ---------------------------------------------------------------------------

/-- A text with characters beyond ASCII fails at the count of bytes. -/
theorem parse_of_foreign {s : String} (hshort : s.utf8ByteSize ≤ textSize)
    (h : ∃ c ∈ s.toList, 128 ≤ c.toNat) :
    parse s = .error (if (s.utf8ByteSize - s.length) % 2 = 1 then .oddDigits s
      else .wrongLength s) := by
  have hbytes := utf8ByteSize_filled hshort
  have hmore : s.utf8ByteSize ≠ s.length := by
    intro heq
    obtain ⟨c, hc, hforeign⟩ := h
    exact absurd ((utf8ByteSize_eq_length_iff s).mp heq c hc) (Nat.not_lt.mpr hforeign)
  have hle := length_le_utf8ByteSize s
  have heven : textSize % 2 = 0 := rfl
  rw [parse, if_neg (Nat.not_lt.mpr hshort)]
  simp only [hbytes]
  -- the parity of the surplus is that of all bytes, 64 being even
  split
  next hodd => rw [if_pos (by omega)]
  next hnotodd => rw [if_pos (by omega), if_neg (by omega)]

/-- An ASCII text passes both counts. -/
theorem parse_of_ascii {s : String} {c : Char} {place : Nat} (hshort : s.utf8ByteSize ≤ textSize)
    (h : ∀ c ∈ s.toList, c.toNat < 128) (hbad : firstBad? (filled s) = some (c, place)) :
    parse s = .error (.badDigit s c place) := by
  have hsame := (utf8ByteSize_eq_length_iff s).mpr h
  have hbytes : (String.ofList (filled s)).utf8ByteSize = textSize := by
    rw [utf8ByteSize_filled hshort, hsame, Nat.sub_self, Nat.add_zero]
  rw [parse, if_neg (Nat.not_lt.mpr hshort)]
  simp only [hbytes, hbad]
  rfl

/-- What is wrong with a literal is what is wrong with its text, as an error of the library. -/
theorem ofLiteral_eq_error_iff (s : String) (e : Error) :
    ofLiteral s = .error e ↔ ∃ cause, parse s = .error cause ∧ .invalidDigest cause = e :=
  mapError_eq_error_iff

/-- A refused text is refused as an invalid digest. -/
theorem ofLiteral_of_error {s : String} {cause : DigestError} (h : parse s = .error cause) :
    ofLiteral s = .error (.invalidDigest cause) :=
  (ofLiteral_eq_error_iff s _).mpr ⟨cause, h, rfl⟩

/--
**Why a text is refused.** A text of more than 64 bytes is refused for its length, which is named
in bytes. Otherwise a text with a character beyond ASCII is refused for an odd number of digits if
it has an odd number of bytes more than characters, and for its length if that number is even,
whatever its characters are. Otherwise, if it is refused, it is for its first character that is no
digit, which is named with its place: the number of zeros in front and of the digits before it.
-/
theorem refused_texts (s : String) :
    (64 < s.utf8ByteSize →
      ofLiteral s = .error (.invalidDigest (.tooLong s.utf8ByteSize))) ∧
    (s.utf8ByteSize ≤ 64 → (∃ c ∈ s.toList, 128 ≤ c.toNat) →
      ((s.utf8ByteSize - s.length) % 2 = 1 →
        ofLiteral s = .error (.invalidDigest (.oddDigits s))) ∧
      ((s.utf8ByteSize - s.length) % 2 = 0 →
        ofLiteral s = .error (.invalidDigest (.wrongLength s)))) ∧
    (s.utf8ByteSize ≤ 64 → (∀ c ∈ s.toList, c.toNat < 128) → ∀ e, ofLiteral s = .error e ↔
      ∃ before c after, s.toList = before ++ c :: after ∧
        (∀ b ∈ before, Hex.IsDigit b) ∧ ¬ Hex.IsDigit c ∧
        e = .invalidDigest (.badDigit s c (64 - s.length + before.length))) := by
  refine ⟨fun hlong => ofLiteral_of_error (if_pos hlong), fun hshort hforeign => ?_,
    fun hshort hascii e => ?_⟩
  · rw [ofLiteral_of_error (parse_of_foreign hshort hforeign)]
    exact ⟨fun hodd => by rw [if_pos hodd], fun heven => by rw [if_neg (by omega)]⟩
  constructor
  · intro h
    obtain ⟨cause, he, rfl⟩ := (ofLiteral_eq_error_iff s e).mp h
    -- digits alone would make a digest
    have hbad : ¬ ∀ c ∈ s.toList, Hex.IsDigit c := by
      intro hDigits
      rw [parse_of_grammar (Nat.le_trans (length_le_utf8ByteSize s) hshort) hDigits] at he
      cases he
    obtain ⟨before, c, after, hs, hbefore, hc⟩ := exists_firstBad hbad
    rw [parse_of_ascii hshort hascii (firstBad?_filled hs hbefore hc), Except.error.injEq] at he
    exact ⟨before, c, after, hs, hbefore, hc, congrArg Error.invalidDigest he.symm⟩
  · rintro ⟨before, c, after, hs, hbefore, hc, rfl⟩
    exact ofLiteral_of_error (parse_of_ascii hshort hascii (firstBad?_filled hs hbefore hc))

/-- Of two bad characters the first is named, behind 61 zeros and a digit. A bad character of two
bytes makes an odd number of bytes, one of three an even one, whatever stands beside it. -/
theorem refusals_of_short_texts :
    ofLiteral "1g!" = .error (.invalidDigest (.badDigit "1g!" 'g' 62)) ∧
    ofLiteral "é!" = .error (.invalidDigest (.oddDigits "é!")) ∧
    ofLiteral "€!" = .error (.invalidDigest (.wrongLength "€!")) ∧
    ofLiteral (String.ofList (List.replicate 65 '0')) =
      .error (.invalidDigest (.tooLong 65)) := by
  have hdigits : ∀ b ∈ ['1'], Hex.IsDigit b := List.all_iff_forall_prop.mp (by decide)
  refine ⟨?_, ?_, ?_, (refused_texts _).1 (by decide)⟩
  · exact ((refused_texts "1g!").2.2 (by decide) (List.all_iff_forall_prop.mp (by decide)) _).mpr
      ⟨['1'], 'g', ['!'], by decide, hdigits, by decide, rfl⟩
  · exact ((refused_texts "é!").2.1 (by decide) ⟨'é', by decide, by decide⟩).1 (by decide)
  · exact ((refused_texts "€!").2.1 (by decide) ⟨'€', by decide, by decide⟩).2 (by decide)

end Digest

end ChainParams
