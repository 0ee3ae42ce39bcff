import ChainParams.Json.StringLiteral
import ChainParams.Proofs.Digest.Value
import ChainParams.Proofs.Json.Escape

/-!
# ChainParams — the grammar of strings

A character has many spellings in a string: itself, a backslash and a letter, a backslash and
four hexadecimal digits of either case, or two such escapes for the halves of a pair. This
module states them apart from the reader, and shows that the reader accepts these spellings and
no others.

A string that is only passed over may also have halves of a pair that stand alone. They are
units of a string that stand for no character, so `IsLiteral` asks less than `SpellsText`.

## Results

* `readString_eq_ok_iff` — what is read are the spellings of a text, up to the first quote
  that is not escaped.
* `skipString_eq_ok_iff` — what is passed over are the string literals.
* `SpellsText.isLiteral` — a spelling is a literal.
* `readString_write`     — a written string is one of the spellings of its text.
-/

namespace ChainParams.Json

-- ---------------------------------------------------------------------------
-- The grammar
-- ---------------------------------------------------------------------------

/-- Four hexadecimal digits, of either case, and the number that they denote. -/
structure IsQuad (q : List Char) (n : Nat) : Prop where
  length : q.length = 4
  digits : ∀ d ∈ q, Hex.IsDigit d
  number : Hex.number q = n

/-- The escapes of one letter, each beside the character that it stands for. -/
def letterEscapes : List (Char × Char) :=
  [('"', '"'), ('\\', '\\'), ('/', '/'), ('b', '\x08'), ('f', '\x0c'), ('n', '\n'), ('r', '\r'),
    ('t', '\t')]

/-- Whether a character may stand for itself in a string. -/
def IsPlain (c : Char) : Prop :=
  c ≠ '"' ∧ c ≠ '\\' ∧ 0x20 ≤ c.toNat

/-- The spellings of a character inside a string. -/
inductive Spells : List Char → Char → Prop
  /-- The character itself. -/
  | plain {c : Char} (h : IsPlain c) : Spells [c] c
  /-- A backslash and a letter. -/
  | letter {l c : Char} (h : (l, c) ∈ letterEscapes) : Spells ['\\', l] c
  /-- The number of the character. -/
  | unit {q : List Char} {c : Char} (h : IsQuad q c.toNat) : Spells ('\\' :: 'u' :: q) c
  /-- The two halves of a character beyond U+FFFF. -/
  | pair {p q : List Char} {high low : Nat} {c : Char} (hp : IsQuad p high) (hq : IsQuad q low)
    (hhigh : 0xD800 ≤ high ∧ high ≤ 0xDBFF) (hlow : 0xDC00 ≤ low ∧ low ≤ 0xDFFF)
    (hc : c.toNat = 0x10000 + (high - 0xD800) * 0x400 + (low - 0xDC00)) :
    Spells ('\\' :: 'u' :: (p ++ '\\' :: 'u' :: q)) c

/-- The spellings of a text: its characters one after the other, each in any spelling. -/
inductive SpellsText : List Char → List Char → Prop
  | nil : SpellsText [] []
  | cons {u t cs : List Char} {c : Char} (h : Spells u c) (ht : SpellsText t cs) :
    SpellsText (u ++ t) (c :: cs)

/-- The units of a string, whether or not they stand for a character. -/
inductive IsUnit : List Char → Prop
  | plain {c : Char} (h : IsPlain c) : IsUnit [c]
  | letter {l c : Char} (h : (l, c) ∈ letterEscapes) : IsUnit ['\\', l]
  | quad {q : List Char} {n : Nat} (h : IsQuad q n) : IsUnit ('\\' :: 'u' :: q)

/-- The string literals without their quotes. -/
inductive IsLiteral : List Char → Prop
  | nil : IsLiteral []
  | cons {u t : List Char} (h : IsUnit u) (ht : IsLiteral t) : IsLiteral (u ++ t)

/-- A string literal with its quotes, and the text that it stands for. -/
def SpellsString (t : List Char) (s : String) : Prop :=
  ∃ u, SpellsText u s.toList ∧ t = '"' :: (u ++ ['"'])

/-- A spelling of a text is a literal. -/
theorem SpellsText.isLiteral {t cs : List Char} (h : SpellsText t cs) : IsLiteral t := by
  induction h with
  | nil => exact .nil
  | @cons u t cs c hu _ ih =>
    cases hu with
    | plain h => exact .cons (.plain h) ih
    | letter h => exact .cons (.letter h) ih
    | unit h => exact .cons (.quad h) ih
    | @pair p q _ _ _ hp hq =>
      have hsplit : '\\' :: 'u' :: (p ++ '\\' :: 'u' :: q) ++ t =
          ('\\' :: 'u' :: p) ++ (('\\' :: 'u' :: q) ++ t) := by simp
      rw [hsplit]
      exact .cons (.quad hp) (.cons (.quad hq) ih)

/-- Only a plain character is spelled without a backslash. -/
theorem Spells.plain_or_escape {u : List Char} {c : Char} (h : Spells u c) :
    (u = [c] ∧ IsPlain c) ∨ ∃ v, u = '\\' :: v := by
  cases h with
  | plain h => exact Or.inl ⟨rfl, h⟩
  | letter _ => exact Or.inr ⟨_, rfl⟩
  | unit _ => exact Or.inr ⟨_, rfl⟩
  | pair _ _ _ _ _ => exact Or.inr ⟨_, rfl⟩

-- ---------------------------------------------------------------------------
-- Four digits
-- ---------------------------------------------------------------------------

/-- A hexadecimal digit is read as its place among the sixteen. -/
theorem value?_eq_some_iff {c : Char} {n : Nat} :
    Hex.value? c = some n ↔ Hex.IsDigit c ∧ Hex.digitValue c = n := by
  constructor
  · intro h
    have hdigit : Hex.IsDigit c := (Hex.isSome_value?_iff c).mp (by rw [h]; rfl)
    rw [(Hex.value?_of_isDigit hdigit).1, Option.some.injEq] at h
    exact ⟨hdigit, h⟩
  · rintro ⟨hdigit, rfl⟩
    exact (Hex.value?_of_isDigit hdigit).1

theorem number_quad (a b c d : Char) :
    Hex.number [a, b, c, d] =
      ((Hex.digitValue a * 16 + Hex.digitValue b) * 16 + Hex.digitValue c) * 16 +
        Hex.digitValue d := by
  have hnil : Hex.number [] = 0 := rfl
  simp only [Hex.number_cons, hnil, List.length_cons, List.length_nil]
  omega

theorem IsQuad.exists_eq {q : List Char} {n : Nat} (h : IsQuad q n) :
    ∃ a b c d, q = [a, b, c, d] ∧ Hex.IsDigit a ∧ Hex.IsDigit b ∧ Hex.IsDigit c ∧
      Hex.IsDigit d := by
  obtain ⟨a, b, c, d, rfl⟩ := List.length_eq_four.mp h.length
  exact ⟨a, b, c, d, rfl, h.digits a (by simp), h.digits b (by simp), h.digits c (by simp),
    h.digits d (by simp)⟩

/-- Four digits make a number of two bytes. -/
theorem IsQuad.lt {q : List Char} {n : Nat} (h : IsQuad q n) : n < 0x10000 := by
  obtain ⟨a, b, c, d, rfl, ha, hb, hc, hd⟩ := h.exists_eq
  have hva := (Hex.value?_of_isDigit ha).2
  have hvb := (Hex.value?_of_isDigit hb).2
  have hvc := (Hex.value?_of_isDigit hc).2
  have hvd := (Hex.value?_of_isDigit hd).2
  rw [← h.number, number_quad]
  omega

/-- Four characters are read if all are digits, and as the number that they denote. -/
theorem readQuad_eq_ok_iff {s r : List Char} {n : Nat} :
    readQuad s = .ok (n, r) ↔ ∃ q, IsQuad q n ∧ s = q ++ r := by
  constructor
  · intro h
    unfold readQuad at h
    split at h
    · next a b c d t =>
      split at h
      · next ha hb hc hd =>
        cases h
        rw [value?_eq_some_iff] at ha hb hc hd
        refine ⟨[a, b, c, d], ⟨rfl, ?_, ?_⟩, rfl⟩
        · simp [ha.1, hb.1, hc.1, hd.1]
        · rw [number_quad, ha.2, hb.2, hc.2, hd.2]
      · cases h
    · split at h <;> cases h
  · rintro ⟨q, hq, rfl⟩
    obtain ⟨a, b, c, d, rfl, ha, hb, hc, hd⟩ := hq.exists_eq
    rw [List.cons_append, List.cons_append, List.cons_append, List.cons_append, List.nil_append,
      readQuad, (Hex.value?_of_isDigit ha).1, (Hex.value?_of_isDigit hb).1,
      (Hex.value?_of_isDigit hc).1, (Hex.value?_of_isDigit hd).1, ← hq.number, number_quad]

-- ---------------------------------------------------------------------------
-- Escapes
-- ---------------------------------------------------------------------------

/-- The letters that are read behind a backslash are those of the table. -/
theorem letterEscape?_eq_some_iff {l c : Char} :
    letterEscape? l = some c ↔ (l, c) ∈ letterEscapes := by
  constructor
  · intro h
    unfold letterEscape? at h
    split_ifs at h with hself <;> cases h
    · rcases hself with rfl | rfl | rfl <;> simp [letterEscapes]
    all_goals
      subst_vars
      simp [letterEscapes]
  · intro h
    simp only [letterEscapes, List.mem_cons, Prod.mk.injEq, List.not_mem_nil, or_false] at h
    rcases h with h | h | h | h | h | h | h | h <;> obtain ⟨rfl, rfl⟩ := h <;> rfl

theorem isLowHalf_eq_true_iff {n : Nat} : isLowHalf n = true ↔ 0xDC00 ≤ n ∧ n ≤ 0xDFFF := by
  rw [isLowHalf, Bool.and_eq_true, decide_eq_true_iff, decide_eq_true_iff]

theorem isHighHalf_eq_true_iff {n : Nat} : isHighHalf n = true ↔ 0xD800 ≤ n ∧ n ≤ 0xDBFF := by
  rw [isHighHalf, Bool.and_eq_true, decide_eq_true_iff, decide_eq_true_iff]

/-- Four digits that are no half of a pair denote a character. -/
theorem IsQuad.toNat_ofNat {q : List Char} {n : Nat} (h : IsQuad q n)
    (hhigh : ¬ (0xD800 ≤ n ∧ n ≤ 0xDBFF)) (hlow : ¬ (0xDC00 ≤ n ∧ n ≤ 0xDFFF)) :
    (Char.ofNat n).toNat = n := by
  have hlt := h.lt
  have hvalid : n.isValidChar := by
    unfold Nat.isValidChar
    omega
  rw [Char.ofNat, dif_pos hvalid]
  rfl

/-- The character of two halves has the number that they denote together. -/
theorem toNat_joinHalves {high low : Nat} (hhigh : 0xD800 ≤ high ∧ high ≤ 0xDBFF)
    (hlow : 0xDC00 ≤ low ∧ low ≤ 0xDFFF) :
    (joinHalves high low).toNat = 0x10000 + (high - 0xD800) * 0x400 + (low - 0xDC00) := by
  have hvalid : ((high - 0xD800) * 0x400 + (low - 0xDC00) + 0x10000).isValidChar :=
    Or.inr (by omega)
  rw [joinHalves, Char.ofNat, dif_pos hvalid]
  show (high - 0xD800) * 0x400 + (low - 0xDC00) + 0x10000 = _
  omega

theorem expectWord_append (word s : List Char) : expectWord word (word ++ s) = .ok s := by
  induction word with
  | nil => rfl
  | cons w word ih => rw [List.cons_append, expectWord, if_pos rfl, ih]

theorem eq_append_of_expectWord {word s r : List Char} (h : expectWord word s = .ok r) :
    s = word ++ r := by
  induction word generalizing s with
  | nil =>
    cases h
    rfl
  | cons w word ih =>
    cases s with
    | nil => cases h
    | cons c s =>
      rw [expectWord] at h
      split at h
      · next hc => rw [hc, ih h, List.cons_append]
      · cases h

/-- What is read behind a backslash is the rest of a spelling. -/
theorem exists_spells_of_readEscape {s t : List Char} {c : Char} (h : readEscape s = .ok (c, t)) :
    ∃ u, Spells ('\\' :: u) c ∧ s = u ++ t := by
  unfold readEscape at h
  split at h
  · cases h
  · next l s =>
    split at h
    · next d hd =>
      cases h
      exact ⟨[l], .letter (letterEscape?_eq_some_iff.mp hd), rfl⟩
    · split at h
      · next hu =>
        subst hu
        split at h
        · cases h
        · next n r hq =>
          obtain ⟨q, hquad, rfl⟩ := readQuad_eq_ok_iff.mp hq
          split at h
          · cases h
          · -- a low half is refused in this place, so it is a high half or a character of its own
            next hnotLow =>
            rw [isLowHalf_eq_true_iff] at hnotLow
            split at h
            · next hhigh =>
              rw [isHighHalf_eq_true_iff] at hhigh
              unfold readLowHalf at h
              split at h
              · cases h
              · next s' hword =>
                -- behind a high half the other one has to follow as an escape
                have hsplit := eq_append_of_expectWord hword
                split at h
                · cases h
                · next low r' hq' =>
                  obtain ⟨q', hquad', rfl⟩ := readQuad_eq_ok_iff.mp hq'
                  split at h
                  · next hlow =>
                    rw [isLowHalf_eq_true_iff] at hlow
                    simp only [Except.ok.injEq, Prod.mk.injEq] at h
                    obtain ⟨rfl, rfl⟩ := h
                    refine ⟨'u' :: (q ++ '\\' :: 'u' :: q'),
                      .pair hquad hquad' hhigh hlow (toNat_joinHalves hhigh hlow), ?_⟩
                    rw [hsplit]
                    simp
                  · cases h
            · next hnotHigh =>
              rw [isHighHalf_eq_true_iff] at hnotHigh
              cases h
              have hlt := hquad.lt
              exact ⟨'u' :: q, .unit (by rw [hquad.toNat_ofNat hnotHigh hnotLow]; exact hquad), rfl⟩
      · cases h

/-- No character is numbered as a half of a pair. -/
theorem toNat_not_half (c : Char) :
    ¬ (0xD800 ≤ c.toNat ∧ c.toNat ≤ 0xDBFF) ∧ ¬ (0xDC00 ≤ c.toNat ∧ c.toNat ≤ 0xDFFF) := by
  have hvalid : c.toNat.isValidChar := c.valid
  unfold Nat.isValidChar at hvalid
  omega

/-- Each spelling that starts with a backslash is read as its character. -/
theorem readEscape_of_spells {u : List Char} {c : Char} (h : Spells ('\\' :: u) c)
    (s : List Char) : readEscape (u ++ s) = .ok (c, s) := by
  cases h with
  | plain h => exact absurd rfl h.2.1
  | letter h => exact readEscape_letter (letterEscape?_eq_some_iff.mpr h) s
  | @unit q _ h =>
    -- the number of a character is taken for no half of a pair
    obtain ⟨hhigh, hlow⟩ := toNat_not_half c
    rw [← isHighHalf_eq_true_iff, Bool.not_eq_true] at hhigh
    rw [← isLowHalf_eq_true_iff, Bool.not_eq_true] at hlow
    have hread := readEscape_quad (readQuad_eq_ok_iff.mpr ⟨q, h, rfl⟩) hlow hhigh (t := s)
    rw [Char.ofNat_toNat] at hread
    exact hread
  | @pair p q high low _ hp hq hhigh hlow hc =>
    have hjoin : joinHalves high low = c := by
      rw [← Char.toNat_inj, toNat_joinHalves hhigh hlow, hc]
    have hnotLow : isLowHalf high = false := by
      rw [← Bool.not_eq_true, isLowHalf_eq_true_iff]
      omega
    have hfirst : readQuad (p ++ ('\\' :: 'u' :: (q ++ s))) =
        .ok (high, '\\' :: 'u' :: (q ++ s)) := readQuad_eq_ok_iff.mpr ⟨p, hp, rfl⟩
    have hsecond : readQuad (q ++ s) = .ok (low, s) := readQuad_eq_ok_iff.mpr ⟨q, hq, rfl⟩
    have hword : expectWord ['\\', 'u'] ('\\' :: 'u' :: (q ++ s)) = .ok (q ++ s) := rfl
    have hu : letterEscape? 'u' = none := by decide
    have hassoc : 'u' :: (p ++ '\\' :: 'u' :: q) ++ s =
        'u' :: (p ++ ('\\' :: 'u' :: (q ++ s))) := by simp
    rw [hassoc, readEscape, hu]
    simp only [if_true, hfirst, hnotLow, Bool.false_eq_true, if_false,
      isHighHalf_eq_true_iff.mpr hhigh, readLowHalf, hword, hsecond,
      isLowHalf_eq_true_iff.mpr hlow, hjoin]

/-- What is passed over behind a backslash is the rest of a unit. -/
theorem exists_isUnit_of_skipEscape {s r : List Char} (h : skipEscape s = .ok r) :
    ∃ u, IsUnit ('\\' :: u) ∧ s = u ++ r := by
  unfold skipEscape at h
  split at h
  · cases h
  · next l s =>
    split at h
    · next hsome =>
      cases h
      obtain ⟨c, hc⟩ := Option.isSome_iff_exists.mp hsome
      exact ⟨[l], .letter (letterEscape?_eq_some_iff.mp hc), rfl⟩
    · split at h
      · next hu =>
        subst hu
        obtain ⟨⟨n, t⟩, hq, rfl⟩ := map_eq_ok_iff.mp h
        obtain ⟨q, hquad, rfl⟩ := readQuad_eq_ok_iff.mp hq
        exact ⟨'u' :: q, .quad hquad, rfl⟩
      · cases h

/-- A unit that starts with a backslash is passed over. -/
theorem skipEscape_of_isUnit {u : List Char} (h : IsUnit ('\\' :: u)) (s : List Char) :
    skipEscape (u ++ s) = .ok s := by
  cases h with
  | plain h => exact absurd rfl h.2.1
  | @letter l c h =>
    rw [List.singleton_append, skipEscape, letterEscape?_eq_some_iff.mpr h]
    rfl
  | @quad q n h =>
    have hu : (letterEscape? 'u').isSome = false := by decide
    have hread : readQuad (q ++ s) = .ok (n, s) := readQuad_eq_ok_iff.mpr ⟨q, h, rfl⟩
    rw [List.cons_append, skipEscape, hu, if_neg Bool.false_ne_true, if_pos rfl, hread]
    rfl

-- ---------------------------------------------------------------------------
-- Strings
-- ---------------------------------------------------------------------------

theorem isControl_eq_false_iff {c : Char} : isControl c = false ↔ 0x20 ≤ c.toNat := by
  rw [isControl, decide_eq_false_iff_not, Nat.not_lt]

/-- One spelling in front of a string puts its character in front of the text. -/
theorem readString_of_spells {u s r cs : List Char} {c : Char} (h : Spells u c)
    (hs : readString s = .ok (cs, r)) : readString (u ++ s) = .ok (c :: cs, r) := by
  rcases h.plain_or_escape with ⟨rfl, hc⟩ | ⟨v, rfl⟩
  · rw [List.singleton_append,
      readString_plain hc.1 hc.2.1 (isControl_eq_false_iff.mpr hc.2.2), hs]
    rfl
  · have hread := readEscape_of_spells h s
    rw [List.cons_append, readString_escape hread, hs]
    rfl

/-- What is read are the spellings of a text, up to the first quote that is not escaped. -/
theorem readString_eq_ok_iff {s r cs : List Char} :
    readString s = .ok (cs, r) ↔ ∃ t, SpellsText t cs ∧ s = t ++ '"' :: r := by
  constructor
  · intro h
    -- along the reader: a quote, an escape or a plain character comes first
    fun_induction readString s generalizing cs with
    | case1 => cases h
    | case2 =>
      cases h
      exact ⟨[], .nil, rfl⟩
    | case3 => cases h
    | case4 s c t hescape _ _ ih =>
      obtain ⟨⟨ds, v⟩, hread, he⟩ := map_eq_ok_iff.mp h
      cases he
      obtain ⟨u, hu, rfl⟩ := exists_spells_of_readEscape hescape
      obtain ⟨w, hw, rfl⟩ := ih hread
      exact ⟨'\\' :: u ++ w, .cons hu hw, by simp⟩
    | case5 => cases h
    | case6 c s hq hb hc ih =>
      obtain ⟨⟨ds, v⟩, hread, he⟩ := map_eq_ok_iff.mp h
      cases he
      obtain ⟨w, hw, rfl⟩ := ih hread
      rw [Bool.not_eq_true, isControl_eq_false_iff] at hc
      exact ⟨[c] ++ w, .cons (.plain ⟨hq, hb, hc⟩) hw, rfl⟩
  · rintro ⟨t, ht, rfl⟩
    induction ht with
    | nil => exact readString_quote r
    | cons h _ ih =>
      rw [List.append_assoc]
      exact readString_of_spells h ih

theorem skipString_escape {s t : List Char} (h : skipEscape s = .ok t) :
    skipString ('\\' :: s) = skipString t := by
  rw [skipString]
  simp only [Char.reduceEq, if_false, if_true]
  split
  · next f hf =>
    rw [h] at hf
    cases hf
  · next t' ht =>
    rw [h] at ht
    cases ht
    rfl

/-- Each unit is passed over as a whole. -/
theorem skipString_of_isUnit {u : List Char} (h : IsUnit u) (s : List Char) :
    skipString (u ++ s) = skipString s := by
  cases h with
  | @plain c h =>
    rw [List.singleton_append, skipString]
    simp [h.1, h.2.1, isControl_eq_false_iff.mpr h.2.2]
  | letter h => exact skipString_escape (skipEscape_of_isUnit (.letter h) s)
  | quad h => exact skipString_escape (skipEscape_of_isUnit (.quad h) s)

/-- What is passed over are the string literals. -/
theorem skipString_eq_ok_iff {s r : List Char} :
    skipString s = .ok r ↔ ∃ t, IsLiteral t ∧ s = t ++ '"' :: r := by
  constructor
  · intro h
    -- along the machine, as for reading, but four digits are enough for a unit
    fun_induction skipString s with
    | case1 => cases h
    | case2 =>
      cases h
      exact ⟨[], .nil, rfl⟩
    | case3 => cases h
    | case4 s t hescape _ _ ih =>
      obtain ⟨u, hu, rfl⟩ := exists_isUnit_of_skipEscape hescape
      obtain ⟨w, hw, rfl⟩ := ih h
      exact ⟨'\\' :: u ++ w, .cons hu hw, by simp⟩
    | case5 => cases h
    | case6 c s hq hb hc ih =>
      obtain ⟨w, hw, rfl⟩ := ih h
      rw [Bool.not_eq_true, isControl_eq_false_iff] at hc
      exact ⟨[c] ++ w, .cons (.plain ⟨hq, hb, hc⟩) hw, rfl⟩
  · rintro ⟨t, ht, rfl⟩
    induction ht with
    | nil =>
      rw [List.nil_append, skipString]
      rfl
    | cons h _ ih => rw [List.append_assoc, skipString_of_isUnit h, ih]

-- ---------------------------------------------------------------------------
-- Written strings
-- ---------------------------------------------------------------------------

/-- A character is written in one of its spellings. -/
theorem spells_escaped (c : Char) : Spells (escaped c) c := by
  rcases escaped_cases c with ⟨letter, heq, hletter⟩ | ⟨hctl, heq⟩ | ⟨heq, hq, hb, hctl⟩
  · rw [heq]
    exact .letter (letterEscape?_eq_some_iff.mp hletter)
  · rw [heq]
    obtain ⟨q, hquad, hsplit⟩ := readQuad_eq_ok_iff.mp (readQuad_control hctl [])
    rw [List.append_nil] at hsplit
    rw [hsplit]
    exact .unit hquad
  · rw [heq]
    exact .plain ⟨hq, hb, by simpa [isControl] using hctl⟩

/-- A text is written in one of its spellings. -/
theorem spellsText_escaped (cs : List Char) : SpellsText (cs.flatMap escaped) cs := by
  induction cs with
  | nil => exact .nil
  | cons c cs ih => exact .cons (spells_escaped c) ih

theorem spellsString_stringChars (s : String) : SpellsString (stringChars s) s :=
  ⟨_, spellsText_escaped s.toList, rfl⟩

/-- The characters of a written string come back, with the text behind its closing quote. -/
theorem readString_write (cs rest : List Char) :
    readString (cs.flatMap escaped ++ '"' :: rest) = .ok (cs, rest) :=
  readString_eq_ok_iff.mpr ⟨_, spellsText_escaped cs, rfl⟩

end ChainParams.Json
