import ChainParams.Proofs.Json.SkippedValues

/-!
# ChainParams — readers that look no further than their value

A reader finds its value behind blanks, takes the text of the value, and looks at what follows
only to see that a number has ended. `Reader.Regular` says so of a reader. It goes both ways:
whatever a reader accepts has a text in it that the reader takes to the same value anywhere
else. So nothing that stands behind a value, and nothing that is missing there, can change it.

The readers of scalars also stop exactly where passing over the value would stop
(`Reader.Skippable`). Hence a value, by the grammar, is either read as a whole or refused
whatever follows: no part of it can be read in its place.

## Results

* `Reader.Regular` — a reader that takes a text to a value wherever it stands.
* `Reader.regular_text`, `Reader.regular_flag`, `Reader.regular_natural`,
  `Reader.Regular.filterMap` — the readers that are.
* `Reader.reads_numeral`, `Reader.rejects_numeral` — the numbers that are read.
* `Reader.Regular.reads_or_rejects` — a value is read as a whole or refused.
-/

namespace ChainParams.Json

variable {α β : Type}

/-- Whether a text starts with a character of its own, as the text of a value does. -/
def StartsValue (v : List Char) : Prop :=
  ∃ c cs, v = c :: cs ∧ isBlank c = false ∧ c ≠ ']'

namespace Reader

-- ---------------------------------------------------------------------------
-- Regular readers
-- ---------------------------------------------------------------------------

/-- A reader that ignores blanks in front of its value, and takes the text of the value to the
same value wherever it stands. -/
structure Regular (reader : Reader α) : Prop where
  blanks : ∀ {w : List Char} (s : List Char), Blanks w → reader.run (w ++ s) = reader.run s
  takes : ∀ {s r : List Char} {a : α}, reader.run s = .ok (a, r) →
    ∃ w v, Blanks w ∧ StartsValue v ∧ s = w ++ (v ++ r) ∧ reader.Reads v a

/-- A reader that gives no value for a text, whatever follows it. -/
def Rejects (reader : Reader α) (text : List Char) : Prop :=
  ∀ rest, EndsNumber rest → ∃ f, reader.run (text ++ rest) = .error f

variable {reader : Reader α}

/-- Blanks in front of a text are ignored with it. -/
theorem Regular.run_append (h : reader.Regular) {w v rest : List Char} {a : α} (hw : Blanks w)
    (hv : reader.Reads v a) (hrest : EndsNumber rest) :
    reader.run (w ++ (v ++ rest)) = .ok (a, rest) := by
  rw [h.blanks _ hw, hv rest hrest]

/-- A whole text is decoded if a value is read and nothing but blanks follows. -/
theorem decodeChars_eq_ok_iff {s : List Char} {a : α} :
    reader.decodeChars s = .ok a ↔ ∃ r, reader.run s = .ok (a, r) ∧ Blanks r := by
  constructor
  · intro h
    unfold decodeChars at h
    split at h
    · cases h
    · next b r hrun =>
      split at h
      · next hr =>
        cases h
        exact ⟨r, hrun, skipBlank_eq_nil_iff.mp hr⟩
      · cases h
  · rintro ⟨r, hrun, hr⟩
    rw [decodeChars, hrun]
    exact if_pos (skipBlank_eq_nil_iff.mpr hr)

-- ---------------------------------------------------------------------------
-- Texts
-- ---------------------------------------------------------------------------

/-- From its opening quote on, a spelling is read as the text it spells. -/
theorem readText_append {t cs : List Char} (h : SpellsText t cs) (rest : List Char) :
    readText ('"' :: (t ++ '"' :: rest)) = .ok (cs, rest) := by
  rw [readText, skipBlank_cons (by decide)]
  exact (if_pos rfl).trans (readString_eq_ok_iff.mpr ⟨t, h, rfl⟩)

/-- A text is read from one of its spellings, behind blanks. -/
theorem readText_eq_ok {s r cs : List Char} (h : readText s = .ok (cs, r)) :
    ∃ w t, Blanks w ∧ SpellsText t cs ∧ s = w ++ '"' :: (t ++ '"' :: r) := by
  unfold readText at h
  split at h
  · cases h
  · next c s hs =>
    obtain ⟨w, hw, -, rfl⟩ := exists_blanks_of_skipBlank hs
    split at h
    · next hc =>
      obtain ⟨t, ht, rfl⟩ := readString_eq_ok_iff.mp h
      exact ⟨w, t, hw, ht, by rw [hc]⟩
    · cases h

/-- Every spelling of a text is read as the text. -/
theorem reads_spelling {t : List Char} {s : String} (h : SpellsString t s) : text.Reads t s := by
  obtain ⟨u, hu, rfl⟩ := h
  intro rest _
  show (readText ('"' :: (u ++ ['"']) ++ rest)).map _ = _
  rw [List.cons_append, List.append_assoc, List.singleton_append, readText_append hu]
  show Except.ok (String.ofList s.toList, rest) = _
  rw [String.ofList_toList]

/-- Strings are read from any of their spellings, wherever these stand. -/
theorem regular_text : text.Regular where
  blanks {w} s hw := by
    show (readText (w ++ s)).map _ = (readText s).map _
    rw [readText, skipBlank_append hw, ← readText]
  takes h := by
    obtain ⟨⟨cs, r⟩, hread, heq⟩ := map_eq_ok_iff.mp h
    cases heq
    obtain ⟨w, t, hw, ht, rfl⟩ := readText_eq_ok hread
    refine ⟨w, '"' :: (t ++ ['"']), hw, ⟨'"', _, rfl, by decide, by decide⟩, by simp, ?_⟩
    -- the spelling that was found is read the same in front of any other text
    exact reads_spelling ⟨t, by rw [String.toList_ofList]; exact ht, rfl⟩

-- ---------------------------------------------------------------------------
-- Truth values
-- ---------------------------------------------------------------------------

theorem readFlag_eq_ok {s r : List Char} {b : Bool} (h : readFlag s = .ok (b, r)) :
    ∃ w, Blanks w ∧ s = w ++ ((Document.flag b).chars ++ r) := by
  unfold readFlag at h
  split at h
  · cases h
  · next c s hs =>
    obtain ⟨w, hw, -, rfl⟩ := exists_blanks_of_skipBlank hs
    split at h
    · next hc =>
      obtain ⟨t, ht, heq⟩ := map_eq_ok_iff.mp h
      cases heq
      obtain rfl := eq_append_of_expectWord ht
      exact ⟨w, hw, by rw [hc, Document.chars]; rfl⟩
    · split at h
      · next hc =>
        obtain ⟨t, ht, heq⟩ := map_eq_ok_iff.mp h
        cases heq
        obtain rfl := eq_append_of_expectWord ht
        exact ⟨w, hw, by rw [hc, Document.chars]; rfl⟩
      · cases h

theorem regular_flag : flag.Regular where
  blanks {w} s hw := by
    show readFlag (w ++ s) = readFlag s
    rw [readFlag, skipBlank_append hw, ← readFlag]
  takes {s r b} h := by
    obtain ⟨w, hw, rfl⟩ := readFlag_eq_ok h
    obtain ⟨c, cs, heq, hblank, hclose⟩ := (Document.flag b).exists_chars_eq_cons
    exact ⟨w, _, hw, ⟨c, cs, heq, hblank, hclose⟩, rfl, reads_flag b⟩

-- ---------------------------------------------------------------------------
-- Numbers
-- ---------------------------------------------------------------------------

/-- A number without sign, fraction and exponent is read if it is below the bound and in the
range of double precision. -/
theorem reads_numeral {bound k : Nat} {n : Numeral} {t : List Char} (h : SpellsNumeral n t)
    (htrim : n.IsTrimmed) (hover : n.overflows = false) (hk : n.natural? = some k)
    (hbound : k < bound) : (natural bound).Reads t k := by
  intro rest hrest
  have hscan := Numeral.scan_of_spells h htrim hrest
  obtain ⟨c, cs, rfl, hc⟩ := h.exists_cons
  rw [List.cons_append] at hscan ⊢
  have hread : readNumeral (c :: (cs ++ rest)) = .ok (n, rest) := by
    simp only [readNumeral, hscan, hover, Bool.false_eq_true, if_false]
  show readNatural bound (c :: (cs ++ rest)) = .ok (k, rest)
  rw [readNatural, skipBlank_cons (startsNumber_facts hc).1]
  simp only [if_pos hc, hread, hk, if_pos hbound]

/-- Any other number is not read. -/
theorem rejects_numeral {bound : Nat} {n : Numeral} {t : List Char} (h : SpellsNumeral n t)
    (hvalue : n.IsTrimmed → ∀ k, n.natural? = some k → bound ≤ k) :
    (natural bound).Rejects t := by
  intro rest hrest
  -- a numeral with a leading zero or out of the range of double precision fails before its value is
  -- asked for
  have hscan : (∃ f, readNumeral (t ++ rest) = .error f) ∨
      n.IsTrimmed ∧ readNumeral (t ++ rest) = .ok (n, rest) := by
    rw [readNumeral]
    by_cases htrim : n.IsTrimmed
    · rw [Numeral.scan_of_spells h htrim hrest]
      cases hover : n.overflows with
      | true => exact Or.inl ⟨.malformed, by simp only [hover, if_true]⟩
      | false => exact Or.inr ⟨htrim, by simp only [hover, Bool.false_eq_true, if_false]⟩
    · rw [Numeral.scan_of_not_isTrimmed h htrim]
      exact Or.inl ⟨.malformed, rfl⟩
  obtain ⟨c, cs, rfl, hc⟩ := h.exists_cons
  rw [List.cons_append] at hscan
  show ∃ f, readNatural bound (c :: cs ++ rest) = .error f
  rw [List.cons_append, readNatural, skipBlank_cons (startsNumber_facts hc).1]
  simp only [if_pos hc]
  -- what scans has a sign, a fraction or an exponent, or is not below the bound
  rcases hscan with ⟨f, hread⟩ | ⟨htrim, hread⟩
  · exact ⟨f, by rw [hread]⟩
  · rw [hread]
    cases hk : n.natural? with
    | none => exact ⟨.mismatch, by simp only [hk]⟩
    | some k =>
      have hge := hvalue htrim k hk
      exact ⟨.mismatch, by simp only [hk, if_neg (Nat.not_lt.mpr hge)]⟩

/-- A number that is read has been scanned from its first character on, and is below the bound. -/
theorem readNatural_eq_ok {bound k : Nat} {s r : List Char}
    (h : readNatural bound s = .ok (k, r)) :
    ∃ w c cs n, Blanks w ∧ (c = '-' ∨ c.isDigit = true) ∧ s = w ++ c :: cs ∧
      Numeral.scan (c :: cs) = .ok (n, r) ∧ n.overflows = false ∧ n.natural? = some k ∧
      k < bound := by
  unfold readNatural at h
  split at h
  · cases h
  · next c cs hs =>
    obtain ⟨w, hw, -, rfl⟩ := exists_blanks_of_skipBlank hs
    split at h
    · next hc =>
      split at h
      · cases h
      · next n t hn =>
        split at h
        · cases h
        · next k' hk =>
          split at h
          · next hbound =>
            cases h
            unfold readNumeral at hn
            split at hn
            · cases hn
            · cases hn
            · next m r' hscan =>
              split at hn
              · cases hn
              · next hover =>
                cases hn
                rw [Bool.not_eq_true] at hover
                exact ⟨w, c, cs, n, hw, hc, rfl, hscan, hover, hk, hbound⟩
          · cases h
    · cases h

/-- Numbers are read from their numerals, wherever these stand. -/
theorem regular_natural (bound : Nat) : (natural bound).Regular where
  blanks {w} s hw := by
    show readNatural bound (w ++ s) = readNatural bound s
    rw [readNatural, skipBlank_append hw, ← readNatural]
  takes {s r k} h := by
    obtain ⟨w, c, cs, n, hw, hc, rfl, hscan, hover, hk, hbound⟩ := readNatural_eq_ok h
    obtain ⟨t, ht, htrim, heq⟩ := Numeral.exists_spells_of_scan hscan
    obtain ⟨d, ds, rfl, -⟩ := ht.exists_cons
    obtain ⟨rfl, rfl⟩ := List.cons.inj heq
    obtain ⟨hblank, -, -, -, -, hclose, -⟩ := startsNumber_facts hc
    exact ⟨w, c :: ds, hw, ⟨c, ds, rfl, hblank, hclose⟩, rfl,
      reads_numeral ht htrim hover hk hbound⟩

-- ---------------------------------------------------------------------------
-- Readers from readers
-- ---------------------------------------------------------------------------

/-- The stricter reader accepts what the other one reads and the condition lets pass. -/
theorem filterMap_eq_ok {f : α → Option β} {s r : List Char} {b : β}
    (h : (reader.filterMap f).run s = .ok (b, r)) :
    ∃ a, reader.run s = .ok (a, r) ∧ f a = some b := by
  simp only [Reader.filterMap] at h
  split at h
  · cases h
  · next a t hread =>
    split at h
    · next b' hf =>
      cases h
      exact ⟨a, hread, hf⟩
    · cases h

/-- A condition on the value changes nothing about where it is found. -/
theorem Regular.filterMap (h : reader.Regular) (f : α → Option β) :
    (reader.filterMap f).Regular where
  blanks s hw := by simp only [Reader.filterMap, h.blanks s hw]
  takes hread := by
    obtain ⟨a, ha, hf⟩ := filterMap_eq_ok hread
    obtain ⟨w, v, hw, hv, heq, hreads⟩ := h.takes ha
    exact ⟨w, v, hw, hv, heq, hreads.filterMap hf⟩

theorem Regular.map (h : reader.Regular) (f : α → β) : (reader.map f).Regular :=
  h.filterMap _

-- ---------------------------------------------------------------------------
-- Readers and passing over
-- ---------------------------------------------------------------------------

/-- A reader that stops where passing over its value stops. -/
def Skippable (reader : Reader α) : Prop :=
  ∀ {s r : List Char} {a : α}, reader.run s = .ok (a, r) → skipValue s = .ok r

/-- Outside all brackets a scalar is passed over in one step. -/
theorem skipValue_of_skipScalar {c : Char} {s cs r : List Char} (hs : skipBlank s = c :: cs)
    (hsquare : c ≠ '[') (hcurly : c ≠ '\x7b') (h : skipScalar c cs = .ok r) :
    skipValue s = .ok r := by
  rw [skipValue, skipWithin_eq, startValue, hs]
  simp only [if_neg hsquare, if_neg hcurly, h]
  rfl

/-- A string is read up to its closing quote, and passed over up to there. -/
theorem skippable_text : text.Skippable := by
  intro s r a h
  obtain ⟨⟨cs, r⟩, hread, heq⟩ := map_eq_ok_iff.mp h
  cases heq
  obtain ⟨w, t, hw, ht, rfl⟩ := readText_eq_ok hread
  have hword : restOfWord? '"' = none := by decide
  refine skipValue_of_skipScalar (skipBlank_blanks hw (by decide) _) (by decide) (by decide) ?_
  simp only [skipScalar, hword, if_true]
  exact skipString_eq_ok_iff.mpr ⟨t, ht.isLiteral, rfl⟩

theorem skippable_flag : flag.Skippable := by
  intro s r b h
  obtain ⟨w, hw, rfl⟩ := readFlag_eq_ok h
  cases b with
  | true =>
    rw [Document.chars]
    exact skipValue_of_skipScalar (skipBlank_blanks hw (by decide) _) (by decide) (by decide)
      (expectWord_append ['r', 'u', 'e'] r)
  | false =>
    rw [Document.chars]
    exact skipValue_of_skipScalar (skipBlank_blanks hw (by decide) _) (by decide) (by decide)
      (expectWord_append ['a', 'l', 's', 'e'] r)

/-- A number is read to the end of its numeral, and passed over up to there. -/
theorem skippable_natural (bound : Nat) : (natural bound).Skippable := by
  intro s r k h
  obtain ⟨w, c, cs, n, hw, hc, rfl, hscan, -⟩ := readNatural_eq_ok h
  obtain ⟨hblank, hword, hquote, hsquare, hcurly, -⟩ := startsNumber_facts hc
  refine skipValue_of_skipScalar (skipBlank_blanks hw hblank _) hsquare hcurly ?_
  simp only [skipScalar, hword, if_neg hquote, if_pos hc, hscan]

theorem Skippable.filterMap (h : reader.Skippable) (f : α → Option β) :
    (reader.filterMap f).Skippable := by
  intro s r b hread
  obtain ⟨a, ha, -⟩ := filterMap_eq_ok hread
  exact h ha

theorem Skippable.map (h : reader.Skippable) (f : α → β) : (reader.map f).Skippable :=
  h.filterMap _

/-- What a reader accepts at the front of a text that starts with a value is the value. -/
theorem Regular.reads_of_run (h : reader.Regular) (hskip : reader.Skippable)
    {v rest r : List Char} {a : α} (hv : Wellformed .value v) (hrest : EndsNumber rest)
    (hrun : reader.run (v ++ rest) = .ok (a, r)) : reader.Reads v a := by
  -- reading stops where passing over stops, and that is at the end of the value
  have hsame : r = rest := by
    have hvalue := skipValue_of_wellformed blanks_nil hv hrest
    rw [List.nil_append, hskip hrun, Except.ok.injEq] at hvalue
    exact hvalue
  subst hsame
  -- hence the text that was read is the value, but for blanks in front
  obtain ⟨w, u, hw, -, heq, hreads⟩ := h.takes hrun
  rw [← List.append_assoc, List.append_cancel_right_eq] at heq
  obtain ⟨c, cs, rfl, hblank, -⟩ := hv.exists_cons
  cases w with
  | nil =>
    rw [heq]
    exact hreads
  | cons d w =>
    -- a value does not start with a blank
    rw [(List.cons.inj heq).1, hw d (List.mem_cons_self ..)] at hblank
    cases hblank

/-- On a value, a reader has made up its mind, whatever follows. -/
theorem Regular.reads_or_rejects (h : reader.Regular) (hskip : reader.Skippable) {v : List Char}
    (hv : Wellformed .value v) : (∃ a, reader.Reads v a) ∨ reader.Rejects v := by
  by_cases hreads : ∃ a, reader.Reads v a
  · exact Or.inl hreads
  · -- one text behind it on which reading succeeds would settle the value for all
    refine Or.inr fun rest hrest => ?_
    cases hrun : reader.run (v ++ rest) with
    | error f => exact ⟨f, rfl⟩
    | ok out => exact absurd ⟨out.1, h.reads_of_run hskip hv hrest hrun⟩ hreads

end Reader

end ChainParams.Json
