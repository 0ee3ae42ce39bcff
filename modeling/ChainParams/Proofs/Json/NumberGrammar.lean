import ChainParams.Json.Numeral

/-!
# ChainParams — the grammar of numbers

A number is written as a sign, a whole part, a fraction and an exponent, of which only the
whole part has to be there. `SpellsNumeral` lists the texts of a number in that form. Beside
it stands one rule more, that no zero stands in front of another digit of the whole part
(`Numeral.IsTrimmed`); it is kept apart because a text that breaks it has a shape too, and the
scanner tells the two faults from each other.

The scanner takes as much as it can. So it takes exactly the text of a number provided that
what follows does not go on with the number, which is what `EndsNumber` says.

## Results

* `Numeral.scan_of_spells`         — the scanner takes a written number as a whole.
* `Numeral.exists_spells_of_scan`  — it takes nothing else.
* `Numeral.scan_of_not_isTrimmed`  — a zero in front of another digit is no number.
-/

namespace ChainParams.Json

-- ---------------------------------------------------------------------------
-- The grammar
-- ---------------------------------------------------------------------------

/-- Digits, at least one. -/
def IsDigits (ds : List Char) : Prop :=
  ds ≠ [] ∧ ∀ d ∈ ds, d.isDigit = true

/-- The texts of a fraction; without digits there is no point either. -/
inductive SpellsFraction : List Char → List Char → Prop
  | none : SpellsFraction [] []
  | point {ds : List Char} (h : IsDigits ds) : SpellsFraction ds ('.' :: ds)

/-- The texts of the sign of an exponent, and whether it is a minus. -/
inductive SpellsSign : Bool → List Char → Prop
  | none : SpellsSign false []
  | plus : SpellsSign false ['+']
  | minus : SpellsSign true ['-']

/-- The texts of an exponent, of which there may be none. -/
inductive SpellsExponent : Option (Bool × List Char) → List Char → Prop
  | none : SpellsExponent none []
  | letter {e : Char} {negative : Bool} {sign ds : List Char} (he : e = 'e' ∨ e = 'E')
    (hsign : SpellsSign negative sign) (h : IsDigits ds) :
    SpellsExponent (some (negative, ds)) (e :: (sign ++ ds))

/-- The texts of a number without its minus. -/
inductive SpellsUnsigned (n : Numeral) : List Char → Prop
  | mk {f e : List Char} (hwhole : IsDigits n.whole) (hf : SpellsFraction n.fraction f)
    (he : SpellsExponent n.exponent e) : SpellsUnsigned n (n.whole ++ (f ++ e))

/-- The texts of a number, zeros in front of its whole part included. -/
inductive SpellsNumeral (n : Numeral) : List Char → Prop
  | plain {t : List Char} (hn : n.negative = false) (h : SpellsUnsigned n t) : SpellsNumeral n t
  | minus {t : List Char} (hn : n.negative = true) (h : SpellsUnsigned n t) :
    SpellsNumeral n ('-' :: t)

/-- Whether no zero stands in front of another digit of the whole part. -/
def Numeral.IsTrimmed (n : Numeral) : Prop :=
  n.whole.head? = some '0' → n.whole = ['0']

/-- The numbers of JSON. -/
def IsNumber (t : List Char) : Prop :=
  ∃ n : Numeral, SpellsNumeral n t ∧ n.IsTrimmed

/-- Whether digits in front of the text end there. -/
def EndsDigits (rest : List Char) : Prop :=
  ∀ c ∈ rest.head?, c.isDigit = false

/-- Whether a number in front of the text ends there. -/
def EndsNumber (rest : List Char) : Prop :=
  ∀ c ∈ rest.head?, c.isDigit = false ∧ c ≠ '.' ∧ c ≠ 'e' ∧ c ≠ 'E'

theorem endsNumber_nil : EndsNumber [] := by
  intro c hc
  cases hc

/-- A character that goes on with no number ends it. -/
theorem endsNumber_cons {c : Char} {rest : List Char}
    (h : c.isDigit = false ∧ c ≠ '.' ∧ c ≠ 'e' ∧ c ≠ 'E') : EndsNumber (c :: rest) := by
  intro d hd
  cases hd
  exact h

theorem EndsNumber.endsDigits {rest : List Char} (h : EndsNumber rest) : EndsDigits rest :=
  fun c hc => (h c hc).1

theorem endsDigits_cons {c : Char} {rest : List Char} (h : c.isDigit = false) :
    EndsDigits (c :: rest) := by
  intro d hd
  cases hd
  exact h

/-- Digits start with a digit. -/
theorem IsDigits.exists_cons {ds : List Char} (h : IsDigits ds) :
    ∃ d tail, ds = d :: tail ∧ d.isDigit = true := by
  obtain ⟨d, tail, rfl⟩ := List.exists_cons_of_ne_nil h.1
  exact ⟨d, tail, rfl, h.2 d (List.mem_cons_self ..)⟩

/-- A number without its minus starts with a digit. -/
theorem SpellsUnsigned.exists_cons {n : Numeral} {t : List Char} (h : SpellsUnsigned n t) :
    ∃ d tail, t = d :: tail ∧ d.isDigit = true := by
  cases h with
  | @mk f e hwhole hf he =>
    obtain ⟨d, tail, heq, hd⟩ := hwhole.exists_cons
    exact ⟨d, tail ++ (f ++ e), by rw [heq, List.cons_append], hd⟩

namespace Numeral

-- ---------------------------------------------------------------------------
-- Digits
-- ---------------------------------------------------------------------------

/-- The scanner takes digits up to where they end. -/
theorem scanDigits_of_isDigits {ds rest : List Char} (h : IsDigits ds) (hrest : EndsDigits rest) :
    scanDigits (ds ++ rest) = .ok (ds, rest) := by
  have hnone : rest.takeWhile Char.isDigit = [] ∧ rest.dropWhile Char.isDigit = rest := by
    cases rest with
    | nil => exact ⟨rfl, rfl⟩
    | cons c rest =>
      have hc := hrest c rfl
      exact ⟨by rw [List.takeWhile_cons, hc]; rfl, by rw [List.dropWhile_cons, hc]; rfl⟩
  have htake : (ds ++ rest).takeWhile Char.isDigit = ds := by
    rw [List.takeWhile_append_of_pos h.2, hnone.1, List.append_nil]
  have hdrop : (ds ++ rest).dropWhile Char.isDigit = rest := by
    rw [List.dropWhile_append_of_pos h.2, hnone.2]
  rw [scanDigits, htake, hdrop, if_neg h.1]

theorem isDigits_of_scanDigits {s ds r : List Char} (h : scanDigits s = .ok (ds, r)) :
    IsDigits ds ∧ s = ds ++ r := by
  unfold scanDigits at h
  split at h
  · cases h
  · next hne =>
    cases h
    exact ⟨⟨hne, fun d hd => List.all_eq_true.mp List.all_takeWhile d hd⟩,
      List.takeWhile_append_dropWhile.symm⟩

-- ---------------------------------------------------------------------------
-- Whole parts
-- ---------------------------------------------------------------------------

/-- The whole part is taken up to the end of its digits. -/
theorem scanWhole_of_isDigits {ds rest : List Char} (h : IsDigits ds)
    (htrim : ds.head? = some '0' → ds = ['0']) (hrest : EndsDigits rest) :
    scanWhole (ds ++ rest) = .ok (ds, rest) := by
  have hscan := scanDigits_of_isDigits h hrest
  obtain ⟨d, tail, rfl, -⟩ := h.exists_cons
  -- a leading zero is the whole part by itself, so no further digit is looked for
  by_cases hzero : d = '0'
  · subst hzero
    obtain rfl : tail = [] := (List.cons.inj (htrim rfl)).2
    have hnone : rest.head?.any Char.isDigit = false := by
      cases rest with
      | nil => rfl
      | cons c rest => exact hrest c rfl
    rw [List.singleton_append, scanWhole, hnone]
    rfl
  · rw [List.cons_append] at hscan ⊢
    unfold scanWhole
    split
    · next h => exact absurd (List.cons.inj h).1 hzero
    · exact hscan

/-- A zero in front of another digit is refused at that digit. -/
theorem scanWhole_of_leadingZero {ds rest : List Char} (h : IsDigits ds)
    (hzero : ds.head? = some '0') (hmore : ds ≠ ['0']) :
    scanWhole (ds ++ rest) = .error .strayed := by
  obtain ⟨d, tail, rfl, -⟩ := h.exists_cons
  obtain rfl : d = '0' := Option.some.inj hzero
  obtain ⟨d, tail, rfl⟩ := List.exists_cons_of_ne_nil (l := tail) (by rintro rfl; exact hmore rfl)
  have hd : d.isDigit = true := h.2 d (by simp)
  rw [List.cons_append, List.cons_append, scanWhole, List.head?_cons, Option.any_some, hd]
  rfl

/-- What is taken for a whole part are digits without a zero in front. -/
theorem isDigits_of_scanWhole {s ds r : List Char} (h : scanWhole s = .ok (ds, r)) :
    IsDigits ds ∧ (ds.head? = some '0' → ds = ['0']) ∧ s = ds ++ r := by
  unfold scanWhole at h
  split at h
  · split at h
    · cases h
    · cases h
      exact ⟨⟨List.cons_ne_nil _ _, by simp⟩, fun _ => rfl, rfl⟩
  · next s hne =>
    obtain ⟨hds, rfl⟩ := isDigits_of_scanDigits h
    refine ⟨hds, fun hzero => ?_, rfl⟩
    obtain ⟨d, tail, rfl, -⟩ := hds.exists_cons
    obtain rfl : d = '0' := Option.some.inj hzero
    exact absurd rfl (hne _)

-- ---------------------------------------------------------------------------
-- Fractions and exponents
-- ---------------------------------------------------------------------------

/-- What follows the whole part ends its digits. -/
theorem endsDigits_fraction {ds f rest : List Char} (h : SpellsFraction ds f)
    (hrest : EndsDigits rest) : EndsDigits (f ++ rest) := by
  cases h with
  | none => exact hrest
  | point h => exact endsDigits_cons (by decide)

/-- What follows the fraction ends its digits, and is no fraction itself. -/
theorem endsFraction_exponent {x : Option (Bool × List Char)} {e rest : List Char}
    (h : SpellsExponent x e) (hrest : EndsNumber rest) :
    EndsDigits (e ++ rest) ∧ (e ++ rest).head? ≠ some '.' := by
  cases h with
  | none =>
    refine ⟨hrest.endsDigits, fun hpoint => ?_⟩
    exact (hrest '.' hpoint).2.1 rfl
  | letter he hsign h =>
    rcases he with rfl | rfl
    · exact ⟨endsDigits_cons (by decide), by simp⟩
    · exact ⟨endsDigits_cons (by decide), by simp⟩

/-- A fraction is taken with its point, or nothing if there is none. -/
theorem scanFraction_of_spells {ds f rest : List Char} (h : SpellsFraction ds f)
    (hdigits : EndsDigits rest) (hpoint : rest.head? ≠ some '.') :
    scanFraction (f ++ rest) = .ok (ds, rest) := by
  cases h with
  | none =>
    rw [List.nil_append]
    unfold scanFraction
    split
    · exact absurd rfl hpoint
    · rfl
  | point h => exact scanDigits_of_isDigits h hdigits

theorem exists_spells_of_scanFraction {s ds r : List Char} (h : scanFraction s = .ok (ds, r)) :
    ∃ f, SpellsFraction ds f ∧ s = f ++ r := by
  unfold scanFraction at h
  split at h
  · obtain ⟨hds, rfl⟩ := isDigits_of_scanDigits h
    exact ⟨_, .point hds, rfl⟩
  · cases h
    exact ⟨[], .none, rfl⟩

/-- The sign of an exponent is taken, or nothing in front of its digits. -/
theorem scanSign_of_spells {negative : Bool} {sign s : List Char} (h : SpellsSign negative sign)
    (hs : ∃ d tail, s = d :: tail ∧ d.isDigit = true) :
    scanSign (sign ++ s) = (negative, s) := by
  cases h with
  | none =>
    obtain ⟨d, tail, rfl, hd⟩ := hs
    rw [List.nil_append]
    unfold scanSign
    split
    · next h =>
      rw [(List.cons.inj h).1] at hd
      exact absurd hd (by decide)
    · next h =>
      rw [(List.cons.inj h).1] at hd
      exact absurd hd (by decide)
    · rfl
  | plus => rfl
  | minus => rfl

theorem exists_spells_of_scanSign (s : List Char) :
    ∃ sign, SpellsSign (scanSign s).1 sign ∧ s = sign ++ (scanSign s).2 := by
  unfold scanSign
  split
  · exact ⟨['-'], .minus, rfl⟩
  · exact ⟨['+'], .plus, rfl⟩
  · exact ⟨[], .none, rfl⟩

/-- An exponent is taken with its letter and its sign, or nothing if there is none. -/
theorem scanExponent_of_spells {x : Option (Bool × List Char)} {e rest : List Char}
    (h : SpellsExponent x e) (hrest : EndsNumber rest) :
    scanExponent (e ++ rest) = .ok (x, rest) := by
  cases h with
  | none =>
    rw [List.nil_append]
    unfold scanExponent
    split
    · next c r =>
      have hc := hrest c rfl
      rw [if_neg (by simp [hc])]
    · rfl
  | @letter e negative sign ds he hsign h =>
    obtain ⟨d, tail, hcons, hd⟩ := h.exists_cons
    have hscan := scanSign_of_spells hsign (s := ds ++ rest)
      ⟨d, tail ++ rest, by rw [hcons, List.cons_append], hd⟩
    rw [List.cons_append, List.append_assoc, scanExponent, if_pos he, hscan,
      scanDigits_of_isDigits h hrest.endsDigits]
    rfl

theorem exists_spells_of_scanExponent {s r : List Char} {x : Option (Bool × List Char)}
    (h : scanExponent s = .ok (x, r)) : ∃ e, SpellsExponent x e ∧ s = e ++ r := by
  unfold scanExponent at h
  split at h
  · next c s =>
    split at h
    · next hc =>
      obtain ⟨⟨ds, t⟩, hdigits, he⟩ := map_eq_ok_iff.mp h
      cases he
      obtain ⟨hds, hsplit⟩ := isDigits_of_scanDigits hdigits
      obtain ⟨sign, hsign, heq⟩ := exists_spells_of_scanSign s
      refine ⟨c :: (sign ++ ds), .letter hc hsign hds, ?_⟩
      rw [List.cons_append, List.append_assoc, ← hsplit, ← heq]
    · cases h
      exact ⟨[], .none, rfl⟩
  · cases h
    exact ⟨[], .none, rfl⟩

-- ---------------------------------------------------------------------------
-- Numbers
-- ---------------------------------------------------------------------------

variable {n : Numeral} {t rest : List Char}

/-- The three parts are taken one after the other, since each ends where the next begins. -/
theorem scanUnsigned_of_spells (h : SpellsUnsigned n t) (htrim : n.IsTrimmed)
    (hrest : EndsNumber rest) : scanUnsigned n.negative (t ++ rest) = .ok (n, rest) := by
  cases h with
  | @mk f e hwhole hf he =>
    obtain ⟨hdigits, hpoint⟩ := endsFraction_exponent he hrest
    rw [List.append_assoc, List.append_assoc, scanUnsigned,
      scanWhole_of_isDigits hwhole htrim (endsDigits_fraction hf hdigits)]
    simp only [scanFraction_of_spells hf hdigits hpoint, scanExponent_of_spells he hrest]
    rfl

/-- A text that starts with a digit has no minus. -/
theorem scan_of_isDigit {d : Char} (hd : d.isDigit = true) (s : List Char) :
    scan (d :: s) = scanUnsigned false (d :: s) := by
  unfold scan
  split
  · next h =>
    rw [(List.cons.inj h).1] at hd
    exact absurd hd (by decide)
  · rfl

/-- In front of a text that ends it, the scanner takes a written number as a whole. -/
theorem scan_of_spells (h : SpellsNumeral n t) (htrim : n.IsTrimmed) (hrest : EndsNumber rest) :
    scan (t ++ rest) = .ok (n, rest) := by
  cases h with
  | plain hn h =>
    have hscan := scanUnsigned_of_spells h htrim hrest
    obtain ⟨d, tail, rfl, hd⟩ := h.exists_cons
    rw [List.cons_append] at hscan ⊢
    rw [scan_of_isDigit hd, ← hn, hscan]
  | minus hn h =>
    have hscan := scanUnsigned_of_spells h htrim hrest
    rw [hn] at hscan
    exact hscan

/-- The scanner takes nothing but written numbers. -/
theorem exists_spells_of_scan {s r : List Char} (h : scan s = .ok (n, r)) :
    ∃ t, SpellsNumeral n t ∧ n.IsTrimmed ∧ s = t ++ r := by
  -- what is taken behind the sign is the same with a minus and without
  have hunsigned {negative : Bool} {s : List Char}
      (h : scanUnsigned negative s = .ok (n, r)) :
      n.negative = negative ∧ ∃ t, SpellsUnsigned n t ∧ n.IsTrimmed ∧ s = t ++ r := by
    unfold scanUnsigned at h
    split at h
    · cases h
    · next whole r₁ hw =>
      obtain ⟨hwhole, htrim, rfl⟩ := isDigits_of_scanWhole hw
      split at h
      · cases h
      · next fraction r₂ hf =>
        obtain ⟨f, hfraction, rfl⟩ := exists_spells_of_scanFraction hf
        obtain ⟨⟨x, r₃⟩, hx, heq⟩ := map_eq_ok_iff.mp h
        cases heq
        obtain ⟨e, hexponent, rfl⟩ := exists_spells_of_scanExponent hx
        exact ⟨rfl, _, .mk hwhole hfraction hexponent, htrim, by simp⟩
  unfold scan at h
  split at h
  · obtain ⟨hn, t, ht, htrim, rfl⟩ := hunsigned h
    exact ⟨'-' :: t, .minus hn ht, htrim, rfl⟩
  · obtain ⟨hn, t, ht, htrim, rfl⟩ := hunsigned h
    exact ⟨t, .plain hn ht, htrim, rfl⟩

/-- A zero in front of another digit is no number, whatever follows. -/
theorem scan_of_not_isTrimmed (h : SpellsNumeral n t) (htrim : ¬ n.IsTrimmed)
    (rest : List Char) : scan (t ++ rest) = .error .strayed := by
  obtain ⟨hzero, hmore⟩ := Classical.not_imp.mp htrim
  -- the whole part comes first, so it does not matter what else there is
  have hunsigned {t : List Char} (negative : Bool) (h : SpellsUnsigned n t) :
      scanUnsigned negative (t ++ rest) = .error .strayed := by
    cases h with
    | mk hwhole hf he =>
      rw [List.append_assoc, scanUnsigned, scanWhole_of_leadingZero hwhole hzero hmore]
  cases h with
  | plain hn h =>
    have hscan := hunsigned false h
    obtain ⟨d, tail, rfl, hd⟩ := h.exists_cons
    rw [List.cons_append] at hscan ⊢
    rw [scan_of_isDigit hd, hscan]
  | minus hn h => exact hunsigned true h

end Numeral

end ChainParams.Json
