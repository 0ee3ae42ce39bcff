import ChainParams.Proofs.Json.Reads
import ChainParams.Proofs.Json.StringGrammar
import Mathlib.Data.List.TakeWhile

/-!
# ChainParams — the grammar of values

A JSON value is a word, a number or a string, or a bracket with values in it, and blanks may
stand between any two tokens. `Wellformed` is that grammar, for values of any depth. Arrays and
objects differ in one point only, what leads to a value inside them, so both are one case
(`Entry`); and what stands behind a value inside a bracket is a form of its own, because it is
the same for the first value and for all others.

Passing over a value keeps a list of open brackets instead of going down into them. It stops at
each value on its way, so the statement that an induction can carry is about going on: passing
over a value inside any brackets comes to the place behind it, and from there goes on as those
brackets ask.

## Results

* `Wellformed.skips`        — passing over a value inside any brackets.
* `skipValue_of_wellformed` — a value is passed over, and no more than the value.
-/

namespace ChainParams.Json

-- ---------------------------------------------------------------------------
-- The grammar
-- ---------------------------------------------------------------------------

/-- Nothing but blanks. -/
def Blanks (w : List Char) : Prop :=
  ∀ c ∈ w, isBlank c = true

/-- The values that open no bracket. -/
inductive IsScalar : List Char → Prop
  | null : IsScalar ['n', 'u', 'l', 'l']
  | yes : IsScalar ['t', 'r', 'u', 'e']
  | no : IsScalar ['f', 'a', 'l', 's', 'e']
  | number {t : List Char} (h : IsNumber t) : IsScalar t
  | string {t : List Char} (h : IsLiteral t) : IsScalar ('"' :: (t ++ ['"']))

/-- The character that opens a bracket. -/
def Bracket.opening : Bracket → Char
  | .square => '['
  | .curly => '\x7b'

/-- What leads to a value inside a bracket: in an object its key and a colon, in an array
nothing. -/
inductive Entry : Bracket → List Char → Prop
  | square {w : List Char} (hw : Blanks w) : Entry .square w
  | curly {w t u v : List Char} (hw : Blanks w) (ht : IsLiteral t) (hu : Blanks u)
    (hv : Blanks v) : Entry .curly (w ++ '"' :: (t ++ '"' :: (u ++ ':' :: v)))

/-- The forms of the grammar that depend on each other. -/
inductive Form where
  /-- A value. -/
  | value
  /-- What stands behind a value inside a bracket: further values and its closing. -/
  | rest (b : Bracket)

/-- The texts of each form. -/
inductive Wellformed : Form → List Char → Prop
  | scalar {t : List Char} (h : IsScalar t) : Wellformed .value t
  | empty {b : Bracket} {w : List Char} (hw : Blanks w) :
    Wellformed .value (b.opening :: (w ++ [b.closing]))
  | parts {b : Bracket} {e v t : List Char} (he : Entry b e) (hv : Wellformed .value v)
    (ht : Wellformed (.rest b) t) : Wellformed .value (b.opening :: (e ++ (v ++ t)))
  | close {b : Bracket} {w : List Char} (hw : Blanks w) :
    Wellformed (.rest b) (w ++ [b.closing])
  | more {b : Bracket} {w e v t : List Char} (hw : Blanks w) (he : Entry b e)
    (hv : Wellformed .value v) (ht : Wellformed (.rest b) t) :
    Wellformed (.rest b) (w ++ ',' :: (e ++ (v ++ t)))

-- ---------------------------------------------------------------------------
-- Blanks
-- ---------------------------------------------------------------------------

theorem blanks_nil : Blanks [] := by
  intro c hc
  cases hc

theorem skipBlank_append {w : List Char} (hw : Blanks w) (s : List Char) :
    skipBlank (w ++ s) = skipBlank s :=
  List.dropWhile_append_of_pos hw

theorem skipBlank_eq_nil_iff {w : List Char} : skipBlank w = [] ↔ Blanks w := by
  rw [skipBlank, List.dropWhile_eq_nil_iff]
  rfl

/-- The first character that is no blank is found behind the blanks. -/
theorem skipBlank_blanks {w : List Char} (hw : Blanks w) {c : Char} (hc : isBlank c = false)
    (s : List Char) : skipBlank (w ++ c :: s) = c :: s := by
  rw [skipBlank_append hw, skipBlank_cons hc]

/-- A character found behind blanks stands behind blanks. -/
theorem exists_blanks_of_skipBlank {s r : List Char} {c : Char} (h : skipBlank s = c :: r) :
    ∃ w, Blanks w ∧ isBlank c = false ∧ s = w ++ c :: r := by
  have hsplit := List.takeWhile_append_dropWhile (p := isBlank) (l := s)
  have hc : isBlank c = false := by
    have hhead := List.head?_dropWhile_not isBlank s
    rw [← skipBlank, h] at hhead
    exact hhead
  rw [← skipBlank, h] at hsplit
  exact ⟨_, fun d hd => List.all_eq_true.mp List.all_takeWhile d hd, hc, hsplit.symm⟩

/-- Behind blanks, the closing bracket ends a bracket and a comma goes on with it. -/
theorem readNext_eq_ok {closing : Char} {s r : List Char} {next : Next}
    (h : readNext closing s = .ok (next, r)) :
    ∃ w, Blanks w ∧ (next = .close ∧ s = w ++ closing :: r ∨ next = .more ∧ s = w ++ ',' :: r) := by
  unfold readNext at h
  split at h
  · cases h
  · next c t hs =>
    obtain ⟨w, hw, -, rfl⟩ := exists_blanks_of_skipBlank hs
    split at h
    · next hc =>
      cases h
      exact ⟨w, hw, Or.inl ⟨rfl, by rw [hc]⟩⟩
    · split at h
      · next hc =>
        cases h
        exact ⟨w, hw, Or.inr ⟨rfl, by rw [hc]⟩⟩
      · cases h

theorem readColon_eq_ok {s r : List Char} (h : readColon s = .ok r) :
    ∃ w, Blanks w ∧ s = w ++ ':' :: r := by
  unfold readColon at h
  split at h
  · cases h
  · next c t hs =>
    obtain ⟨w, hw, -, rfl⟩ := exists_blanks_of_skipBlank hs
    split at h
    · next hc =>
      cases h
      exact ⟨w, hw, by rw [hc]⟩
    · cases h

theorem isBlank_closing (b : Bracket) : isBlank b.closing = false := by
  cases b <;> decide

theorem readNext_blanks_close {b : Bracket} {w : List Char} (hw : Blanks w) (s : List Char) :
    readNext b.closing (w ++ b.closing :: s) = .ok (.close, s) := by
  rw [readNext, skipBlank_blanks hw (isBlank_closing b)]
  exact if_pos rfl

/-- A comma is found behind blanks, as it closes no bracket. -/
theorem readNext_blanks_comma {b : Bracket} {w : List Char} (hw : Blanks w) (s : List Char) :
    readNext b.closing (w ++ ',' :: s) = .ok (.more, s) := by
  have hne : ',' ≠ b.closing := by cases b <;> decide
  rw [readNext, skipBlank_blanks hw (by decide)]
  exact (if_neg hne).trans (if_pos rfl)

theorem readColon_blanks {w : List Char} (hw : Blanks w) (s : List Char) :
    readColon (w ++ ':' :: s) = .ok s := by
  rw [readColon, skipBlank_blanks hw (by decide)]
  exact if_pos rfl

theorem endsNumber_cons_of_isBlank {c : Char} (h : isBlank c = true) (s : List Char) :
    EndsNumber (c :: s) := by
  refine endsNumber_cons ?_
  simp only [isBlank, Bool.or_eq_true, decide_eq_true_eq] at h
  rcases h with ((rfl | rfl) | rfl) | rfl <;> decide

theorem Blanks.endsNumber {w : List Char} (h : Blanks w) : EndsNumber w := by
  cases w with
  | nil => exact endsNumber_nil
  | cons c w => exact endsNumber_cons_of_isBlank (h c (List.mem_cons_self ..)) w

/-- Blanks do not go on with a number, nor does a character that does not by itself. -/
theorem endsNumber_blanks {w : List Char} (hw : Blanks w) {c : Char} {s : List Char}
    (hc : c.isDigit = false ∧ c ≠ '.' ∧ c ≠ 'e' ∧ c ≠ 'E') : EndsNumber (w ++ c :: s) := by
  cases w with
  | nil => exact endsNumber_cons hc
  | cons d w => exact endsNumber_cons_of_isBlank (hw d (List.mem_cons_self ..)) _

/-- What stands behind a value inside a bracket does not go on with a number. -/
theorem endsNumber_rest {b : Bracket} {t : List Char} (h : Wellformed (.rest b) t)
    (rest : List Char) : EndsNumber (t ++ rest) := by
  cases h with
  | close hw =>
    rw [List.append_assoc]
    exact endsNumber_blanks hw (by cases b <;> decide)
  | more hw he hv ht =>
    rw [List.append_assoc]
    exact endsNumber_blanks hw (by decide)

-- ---------------------------------------------------------------------------
-- Scalars
-- ---------------------------------------------------------------------------

theorem ne_of_isDigit {c d : Char} (hc : c.isDigit = true) (hd : d.isDigit = false) : c ≠ d := by
  rintro rfl
  rw [hc] at hd
  cases hd

/-- A number starts with a minus or a digit. -/
theorem SpellsNumeral.exists_cons {n : Numeral} {t : List Char} (h : SpellsNumeral n t) :
    ∃ c cs, t = c :: cs ∧ (c = '-' ∨ c.isDigit = true) := by
  cases h with
  | plain hn h =>
    obtain ⟨d, tail, rfl, hd⟩ := h.exists_cons
    exact ⟨d, tail, rfl, Or.inr hd⟩
  | @minus t hn h => exact ⟨'-', t, rfl, Or.inl rfl⟩

/-- What starts a number starts no other value. -/
theorem startsNumber_facts {c : Char} (h : c = '-' ∨ c.isDigit = true) :
    isBlank c = false ∧ restOfWord? c = none ∧ c ≠ '"' ∧ c ≠ '[' ∧ c ≠ '\x7b' ∧ c ≠ ']' ∧
      c ≠ '\x7d' := by
  rcases h with rfl | h
  · decide
  · -- a digit differs from each of these because none of them is one
    have hne (d : Char) (hd : d.isDigit = false) : c ≠ d := ne_of_isDigit h hd
    refine ⟨isBlank_of_isDigit h, ?_, hne _ (by decide), hne _ (by decide), hne _ (by decide),
      hne _ (by decide), hne _ (by decide)⟩
    rw [restOfWord?, if_neg (hne _ (by decide)), if_neg (hne _ (by decide)),
      if_neg (hne _ (by decide))]

/-- A scalar starts with a character of its own, and is passed over from there. -/
theorem IsScalar.exists_cons {t : List Char} (h : IsScalar t) :
    ∃ c cs, t = c :: cs ∧
      (isBlank c = false ∧ c ≠ '[' ∧ c ≠ '\x7b' ∧ c ≠ ']' ∧ c ≠ '\x7d') ∧
      ∀ rest, EndsNumber rest → skipScalar c (cs ++ rest) = .ok rest := by
  -- the three words, a numeral and a string are told apart by their first character
  cases h with
  | null => exact ⟨'n', _, rfl, by decide, fun rest _ => expectWord_append ['u', 'l', 'l'] rest⟩
  | yes => exact ⟨'t', _, rfl, by decide, fun rest _ => expectWord_append ['r', 'u', 'e'] rest⟩
  | no =>
    exact ⟨'f', _, rfl, by decide, fun rest _ => expectWord_append ['a', 'l', 's', 'e'] rest⟩
  | number h =>
    obtain ⟨n, hn, htrim⟩ := h
    obtain ⟨c, cs, rfl, hc⟩ := hn.exists_cons
    obtain ⟨hblank, hword, hquote, hsquare, hcurly, hsquare', hcurly'⟩ := startsNumber_facts hc
    refine ⟨c, cs, rfl, ⟨hblank, hsquare, hcurly, hsquare', hcurly'⟩, fun rest hrest => ?_⟩
    have hscan := Numeral.scan_of_spells hn htrim hrest
    rw [List.cons_append] at hscan
    simp only [skipScalar, hword, if_neg hquote, if_pos hc, hscan]
  | @string t h =>
    refine ⟨'"', t ++ ['"'], rfl, by decide, fun rest _ => ?_⟩
    have hword : restOfWord? '"' = none := by decide
    simp only [skipScalar, hword, if_true]
    exact skipString_eq_ok_iff.mpr ⟨t, h, by simp⟩

-- ---------------------------------------------------------------------------
-- Passing over values
-- ---------------------------------------------------------------------------

/-- Goes on from where the passing over of a value has come to. -/
def resume : Except Fault Pending → Except Fault (List Char)
  | .error f => .error f
  | .ok (.done r) => .ok r
  | .ok (.value opened r) => skipWithin opened r

/-- Passing over inside brackets takes one step, and goes on from where it has come to. -/
theorem skipWithin_eq (opened : List Bracket) (s : List Char) :
    skipWithin opened s = resume (startValue opened s) := by
  rw [skipWithin]
  split <;> simp_all [resume]

/-- A closing bracket behind a value closes the innermost bracket. -/
theorem leaveValue_close {b : Bracket} {opened : List Bracket} {w : List Char} (hw : Blanks w)
    (s : List Char) :
    leaveValue (b :: opened) (w ++ b.closing :: s) = leaveValue opened s := by
  rw [leaveValue, readNext_blanks_close hw]

/-- A comma behind a value leads to the next one in the same bracket. -/
theorem leaveValue_more {b : Bracket} {opened : List Bracket} {w : List Char} (hw : Blanks w)
    (s : List Char) : leaveValue (b :: opened) (w ++ ',' :: s) = enterValue b opened s := by
  rw [leaveValue, readNext_blanks_comma hw]

/-- A value that starts with an opening bracket is entered. -/
theorem startValue_opening {b : Bracket} {opened : List Bracket} {w : List Char}
    (hw : Blanks w) (s : List Char) :
    startValue opened (w ++ b.opening :: s) = openBracket b opened s := by
  cases b with
  | square =>
    rw [Bracket.opening, startValue, skipBlank_blanks hw (by decide)]
    exact if_pos rfl
  | curly =>
    rw [Bracket.opening, startValue, skipBlank_blanks hw (by decide)]
    exact (if_neg (by decide)).trans (if_pos rfl)

/-- A key between blanks is passed over with its colon. -/
theorem skipKey_append {w t u : List Char} (hw : Blanks w) (ht : IsLiteral t) (hu : Blanks u)
    (s : List Char) : skipKey (w ++ '"' :: (t ++ '"' :: (u ++ ':' :: s))) = .ok s := by
  have hstring : skipString (t ++ '"' :: (u ++ ':' :: s)) = .ok (u ++ ':' :: s) :=
    skipString_eq_ok_iff.mpr ⟨t, ht, rfl⟩
  rw [skipKey, skipBlank_blanks hw (by decide)]
  simp only [if_true, hstring, readColon_blanks hu]

/-- What leads to a value leads to it, up to blanks. -/
theorem Entry.enterValue {b : Bracket} {e : List Char} (h : Entry b e) :
    ∃ w, Blanks w ∧ ∀ opened s,
      resume (enterValue b opened (e ++ s)) = skipWithin (b :: opened) (w ++ s) := by
  -- in an array only blanks lead to a value; in an object the key is passed over before it
  cases h with
  | square hw => exact ⟨e, hw, fun _ _ => rfl⟩
  | @curly w t u v hw ht hu hv =>
    refine ⟨v, hv, fun opened s => ?_⟩
    have hkey := skipKey_append hw ht hu (v ++ s)
    have hassoc : w ++ '"' :: (t ++ '"' :: (u ++ ':' :: v)) ++ s =
        w ++ '"' :: (t ++ '"' :: (u ++ ':' :: (v ++ s))) := by simp
    rw [hassoc, Json.enterValue, hkey]
    rfl

/-- A value starts with a character that closes no bracket. -/
theorem Wellformed.exists_cons {v : List Char} (h : Wellformed .value v) :
    ∃ c cs, v = c :: cs ∧ isBlank c = false ∧ c ≠ ']' ∧ c ≠ '\x7d' := by
  cases h with
  | scalar h =>
    obtain ⟨c, cs, rfl, ⟨hblank, -, -, hsquare, hcurly⟩, -⟩ := h.exists_cons
    exact ⟨c, cs, rfl, hblank, hsquare, hcurly⟩
  | @empty b w hw => exact ⟨b.opening, _, rfl, by cases b <;> decide⟩
  | @parts b e v t he hv ht => exact ⟨b.opening, _, rfl, by cases b <;> decide⟩

/-- Behind an opening bracket a value comes before the closing one. -/
theorem openBracket_entry {b : Bracket} {opened : List Bracket} {e v : List Char}
    (he : Entry b e) (hv : Wellformed .value v) (s : List Char) :
    openBracket b opened (e ++ (v ++ s)) = enterValue b opened (e ++ (v ++ s)) := by
  -- the first character behind the blanks is the value's own, or the quote of a key
  have hfirst : ∃ c cs, skipBlank (e ++ (v ++ s)) = c :: cs ∧ c ≠ b.closing := by
    cases he with
    | square hw =>
      obtain ⟨c, cs, rfl, hblank, hclose, -⟩ := hv.exists_cons
      exact ⟨c, cs ++ s, by rw [List.cons_append, skipBlank_blanks hw hblank], hclose⟩
    | curly hw =>
      rw [List.append_assoc]
      exact ⟨'"', _, skipBlank_blanks hw (by decide) _, by decide⟩
  obtain ⟨c, cs, heq, hclose⟩ := hfirst
  rw [openBracket, heq]
  exact if_neg hclose

/-- What passing over a text of some form comes to: behind it, and on as the open brackets
ask. -/
def Form.Skips : Form → List Char → Prop
  | .value, t => ∀ w opened rest, Blanks w → EndsNumber rest →
    skipWithin opened (w ++ (t ++ rest)) = resume (leaveValue opened rest)
  | .rest b, t => ∀ opened rest,
    resume (leaveValue (b :: opened) (t ++ rest)) = resume (leaveValue opened rest)

/-- Passing over a value inside any brackets comes to the place behind it. -/
theorem Wellformed.skips {form : Form} {t : List Char} (h : Wellformed form t) : form.Skips t := by
  -- on the grammar: a value is passed over in front of anything, and what stands behind one leaves
  -- its bracket
  induction h with
  | scalar h =>
    intro w opened rest hw hrest
    obtain ⟨c, cs, rfl, ⟨hblank, hsquare, hcurly, -, -⟩, hskip⟩ := h.exists_cons
    rw [skipWithin_eq, startValue, List.cons_append, skipBlank_blanks hw hblank]
    simp only [if_neg hsquare, if_neg hcurly, hskip rest hrest]
  | @empty b w' hw' =>
    intro w opened rest hw _
    have hclose : openBracket b opened (w' ++ b.closing :: rest) = leaveValue opened rest := by
      rw [openBracket, skipBlank_blanks hw' (isBlank_closing b)]
      exact if_pos rfl
    rw [skipWithin_eq, List.cons_append, List.append_assoc, startValue_opening hw,
      List.singleton_append, hclose]
  | @parts b e v t he _ ht ihv iht =>
    intro w opened rest hw _
    obtain ⟨w', hw', henter⟩ := he.enterValue
    -- the first value is passed over inside the new bracket, and what is behind it closes that
    rw [skipWithin_eq, List.cons_append, startValue_opening hw, List.append_assoc,
      List.append_assoc, openBracket_entry he ‹_›, henter,
      ihv w' (b :: opened) (t ++ rest) hw' (endsNumber_rest ht rest), iht opened rest]
  | close hw =>
    intro opened rest
    rw [List.append_assoc, List.singleton_append, leaveValue_close hw]
  | @more b w e v t hw he _ ht ihv iht =>
    intro opened rest
    obtain ⟨w', hw', henter⟩ := he.enterValue
    rw [List.append_assoc, List.cons_append, leaveValue_more hw, List.append_assoc,
      List.append_assoc, henter, ihv w' (b :: opened) (t ++ rest) hw' (endsNumber_rest ht rest),
      iht opened rest]

/-- A value is passed over, and no more than the value. -/
theorem skipValue_of_wellformed {w v rest : List Char} (hw : Blanks w)
    (hv : Wellformed .value v) (hrest : EndsNumber rest) :
    skipValue (w ++ (v ++ rest)) = .ok rest :=
  hv.skips w [] rest hw hrest

end ChainParams.Json
