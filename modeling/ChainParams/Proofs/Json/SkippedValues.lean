import ChainParams.Proofs.Json.ValueGrammar

/-!
# ChainParams — what is passed over is a value

A member with an unknown key is passed over without being read, and yet nothing passes that is
no JSON value. The machine that does it knows the open brackets and nothing else, so what it has
passed over is judged by what these still ask for: `Closes` lists the texts that close them, and
a stop at an inner value has the right text behind it if *whatever* value and closing come next
make up what was wanted (`StopsAt`). Each step of the machine keeps that, for the brackets that
are open before it and after it (`Passes`).

## Results

* `passes_of_startValue`            — one step of the machine.
* `closesBehindValue_of_skipWithin` — its run, inside any brackets.
* `exists_wellformed_of_skipValue`  — what is passed over is a value behind blanks.
-/

namespace ChainParams.Json

-- ---------------------------------------------------------------------------
-- What open brackets ask for
-- ---------------------------------------------------------------------------

/-- The texts that close the given brackets, the innermost one first, from behind a value. -/
inductive Closes : List Bracket → List Char → Prop
  | nil : Closes [] []
  | cons {b : Bracket} {opened : List Bracket} {t u : List Char} (ht : Wellformed (.rest b) t)
    (hu : Closes opened u) : Closes (b :: opened) (t ++ u)

/-- Whether a text stops at a value from which on a value inside some brackets, and what closes
these, make what is wanted of the whole. -/
def StopsAt (inner : List Bracket) (wanted : List Char → Prop) (x : List Char) : Prop :=
  ∀ w v u, Blanks w → Wellformed .value v → Closes inner u → wanted (x ++ (w ++ (v ++ u)))

/-- What has been passed over on the way to where it has come to. -/
def Passes (wanted : List Char → Prop) (s : List Char) : Pending → Prop
  | .done r => ∃ x, wanted x ∧ s = x ++ r
  | .value inner r => ∃ x, StopsAt inner wanted x ∧ s = x ++ r

/-- What is passed over first may be put in front. -/
theorem Passes.prepend {wanted wanted' : List Char → Prop} {t s : List Char} {p : Pending}
    (h : Passes wanted s p) (hw : ∀ x, wanted x → wanted' (t ++ x)) :
    Passes wanted' (t ++ s) p := by
  cases p with
  | done r =>
    obtain ⟨x, hx, rfl⟩ := h
    exact ⟨t ++ x, hw x hx, by rw [List.append_assoc]⟩
  | value inner r =>
    obtain ⟨x, hx, rfl⟩ := h
    refine ⟨t ++ x, fun w v u hblanks hv hu => ?_, by rw [List.append_assoc]⟩
    rw [List.append_assoc]
    exact hw _ (hx w v u hblanks hv hu)

-- ---------------------------------------------------------------------------
-- Steps
-- ---------------------------------------------------------------------------

/-- A key that is passed over is a string between blanks, with a colon behind it. -/
theorem exists_literal_of_skipKey {s r : List Char} (h : skipKey s = .ok r) :
    ∃ w t u, Blanks w ∧ IsLiteral t ∧ Blanks u ∧ s = w ++ '"' :: (t ++ '"' :: (u ++ ':' :: r)) := by
  unfold skipKey at h
  split at h
  · cases h
  · next c s hs =>
    obtain ⟨w, hw, -, rfl⟩ := exists_blanks_of_skipBlank hs
    split at h
    · next hc =>
      split at h
      · cases h
      · next t ht =>
        obtain ⟨l, hl, rfl⟩ := skipString_eq_ok_iff.mp ht
        obtain ⟨u, hu, rfl⟩ := readColon_eq_ok h
        exact ⟨w, l, u, hw, hl, hu, by rw [hc]⟩
    · cases h

/-- Entering a bracket stops at a value behind what leads to it. -/
theorem passes_of_enterValue {b : Bracket} {opened : List Bracket} {s : List Char} {p : Pending}
    {wanted : List Char → Prop} (h : enterValue b opened s = .ok p)
    (hw : ∀ e v t u, Entry b e → Wellformed .value v → Wellformed (.rest b) t →
      Closes opened u → wanted (e ++ (v ++ (t ++ u)))) : Passes wanted s p := by
  -- an array leads to its value by nothing, an object by a key and a colon
  cases b with
  | square =>
    cases h
    refine ⟨[], fun w v u hblanks hv hu => ?_, rfl⟩
    cases hu with
    | cons ht hu => exact hw w v _ _ (.square hblanks) hv ht hu
  | curly =>
    obtain ⟨r, hr, rfl⟩ := map_eq_ok_iff.mp h
    obtain ⟨w', l, u', hw', hl, hu', rfl⟩ := exists_literal_of_skipKey hr
    refine ⟨w' ++ '"' :: (l ++ '"' :: (u' ++ [':'])), fun w v u hblanks hv hu => ?_, by simp⟩
    cases hu with
    | @cons _ _ t u ht hu =>
      -- the blanks before the value belong to what leads to it
      have hassoc : w' ++ '"' :: (l ++ '"' :: (u' ++ [':'])) ++ (w ++ (v ++ (t ++ u))) =
          w' ++ '"' :: (l ++ '"' :: (u' ++ ':' :: w)) ++ (v ++ (t ++ u)) := by simp
      rw [hassoc]
      exact hw _ v t u (.curly hw' hl hu' hblanks) hv ht hu

/-- Behind a value the open brackets are closed one by one, up to a further value in one of them. -/
theorem passes_of_leaveValue {opened : List Bracket} {s : List Char} {p : Pending}
    (h : leaveValue opened s = .ok p) : Passes (Closes opened) s p := by
  -- on the open brackets: closing the innermost one goes on with those around it
  induction opened generalizing s with
  | nil =>
    cases h
    exact ⟨[], .nil, rfl⟩
  | cons b opened ih =>
    rw [leaveValue] at h
    split at h
    · cases h
    · next r hn =>
      obtain ⟨w, hw, ⟨-, rfl⟩ | ⟨hmore, -⟩⟩ := readNext_eq_ok hn
      · -- a closing bracket: that closes the innermost, and the rest closes the others
        rw [List.append_cons]
        exact (ih h).prepend fun x hx => .cons (.close hw) hx
      · cases hmore
    · next r hn =>
      obtain ⟨w, hw, ⟨hclose, -⟩ | ⟨-, rfl⟩⟩ := readNext_eq_ok hn
      · cases hclose
      · -- a comma: the value behind it and what closes its bracket are the rest of that bracket
        rw [List.append_cons]
        have hpasses : Passes (fun x => Closes (b :: opened) (w ++ [','] ++ x)) r p := by
          refine passes_of_enterValue h fun e v t u he hv ht hu => ?_
          have hassoc : w ++ [','] ++ (e ++ (v ++ (t ++ u))) =
              w ++ ',' :: (e ++ (v ++ t)) ++ u := by simp
          rw [hassoc]
          exact .cons (.more hw he hv ht) hu
        exact hpasses.prepend fun x hx => hx

/-- A value behind blanks, and what closes the given brackets. -/
def ClosesBehindValue (opened : List Bracket) (s : List Char) : Prop :=
  ∃ w v u, Blanks w ∧ Wellformed .value v ∧ Closes opened u ∧ s = w ++ (v ++ u)

theorem ClosesBehindValue.of_wellformed {opened : List Bracket} {w v u : List Char}
    (hw : Blanks w) (hv : Wellformed .value v) (hu : Closes opened u) :
    ClosesBehindValue opened (w ++ (v ++ u)) :=
  ⟨w, v, u, hw, hv, hu, rfl⟩

/-- What is passed over without entering a bracket is a scalar. -/
theorem exists_scalar_of_skipScalar {c : Char} {s r : List Char} (h : skipScalar c s = .ok r) :
    ∃ t, IsScalar (c :: t) ∧ s = t ++ r := by
  -- the first character tells a word, a string or a number, in that order
  unfold skipScalar at h
  split at h
  · next word hword =>
    have hs := eq_append_of_expectWord h
    unfold restOfWord? at hword
    split_ifs at hword with hn ht hf <;> cases hword
    · exact ⟨_, by rw [hn]; exact .null, hs⟩
    · exact ⟨_, by rw [ht]; exact .yes, hs⟩
    · exact ⟨_, by rw [hf]; exact .no, hs⟩
  · split at h
    · next hc =>
      obtain ⟨t, ht, rfl⟩ := skipString_eq_ok_iff.mp h
      exact ⟨t ++ ['"'], by rw [hc]; exact .string ht, by simp⟩
    · split at h
      · split at h
        · next n r' hscan =>
          cases h
          obtain ⟨t, ht, htrim, heq⟩ := Numeral.exists_spells_of_scan hscan
          obtain ⟨c', cs, rfl, -⟩ := ht.exists_cons
          obtain ⟨rfl, rfl⟩ := List.cons.inj heq
          exact ⟨cs, .number ⟨n, ht, htrim⟩, rfl⟩
        · cases h
      · cases h

/-- Behind an opening bracket its closing one follows, or the first of its values. -/
theorem passes_of_openBracket {b : Bracket} {opened : List Bracket} {s : List Char} {p : Pending}
    (h : openBracket b opened s = .ok p) :
    Passes (ClosesBehindValue opened) (b.opening :: s) p := by
  unfold openBracket at h
  split at h
  · cases h
  · next c t hs =>
    split at h
    · next hc =>
      obtain ⟨w, hw, -, rfl⟩ := exists_blanks_of_skipBlank hs
      rw [hc, List.append_cons]
      -- an empty bracket is a value by itself
      refine (passes_of_leaveValue h).prepend (t := b.opening :: (w ++ [b.closing])) fun x hx => ?_
      exact .of_wellformed blanks_nil (.empty hw) hx
    · -- the first value and the rest of the bracket make up one with the opening
      have hpasses : Passes (fun x => ClosesBehindValue opened ([b.opening] ++ x)) s p := by
        refine passes_of_enterValue h fun e v t u he hv ht hu => ?_
        have hassoc : [b.opening] ++ (e ++ (v ++ (t ++ u))) =
            b.opening :: (e ++ (v ++ t)) ++ u := by simp
        rw [hassoc]
        exact .of_wellformed blanks_nil (.parts he hv ht) hu
      exact hpasses.prepend fun x hx => hx

/-- Starting a value passes over it, or over what leads to the first value in it. -/
theorem passes_of_startValue {opened : List Bracket} {s : List Char} {p : Pending}
    (h : startValue opened s = .ok p) : Passes (ClosesBehindValue opened) s p := by
  have hblanks {w x : List Char} (hw : Blanks w) (hx : ClosesBehindValue opened x) :
      ClosesBehindValue opened (w ++ x) := by
    obtain ⟨w', v, u, hw', hv, hu, rfl⟩ := hx
    rw [← List.append_assoc]
    refine .of_wellformed (fun c hc => ?_) hv hu
    rcases List.mem_append.mp hc with hc | hc
    · exact hw c hc
    · exact hw' c hc
  unfold startValue at h
  split at h
  · cases h
  · next c t hs =>
    obtain ⟨w, hw, -, rfl⟩ := exists_blanks_of_skipBlank hs
    split at h
    · next hc =>
      rw [hc]
      exact (passes_of_openBracket h).prepend fun x => hblanks hw
    · split at h
      · next hc =>
        rw [hc]
        exact (passes_of_openBracket h).prepend fun x => hblanks hw
      · split at h
        · cases h
        · next r hr =>
          obtain ⟨l, hl, rfl⟩ := exists_scalar_of_skipScalar hr
          rw [← List.cons_append]
          -- a scalar is a whole value, so the brackets around it go on at once
          have hpasses := (passes_of_leaveValue h).prepend (t := c :: l)
            fun x hx => ClosesBehindValue.of_wellformed blanks_nil (.scalar hl) hx
          exact hpasses.prepend fun x => hblanks hw

-- ---------------------------------------------------------------------------
-- Runs
-- ---------------------------------------------------------------------------

/-- What is passed over inside brackets is a value, and what closes them. -/
theorem closesBehindValue_of_skipWithin {opened : List Bracket} {s r : List Char}
    (h : skipWithin opened s = .ok r) : ∃ x, ClosesBehindValue opened x ∧ s = x ++ r := by
  -- along the run: a step that stops at an inner value hands over to the next one there
  fun_induction skipWithin opened s with
  | case1 => cases h
  | case2 opened s t ht =>
    cases h
    exact passes_of_startValue ht
  | case3 opened s inner t ht _ ih =>
    -- the run from the inner value on supplies the value the step was waiting for
    obtain ⟨x, hx, rfl⟩ := passes_of_startValue ht
    obtain ⟨_, ⟨w, v, u, hw, hv, hu, rfl⟩, rfl⟩ := ih h
    exact ⟨x ++ (w ++ (v ++ u)), hx w v u hw hv hu, by simp⟩

/-- What is passed over is a value behind blanks. -/
theorem exists_wellformed_of_skipValue {s r : List Char} (h : skipValue s = .ok r) :
    ∃ w v, Blanks w ∧ Wellformed .value v ∧ s = w ++ (v ++ r) := by
  obtain ⟨_, ⟨w, v, u, hw, hv, hu, rfl⟩, rfl⟩ := closesBehindValue_of_skipWithin h
  -- no bracket is open around the whole, so nothing is left to close
  cases hu with
  | nil => exact ⟨w, v, hw, hv, by simp⟩

end ChainParams.Json
