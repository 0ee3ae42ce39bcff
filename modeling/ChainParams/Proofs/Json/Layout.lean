import ChainParams.Proofs.Json.Regular

/-!
# ChainParams — the layout of arrays and objects

Arrays and objects are laid out alike: parts with commas between them, blanks anywhere, and a
bracket around. `Bracketed` is that layout for parts of any kind. A list is read from an array
of values that are read, whatever the layout, and from nothing else; so lists of a regular
reader are read by a regular one.

## Results

* `Bracketed`                        — parts in a bracket, in any layout.
* `Reader.Regular.readList_eq_ok_iff` — lists in any layout.
* `Reader.Regular.list`              — the reader of lists is regular.
-/

namespace ChainParams.Json

variable {α β : Type}

-- ---------------------------------------------------------------------------
-- Brackets
-- ---------------------------------------------------------------------------

/-- What stands behind a part inside a bracket: further parts and the closing character. -/
inductive Parts (b : Bracket) (IsPart : β → List Char → Prop) : List β → List Char → Prop
  | close {w : List Char} (hw : Blanks w) : Parts b IsPart [] (w ++ [b.closing])
  | more {w p t : List Char} {x : β} {xs : List β} (hw : Blanks w) (hp : IsPart x p)
    (ht : Parts b IsPart xs t) : Parts b IsPart (x :: xs) (w ++ ',' :: (p ++ t))

/-- A bracket with parts in it. -/
inductive Bracketed (b : Bracket) (IsPart : β → List Char → Prop) : List β → List Char → Prop
  | empty {w : List Char} (hw : Blanks w) :
    Bracketed b IsPart [] (b.opening :: (w ++ [b.closing]))
  | parts {p t : List Char} {x : β} {xs : List β} (hp : IsPart x p) (ht : Parts b IsPart xs t) :
    Bracketed b IsPart (x :: xs) (b.opening :: (p ++ t))

/-- A value in an array, behind blanks. -/
def IsItem (v p : List Char) : Prop :=
  ∃ w, Blanks w ∧ StartsValue v ∧ p = w ++ v

/-- An array of values, which are given by their texts. -/
def IsArray : List (List Char) → List Char → Prop :=
  Bracketed .square IsItem

variable {b : Bracket} {IsPart : β → List Char → Prop} {xs : List β} {t : List Char}

/-- What stands behind a part does not go on with a number. -/
theorem Parts.endsNumber (h : Parts b IsPart xs t) (rest : List Char) : EndsNumber (t ++ rest) := by
  -- a bracket or a comma comes behind the blanks
  cases h with
  | close hw =>
    rw [List.append_assoc]
    exact endsNumber_blanks hw (by cases b <;> decide)
  | more hw hp ht =>
    rw [List.append_assoc]
    exact endsNumber_blanks hw (by decide)

/-- The first character is the opening bracket. -/
theorem Bracketed.exists_cons (h : Bracketed b IsPart xs t) : ∃ s, t = b.opening :: s := by
  cases h with
  | empty hw => exact ⟨_, rfl⟩
  | parts hp ht => exact ⟨_, rfl⟩

/-- The last character is the closing bracket, however many parts there are. -/
theorem Parts.exists_concat (h : Parts b IsPart xs t) : ∃ s, t = s ++ [b.closing] := by
  induction h with
  | @close w hw => exact ⟨w, rfl⟩
  | @more w p t x xs hw hp ht ih =>
    obtain ⟨s, rfl⟩ := ih
    exact ⟨w ++ ',' :: (p ++ s), by simp⟩

/-- The last character of the whole is the closing bracket. -/
theorem Bracketed.exists_concat (h : Bracketed b IsPart xs t) : ∃ s, t = s ++ [b.closing] := by
  cases h with
  | @empty w hw => exact ⟨b.opening :: w, rfl⟩
  | @parts p t x xs hp ht =>
    obtain ⟨s, rfl⟩ := ht.exists_concat
    exact ⟨b.opening :: (p ++ s), by simp⟩

/-- A bracket is no blank, so it is found behind blanks. -/
theorem isBlank_opening (b : Bracket) : isBlank b.opening = false := by
  cases b <;> decide

/-- What stands in a bracket is a value from its first character on. -/
theorem Bracketed.startsValue (h : Bracketed b IsPart xs t) : StartsValue t := by
  obtain ⟨s, rfl⟩ := h.exists_cons
  exact ⟨b.opening, s, rfl, isBlank_opening b, by cases b <;> decide⟩

/-- Behind blanks a value is in sight, and it is not the end of an array. -/
theorem skipBlank_startsValue {w v : List Char} (hw : Blanks w) (hv : StartsValue v)
    (s : List Char) : ∃ c cs, skipBlank (w ++ (v ++ s)) = c :: cs ∧ c ≠ ']' := by
  obtain ⟨c, cs, rfl, hblank, hclose⟩ := hv
  exact ⟨c, cs ++ s, skipBlank_blanks hw hblank _, hclose⟩

namespace Reader

variable {reader : Reader α}

-- ---------------------------------------------------------------------------
-- Lists
-- ---------------------------------------------------------------------------

/-- What follows an element is read if it is laid out as elements that are read, and it is
never read otherwise. -/
theorem Regular.readItems_eq_ok_iff (h : reader.Regular) {s r : List Char} {as : List α} :
    readItems reader s = .ok (as, r) ↔
      ∃ vs t, Parts .square IsItem vs t ∧ List.Forall₂ reader.Reads vs as ∧ s = t ++ r := by
  constructor
  · intro hread
    -- along the reader's own recursion: each call takes one element off the text
    fun_induction readItems reader s generalizing as with
    | case1 => cases hread
    | case2 s t hn =>
      cases hread
      obtain ⟨w, hw, ⟨-, rfl⟩ | ⟨hmore, -⟩⟩ := readNext_eq_ok hn
      · exact ⟨[], w ++ [']'], .close hw, .nil, by simp⟩
      · cases hmore
    | case3 => cases hread
    | case4 s t hn a u hr _ ih =>
      obtain ⟨w, hw, ⟨hclose, -⟩ | ⟨-, rfl⟩⟩ := readNext_eq_ok hn
      · cases hclose
      · obtain ⟨⟨bs, r⟩, hread, heq⟩ := map_eq_ok_iff.mp hread
        cases heq
        -- a regular reader has consumed blanks and the text of one value
        obtain ⟨w', v, hw', hv, rfl, hreads⟩ := h.takes hr
        obtain ⟨vs, t', ht', hvs, rfl⟩ := ih hread
        exact ⟨v :: vs, w ++ ',' :: (w' ++ v ++ t'), .more hw ⟨w', hw', hv, rfl⟩ ht',
          .cons hreads hvs, by simp⟩
  · rintro ⟨vs, t, ht, hvs, rfl⟩
    -- along the layout, element by element
    induction ht generalizing as with
    | close hw =>
      cases hvs
      rw [List.append_assoc]
      exact readItems_close (readNext_blanks_close (b := .square) hw r)
    | @more w p t v vs hw hp ht ih =>
      obtain ⟨w', hw', -, rfl⟩ := hp
      cases hvs with
      | cons hread hvs =>
        have hrun := h.run_append hw' hread (ht.endsNumber r)
        rw [List.append_assoc, List.cons_append, List.append_assoc, List.append_assoc,
          readItems_more (readNext_blanks_comma (b := .square) hw _) hrun, ih hvs]
        rfl

/-- A list is read from an array of elements that are read, in any layout, and from nothing
else. -/
theorem Regular.readList_eq_ok_iff (h : reader.Regular) {s r : List Char} {as : List α} :
    readList reader s = .ok (as, r) ↔
      ∃ w vs t, Blanks w ∧ IsArray vs t ∧ List.Forall₂ reader.Reads vs as ∧ s = w ++ (t ++ r) := by
  constructor
  · intro hread
    unfold readList at hread
    -- the bracket, then the end of the list or its first element
    split at hread
    · cases hread
    · next c s hs =>
      obtain ⟨w, hw, -, rfl⟩ := exists_blanks_of_skipBlank hs
      split at hread
      · next hc =>
        subst hc
        unfold readListBody at hread
        split at hread
        · cases hread
        · next c s' hs' =>
          obtain ⟨w', hw', -, heq⟩ := exists_blanks_of_skipBlank hs'
          split at hread
          · next hc =>
            cases hread
            exact ⟨w, [], _, hw, .empty hw', .nil, by rw [heq, hc]; simp [Bracket.opening,
              Bracket.closing]⟩
          · split at hread
            · cases hread
            · next a u hr =>
              obtain ⟨⟨bs, r⟩, hitems, heq⟩ := map_eq_ok_iff.mp hread
              cases heq
              obtain ⟨x, v, hx, hv, rfl, hreads⟩ := h.takes hr
              obtain ⟨vs, t, ht, hvs, rfl⟩ := h.readItems_eq_ok_iff.mp hitems
              exact ⟨w, v :: vs, _, hw, .parts ⟨x, hx, hv, rfl⟩ ht, .cons hreads hvs,
                by simp [Bracket.opening]⟩
      · cases hread
  · rintro ⟨w, vs, t, hw, ht, hvs, rfl⟩
    cases ht with
    | @empty w' hw' =>
      cases hvs
      -- an empty array
      have hclose : skipBlank (w' ++ ']' :: r) = ']' :: r := skipBlank_blanks hw' (by decide) r
      rw [List.cons_append, List.append_assoc, readList, skipBlank_blanks hw (by decide)]
      refine (if_pos rfl).trans ?_
      rw [List.singleton_append, Bracket.closing, readListBody, hclose]
      exact if_pos rfl
    | @parts p t v vs hp ht =>
      obtain ⟨x, hx, hv, rfl⟩ := hp
      cases hvs with
      | cons hread hvs =>
        -- an element is in sight where the closing bracket would be
        obtain ⟨c, cs, hskip, hclose⟩ := skipBlank_startsValue hx hv (t ++ r)
        have hrun := h.run_append hx hread (ht.endsNumber r)
        have hitems := h.readItems_eq_ok_iff (r := r) |>.mpr ⟨vs, t, ht, hvs, rfl⟩
        rw [List.cons_append, List.append_assoc, readList, skipBlank_blanks hw (by decide)]
        refine (if_pos rfl).trans ?_
        rw [List.append_assoc, readListBody, hskip]
        simp only [if_neg hclose, hrun, hitems]
        rfl

/-- The reader of lists of a regular reader is regular. -/
theorem Regular.list (h : reader.Regular) : (list reader).Regular where
  blanks {w} s hw := by
    show readList reader (w ++ s) = readList reader s
    rw [readList, skipBlank_append hw, ← readList]
  takes {s r as} hread := by
    obtain ⟨w, vs, t, hw, ht, hvs, rfl⟩ := h.readList_eq_ok_iff.mp hread
    refine ⟨w, t, hw, ht.startsValue, rfl, fun rest _ => ?_⟩
    exact h.readList_eq_ok_iff.mpr ⟨[], vs, t, blanks_nil, ht, hvs, rfl⟩

end Reader

end ChainParams.Json
