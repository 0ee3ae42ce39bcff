import ChainParams.Proofs.Json.Layout

/-!
# ChainParams — records in any layout

What a record is read from, whatever its layout: an object whose members lead from the empty
draft to a full one, or an array whose elements do. A member leads on if its key is that of a
field that the draft does not have yet and the field reads its value, or if its key is unknown
and its value is any value at all.

`Leads` is about members and not about characters. Whatever has to be said about their order
or number is said about it, and the two directions of `readAsEither_eq_ok_iff` carry it over to
texts.

## Results

* `Record.readAsEither_eq_ok_iff` — both written forms of a record.
* `Record.readArray_refused`      — arrays with an element that its field refuses.
* `Record.regular_reader`         — the reader of a record is regular.
* `Record.delimited_reader`       — and its value ends with a bracket of its own.
-/

namespace ChainParams.Json

variable {σ α β : Type}

/-- What stands behind the opening quote of a member, which is given by its key and the text of
its value: the key, in any spelling, and the value. -/
def IsMemberBody (m : String × List Char) (p : List Char) : Prop :=
  ∃ t u x, SpellsText t m.1.toList ∧ Blanks u ∧ Blanks x ∧
    p = t ++ '"' :: (u ++ ':' :: (x ++ m.2))

/-- A member of an object. -/
def IsMember (m : String × List Char) (p : List Char) : Prop :=
  ∃ w q, Blanks w ∧ IsMemberBody m q ∧ p = w ++ '"' :: q

/-- An object, given by its members. -/
def IsObject : List (String × List Char) → List Char → Prop :=
  Bracketed .curly IsMember

/-- The quote that opens a key is found behind any blanks. -/
theorem openKey_blanks {w : List Char} (hw : Blanks w) (s : List Char) :
    openKey (w ++ '"' :: s) = .ok s := by
  rw [openKey, skipBlank_blanks hw (by decide)]
  rfl

/-- Nothing but blanks is dropped in front of a key. -/
theorem openKey_eq_ok {s r : List Char} (h : openKey s = .ok r) :
    ∃ w, Blanks w ∧ s = w ++ '"' :: r := by
  unfold openKey at h
  split at h
  · cases h
  · next c t hs =>
    obtain ⟨w, hw, -, rfl⟩ := exists_blanks_of_skipBlank hs
    split at h
    · next hc =>
      cases h
      exact ⟨w, hw, by rw [hc]⟩
    · cases h

/-- The key of a member is read, and its value stands behind the colon. -/
theorem IsMemberBody.readString {m : String × List Char} {q : List Char} (h : IsMemberBody m q)
    (r : List Char) : ∃ u x, Blanks u ∧ Blanks x ∧
      Json.readString (q ++ r) = .ok (m.1.toList, u ++ ':' :: (x ++ (m.2 ++ r))) := by
  obtain ⟨t, u, x, ht, hu, hx, rfl⟩ := h
  exact ⟨u, x, hu, hx, readString_eq_ok_iff.mpr ⟨t, ht, by simp⟩⟩

/-- A reader whose values end with a character of their own: it has no need to look further, so
what follows may be anything. -/
def Reader.Delimited (reader : Reader α) : Prop :=
  ∀ {s r : List Char} {a : α}, reader.run s = .ok (a, r) →
    ∃ u c, isBlank c = false ∧ s = u ++ c :: r ∧
      ∀ rest, reader.run (u ++ c :: rest) = .ok (a, rest)

namespace Record

-- ---------------------------------------------------------------------------
-- What members do to a draft
-- ---------------------------------------------------------------------------

/-- What one member does to a draft. -/
inductive Takes (fields : List (Field σ)) (draft : σ) : String × List Char → σ → Prop
  | known {field : Field σ} {key : String} {v : List Char} {put : σ → σ}
      (hfield : fields.find? (fun field => field.key == key) = some field)
      (hnew : field.present draft = false) (hvalue : field.value.Reads v put) :
      Takes fields draft (key, v) (put draft)
  | unknown {key : String} {v : List Char}
      (hfield : fields.find? (fun field => field.key == key) = none)
      (hv : Wellformed .value v) : Takes fields draft (key, v) draft

/-- Members that lead from one draft to another. -/
inductive Leads (fields : List (Field σ)) : σ → List (String × List Char) → σ → Prop
  | nil (draft : σ) : Leads fields draft [] draft
  | cons {draft next out : σ} {m : String × List Char} {ms : List (String × List Char)}
      (hm : Takes fields draft m next) (hms : Leads fields next ms out) :
      Leads fields draft (m :: ms) out

/-- Values that lead from one draft to another, one for each field in order, though not
necessarily for all of them. -/
inductive LeadsInOrder : List (Field σ) → σ → List (List Char) → σ → Prop
  | nil (fields : List (Field σ)) (draft : σ) : LeadsInOrder fields draft [] draft
  | cons {field : Field σ} {fields : List (Field σ)} {v : List Char} {vs : List (List Char)}
      {draft out : σ} {put : σ → σ} (hvalue : field.value.Reads v put)
      (hvs : LeadsInOrder fields (put draft) vs out) :
      LeadsInOrder (field :: fields) draft (v :: vs) out

/-- Values for fields in order, of which the first that is not read is refused. -/
inductive RefusesInOrder : List (Field σ) → List (List Char) → Prop
  | here {field : Field σ} {fields : List (Field σ)} {v : List Char} {vs : List (List Char)}
      (hvalue : field.value.Rejects v) : RefusesInOrder (field :: fields) (v :: vs)
  | later {field : Field σ} {fields : List (Field σ)} {v : List Char} {vs : List (List Char)}
      {put : σ → σ} (hvalue : field.value.Reads v put) (hvs : RefusesInOrder fields vs) :
      RefusesInOrder (field :: fields) (v :: vs)

variable {fields : List (Field σ)} {draft next out : σ} {s r : List Char}

-- ---------------------------------------------------------------------------
-- Objects
-- ---------------------------------------------------------------------------

/-- A member that leads on is read, from behind the opening quote of its key. -/
theorem Takes.readMember {m : String × List Char} (h : Takes fields draft m next)
    (hregular : ∀ field ∈ fields, field.value.Regular) {q : List Char} (hq : IsMemberBody m q)
    (hr : EndsNumber r) : readMember fields draft (q ++ r) = .ok (next, r) := by
  obtain ⟨u, x, hu, hx, hkey⟩ := hq.readString r
  rw [Record.readMember, hkey]
  cases h with
  | @known field key v put hfield hnew hvalue =>
    have hrun := (hregular field (List.mem_of_find?_eq_some hfield)).run_append hx hvalue hr
    simp only [String.ofList_toList, hfield, hnew, Bool.false_eq_true, if_false,
      readColon_blanks hu, hrun]
    rfl
  | unknown hfield hv =>
    have hskip := skipValue_of_wellformed hx hv hr
    simp only [String.ofList_toList, hfield, readColon_blanks hu, hskip]
    rfl

/-- What is read as a member is one that leads on. -/
theorem takes_of_readMember (hregular : ∀ field ∈ fields, field.value.Regular)
    (h : readMember fields draft s = .ok (next, r)) :
    ∃ m q, IsMemberBody m q ∧ Takes fields draft m next ∧ s = q ++ r := by
  unfold readMember at h
  -- the reader's own cases: a key that is not read, one of a field, one of no field
  split at h
  · cases h
  · next cs s' hkey =>
    obtain ⟨t, ht, rfl⟩ := readString_eq_ok_iff.mp hkey
    have ht' : SpellsText t (String.ofList cs).toList := by rw [String.toList_ofList]; exact ht
    split at h
    · next field hfield =>
      split at h
      · cases h
      · -- a key that comes again has been refused, so the field was missing until here
        next hnew =>
        rw [Bool.not_eq_true] at hnew
        split at h
        · cases h
        · next s'' hcolon =>
          obtain ⟨u, hu, rfl⟩ := readColon_eq_ok hcolon
          obtain ⟨⟨put, r'⟩, hread, heq⟩ := map_eq_ok_iff.mp h
          cases heq
          obtain ⟨x, v, hx, -, rfl, hvalue⟩ :=
            (hregular field (List.mem_of_find?_eq_some hfield)).takes hread
          exact ⟨(_, v), _, ⟨t, u, x, ht', hu, hx, rfl⟩, .known hfield hnew hvalue, by simp⟩
    · next hfield =>
      split at h
      · cases h
      · next s'' hcolon =>
        obtain ⟨u, hu, rfl⟩ := readColon_eq_ok hcolon
        obtain ⟨r', hskip, heq⟩ := map_eq_ok_iff.mp h
        cases heq
        -- what an unknown key stands for is passed over, and that makes it a value
        obtain ⟨x, v, hx, hv, rfl⟩ := exists_wellformed_of_skipValue hskip
        exact ⟨(_, v), _, ⟨t, u, x, ht', hu, hx, rfl⟩, .unknown hfield hv, by simp⟩

/-- What follows a member is read if it is laid out as members that lead on, and never
otherwise. -/
theorem readMembers_eq_ok_iff (hregular : ∀ field ∈ fields, field.value.Regular) :
    readMembers fields draft s = .ok (out, r) ↔
      ∃ ms t, Parts .curly IsMember ms t ∧ Leads fields draft ms out ∧ s = t ++ r := by
  constructor
  · intro h
    -- along the reader's own recursion: each call takes one member off the text
    fun_induction readMembers fields draft s with
    | case1 => cases h
    | case2 draft s t hn =>
      cases h
      obtain ⟨w, hw, ⟨-, rfl⟩ | ⟨hmore, -⟩⟩ := readNext_eq_ok hn
      · exact ⟨[], w ++ ['\x7d'], .close hw, .nil _, by simp⟩
      · cases hmore
    | case3 => cases h
    | case4 => cases h
    | case5 draft s t hn u hk next v hm _ ih =>
      obtain ⟨ms, p, hp, hms, rfl⟩ := ih h
      obtain ⟨m, q, hq, htakes, rfl⟩ := takes_of_readMember hregular hm
      obtain ⟨w, hw, ⟨hclose, -⟩ | ⟨-, rfl⟩⟩ := readNext_eq_ok hn
      · cases hclose
      · obtain ⟨w', hw', rfl⟩ := openKey_eq_ok hk
        exact ⟨m :: ms, _, .more hw ⟨w', q, hw', hq, rfl⟩ hp, .cons htakes hms, by simp⟩
  · rintro ⟨ms, t, ht, hms, rfl⟩
    -- along the layout, for every draft, since each member changes it
    induction ht generalizing draft with
    | close hw =>
      cases hms
      rw [List.append_assoc]
      exact readMembers_close (readNext_blanks_close (b := .curly) hw r)
    | @more w p t m ms hw hp ht ih =>
      obtain ⟨w', q, hw', hq, rfl⟩ := hp
      cases hms with
      | cons hm hms =>
        have hmember := hm.readMember hregular hq (ht.endsNumber r)
        simp only [List.append_assoc, List.cons_append]
        rw [readMembers_more (readNext_blanks_comma (b := .curly) hw _) (openKey_blanks hw' _)
          hmember, ih hms]

/-- The object form is read, from behind its opening bracket, exactly if its members lead on. -/
theorem readObject_eq_ok_iff (hregular : ∀ field ∈ fields, field.value.Regular) :
    readObject fields draft s = .ok (out, r) ↔
      ∃ ms t, IsObject ms ('\x7b' :: t) ∧ Leads fields draft ms out ∧ s = t ++ r := by
  constructor
  · intro h
    unfold readObject at h
    split at h
    · cases h
    · next c s' hs =>
      obtain ⟨w, hw, -, rfl⟩ := exists_blanks_of_skipBlank hs
      split at h
      · next hc =>
        cases h
        -- an object without members
        exact ⟨[], w ++ ['\x7d'], .empty hw, .nil _, by rw [hc]; simp⟩
      · split at h
        · next hc =>
          split at h
          · cases h
          · next next v hm =>
            -- the first member has no comma in front; the others are what is behind it
            obtain ⟨m, q, hq, htakes, rfl⟩ := takes_of_readMember hregular hm
            obtain ⟨ms, p, hp, hms, rfl⟩ := (readMembers_eq_ok_iff hregular).mp h
            exact ⟨m :: ms, _, .parts ⟨w, q, hw, hq, rfl⟩ hp, .cons htakes hms,
              by rw [hc]; simp⟩
        · cases h
  · rintro ⟨ms, t, ht, hms, rfl⟩
    cases ht with
    | @empty w hw =>
      cases hms
      have hclose : skipBlank (w ++ '\x7d' :: r) = '\x7d' :: r :=
        skipBlank_blanks hw (by decide) r
      rw [List.append_assoc, List.singleton_append, Bracket.closing, readObject, hclose]
      exact if_pos rfl
    | @parts p t m ms hp ht =>
      obtain ⟨w, q, hw, hq, rfl⟩ := hp
      cases hms with
      | cons hm hms =>
        have hmember := hm.readMember hregular hq (ht.endsNumber r)
        have hmembers := (readMembers_eq_ok_iff hregular (r := r)).mpr ⟨ms, t, ht, hms, rfl⟩
        simp only [List.append_assoc, List.cons_append]
        -- a quote stands where the closing bracket would
        rw [readObject, skipBlank_blanks hw (by decide)]
        simp only [if_neg (show '"' ≠ '\x7d' by decide), if_true, hmember, hmembers]

-- ---------------------------------------------------------------------------
-- Arrays
-- ---------------------------------------------------------------------------

/-- A closing bracket ends an array, whatever fields are left. -/
theorem readRest_close (h : readNext ']' s = .ok (.close, r)) :
    readRest fields draft s = .ok (draft, r) := by
  cases fields <;> rw [readRest, h]

/-- Behind a comma the next field reads its value, and those that are left go on. -/
theorem readRest_more {field : Field σ} {t u : List Char} {put : σ → σ}
    (hnext : readNext ']' s = .ok (.more, t)) (hrun : field.value.run t = .ok (put, u)) :
    readRest (field :: fields) draft s = readRest fields (put draft) u := by
  rw [readRest, hnext]
  simp only [hrun]

/-- What follows an element is read if it is laid out as elements for the fields that are
left, and never otherwise. -/
theorem readRest_eq_ok_iff (hregular : ∀ field ∈ fields, field.value.Regular) :
    readRest fields draft s = .ok (out, r) ↔
      ∃ vs t, Parts .square IsItem vs t ∧ LeadsInOrder fields draft vs out ∧ s = t ++ r := by
  constructor
  · intro h
    -- the reader walks down the fields, and has to stop where they end
    induction fields generalizing draft s with
    | nil =>
      rw [readRest] at h
      split at h
      · cases h
      · next hn =>
        cases h
        obtain ⟨w, hw, ⟨-, rfl⟩ | ⟨hmore, -⟩⟩ := readNext_eq_ok hn
        · exact ⟨[], w ++ [']'], .close hw, .nil _ _, by simp⟩
        · cases hmore
      · cases h
    | cons field fields ih =>
      rw [readRest] at h
      split at h
      · cases h
      · next hn =>
        cases h
        obtain ⟨w, hw, ⟨-, rfl⟩ | ⟨hmore, -⟩⟩ := readNext_eq_ok hn
        · exact ⟨[], w ++ [']'], .close hw, .nil _ _, by simp⟩
        · cases hmore
      · next hn =>
        split at h
        · cases h
        · next put t hrun =>
          obtain ⟨w, hw, ⟨hclose, -⟩ | ⟨-, rfl⟩⟩ := readNext_eq_ok hn
          · cases hclose
          · obtain ⟨x, v, hx, hv, rfl, hvalue⟩ :=
              (hregular field (List.mem_cons_self ..)).takes hrun
            obtain ⟨vs, t', ht', hvs, rfl⟩ :=
              ih (fun f hf => hregular f (List.mem_cons_of_mem _ hf)) h
            exact ⟨v :: vs, w ++ ',' :: (x ++ v ++ t'), .more hw ⟨x, hx, hv, rfl⟩ ht',
              .cons hvalue hvs, by simp⟩
  · rintro ⟨vs, t, ht, hvs, rfl⟩
    -- along the layout; as many fields as there are elements take part
    induction ht generalizing fields draft with
    | close hw =>
      cases hvs
      rw [List.append_assoc]
      exact readRest_close (readNext_blanks_close (b := .square) hw r)
    | @more w p t v vs hw hp ht ih =>
      obtain ⟨x, hx, -, rfl⟩ := hp
      cases hvs with
      | cons hvalue hvs =>
        have hrun := (hregular _ (List.mem_cons_self ..)).run_append hx hvalue (ht.endsNumber r)
        rw [List.append_assoc, List.cons_append, List.append_assoc, List.append_assoc,
          readRest_more (readNext_blanks_comma (b := .square) hw _) hrun]
        exact ih (fun f hf => hregular f (List.mem_cons_of_mem _ hf)) hvs

/-- The array form is read, from behind its opening bracket, exactly if its elements lead on. -/
theorem readArray_eq_ok_iff (hregular : ∀ field ∈ fields, field.value.Regular) :
    readArray fields draft s = .ok (out, r) ↔
      ∃ vs t, IsArray vs ('[' :: t) ∧ LeadsInOrder fields draft vs out ∧ s = t ++ r := by
  constructor
  · intro h
    -- without fields nothing is tried in front of the closing bracket
    cases fields with
    | nil =>
      obtain ⟨vs, t, ht, hvs, rfl⟩ := (readRest_eq_ok_iff hregular).mp h
      cases hvs
      cases ht with
      | close hw => exact ⟨[], _, .empty hw, .nil _ _, rfl⟩
    | cons field fields =>
      simp only [readArray] at h
      split at h
      · cases h
      · next c s' hs =>
        split at h
        · next hc =>
          cases h
          obtain ⟨w, hw, -, rfl⟩ := exists_blanks_of_skipBlank hs
          exact ⟨[], w ++ [']'], .empty hw, .nil _ _, by rw [hc]; simp⟩
        · split at h
          · cases h
          · next put u hrun =>
            -- the first element has no comma in front
            obtain ⟨x, v, hx, hv, rfl, hvalue⟩ :=
              (hregular field (List.mem_cons_self ..)).takes hrun
            obtain ⟨vs, t, ht, hvs, rfl⟩ :=
              (readRest_eq_ok_iff fun f hf => hregular f (List.mem_cons_of_mem _ hf)).mp h
            exact ⟨v :: vs, _, .parts ⟨x, hx, hv, rfl⟩ ht, .cons hvalue hvs, by simp⟩
  · rintro ⟨vs, t, ht, hvs, rfl⟩
    cases ht with
    | @empty w hw =>
      cases hvs
      -- an empty array: both shapes of the reader see the closing bracket behind the blanks
      have hclose : skipBlank (w ++ ']' :: r) = ']' :: r := skipBlank_blanks hw (by decide) r
      rw [List.append_assoc, List.singleton_append, Bracket.closing]
      cases fields with
      | nil => exact readRest_close (readNext_blanks_close (b := .square) hw r)
      | cons field fields =>
        rw [readArray, hclose]
        exact if_pos rfl
    | @parts p t v vs hp ht =>
      obtain ⟨x, hx, hv, rfl⟩ := hp
      cases hvs with
      | @cons field fields _ _ _ _ put hvalue hvs =>
        -- no value starts with a closing bracket, so the array does not seem empty
        obtain ⟨c, cs, hskip, hclose⟩ := skipBlank_startsValue hx hv (t ++ r)
        have hrun := (hregular field (List.mem_cons_self ..)).run_append hx hvalue (ht.endsNumber r)
        have hrest := (readRest_eq_ok_iff (r := r)
          fun f hf => hregular f (List.mem_cons_of_mem _ hf)).mpr ⟨vs, t, ht, hvs, rfl⟩
        rw [List.append_assoc, List.append_assoc, readArray, hskip]
        simp only [if_neg hclose, hrun, hrest]

/-- Behind an element reading fails where an element is refused, the ones before it having been
read. -/
theorem readRest_refused (draft : σ) (hregular : ∀ field ∈ fields, field.value.Regular)
    {vs : List (List Char)} {t : List Char} (ht : Parts .square IsItem vs t)
    (hvs : RefusesInOrder fields vs) : ∃ f, readRest fields draft (t ++ r) = .error f := by
  induction ht generalizing fields draft with
  | close hw => cases hvs
  | @more w p t v vs hw hp ht ih =>
    obtain ⟨x, hx, -, rfl⟩ := hp
    have hnext : readNext ']' (w ++ ',' :: (x ++ (v ++ (t ++ r)))) = _ :=
      readNext_blanks_comma (b := .square) hw _
    simp only [List.append_assoc, List.cons_append]
    cases hvs with
    | here hvalue =>
      -- the refusal comes for the value without the blanks before it
      obtain ⟨f, hrun⟩ := hvalue _ (ht.endsNumber r)
      rw [← (hregular _ (List.mem_cons_self ..)).blanks _ hx] at hrun
      refine ⟨f, ?_⟩
      rw [readRest, hnext]
      simp only [hrun]
    | later hvalue hvs =>
      have hrun := (hregular _ (List.mem_cons_self ..)).run_append hx hvalue (ht.endsNumber r)
      rw [readRest_more hnext hrun]
      exact ih _ (fun f hf => hregular f (List.mem_cons_of_mem _ hf)) hvs

/-- An array is not read if the first of its elements that is not read is refused. -/
theorem readArray_refused (draft : σ) (hregular : ∀ field ∈ fields, field.value.Regular)
    {vs : List (List Char)} {t : List Char} (ht : IsArray vs ('[' :: t))
    (hvs : RefusesInOrder fields vs) : ∃ f, readArray fields draft (t ++ r) = .error f := by
  cases ht with
  | empty hw => cases hvs
  | @parts p t v vs hp ht =>
    obtain ⟨x, hx, hv, rfl⟩ := hp
    -- an element is there, so the array is not taken for an empty one
    obtain ⟨c, cs, hskip, hclose⟩ := skipBlank_startsValue hx hv (t ++ r)
    simp only [List.append_assoc]
    cases hvs with
    | here hvalue =>
      obtain ⟨f, hrun⟩ := hvalue _ (ht.endsNumber r)
      rw [← (hregular _ (List.mem_cons_self ..)).blanks _ hx] at hrun
      refine ⟨f, ?_⟩
      rw [readArray, hskip]
      simp only [if_neg hclose, hrun]
    | @later field fields v vs put hvalue hvs =>
      have hrun := (hregular _ (List.mem_cons_self ..)).run_append hx hvalue (ht.endsNumber r)
      obtain ⟨f, hrest⟩ := readRest_refused (r := r) (put draft)
        (fun f hf => hregular f (List.mem_cons_of_mem _ hf)) ht hvs
      refine ⟨f, ?_⟩
      rw [readArray, hskip]
      simp only [if_neg hclose, hrun, hrest]

-- ---------------------------------------------------------------------------
-- Readers
-- ---------------------------------------------------------------------------

/-- A text that gives a draft, in either written form. -/
inductive Gives (record : Record σ α) : List Char → σ → Prop
  | object {ms : List (String × List Char)} {t : List Char} {out : σ} (ht : IsObject ms t)
      (hms : Leads record.fields record.empty ms out) : Gives record t out
  | array {vs : List (List Char)} {t : List Char} {out : σ} (ht : IsArray vs t)
      (hvs : LeadsInOrder record.fields record.empty vs out) : Gives record t out

variable {record : Record σ α}

/-- Either written form starts with its bracket. -/
theorem Gives.startsValue {t : List Char} (h : record.Gives t out) : StartsValue t := by
  cases h with
  | object ht hms => exact ht.startsValue
  | array ht hvs => exact ht.startsValue

/-- The last character of a written form is its closing bracket. -/
theorem Gives.exists_concat {t : List Char} (h : record.Gives t out) :
    ∃ (b : Bracket) (u : List Char), t = u ++ [b.closing] := by
  cases h with
  | object ht hms => exact ⟨.curly, ht.exists_concat⟩
  | array ht hvs => exact ⟨.square, ht.exists_concat⟩

/-- With a square bracket in sight the elements of an array are read. -/
theorem readAsEither_square {w : List Char} (hw : Blanks w) (s : List Char) :
    record.readAsEither (w ++ '[' :: s) = readArray record.fields record.empty s := by
  rw [readAsEither, skipBlank_blanks hw (by decide)]
  exact if_pos rfl

/-- With a curly bracket in sight the members of an object are read. -/
theorem readAsEither_curly {w : List Char} (hw : Blanks w) (s : List Char) :
    record.readAsEither (w ++ '\x7b' :: s) = readObject record.fields record.empty s := by
  rw [readAsEither, skipBlank_blanks hw (by decide)]
  exact (if_neg (by decide)).trans (if_pos rfl)

/-- A draft is read from the texts that give it, behind blanks, and from nothing else. -/
theorem readAsEither_eq_ok_iff (hregular : ∀ field ∈ record.fields, field.value.Regular) :
    record.readAsEither s = .ok (out, r) ↔
      ∃ w t, Blanks w ∧ record.Gives t out ∧ s = w ++ (t ++ r) := by
  constructor
  · intro h
    unfold readAsEither at h
    -- a bracket decides between the two forms, and nothing else is read
    split at h
    · cases h
    · next c s' hs =>
      obtain ⟨w, hw, -, rfl⟩ := exists_blanks_of_skipBlank hs
      split at h
      · next hc =>
        obtain ⟨vs, t, ht, hvs, rfl⟩ := (readArray_eq_ok_iff hregular).mp h
        exact ⟨w, '[' :: t, hw, .array ht hvs, by rw [hc]; rfl⟩
      · split at h
        · next hc =>
          obtain ⟨ms, t, ht, hms, rfl⟩ := (readObject_eq_ok_iff hregular).mp h
          exact ⟨w, '{' :: t, hw, .object ht hms, by rw [hc]; rfl⟩
        · cases h
  · rintro ⟨w, t, hw, ht, rfl⟩
    cases ht with
    | @object ms t _ ht hms =>
      obtain ⟨t', rfl⟩ := ht.exists_cons
      have hread := (readObject_eq_ok_iff hregular (r := r)).mpr ⟨ms, t', ht, hms, rfl⟩
      exact (readAsEither_curly hw _).trans hread
    | @array vs t _ ht hvs =>
      obtain ⟨t', rfl⟩ := ht.exists_cons
      have hread := (readArray_eq_ok_iff hregular (r := r)).mpr ⟨vs, t', ht, hvs, rfl⟩
      exact (readAsEither_square hw _).trans hread

/-- A text that gives a complete draft is read as its value. -/
theorem Gives.reads {t : List Char} {a : α} (h : record.Gives t out)
    (hregular : ∀ field ∈ record.fields, field.value.Regular)
    (hfinish : record.finish out = some a) : record.reader.Reads t a := by
  refine Reader.Reads.filterMap (fun rest _ => ?_) hfinish
  exact (readAsEither_eq_ok_iff hregular).mpr ⟨[], t, blanks_nil, h, rfl⟩

/-- So it decodes to that value, with blanks around it. -/
theorem Gives.decode {w t x : List Char} {a : α} (h : record.Gives t out)
    (hregular : ∀ field ∈ record.fields, field.value.Regular)
    (hfinish : record.finish out = some a) (hw : Blanks w) (hx : Blanks x) {s : String}
    (hs : s.toList = w ++ (t ++ x)) : record.reader.decode s = .ok a := by
  have hread := (readAsEither_eq_ok_iff hregular (r := x)).mpr ⟨w, t, hw, h, rfl⟩
  rw [Reader.decode, hs]
  refine Reader.decodeChars_eq_ok_iff.mpr ⟨x, ?_, hx⟩
  simp only [reader, Reader.filterMap, hread, hfinish]

theorem reader_eq_ok (hregular : ∀ field ∈ record.fields, field.value.Regular) {a : α}
    (h : record.reader.run s = .ok (a, r)) :
    ∃ w t out, Blanks w ∧ record.Gives t out ∧ record.finish out = some a ∧
      s = w ++ (t ++ r) := by
  obtain ⟨out, hread, hfinish⟩ := Reader.filterMap_eq_ok h
  obtain ⟨w, t, hw, ht, rfl⟩ := (readAsEither_eq_ok_iff hregular).mp hread
  exact ⟨w, t, out, hw, ht, hfinish, rfl⟩

theorem regular_reader (hregular : ∀ field ∈ record.fields, field.value.Regular) :
    record.reader.Regular where
  blanks {w} s hw := by
    simp only [reader, Reader.filterMap, readAsEither, skipBlank_append hw]
  takes {s r a} h := by
    obtain ⟨w, t, out, hw, ht, hfinish, rfl⟩ := reader_eq_ok hregular h
    exact ⟨w, t, hw, ht.startsValue, rfl, ht.reads hregular hfinish⟩

/-- The value of a record ends with its closing bracket. -/
theorem delimited_reader (hregular : ∀ field ∈ record.fields, field.value.Regular) :
    record.reader.Delimited := by
  intro s r a h
  obtain ⟨w, t, out, hw, ht, hfinish, rfl⟩ := reader_eq_ok hregular h
  obtain ⟨b, u, rfl⟩ := ht.exists_concat
  refine ⟨w ++ u, b.closing, isBlank_closing b, by simp, fun rest => ?_⟩
  have hread := (readAsEither_eq_ok_iff hregular (r := rest)).mpr ⟨w, _, hw, ht, rfl⟩
  have hassoc : w ++ u ++ b.closing :: rest = w ++ (u ++ [b.closing] ++ rest) := by simp
  rw [hassoc]
  simp only [reader, Reader.filterMap, hread, hfinish]

end Record

end ChainParams.Json
