import ChainParams.Proofs.Json.Members

/-!
# ChainParams — the members of an object as a collection

A field whose value is read marks itself in the draft and leaves the other fields alone
(`Record.Independent`). So what members lead to does not depend on their order, a field is in the
final draft exactly if a member has its key, and no key of a field comes twice.

Members can also fail to lead anywhere. If each of them is settled, that is, its value is read or
refused whatever follows it, then what an object decodes to is decided by its members alone: by
the draft that they lead to, and by nothing if there is none. This is what turns statements about
members into statements about texts (`Record.decode_eq_ok_iff`).

## Results

* `Record.Leads.perm`       — members in another order lead to the same draft.
* `Record.Leads.present`    — the fields of the final draft are those that members name.
* `Record.decode_eq_ok_iff` — what the text of an object decodes to.
* `Record.decode_any_order`, `Record.decode_missing`, `Record.decode_repeated` — members in any
  order and among unknown ones, a field that is missing, and one that comes twice.
-/

namespace ChainParams.Json

variable {σ α ε : Type}

/-- The text of an object, with blanks around it. -/
def IsObjectText (ms : List (String × List Char)) (s : String) : Prop :=
  ∃ w t x, Blanks w ∧ IsObject ms t ∧ Blanks x ∧ s.toList = w ++ (t ++ x)

/-- What has no value at all is an error. -/
theorem toOption_eq_none {x : Except ε α} (h : ∀ a, x ≠ .ok a) : x.toOption = none := by
  cases x with
  | error e => rfl
  | ok a => exact absurd rfl (h a)

namespace Record

variable {fields : List (Field σ)} {draft next out : σ}
  {ms ns known others rest : List (String × List Char)}

/-- The field found for a key is one of the record, and the key is its own. -/
theorem mem_of_find? {key : String} {field : Field σ}
    (h : fields.find? (fun field => field.key == key) = some field) :
    field ∈ fields ∧ field.key = key :=
  ⟨List.mem_of_find?_eq_some h, by simpa using List.find?_some h⟩

/-- If no field is found for a key, it is the key of none. -/
theorem key_ne_of_find? {key : String} (h : fields.find? (fun field => field.key == key) = none)
    {field : Field σ} (hfield : field ∈ fields) : field.key ≠ key := by
  simpa using List.find?_eq_none.mp h field hfield

/-- For the key of a field a field is found. -/
theorem exists_find?_key {key : String} (h : key ∈ fields.map Field.key) :
    ∃ field, fields.find? (fun field => field.key == key) = some field ∧ field.key = key := by
  obtain ⟨field, hmem, hkey⟩ := List.mem_map.mp h
  have hsome : (fields.find? fun field => field.key == key).isSome := by
    exact List.find?_isSome.mpr ⟨field, hmem, by simpa using hkey⟩
  obtain ⟨found, hfound⟩ := Option.isSome_iff_exists.mp hsome
  exact ⟨found, hfound, (mem_of_find? hfound).2⟩

-- ---------------------------------------------------------------------------
-- Independent fields
-- ---------------------------------------------------------------------------

/-- Fields that mark themselves in the draft, and do nothing to each other. -/
structure Independent (fields : List (Field σ)) : Prop where
  marks : ∀ field ∈ fields, ∀ other ∈ fields, ∀ {v put}, field.value.Reads v put → ∀ draft,
    other.present (put draft) = (field.key == other.key || other.present draft)
  commutes : ∀ field ∈ fields, ∀ other ∈ fields, field.key ≠ other.key →
    ∀ {v u put putOther}, field.value.Reads v put → other.value.Reads u putOther → ∀ draft,
      putOther (put draft) = put (putOther draft)

/-- A member marks the field that it names. -/
theorem Takes.present (h : Independent fields) {m : String × List Char}
    (hm : Takes fields draft m next) {field : Field σ} (hfield : field ∈ fields) :
    field.present next = (m.1 == field.key || field.present draft) := by
  cases hm with
  | known hnamed hnew hvalue =>
    obtain ⟨hmem, rfl⟩ := mem_of_find? hnamed
    exact h.marks _ hmem _ hfield hvalue _
  | unknown hnamed hv =>
    have hne := key_ne_of_find? hnamed hfield
    rw [beq_false_of_ne hne.symm, Bool.false_or]

/-- A member that names a field does so before the draft has it. -/
theorem Takes.absent {m : String × List Char} (hm : Takes fields draft m next) {field : Field σ}
    (hfield : fields.find? (fun field => field.key == m.1) = some field) :
    field.present draft = false := by
  cases hm with
  | known hnamed hnew hvalue =>
    rw [hnamed, Option.some.injEq] at hfield
    rw [← hfield]
    exact hnew
  | unknown hnamed hv =>
    rw [hnamed] at hfield
    cases hfield

/-- Two members that follow each other may change places. -/
theorem Takes.swap (h : Independent fields) {m n : String × List Char}
    (hm : Takes fields draft m next) (hn : Takes fields next n out) :
    ∃ other, Takes fields draft n other ∧ Takes fields other m out := by
  cases hm with
  | @known field _ _ put hfield hnew hvalue =>
    cases hn with
    | @known other _ _ putOther hother hnewOther hvalueOther =>
      obtain ⟨hmem, -⟩ := mem_of_find? hfield
      obtain ⟨hmemOther, -⟩ := mem_of_find? hother
      -- the second field is not the first, or the draft would have it by then
      rw [h.marks _ hmem _ hmemOther hvalue, Bool.or_eq_false_iff, beq_eq_false_iff_ne]
        at hnewOther
      obtain ⟨hne, hnewOther⟩ := hnewOther
      have hnew' : field.present (putOther draft) = false := by
        rw [h.marks _ hmemOther _ hmem hvalueOther, beq_false_of_ne hne.symm, hnew]
        rfl
      rw [h.commutes _ hmem _ hmemOther hne hvalue hvalueOther]
      exact ⟨_, .known hother hnewOther hvalueOther, .known hfield hnew' hvalue⟩
    -- an unknown member changes no draft, so it may stand anywhere
    | unknown hother hv => exact ⟨_, .unknown hother hv, .known hfield hnew hvalue⟩
  | unknown hfield hv => exact ⟨_, hn, .unknown hfield hv⟩

/-- Members in another order lead to the same draft. -/
theorem Leads.perm (h : Independent fields) (hperm : ms.Perm ns) (hms : Leads fields draft ms out) :
    Leads fields draft ns out := by
  -- along the permutation, for every draft: the members before a swap have changed it
  induction hperm generalizing draft with
  | nil => exact hms
  | cons m hperm ih =>
    cases hms with
    | cons hm hms => exact .cons hm (ih hms)
  | swap m n ms =>
    cases hms with
    | cons hn hms =>
      cases hms with
      | cons hm hms =>
        obtain ⟨other, hm, hn⟩ := hn.swap h hm
        exact .cons hm (.cons hn hms)
  | trans _ _ ih ih' => exact ih' (ih hms)

/-- The fields of the final draft are those that it had and those that members name. -/
theorem Leads.present (h : Independent fields) (hms : Leads fields draft ms out) {field : Field σ}
    (hfield : field ∈ fields) :
    field.present out = (field.present draft || ms.any fun m => m.1 == field.key) := by
  induction hms with
  | nil draft => rw [List.any_nil, Bool.or_false]
  | cons hm _ ih =>
    rw [ih, hm.present h hfield, List.any_cons, Bool.or_comm (_ == _), Bool.or_assoc]

/-- Unknown members do nothing. -/
theorem Leads.of_unknown
    (h : ∀ m ∈ ms, m.1 ∉ fields.map Field.key ∧ Wellformed .value m.2) :
    Leads fields draft ms draft := by
  induction ms with
  | nil => exact .nil draft
  | cons m ms ih =>
    obtain ⟨hkey, hv⟩ := h m (List.mem_cons_self ..)
    have hfield : fields.find? (fun field => field.key == m.1) = none := by
      refine List.find?_eq_none.mpr fun field hmem heq => hkey ?_
      exact List.mem_map.mpr ⟨field, hmem, by simpa using heq⟩
    exact .cons (.unknown hfield hv) (ih fun n hn => h n (List.mem_cons_of_mem _ hn))

/-- Members that lead on may be followed by more of them. -/
theorem Leads.append (h : Leads fields draft ms next) (hrest : Leads fields next rest out) :
    Leads fields draft (ms ++ rest) out := by
  induction h with
  | nil draft => exact hrest
  | cons hm _ ih => exact .cons hm (ih hrest)

/-- No two members name the same field. -/
theorem Leads.not_repeated (h : Independent fields) {field : Field σ}
    (hfield : fields.find? (fun f => f.key == field.key) = some field) {u v : List Char}
    (hperm : ms.Perm ((field.key, u) :: (field.key, v) :: ns)) : ¬ Leads fields draft ms out := by
  intro hms
  -- both of them in front: the first marks the field, and the second asks that it be missing
  cases hms.perm h hperm with
  | cons hm hms =>
    cases hms with
    | cons hn _ =>
      have hpresent := hm.present h (mem_of_find? hfield).1
      rw [beq_self_eq_true, Bool.true_or, hn.absent hfield] at hpresent
      cases hpresent

-- ---------------------------------------------------------------------------
-- Settled members
-- ---------------------------------------------------------------------------

/-- A member whose value is read or refused, whatever follows it. -/
inductive Settled (fields : List (Field σ)) : String × List Char → Prop
  | reads {field : Field σ} {key : String} {v : List Char} {put : σ → σ}
      (hfield : fields.find? (fun field => field.key == key) = some field)
      (hvalue : field.value.Reads v put) : Settled fields (key, v)
  | rejects {field : Field σ} {key : String} {v : List Char}
      (hfield : fields.find? (fun field => field.key == key) = some field)
      (hvalue : field.value.Rejects v) : Settled fields (key, v)
  | unknown {key : String} {v : List Char}
      (hfield : fields.find? (fun field => field.key == key) = none)
      (hv : Wellformed .value v) : Settled fields (key, v)

/-- Independent fields that read scalars. -/
structure Lawful (fields : List (Field σ)) : Prop extends Independent fields where
  regular : ∀ field ∈ fields, field.value.Regular
  skippable : ∀ field ∈ fields, field.value.Skippable

/-- Values of any kind settle the members of fields that read scalars. -/
theorem Lawful.settled (h : Lawful fields) {m : String × List Char} (hv : Wellformed .value m.2) :
    Settled fields m := by
  cases hfield : fields.find? (fun field => field.key == m.1) with
  | none => exact .unknown hfield hv
  | some field =>
    obtain ⟨hmem, -⟩ := mem_of_find? hfield
    rcases (h.regular field hmem).reads_or_rejects (h.skippable field hmem) hv with
      ⟨put, hvalue⟩ | hvalue
    · exact .reads hfield hvalue
    · exact .rejects hfield hvalue

variable {r : List Char}

/-- A settled member leads on, or its reading fails. -/
theorem Settled.readMember {m : String × List Char} (hm : Settled fields m)
    (draft : σ) (hregular : ∀ field ∈ fields, field.value.Regular) {q : List Char}
    (hq : IsMemberBody m q) (hr : EndsNumber r) :
    (∃ next, Takes fields draft m next) ∨
      ∃ f, readMember fields draft (q ++ r) = .error f := by
  obtain ⟨u, x, hu, hx, hkey⟩ := hq.readString r
  cases hm with
  | @reads field key v put hfield hvalue =>
    -- a readable value is refused all the same if its key comes again
    cases hpresent : field.present draft with
    | false => exact Or.inl ⟨_, .known hfield hpresent hvalue⟩
    | true =>
      refine Or.inr ⟨.mismatch, ?_⟩
      rw [Record.readMember, hkey]
      simp only [String.ofList_toList, hfield, hpresent, if_true]
  | @rejects field key v hfield hvalue =>
    refine Or.inr ?_
    rw [Record.readMember, hkey]
    simp only [String.ofList_toList, hfield]
    cases hpresent : field.present draft with
    | true => exact ⟨.mismatch, if_pos rfl⟩
    | false =>
      obtain ⟨f, hrun⟩ := hvalue r hr
      rw [← (hregular field (mem_of_find? hfield).1).blanks _ hx] at hrun
      refine ⟨f, ?_⟩
      simp only [Bool.false_eq_true, if_false, readColon_blanks hu, hrun]
      rfl
  | unknown hfield hv => exact Or.inl ⟨_, .unknown hfield hv⟩

/-- Settled members lead on, or reading them fails. -/
theorem readMembers_settled (draft : σ) (hregular : ∀ field ∈ fields, field.value.Regular)
    {t : List Char} (ht : Parts .curly IsMember ms t) (hms : ∀ m ∈ ms, Settled fields m) :
    (∃ out, Leads fields draft ms out) ∨ ∃ f, readMembers fields draft (t ++ r) = .error f := by
  -- along the layout: either every member leads on, or the first that does not ends the reading
  induction ht generalizing draft with
  | close hw => exact Or.inl ⟨draft, .nil draft⟩
  | @more w p t m ms hw hp ht ih =>
    obtain ⟨w', q, hw', hq, rfl⟩ := hp
    have hnext := readNext_blanks_comma (b := .curly) hw (w' ++ '"' :: (q ++ (t ++ r)))
    have hend := ht.endsNumber r
    simp only [List.append_assoc, List.cons_append]
    -- what the first member does decides whether the others are looked at
    rcases (hms m (List.mem_cons_self ..)).readMember draft hregular hq hend with
      ⟨next, hm⟩ | ⟨f, hmember⟩
    · have hmember := hm.readMember hregular hq hend
      rw [readMembers_more hnext (openKey_blanks hw' _) hmember]
      rcases ih next fun n hn => hms n (List.mem_cons_of_mem _ hn) with
        ⟨out, hout⟩ | ⟨f, hrest⟩
      · exact Or.inl ⟨out, .cons hm hout⟩
      · exact Or.inr ⟨f, hrest⟩
    · exact Or.inr ⟨f, readMembers_error hnext (openKey_blanks hw' _) hmember⟩

/-- The same for a whole object, from behind its opening bracket. -/
theorem readObject_settled (draft : σ) (hregular : ∀ field ∈ fields, field.value.Regular)
    {t : List Char} (ht : IsObject ms ('\x7b' :: t)) (hms : ∀ m ∈ ms, Settled fields m) :
    (∃ out, Leads fields draft ms out) ∨ ∃ f, readObject fields draft (t ++ r) = .error f := by
  cases ht with
  | empty hw => exact Or.inl ⟨draft, .nil draft⟩
  | @parts p t m ms hp ht =>
    obtain ⟨w, q, hw, hq, rfl⟩ := hp
    have hend := ht.endsNumber r
    simp only [List.append_assoc, List.cons_append]
    rw [readObject, skipBlank_blanks hw (by decide)]
    simp only [if_neg (show '"' ≠ '\x7d' by decide), if_true]
    rcases (hms m (List.mem_cons_self ..)).readMember draft hregular hq hend with
      ⟨next, hm⟩ | ⟨f, hmember⟩
    · have hmember := hm.readMember hregular hq hend
      rcases readMembers_settled (r := r) next hregular ht fun n hn =>
        hms n (List.mem_cons_of_mem _ hn) with ⟨out, hout⟩ | ⟨f, hrest⟩
      · exact Or.inl ⟨out, .cons hm hout⟩
      · exact Or.inr ⟨f, by simp only [hmember, hrest]⟩
    · exact Or.inr ⟨f, by simp only [hmember]⟩

-- ---------------------------------------------------------------------------
-- Whole texts
-- ---------------------------------------------------------------------------

variable {record : Record σ α} {s : String} {a : α}

/-- An object decodes to the value of the draft that its members lead to. -/
theorem decode_of_leads (hregular : ∀ field ∈ record.fields, field.value.Regular)
    (hs : IsObjectText ms s) (hms : Leads record.fields record.empty ms out)
    (hfinish : record.finish out = some a) : record.reader.decode s = .ok a := by
  obtain ⟨w, t, x, hw, ht, hx, hs⟩ := hs
  exact (Gives.object ht hms).decode hregular hfinish hw hx hs

/-- If its members are settled, an object decodes to nothing else. -/
theorem decode_eq_ok_iff (hregular : ∀ field ∈ record.fields, field.value.Regular)
    (hs : IsObjectText ms s) (hsettled : ∀ m ∈ ms, Settled record.fields m) :
    record.reader.decode s = .ok a ↔
      ∃ out, Leads record.fields record.empty ms out ∧ record.finish out = some a := by
  refine ⟨fun h => ?_, fun h => ?_⟩
  · obtain ⟨w, t, x, hw, ht, hx, hs'⟩ := hs
    obtain ⟨t, rfl⟩ := ht.exists_cons
    rw [Reader.decode, hs', Reader.decodeChars_eq_ok_iff] at h
    obtain ⟨r, hrun, -⟩ := h
    obtain ⟨out', hrun, hfinish⟩ := Reader.filterMap_eq_ok hrun
    change record.readAsEither _ = _ at hrun
    -- the members lead to a draft, which is then the one that was read, or reading has failed
    rcases readObject_settled (r := x) record.empty hregular ht hsettled with
      ⟨out, hms⟩ | ⟨f, herror⟩
    · have hread := (readAsEither_eq_ok_iff hregular (r := x)).mpr ⟨w, _, hw, .object ht hms, rfl⟩
      rw [hread, Except.ok.injEq, Prod.mk.injEq] at hrun
      exact ⟨out, hms, hrun.1 ▸ hfinish⟩
    · rw [List.cons_append, Bracket.opening, readAsEither_curly hw, herror] at hrun
      cases hrun
  · obtain ⟨out, hms, hfinish⟩ := h
    exact decode_of_leads hregular hs hms hfinish

/-- Members that lead to a complete draft do so among unknown members and in any order. -/
theorem decode_any_order (h : Lawful record.fields)
    (hknown : Leads record.fields record.empty known out) (hfinish : record.finish out = some a)
    (hothers : ∀ m ∈ others, m.1 ∉ record.fields.map Field.key ∧ Wellformed .value m.2)
    (hperm : ms.Perm (known ++ others)) (hs : IsObjectText ms s) :
    record.reader.decode s = .ok a :=
  decode_of_leads h.regular hs
    ((hknown.append (.of_unknown hothers)).perm h.toIndependent hperm.symm) hfinish

/-- A record that needs all of its fields is not decoded without one of them. -/
theorem decode_missing (h : Lawful record.fields)
    (hneeds : ∀ field ∈ record.fields, field.present record.empty = false ∧
      ∀ draft, field.present draft = false → record.finish draft = none)
    {key : String} (hkey : key ∈ record.fields.map Field.key)
    (hms : ∀ m ∈ ms, m.1 ≠ key ∧ Wellformed .value m.2) (hs : IsObjectText ms s) :
    (record.reader.decode s).toOption = none := by
  refine toOption_eq_none fun a ha => ?_
  obtain ⟨field, hmem, rfl⟩ := List.mem_map.mp hkey
  obtain ⟨out, hout, hfinish⟩ :=
    (decode_eq_ok_iff h.regular hs fun m hm => h.settled (hms m hm).2).mp ha
  -- what was missing in the members is missing in the draft
  have habsent : field.present out = false := by
    rw [hout.present h.toIndependent hmem, (hneeds field hmem).1, Bool.false_or, List.any_eq_false]
    exact fun m hm => by simpa using (hms m hm).1
  rw [(hneeds field hmem).2 out habsent] at hfinish
  cases hfinish

/-- No record is decoded from an object that has one of its fields twice. -/
theorem decode_repeated (h : Lawful record.fields) {key : String} {u v : List Char}
    (hkey : key ∈ record.fields.map Field.key) (hms : ∀ m ∈ ms, Wellformed .value m.2)
    (hperm : ms.Perm ((key, u) :: (key, v) :: rest)) (hs : IsObjectText ms s) :
    (record.reader.decode s).toOption = none := by
  refine toOption_eq_none fun a ha => ?_
  obtain ⟨field, hfield, rfl⟩ := exists_find?_key hkey
  obtain ⟨out, hout, -⟩ :=
    (decode_eq_ok_iff h.regular hs fun m hm => h.settled (hms m hm)).mp ha
  exact hout.not_repeated h.toIndependent hfield hperm

end Record

end ChainParams.Json
