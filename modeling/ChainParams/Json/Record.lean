import ChainParams.Json.Reader

/-!
# ChainParams — records with named fields

A record is written as an object, its members in any order, or as an array of its
fields in order. While it is being read, what has been found so far is kept in a draft;
at the end the draft has to give a value.

Unknown members are passed over; a known one that comes twice is a mismatch as soon
as its key has been read.

* `Field`         — one field: its key and how its value goes into the draft.
* `Record.reader` — both written forms of a record.
* `Record.arrayReader` — the array form alone.
-/

namespace ChainParams.Json

variable {σ α β : Type}

/-- One field of a record that is kept in a draft of type `σ` while it is read. -/
structure Field (σ : Type) where
  /-- The key of the member. -/
  key : String
  /-- Whether the draft has the field already. -/
  present : σ → Bool
  /-- Reads the value and gives what it does to the draft. -/
  value : Reader (σ → σ)

/-- A record type as it is read: its fields in order, the draft without any of them,
and the value that a draft gives, if it has all that is needed. -/
structure Record (σ α : Type) where
  fields : List (Field σ)
  empty : σ
  finish : σ → Option α

namespace Record

-- ---------------------------------------------------------------------------
-- The array form
-- ---------------------------------------------------------------------------

/-- Reads what follows an element: one more for each field that is left, and the
closing bracket. An array may be shorter than the record, not longer. -/
def readRest : List (Field σ) → σ → List Char → Outcome σ
  | [], draft, s =>
    match readNext ']' s with
    | .error f => .error f
    | .ok (.close, r) => .ok (draft, r)
    | .ok (.more, _) => .error .malformed
  | field :: fields, draft, s =>
    match readNext ']' s with
    | .error f => .error f
    | .ok (.close, r) => .ok (draft, r)
    | .ok (.more, r) =>
      match field.value.run r with
      | .error f => .error f
      | .ok (put, t) => readRest fields (put draft) t

/-- Reads the array form from behind its opening bracket. -/
def readArray (fields : List (Field σ)) (draft : σ) (s : List Char) : Outcome σ :=
  match fields with
  | [] => readRest [] draft s
  | field :: fields =>
    match skipBlank s with
    | [] => .error .truncated
    | c :: r =>
      if c = ']' then .ok (draft, r)
      else
        match field.value.run s with
        | .error f => .error f
        | .ok (put, t) => readRest fields (put draft) t

theorem length_lt_of_readRest {fields : List (Field σ)} {draft out : σ} {s r : List Char}
    (h : readRest fields draft s = .ok (out, r)) : r.length < s.length := by
  induction fields generalizing draft s with
  | nil =>
    rw [readRest] at h
    split at h
    · cases h
    · next hn =>
      cases h
      exact length_lt_of_readNext hn
    · cases h
  | cons field fields ih =>
    rw [readRest] at h
    split at h
    · cases h
    · next hn =>
      cases h
      exact length_lt_of_readNext hn
    · next hn =>
      have := length_lt_of_readNext hn
      split at h
      · cases h
      · next hv =>
        have := field.value.consumes hv
        have := ih h
        omega

theorem length_lt_of_readArray {fields : List (Field σ)} {draft out : σ} {s r : List Char}
    (h : readArray fields draft s = .ok (out, r)) : r.length < s.length := by
  unfold readArray at h
  split at h
  · exact length_lt_of_readRest h
  · next field fields =>
    split at h
    · cases h
    · next hs =>
      split at h
      · cases h
        exact length_lt_of_skipBlank hs
      · split at h
        · cases h
        · next hv =>
          have := field.value.consumes hv
          have := length_lt_of_readRest h
          omega

-- ---------------------------------------------------------------------------
-- The object form
-- ---------------------------------------------------------------------------

/-- Reads a member from behind the opening quote of its key into the draft. -/
def readMember (fields : List (Field σ)) (draft : σ) (s : List Char) : Outcome σ :=
  match readString s with
  | .error f => .error f
  | .ok (key, r) =>
    match fields.find? fun field => field.key == String.ofList key with
    | some field =>
      if field.present draft then .error .mismatch
      else
        match readColon r with
        | .error f => .error f
        | .ok t => (field.value.run t).map fun (put, u) => (put draft, u)
    | none =>
      match readColon r with
      | .error f => .error f
      | .ok t => (skipValue t).map fun u => (draft, u)

theorem length_lt_of_readMember {fields : List (Field σ)} {draft out : σ} {s r : List Char}
    (h : readMember fields draft s = .ok (out, r)) : r.length < s.length := by
  unfold readMember at h
  split at h
  · cases h
  · next hk =>
    have := length_lt_of_readString hk
    split at h
    · next field _ =>
      split at h
      · cases h
      · split at h
        · cases h
        · next hc =>
          have := length_lt_of_readColon hc
          obtain ⟨⟨put, u⟩, hv, he⟩ := map_eq_ok_iff.mp h
          cases he
          have := field.value.consumes hv
          omega
    · split at h
      · cases h
      · next hc =>
        have := length_lt_of_readColon hc
        obtain ⟨u, hv, he⟩ := map_eq_ok_iff.mp h
        cases he
        have := length_lt_of_skipValue hv
        omega

/-- Reads what follows a member: the further members and the closing bracket. -/
def readMembers (fields : List (Field σ)) (draft : σ) (s : List Char) : Outcome σ :=
  match hn : readNext '\x7d' s with
  | .error f => .error f
  | .ok (.close, r) => .ok (draft, r)
  | .ok (.more, r) =>
    match hk : openKey r with
    | .error f => .error f
    | .ok t =>
      match hm : readMember fields draft t with
      | .error f => .error f
      | .ok (next, u) =>
        have : u.length < s.length :=
          Nat.lt_trans (length_lt_of_readMember hm)
            (Nat.lt_trans (length_lt_of_openKey hk) (length_lt_of_readNext hn))
        readMembers fields next u
termination_by s.length

/-- Reads the object form from behind its opening bracket. -/
def readObject (fields : List (Field σ)) (draft : σ) (s : List Char) : Outcome σ :=
  match skipBlank s with
  | [] => .error .truncated
  | c :: r =>
    if c = '\x7d' then .ok (draft, r)
    else if c = '"' then
      match readMember fields draft r with
      | .error f => .error f
      | .ok (next, t) => readMembers fields next t
    else .error .malformed

theorem length_lt_of_readMembers {fields : List (Field σ)} {draft out : σ} {s r : List Char}
    (h : readMembers fields draft s = .ok (out, r)) : r.length < s.length := by
  fun_induction readMembers fields draft s with
  | case1 => cases h
  | case2 draft s t hn =>
    cases h
    exact length_lt_of_readNext hn
  | case3 => cases h
  | case4 => cases h
  | case5 draft s t hn u hk next v hm _ ih =>
    have := ih h
    have := length_lt_of_readMember hm
    have := length_lt_of_openKey hk
    have := length_lt_of_readNext hn
    omega

theorem length_lt_of_readObject {fields : List (Field σ)} {draft out : σ} {s r : List Char}
    (h : readObject fields draft s = .ok (out, r)) : r.length < s.length := by
  unfold readObject at h
  split at h
  · cases h
  · next hs =>
    have := length_lt_of_skipBlank hs
    split at h
    · cases h
      exact this
    · split at h
      · split at h
        · cases h
        · next hm =>
          have := length_lt_of_readMember hm
          have := length_lt_of_readMembers h
          omega
      · cases h

-- ---------------------------------------------------------------------------
-- Readers
-- ---------------------------------------------------------------------------

/-- Reads the array form of a draft. -/
def readAsArray (record : Record σ α) (s : List Char) : Outcome σ :=
  match skipBlank s with
  | [] => .error .truncated
  | c :: r =>
    if c = '[' then readArray record.fields record.empty r else .error (wrongKind c r)

/-- Reads either form of a draft. -/
def readAsEither (record : Record σ α) (s : List Char) : Outcome σ :=
  match skipBlank s with
  | [] => .error .truncated
  | c :: r =>
    if c = '[' then readArray record.fields record.empty r
    else if c = '\x7b' then readObject record.fields record.empty r
    else .error (wrongKind c r)

theorem length_lt_of_readAsArray {record : Record σ α} {s r : List Char} {out : σ}
    (h : record.readAsArray s = .ok (out, r)) : r.length < s.length := by
  unfold readAsArray at h
  split at h
  · cases h
  · next hs =>
    split at h
    · exact Nat.lt_trans (length_lt_of_readArray h) (length_lt_of_skipBlank hs)
    · cases h

theorem length_lt_of_readAsEither {record : Record σ α} {s r : List Char} {out : σ}
    (h : record.readAsEither s = .ok (out, r)) : r.length < s.length := by
  unfold readAsEither at h
  split at h
  · cases h
  · next hs =>
    have := length_lt_of_skipBlank hs
    split at h
    · exact Nat.lt_trans (length_lt_of_readArray h) this
    · split at h
      · exact Nat.lt_trans (length_lt_of_readObject h) this
      · cases h

/-- A record in either of its written forms. -/
def reader (record : Record σ α) : Reader α :=
  Reader.filterMap record.finish ⟨record.readAsEither, length_lt_of_readAsEither⟩

/-- A record that is always written as an array. -/
def arrayReader (record : Record σ α) : Reader α :=
  Reader.filterMap record.finish ⟨record.readAsArray, length_lt_of_readAsArray⟩

end Record

end ChainParams.Json
