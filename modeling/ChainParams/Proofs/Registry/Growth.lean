import ChainParams.Proofs.Registry.Invariant

/-!
# ChainParams — registries only grow

A series of attempts leaves the list of a registry as it was and puts the accepted profiles
behind it. So a lookup that goes through the list from the front keeps what it finds, an
index that holds all ids keeps them, and only the table of extended keys, where the last
profile counts, can change an answer.

An attempt that is refused changes nothing. So what a series does to an index is what the
accepted profiles do to it, entered one after another (`index_registerAll`, by induction on
the series).

## Results

* `toList_registerAll_eq`   — the list behind a series of attempts.
* `mustRegister_builtin`    — the built-in networks can all be registered.
* `index_registerAll`       — the indices of ids and prefixes behind a series.
* `named?_registerAll`, `profile?_registerAll` — a profile that is found stays found.
* `Consistent.hdPublicId_eq_ok_iff`, `Consistent.hdPublicId_eq_error_iff` — what the table of
  extended keys answers.
* `hdPublicId_registerAll`  — how its answers change.
-/

namespace ChainParams

namespace Registry

-- ---------------------------------------------------------------------------
-- Series of attempts
-- ---------------------------------------------------------------------------

/-- The profiles of a series that attempts one after another enter. -/
def accepted (r : Registry) : List Profile → List Profile
  | [] => []
  | p :: ps => (if r.isRegistered p.magic then [] else [p]) ++ (r.attempt p).accepted ps

/-- An attempt leaves the list as it was, or puts its profile behind it. -/
theorem toList_attempt (r : Registry) (p : Profile) :
    (r.attempt p).toList = r.toList ++ if r.isRegistered p.magic then [] else [p] := by
  rcases attempt_cases r p with ⟨hused, heq⟩ | ⟨hnew, heq⟩
  · rw [heq, hused, if_pos rfl, List.append_nil]
  · rw [heq, hnew, toList_insert, if_neg Bool.false_ne_true]

/-- The list of a registry stays, and the accepted profiles come behind it. -/
theorem toList_registerAll_eq (r : Registry) (ps : List Profile) :
    (r.registerAll ps).toList = r.toList ++ r.accepted ps := by
  induction ps generalizing r with
  | nil => simp [registerAll_nil, accepted]
  | cons p ps ih => rw [registerAll_cons, ih, toList_attempt, accepted, List.append_assoc]

/-- Where registration must not fail, a profile with a new magic is registered. -/
theorem mustRegister_of_not_isRegistered {r : Registry} {p : Profile}
    (h : r.isRegistered p.magic = false) : r.mustRegister p = .ok (r.insert p) := by
  rw [mustRegister, register_of_not_isRegistered h]
  rfl

/-- Profiles whose magics are new and differ from each other can be entered one after
another in any way that takes each profile with a new magic. -/
theorem Consistent.foldlM_of_accepts {ε : Type} {enter : Registry → Profile → Except ε Registry}
    (haccepts : ∀ {s : Registry} {p : Profile}, s.isRegistered p.magic = false →
      enter s p = .ok (s.insert p))
    {r : Registry} (hr : r.Consistent) {ps : List Profile}
    (hnew : ((r.toList ++ ps).map Profile.magic).Nodup) :
    ps.foldlM enter r = .ok (r.registerAll ps) := by
  induction ps generalizing r with
  | nil => rfl
  | cons p ps ih =>
    have hfree := hr.isRegistered_eq_false hnew
    rw [← insert_append] at hnew
    rw [List.foldlM_cons, haccepts hfree, registerAll_cons, attempt_of_not_isRegistered hfree]
    exact ih (hr.insert hfree) hnew

/-- Setting up the built-in networks never ends the program. -/
theorem mustRegister_builtin : Profile.builtin.foldlM mustRegister empty = .ok defaults :=
  consistent_empty.foldlM_of_accepts mustRegister_of_not_isRegistered (by decide)

-- ---------------------------------------------------------------------------
-- Lookups behind a series of attempts
-- ---------------------------------------------------------------------------

variable {r : Registry}

/-- An index to which each profile adds its own entry answers for the accepted ones too. -/
theorem index_registerAll {index : Registry → Bool} {has : Profile → Bool}
    (insert : ∀ s p, index (s.insert p) = (has p || index s)) (r : Registry)
    (ps : List Profile) :
    index (r.registerAll ps) = (index r || (r.accepted ps).any has) := by
  induction ps generalizing r with
  | nil => rw [registerAll_nil, accepted, List.any_nil, Bool.or_false]
  | cons p ps ih =>
    rw [registerAll_cons, ih, accepted, List.any_append]
    rcases attempt_cases r p with ⟨hused, heq⟩ | ⟨hnew, heq⟩
    · rw [heq, if_pos hused, List.any_nil, Bool.false_or]
    · rw [heq, insert, if_neg (by simp [hnew]), List.any_cons, List.any_nil, Bool.or_false,
        Bool.or_comm (has p), Bool.or_assoc]

/-- A profile that is found by its magic stays found. -/
theorem profile?_registerAll (hr : r.Consistent) {magic : Magic} {p : Profile}
    (h : r.profile? magic = some p) (ps : List Profile) :
    (r.registerAll ps).profile? magic = some p := by
  obtain ⟨hmem, hmagic⟩ := (hr.profile?_eq_some_iff magic p).mp h
  rw [(hr.registerAll ps).profile?_eq_some_iff, toList_registerAll_eq]
  exact ⟨List.mem_append_left _ hmem, hmagic⟩

/-- A name that is not taken stands for the first accepted profile that has it. -/
theorem named?_registerAll_eq (r : Registry) (name : String) (ps : List Profile) :
    (r.registerAll ps).named? name =
      (r.named? name).or ((r.accepted ps).find? fun p => p.name == name) := by
  rw [named?, toList_registerAll_eq, List.find?_append]
  rfl

/-- A profile that is found by its name stays found. -/
theorem named?_registerAll {name : String} {p : Profile} (h : r.named? name = some p)
    (ps : List Profile) : (r.registerAll ps).named? name = some p := by
  rw [named?_registerAll_eq, h, Option.some_or]

theorem named?_eq_none_iff (r : Registry) (name : String) :
    r.named? name = none ↔ ∀ p ∈ r.toList, p.name ≠ name := by
  rw [named?, List.find?_eq_none]
  simp

/-- A name stands for the first profile that has it. -/
theorem named?_eq_some_iff (r : Registry) (name : String) (p : Profile) :
    r.named? name = some p ↔
      p.name = name ∧ ∃ before after, r.toList = before ++ p :: after ∧
        ∀ q ∈ before, q.name ≠ name := by
  rw [named?, List.find?_eq_some_iff_append]
  simp

-- ---------------------------------------------------------------------------
-- Ids of extended keys
-- ---------------------------------------------------------------------------

/-- An id is made of its four bytes and of no others. -/
theorem ofBytes?_eq_some_iff (bytes : List UInt8) (id : HdKeyId) :
    HdKeyId.ofBytes? bytes = some id ↔ id.toList = bytes := by
  rw [HdKeyId.ofBytes?]
  constructor
  · intro h
    split at h
    · rw [Option.some.injEq] at h
      subst h
      simp [HdKeyId.toList, Vector.toList]
    · cases h
  · rintro rfl
    obtain ⟨⟨items, hsize⟩⟩ := id
    simp [HdKeyId.toList, hsize]

/-- The table answers with the public id of the last profile that has the private one. -/
theorem Consistent.hdPublicId_eq_ok_iff (hr : r.Consistent) (bytes : List UInt8)
    (key : HdKeyId) :
    r.hdPublicId bytes = .ok key ↔
      ∃ id p, id.toList = bytes ∧ lastWithHdId? r.toList id = some p ∧ p.hdPublicId = key := by
  have hdef : r.hdPublicId bytes = .ok key ↔
      ((HdKeyId.ofBytes? bytes).bind fun id => r.hdIds[id]?) = some key := by
    rw [hdPublicId]
    cases (HdKeyId.ofBytes? bytes).bind fun id => r.hdIds[id]? with
    | some found => simp
    | none => simp
  rw [hdef, Option.bind_eq_some_iff]
  simp only [ofBytes?_eq_some_iff, hr.hdId_eq, Option.map_eq_some_iff]
  constructor
  · rintro ⟨id, hid, p, hp, hkey⟩
    exact ⟨id, p, hid, hp, hkey⟩
  · rintro ⟨id, p, hid, hp, hkey⟩
    exact ⟨id, hid, p, hp, hkey⟩

/-- The id of a profile has a last profile with it. -/
theorem exists_lastWithHdId? {ps : List Profile} {p : Profile} (hp : p ∈ ps) :
    ∃ q ∈ ps, lastWithHdId? ps p.hdPrivateId = some q ∧ q.hdPrivateId = p.hdPrivateId := by
  have hsome : (lastWithHdId? ps p.hdPrivateId).isSome = true := by
    rw [lastWithHdId?, List.find?_isSome]
    exact ⟨p, List.mem_reverse.mpr hp, by simp⟩
  obtain ⟨q, hq⟩ := Option.isSome_iff_exists.mp hsome
  obtain ⟨hmem, hid⟩ := mem_of_lastWithHdId? hq
  exact ⟨q, hmem, hq, hid⟩

/-- Bytes without an answer are an error, and always the same one. -/
theorem hdPublicId_eq_error_iff (r : Registry) (bytes : List UInt8) (e : Error) :
    r.hdPublicId bytes = .error e ↔
      e = .unknownHdKeyId ∧ ∀ key, r.hdPublicId bytes ≠ .ok key := by
  rw [hdPublicId]
  cases (HdKeyId.ofBytes? bytes).bind fun id => r.hdIds[id]? with
  | some key => simp
  | none => simp [eq_comm]

/-- Bytes have no answer exactly if no profile has them as its private id. -/
theorem Consistent.hdPublicId_eq_error_iff (hr : r.Consistent) (bytes : List UInt8) (e : Error) :
    r.hdPublicId bytes = .error e ↔
      e = .unknownHdKeyId ∧ ∀ p ∈ r.toList, p.hdPrivateId.toList ≠ bytes := by
  rw [Registry.hdPublicId_eq_error_iff]
  simp only [ne_eq, hr.hdPublicId_eq_ok_iff]
  refine and_congr_right fun _ => ?_
  constructor
  · intro hnone p hp hbytes
    obtain ⟨q, -, hlast, -⟩ := exists_lastWithHdId? hp
    exact hnone q.hdPublicId ⟨p.hdPrivateId, q, hbytes, hlast, rfl⟩
  · rintro hall key ⟨id, p, hbytes, hlast, -⟩
    obtain ⟨hmem, hid⟩ := mem_of_lastWithHdId? hlast
    exact hall p hmem (by rw [hid, hbytes])

/-- The last profile of two lists is that of the second, if that has one. -/
theorem lastWithHdId?_append (ps qs : List Profile) (id : HdKeyId) :
    lastWithHdId? (ps ++ qs) id = (lastWithHdId? qs id).or (lastWithHdId? ps id) := by
  rw [lastWithHdId?, List.reverse_append, List.find?_append]
  rfl

/-- An id that has an answer keeps one, and keeps the same unless a profile with that id has
been accepted. -/
theorem hdPublicId_registerAll (hr : r.Consistent) {bytes : List UInt8} {key : HdKeyId}
    (h : r.hdPublicId bytes = .ok key) (ps : List Profile) :
    ∃ now, (r.registerAll ps).hdPublicId bytes = .ok now ∧
      (now ≠ key → ∃ p ∈ r.accepted ps, p.hdPrivateId.toList = bytes) := by
  obtain ⟨id, p, hid, hp, hkey⟩ := (hr.hdPublicId_eq_ok_iff bytes key).mp h
  have hnow := (hr.registerAll ps).hdPublicId_eq_ok_iff bytes
  rw [toList_registerAll_eq] at hnow
  -- a profile accepted since has the id, or none has and the old one is still the last
  cases hlater : lastWithHdId? (r.accepted ps) id with
  | some q =>
    have hq : lastWithHdId? (r.toList ++ r.accepted ps) id = some q := by
      rw [lastWithHdId?_append, hlater, Option.some_or]
    refine ⟨q.hdPublicId, (hnow _).mpr ⟨id, q, hid, hq, rfl⟩, fun _ => ?_⟩
    obtain ⟨hmem, hqid⟩ := mem_of_lastWithHdId? hlater
    exact ⟨q, hmem, by rw [hqid, hid]⟩
  | none =>
    have hsame : lastWithHdId? (r.toList ++ r.accepted ps) id = some p := by
      rw [lastWithHdId?_append, hlater, Option.none_or, hp]
    refine ⟨key, (hnow _).mpr ⟨id, p, hid, hsame, hkey⟩, fun hne => absurd rfl hne⟩

end Registry

end ChainParams
