import ChainParams.Proofs.Search
import ChainParams.Registry.Builtin

/-!
# ChainParams — the registry and its indices

A registry keeps its profiles in a list and five indices beside it. The lookups read the
indices alone, so a lookup means what it says only if the indices are those of the list.
`Consistent` says that they are, field by field: the places are the positions of the
magics, the three sets hold exactly the ids of the profiles, and the table of extended
keys keeps, for each private id, the public id of the *last* profile with it.

Registration never looks at the list to fill an index, so consistency is not checked
anywhere; it is *proved* for every registry that registrations can lead to. One attempt
either changes nothing or enters one profile with a new magic (`attempt_cases`), and
entering such a profile keeps every index in step (`Consistent.insert`).

## Results

* `Reachable.consistent`   — the indices of a reachable registry are those of its list.
* `Consistent.beq_iff`     — consistent registries differ only by their lists.
* `toList_defaults`        — the built-in networks are all registered.
* `indices_of_reachable`   — what each index of a reachable registry holds.
-/

namespace ChainParams

namespace Registry

-- ---------------------------------------------------------------------------
-- Reachable registries
-- ---------------------------------------------------------------------------

/-- The registries that a program can come to: from the empty one, or the one of the
built-in networks, by attempts to register any profiles, accepted or refused. -/
inductive Reachable : Registry → Prop where
  | empty : Reachable empty
  | defaults : Reachable defaults
  | attempt {r : Registry} (p : Profile) : Reachable r → Reachable (r.attempt p)

/-- An attempt changes nothing, or enters a profile whose magic was not in use. -/
theorem attempt_cases (r : Registry) (p : Profile) :
    (r.isRegistered p.magic = true ∧ r.attempt p = r) ∨
    (r.isRegistered p.magic = false ∧ r.attempt p = r.insert p) := by
  cases h : r.isRegistered p.magic with
  | true => exact Or.inl ⟨rfl, attempt_of_isRegistered h⟩
  | false => exact Or.inr ⟨rfl, attempt_of_not_isRegistered h⟩

theorem registerAll_nil (r : Registry) : r.registerAll [] = r := rfl

theorem registerAll_cons (r : Registry) (p : Profile) (ps : List Profile) :
    r.registerAll (p :: ps) = (r.attempt p).registerAll ps := rfl

theorem registerAll_append (r : Registry) (ps qs : List Profile) :
    r.registerAll (ps ++ qs) = (r.registerAll ps).registerAll qs :=
  List.foldl_append

theorem registerAll_concat (r : Registry) (ps : List Profile) (p : Profile) :
    r.registerAll (ps ++ [p]) = (r.registerAll ps).attempt p := by
  rw [registerAll_append, registerAll_cons, registerAll_nil]

/-- The built-in networks are registered one after another on an empty registry, so every
reachable registry is the outcome of one series of attempts from there. -/
theorem Reachable.exists_registerAll {r : Registry} (h : Reachable r) :
    ∃ ps, r = Registry.empty.registerAll ps := by
  induction h with
  | empty => exact ⟨[], rfl⟩
  | defaults => exact ⟨Profile.builtin, rfl⟩
  | attempt p _ ih =>
    obtain ⟨ps, rfl⟩ := ih
    exact ⟨ps ++ [p], (registerAll_concat _ _ _).symm⟩

-- ---------------------------------------------------------------------------
-- Consistent indices
-- ---------------------------------------------------------------------------

/-- The last profile of a list that has the id of extended private keys. -/
def lastWithHdId? (ps : List Profile) (id : HdKeyId) : Option Profile :=
  ps.reverse.find? fun p => p.hdPrivateId = id

/-- A profile behind the others is the last one with its id. -/
theorem lastWithHdId?_concat (ps : List Profile) (p : Profile) (id : HdKeyId) :
    lastWithHdId? (ps ++ [p]) id = if p.hdPrivateId = id then some p else lastWithHdId? ps id := by
  rw [lastWithHdId?, List.reverse_append, List.reverse_singleton, List.singleton_append,
    List.find?_cons]
  by_cases h : p.hdPrivateId = id
  · simp [h]
  · simp [h, lastWithHdId?]

/-- The last profile with an id is followed by none with it. -/
theorem lastWithHdId?_eq_some_iff (ps : List Profile) (id : HdKeyId) (p : Profile) :
    lastWithHdId? ps id = some p ↔
      p.hdPrivateId = id ∧ ∃ before after, ps = before ++ p :: after ∧
        ∀ q ∈ after, q.hdPrivateId ≠ id := by
  rw [lastWithHdId?, find?_reverse_eq_some_iff]
  simp only [decide_eq_true_eq, decide_eq_false_iff_not, ne_eq]

theorem mem_of_lastWithHdId? {ps : List Profile} {id : HdKeyId} {p : Profile}
    (h : lastWithHdId? ps id = some p) : p ∈ ps ∧ p.hdPrivateId = id := by
  obtain ⟨hid, before, after, rfl, -⟩ := (lastWithHdId?_eq_some_iff ps id p).mp h
  exact ⟨List.mem_append_right _ (List.mem_cons_self ..), hid⟩

/-- The indices of a registry are the ones that its profiles give. -/
structure Consistent (r : Registry) : Prop where
  place_iff (magic : Magic) (i : Nat) :
    r.places[magic]? = some i ↔ ∃ p, r.profiles[i]? = some p ∧ p.magic = magic
  pubKeyHashId_iff (id : UInt8) :
    id ∈ r.pubKeyHashIds ↔ ∃ p ∈ r.toList, p.pubKeyHashId = id
  scriptHashId_iff (id : UInt8) :
    id ∈ r.scriptHashIds ↔ ∃ p ∈ r.toList, p.scriptHashId = id
  segwitPrefix_iff (text : String) :
    text ∈ r.segwitPrefixes ↔ ∃ p ∈ r.toList, segwitPrefix p.hrp = text
  hdId_eq (id : HdKeyId) :
    r.hdIds[id]? = (lastWithHdId? r.toList id).map Profile.hdPublicId

/-- A magic is in use exactly if it has a place. -/
theorem isRegistered_eq_isSome (r : Registry) (magic : Magic) :
    r.isRegistered magic = (r.places[magic]?).isSome :=
  Std.HashMap.contains_eq_isSome_getElem?

/-- A magic is in use exactly if a profile of the list has it. -/
theorem Consistent.isRegistered_iff {r : Registry} (hr : r.Consistent) (magic : Magic) :
    r.isRegistered magic = true ↔ ∃ p ∈ r.toList, p.magic = magic := by
  rw [isRegistered_eq_isSome, Option.isSome_iff_exists]
  constructor
  · rintro ⟨i, hi⟩
    obtain ⟨p, hp, hm⟩ := (hr.place_iff magic i).mp hi
    exact ⟨p, Array.mem_toList_iff.mpr (Array.mem_of_getElem? hp), hm⟩
  · rintro ⟨p, hp, hm⟩
    obtain ⟨i, hi⟩ := Array.getElem?_of_mem (Array.mem_toList_iff.mp hp)
    exact ⟨i, (hr.place_iff magic i).mpr ⟨p, hi, hm⟩⟩

theorem consistent_empty : Consistent empty where
  place_iff magic i := by simp [empty]
  pubKeyHashId_iff id := by simp [empty, toList]
  scriptHashId_iff id := by simp [empty, toList]
  segwitPrefix_iff text := by simp [empty, toList]
  hdId_eq id := by simp [empty, toList, lastWithHdId?]

/-- Entering a profile whose magic is new keeps every index in step with the list. -/
theorem Consistent.insert {r : Registry} {p : Profile} (hr : r.Consistent)
    (hnew : r.isRegistered p.magic = false) : (r.insert p).Consistent where
  place_iff magic i := by
    show (r.places.insert p.magic r.profiles.size)[magic]? = some i ↔
      ∃ q, (r.profiles.push p)[i]? = some q ∧ q.magic = magic
    rw [Std.HashMap.getElem?_insert, Array.getElem?_push]
    by_cases hm : p.magic = magic
    · -- the magic is the new one: no older place holds a profile with it
      subst hm
      rw [if_pos (beq_self_eq_true _), Option.some.injEq]
      constructor
      · rintro rfl
        exact ⟨p, by simp, rfl⟩
      · rintro ⟨q, hq, hqm⟩
        by_cases hi : i = r.profiles.size
        · exact hi.symm
        · rw [if_neg hi] at hq
          have hmem : q ∈ r.toList := Array.mem_toList_iff.mpr (Array.mem_of_getElem? hq)
          have := (hr.isRegistered_iff p.magic).mpr ⟨q, hmem, hqm⟩
          rw [hnew] at this
          cases this
    · rw [if_neg (by simpa using hm), hr.place_iff]
      by_cases hi : i = r.profiles.size
      · subst hi
        simp [hm]
      · rw [if_neg hi]
  pubKeyHashId_iff id := by
    show id ∈ r.pubKeyHashIds.insert p.pubKeyHashId ↔ _
    rw [Std.HashSet.mem_insert, hr.pubKeyHashId_iff, toList_insert]
    simp [or_comm]
  scriptHashId_iff id := by
    show id ∈ r.scriptHashIds.insert p.scriptHashId ↔ _
    rw [Std.HashSet.mem_insert, hr.scriptHashId_iff, toList_insert]
    simp [or_comm]
  segwitPrefix_iff text := by
    show text ∈ r.segwitPrefixes.insert (segwitPrefix p.hrp) ↔ _
    rw [Std.HashSet.mem_insert, hr.segwitPrefix_iff, toList_insert]
    simp [or_comm]
  hdId_eq id := by
    show (r.hdIds.insert p.hdPrivateId p.hdPublicId)[id]? = _
    rw [Std.HashMap.getElem?_insert, hr.hdId_eq, toList_insert, lastWithHdId?_concat]
    by_cases h : p.hdPrivateId = id
    · simp [h]
    · simp [h]

/-- An attempt keeps the indices in step, accepted or refused. -/
theorem Consistent.attempt {r : Registry} (hr : r.Consistent) (p : Profile) :
    (r.attempt p).Consistent := by
  rcases attempt_cases r p with ⟨-, heq⟩ | ⟨hnew, heq⟩
  · rw [heq]
    exact hr
  · rw [heq]
    exact hr.insert hnew

/-- A series of attempts keeps them in step. -/
theorem Consistent.registerAll {r : Registry} (hr : r.Consistent) (ps : List Profile) :
    (r.registerAll ps).Consistent := by
  induction ps generalizing r with
  | nil => exact hr
  | cons p ps ih =>
    rw [registerAll_cons]
    exact ih (hr.attempt p)

/-- The indices of a reachable registry are those of its list. -/
theorem Reachable.consistent {r : Registry} (h : Reachable r) : r.Consistent := by
  obtain ⟨ps, rfl⟩ := h.exists_registerAll
  exact consistent_empty.registerAll ps

-- ---------------------------------------------------------------------------
-- What consistency gives
-- ---------------------------------------------------------------------------

/-- A magic has one place, so no two profiles share it. -/
theorem Consistent.nodup_magics {r : Registry} (hr : r.Consistent) :
    (r.toList.map Profile.magic).Nodup := by
  have place : ∀ k (hk : k < r.toList.length), r.places[(r.toList[k]).magic]? = some k :=
    fun k hk => (hr.place_iff _ k).mpr ⟨r.toList[k], by simp [toList], rfl⟩
  -- two places of one magic would be the one place that the index has
  refine List.pairwise_iff_getElem.mpr fun i j hi hj hij heq => ?_
  rw [List.getElem_map, List.getElem_map] at heq
  rw [List.length_map] at hi hj
  have hki := place i hi
  rw [heq, place j hj, Option.some.injEq] at hki
  omega

/-- The profile of a magic is the one in the list with it. -/
theorem Consistent.profile?_eq_some_iff {r : Registry} (hr : r.Consistent) (magic : Magic)
    (p : Profile) : r.profile? magic = some p ↔ p ∈ r.toList ∧ p.magic = magic := by
  rw [profile?, Option.bind_eq_some_iff]
  constructor
  · rintro ⟨i, hi, hp⟩
    obtain ⟨q, hq, hm⟩ := (hr.place_iff magic i).mp hi
    rw [hp, Option.some.injEq] at hq
    subst hq
    exact ⟨Array.mem_toList_iff.mpr (Array.mem_of_getElem? hp), hm⟩
  · rintro ⟨hp, hm⟩
    obtain ⟨i, hi⟩ := Array.getElem?_of_mem (Array.mem_toList_iff.mp hp)
    exact ⟨i, (hr.place_iff magic i).mpr ⟨p, hi, hm⟩, hi⟩

theorem Consistent.isPubKeyHashId_iff {r : Registry} (hr : r.Consistent) (id : UInt8) :
    r.isPubKeyHashId id = true ↔ ∃ p ∈ r.toList, p.pubKeyHashId = id := by
  rw [isPubKeyHashId, ← Std.HashSet.mem_iff_contains]
  exact hr.pubKeyHashId_iff id

theorem Consistent.isScriptHashId_iff {r : Registry} (hr : r.Consistent) (id : UInt8) :
    r.isScriptHashId id = true ↔ ∃ p ∈ r.toList, p.scriptHashId = id := by
  rw [isScriptHashId, ← Std.HashSet.mem_iff_contains]
  exact hr.scriptHashId_iff id

/-- A text is a segwit prefix exactly if its lower-case form is that of a profile. -/
theorem Consistent.isSegwitPrefix_iff {r : Registry} (hr : r.Consistent) (text : String) :
    r.isSegwitPrefix text = true ↔ ∃ p ∈ r.toList, segwitPrefix p.hrp = Text.lower text := by
  rw [isSegwitPrefix, ← Std.HashSet.mem_iff_contains]
  exact hr.segwitPrefix_iff (Text.lower text)

/-- Sets with the same members pass for equal. -/
theorem sameMembers_iff {α : Type} [BEq α] [LawfulBEq α] [Hashable α] {a b : Std.HashSet α} :
    sameMembers a b = true ↔ ∀ x, x ∈ a ↔ x ∈ b := by
  rw [sameMembers, Bool.and_eq_true, Std.HashSet.all_eq_true_iff_forall_mem,
    Std.HashSet.all_eq_true_iff_forall_mem]
  constructor
  · rintro ⟨hab, hba⟩ x
    exact ⟨hab x, hba x⟩
  · intro h
    exact ⟨fun x => (h x).mp, fun x => (h x).mpr⟩

/-- Registries with consistent indices are equal exactly if their lists are. -/
theorem Consistent.beq_iff {r s : Registry} (hr : r.Consistent) (hs : s.Consistent) :
    (r == s) = true ↔ r.toList = s.toList := by
  have hdef : (r == s) = (r.profiles == s.profiles && r.places == s.places &&
      sameMembers r.pubKeyHashIds s.pubKeyHashIds &&
      sameMembers r.scriptHashIds s.scriptHashIds &&
      sameMembers r.segwitPrefixes s.segwitPrefixes && r.hdIds == s.hdIds) := rfl
  rw [hdef]
  simp only [Bool.and_eq_true, beq_iff_eq]
  constructor
  · rintro ⟨⟨⟨⟨⟨hp, -⟩, -⟩, -⟩, -⟩, -⟩
    rw [toList, toList, hp]
  · -- each index is determined by the list, so equal lists leave no difference
    intro hl
    have hp : r.profiles = s.profiles := Array.toList_inj.mp hl
    refine ⟨⟨⟨⟨⟨hp, ?_⟩, ?_⟩, ?_⟩, ?_⟩, ?_⟩
    · refine Std.HashMap.beq_iff_equiv.mpr (.of_forall_getElem?_eq fun magic => ?_)
      refine Option.ext fun i => ?_
      rw [hr.place_iff, hs.place_iff, hp]
    · exact sameMembers_iff.mpr fun id => by rw [hr.pubKeyHashId_iff, hs.pubKeyHashId_iff, hl]
    · exact sameMembers_iff.mpr fun id => by rw [hr.scriptHashId_iff, hs.scriptHashId_iff, hl]
    · exact sameMembers_iff.mpr fun text => by
        rw [hr.segwitPrefix_iff, hs.segwitPrefix_iff, hl]
    · refine Std.HashMap.beq_iff_equiv.mpr (.of_forall_getElem?_eq fun id => ?_)
      rw [hr.hdId_eq, hs.hdId_eq, hl]

-- ---------------------------------------------------------------------------
-- Profiles with magics of their own
-- ---------------------------------------------------------------------------

/-- Where the magics in use and those to come all differ, the next one is new. -/
theorem Consistent.isRegistered_eq_false {r : Registry} (hr : r.Consistent) {p : Profile}
    {ps : List Profile} (hnew : ((r.toList ++ p :: ps).map Profile.magic).Nodup) :
    r.isRegistered p.magic = false := by
  rw [← Bool.not_eq_true, hr.isRegistered_iff]
  rintro ⟨q, hq, hm⟩
  rw [List.map_append, List.nodup_append] at hnew
  exact hnew.2.2 _ (List.mem_map_of_mem hq) _ (List.mem_map_of_mem (List.mem_cons_self ..)) hm

theorem insert_append (r : Registry) (p : Profile) (ps : List Profile) :
    (r.insert p).toList ++ ps = r.toList ++ p :: ps := by
  rw [toList_insert, List.append_assoc, List.singleton_append]

/-- Profiles whose magics are new and differ from each other are all accepted. -/
theorem Consistent.toList_registerAll {r : Registry} (hr : r.Consistent) {ps : List Profile}
    (hnew : ((r.toList ++ ps).map Profile.magic).Nodup) :
    (r.registerAll ps).toList = r.toList ++ ps := by
  -- along the series; what has been entered stands between the old profiles and those to come
  induction ps generalizing r with
  | nil => simp [registerAll_nil]
  | cons p ps ih =>
    have hfree := hr.isRegistered_eq_false hnew
    rw [← insert_append] at hnew
    rw [registerAll_cons, attempt_of_not_isRegistered hfree, ih (hr.insert hfree) hnew,
      insert_append]

/-- The built-in networks are all registered, in their order. -/
theorem toList_defaults : defaults.toList = Profile.builtin :=
  consistent_empty.toList_registerAll (by decide)

-- ---------------------------------------------------------------------------
-- The indices of reachable registries
-- ---------------------------------------------------------------------------

/--
**The indices of a reachable registry are those of its list.** A magic has place `i`
exactly if the profile at `i` has it; hence magics are not shared, and a magic that is in
use always gives a profile. The sets hold the ids and prefixes of the profiles and nothing
else. A private id goes with the public id of the last profile that has it. So two
reachable registries are equal exactly if their lists are.
-/
theorem indices_of_reachable {r : Registry} (h : Reachable r) :
    (∀ magic i, r.places[magic]? = some i ↔
      ∃ hi : i < r.profiles.size, r.profiles[i].magic = magic) ∧
    (r.toList.map Profile.magic).Nodup ∧
    (∀ magic, r.isRegistered magic = (r.profile? magic).isSome) ∧
    (∀ id, id ∈ r.pubKeyHashIds ↔ ∃ p ∈ r.toList, p.pubKeyHashId = id) ∧
    (∀ id, id ∈ r.scriptHashIds ↔ ∃ p ∈ r.toList, p.scriptHashId = id) ∧
    (∀ text, text ∈ r.segwitPrefixes ↔ ∃ p ∈ r.toList, p.hrp ++ "1" = text) ∧
    (∀ id key, r.hdIds[id]? = some key ↔
      ∃ before p after, r.toList = before ++ p :: after ∧ p.hdPrivateId = id ∧
        (∀ q ∈ after, q.hdPrivateId ≠ id) ∧ p.hdPublicId = key) ∧
    (∀ s, Reachable s → ((r == s) = true ↔ r.toList = s.toList)) := by
  have hr := h.consistent
  refine ⟨fun magic i => ?_, hr.nodup_magics, fun magic => ?_, hr.pubKeyHashId_iff,
    hr.scriptHashId_iff, hr.segwitPrefix_iff, fun id key => ?_,
    fun s hs => hr.beq_iff hs.consistent⟩
  · rw [hr.place_iff]
    constructor
    · rintro ⟨p, hp, hm⟩
      obtain ⟨hi, rfl⟩ := Array.getElem?_eq_some_iff.mp hp
      exact ⟨hi, hm⟩
    · rintro ⟨hi, hm⟩
      exact ⟨r.profiles[i], Array.getElem?_eq_getElem hi, hm⟩
  · rw [Bool.eq_iff_iff, hr.isRegistered_iff, Option.isSome_iff_exists]
    exact exists_congr fun p => (hr.profile?_eq_some_iff magic p).symm
  · rw [hr.hdId_eq, Option.map_eq_some_iff]
    constructor
    · rintro ⟨p, hp, hv⟩
      obtain ⟨hid, before, after, heq, hafter⟩ := (lastWithHdId?_eq_some_iff _ _ _).mp hp
      exact ⟨before, p, after, heq, hid, hafter, hv⟩
    · rintro ⟨before, p, after, heq, hid, hafter, hv⟩
      exact ⟨p, (lastWithHdId?_eq_some_iff _ _ _).mpr ⟨hid, before, after, heq, hafter⟩, hv⟩

/-- Of the built-in networks, two share their ids of extended keys. A second attempt to
register one of them leaves an equal registry. -/
theorem indices_of_defaults :
    Reachable defaults ∧
    defaults.places[Magic.testNet]? = some 2 ∧
    defaults.hdIds[Profile.testnet4.hdPrivateId]? = some Profile.regtest.hdPublicId ∧
    (defaults.attempt Profile.regtest == defaults) = true := by
  have hp : defaults.profiles = Profile.builtin.toArray := by
    rw [← toList_defaults, toList, Array.toArray_toList]
  obtain ⟨hplace, -, -, -, -, -, hhd, hbeq⟩ := indices_of_reachable .defaults
  have hrefused : defaults.isRegistered Profile.regtest.magic = true :=
    (Reachable.defaults.consistent.isRegistered_iff _).mpr
      ⟨Profile.regtest, by rw [toList_defaults]; decide, rfl⟩
  refine ⟨.defaults, (hplace _ 2).mpr ⟨by rw [hp]; decide, by simp only [hp]; rfl⟩, ?_, ?_⟩
  · refine (hhd _ _).mpr ⟨[.mainnet, .testnet4], .regtest, [.simnet], toList_defaults, by decide,
      by decide, rfl⟩
  · rw [attempt_of_isRegistered hrefused]
    exact (hbeq _ .defaults).mpr rfl

end Registry

end ChainParams
