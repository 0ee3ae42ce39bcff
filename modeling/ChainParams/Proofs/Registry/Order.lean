import ChainParams.Proofs.Config.Resolution

/-!
# ChainParams — the order of registration

A program may register networks of different magics in any order. The registries that it
comes to are not equal: a profile stands at another place in each, and every place that the
index of magics holds is another. They hold the same profiles, though, and a lookup whose
answer depends on nothing but which profiles there are gives the same answer in both.

So the argument is the same for each lookup: its answer is said in terms of membership in
the list, and membership is what a permutation keeps (`SameProfiles`). For ids, prefixes and
magics this is all. Two lookups do depend on the order. The table of extended keys goes by
the last profile of a private id, and a name by the first profile that has it; their answers
become statements about membership where it does not matter which of the profiles it is.

## Results

* `SameProfiles.index_eq`                   — indices to which each profile adds its entry.
* `Consistent.hdPublicId_eq_ok_iff_of_agree` — the table where equal private ids go together
  with equal public ones.
* `named?_eq_some_iff_of_nodup`             — names that belong to one profile each.
* `registration_order`                      — what does not depend on the order.
-/

namespace ChainParams

namespace Registry

variable {r s : Registry}

-- ---------------------------------------------------------------------------
-- Ids of extended keys and names
-- ---------------------------------------------------------------------------

/-- Whether profiles that share an id of extended private keys share the public one too. -/
def PublicIdsAgree (ps : List Profile) : Prop :=
  ∀ p ∈ ps, ∀ q ∈ ps, p.hdPrivateId = q.hdPrivateId → p.hdPublicId = q.hdPublicId

/-- Where public ids agree, it does not matter that the last profile counts. -/
theorem Consistent.hdPublicId_eq_ok_iff_of_agree (hr : r.Consistent)
    (hagree : PublicIdsAgree r.toList) (bytes : List UInt8) (key : HdKeyId) :
    r.hdPublicId bytes = .ok key ↔
      ∃ p ∈ r.toList, p.hdPrivateId.toList = bytes ∧ p.hdPublicId = key := by
  rw [hr.hdPublicId_eq_ok_iff]
  constructor
  · rintro ⟨id, p, hid, hp, hkey⟩
    obtain ⟨hmem, hpid⟩ := mem_of_lastWithHdId? hp
    exact ⟨p, hmem, by rw [hpid, hid], hkey⟩
  · rintro ⟨p, hp, hbytes, hkey⟩
    obtain ⟨q, hq, hlast, hid⟩ := exists_lastWithHdId? hp
    refine ⟨p.hdPrivateId, q, hbytes, hlast, ?_⟩
    rw [hagree q hq p hp hid, hkey]

/-- The table has one error, so what it answers without one decides the rest. -/
theorem hdPublicId_congr {bytes : List UInt8}
    (h : ∀ key, r.hdPublicId bytes = .ok key ↔ s.hdPublicId bytes = .ok key) :
    r.hdPublicId bytes = s.hdPublicId bytes := by
  cases hr : r.hdPublicId bytes with
  | ok key => exact ((h key).mp hr).symm
  | error e =>
    obtain ⟨rfl, hnone⟩ := (hdPublicId_eq_error_iff r bytes e).mp hr
    refine ((hdPublicId_eq_error_iff s bytes _).mpr ⟨rfl, fun key hkey => ?_⟩).symm
    exact hnone key ((h key).mpr hkey)

/-- Where no two profiles share a name, a name stands for the profile that has it. -/
theorem named?_eq_some_iff_of_nodup (hnames : (r.toList.map Profile.name).Nodup) (name : String)
    (p : Profile) : r.named? name = some p ↔ p ∈ r.toList ∧ p.name = name := by
  rw [named?_eq_some_iff]
  constructor
  · rintro ⟨hname, before, after, heq, -⟩
    exact ⟨by simp [heq], hname⟩
  · rintro ⟨hp, hname⟩
    obtain ⟨before, after, heq⟩ := List.append_of_mem hp
    refine ⟨hname, before, after, heq, fun q hq hqname => ?_⟩
    rw [heq, List.map_append, List.nodup_append] at hnames
    exact hnames.2.2 _ (List.mem_map_of_mem hq) _ (List.mem_map_of_mem (List.mem_cons_self ..))
      (hqname.trans hname.symm)

-- ---------------------------------------------------------------------------
-- Registries of the same profiles
-- ---------------------------------------------------------------------------

/-- Registries with consistent indices that hold the same profiles, in whatever order. -/
structure SameProfiles (r s : Registry) : Prop where
  left : r.Consistent
  right : s.Consistent
  perm : r.toList.Perm s.toList

namespace SameProfiles

theorem mem_iff (h : SameProfiles r s) (p : Profile) : p ∈ r.toList ↔ p ∈ s.toList :=
  h.perm.mem_iff

/-- An index that says whether some profile has an entry says the same in both. -/
theorem index_eq (h : SameProfiles r s) (index : Registry → Bool) {has : Profile → Prop}
    (hindex : ∀ t, t.Consistent → (index t = true ↔ ∃ p ∈ t.toList, has p)) :
    index r = index s := by
  rw [Bool.eq_iff_iff, hindex r h.left, hindex s h.right]
  simp only [h.mem_iff]

theorem isPubKeyHashId_eq (h : SameProfiles r s) (id : UInt8) :
    r.isPubKeyHashId id = s.isPubKeyHashId id :=
  h.index_eq (isPubKeyHashId · id) fun _ ht => ht.isPubKeyHashId_iff id

theorem isScriptHashId_eq (h : SameProfiles r s) (id : UInt8) :
    r.isScriptHashId id = s.isScriptHashId id :=
  h.index_eq (isScriptHashId · id) fun _ ht => ht.isScriptHashId_iff id

theorem isSegwitPrefix_eq (h : SameProfiles r s) (text : String) :
    r.isSegwitPrefix text = s.isSegwitPrefix text :=
  h.index_eq (isSegwitPrefix · text) fun _ ht => ht.isSegwitPrefix_iff text

theorem isRegistered_eq (h : SameProfiles r s) (magic : Magic) :
    r.isRegistered magic = s.isRegistered magic :=
  h.index_eq (isRegistered · magic) fun _ ht => ht.isRegistered_iff magic

/-- A magic leads to the one profile that has it, wherever it stands. -/
theorem profile?_eq (h : SameProfiles r s) (magic : Magic) :
    r.profile? magic = s.profile? magic := by
  refine Option.ext fun p => ?_
  rw [h.left.profile?_eq_some_iff, h.right.profile?_eq_some_iff, h.mem_iff]

theorem size_eq (h : SameProfiles r s) : r.size = s.size := by
  have hlength := h.perm.length_eq
  simpa [toList, size] using hlength

/-- Where public ids agree, the table answers the same in both. -/
theorem hdPublicId_eq (h : SameProfiles r s) (hagree : PublicIdsAgree r.toList)
    (bytes : List UInt8) : r.hdPublicId bytes = s.hdPublicId bytes := by
  have hagree' : PublicIdsAgree s.toList := by
    intro p hp q hq hid
    exact hagree p ((h.mem_iff p).mpr hp) q ((h.mem_iff q).mpr hq) hid
  refine hdPublicId_congr fun key => ?_
  rw [h.left.hdPublicId_eq_ok_iff_of_agree hagree, h.right.hdPublicId_eq_ok_iff_of_agree hagree']
  simp only [h.mem_iff]

/-- Where no name is shared, a name leads to the same profile in both. -/
theorem named?_eq (h : SameProfiles r s) (hnames : (r.toList.map Profile.name).Nodup)
    (name : String) : r.named? name = s.named? name := by
  have hnames' : (s.toList.map Profile.name).Nodup := (h.perm.map _).nodup_iff.mp hnames
  refine Option.ext fun p => ?_
  rw [named?_eq_some_iff_of_nodup hnames, named?_eq_some_iff_of_nodup hnames', h.mem_iff]

/-- A configuration goes by names and magics alone. -/
theorem resolve_eq (h : SameProfiles r s) (hnames : (r.toList.map Profile.name).Nodup)
    (c : Config) : c.resolve r = c.resolve s := by
  rw [Config.resolve, Config.resolve, h.named?_eq hnames]
  simp only [h.profile?_eq]

end SameProfiles

-- ---------------------------------------------------------------------------
-- Registration in any order
-- ---------------------------------------------------------------------------

/-- Profiles with different magics are all registered on an empty registry, and its list is
the series itself. -/
theorem register_series {ps : List Profile} (hmagics : (ps.map Profile.magic).Nodup) :
    ∃ r, ps.foldlM register empty = .ok r ∧ r.Consistent ∧ r.toList = ps :=
  ⟨empty.registerAll ps, consistent_empty.foldlM_of_accepts register_of_not_isRegistered hmagics,
    consistent_empty.registerAll ps, consistent_empty.toList_registerAll hmagics⟩

/--
**The order of registration.** Profiles with different magics can be registered on an empty
registry in any order, and each registration succeeds. Whatever the order, the same ids,
prefixes and magics are in use, each magic leads to the same profile, and there are as many
profiles. If profiles that share an id of extended private keys share the public one, the
table of extended keys answers the same for all bytes. If no two profiles share a name, each
name leads to the same profile, and so does each configuration.
-/
theorem registration_order {ps qs : List Profile} (hperm : ps.Perm qs)
    (hmagics : (ps.map Profile.magic).Nodup) :
    ∃ r s, ps.foldlM register empty = .ok r ∧ qs.foldlM register empty = .ok s ∧
      (∀ id, r.isPubKeyHashId id = s.isPubKeyHashId id) ∧
      (∀ id, r.isScriptHashId id = s.isScriptHashId id) ∧
      (∀ text, r.isSegwitPrefix text = s.isSegwitPrefix text) ∧
      (∀ magic, r.isRegistered magic = s.isRegistered magic) ∧
      (∀ magic, r.profile? magic = s.profile? magic) ∧
      r.size = s.size ∧
      ((∀ p ∈ ps, ∀ q ∈ ps, p.hdPrivateId = q.hdPrivateId → p.hdPublicId = q.hdPublicId) →
        ∀ bytes, r.hdPublicId bytes = s.hdPublicId bytes) ∧
      ((ps.map Profile.name).Nodup →
        ∀ name, r.named? name = s.named? name ∧
          Config.resolve ⟨name⟩ r = Config.resolve ⟨name⟩ s) := by
  obtain ⟨r, hr, hrc, hrl⟩ := register_series hmagics
  obtain ⟨s, hs, hsc, hsl⟩ := register_series ((hperm.map _).nodup_iff.mp hmagics)
  have hsame : SameProfiles r s := ⟨hrc, hsc, by rw [hrl, hsl]; exact hperm⟩
  refine ⟨r, s, hr, hs, hsame.isPubKeyHashId_eq, hsame.isScriptHashId_eq,
    hsame.isSegwitPrefix_eq, hsame.isRegistered_eq, hsame.profile?_eq, hsame.size_eq, ?_, ?_⟩
  · intro hagree
    exact hsame.hdPublicId_eq (by rw [hrl]; exact hagree)
  · intro hnames name
    rw [← hrl] at hnames
    exact ⟨hsame.named?_eq hnames name, hsame.resolve_eq hnames ⟨name⟩⟩

/-- The built-in networks in reverse. Two of them share the ids of their extended keys, and
`testnet` is the name of none. -/
theorem builtin_reversed :
    Profile.builtin.Perm Profile.builtin.reverse ∧
    (Profile.builtin.map Profile.magic).Nodup ∧
    ∃ r s, Profile.builtin.foldlM register empty = .ok r ∧
      Profile.builtin.reverse.foldlM register empty = .ok s ∧
      r.hdPublicId [0x04, 0x35, 0x83, 0x94] = s.hdPublicId [0x04, 0x35, 0x83, 0x94] ∧
      Config.resolve ⟨"testnet"⟩ r = Config.resolve ⟨"testnet"⟩ s := by
  have hperm : Profile.builtin.Perm Profile.builtin.reverse :=
    (List.reverse_perm Profile.builtin).symm
  have hmagics : (Profile.builtin.map Profile.magic).Nodup := by decide
  obtain ⟨r, s, hr, hs, -, -, -, -, -, -, hkeys, hnames⟩ := registration_order hperm hmagics
  exact ⟨hperm, hmagics, r, s, hr, hs, hkeys (by decide) _, (hnames (by decide) _).2⟩

end Registry

end ChainParams
