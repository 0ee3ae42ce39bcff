import ChainParams.Proofs.Registry.Growth
import ChainParams.Proofs.Registry.History

/-!
# ChainParams — extended keys and the history of a registry

The table of extended keys is overwritten by each profile that is registered, so what it answers
depends on the last one that has the id. Attempts that are refused write nothing. This module
says what the table answers in terms of the series of attempts alone.

The accepted profiles are those of the series that no earlier magic rules out, in their order
(`toList_registerAll_empty`). They are the series with some places left out, so the last accepted
one with an id is the one at the greatest place that is accepted and has the id
(`lastWithHdId?_firstPerMagic`).

## Results

* `effective_iff`                — the attempts that succeed.
* `lastWithHdId?_firstPerMagic`  — the last accepted profile with an id, by its place.
* `hd_lookup_by_history`         — what the table answers after any series of attempts.
-/

namespace ChainParams

theorem HdKeyId.length_toList (id : HdKeyId) : id.toList.length = 4 := by
  rw [toList, Vector.length_toList]

/-- An id is told from its bytes. -/
theorem HdKeyId.toList_inj {a b : HdKeyId} : a.toList = b.toList ↔ a = b := by
  rw [← Registry.ofBytes?_eq_some_iff, (Registry.ofBytes?_eq_some_iff _ b).mpr rfl,
    Option.some.injEq, eq_comm]

namespace Registry

/-- Whether the attempt at a place of a series is the first to register its magic. -/
def Effective (ps : List Profile) (i : Nat) (p : Profile) : Prop :=
  ps[i]? = some p ∧ ∀ q ∈ ps.take i, q.magic ≠ p.magic

/-- The effective attempts are those that succeed. -/
theorem effective_iff (ps : List Profile) (i : Nat) (p : Profile) :
    Effective ps i p ↔
      ps[i]? = some p ∧ ∃ r, (empty.registerAll (ps.take i)).register p = .ok r := by
  refine and_congr_right fun _ => ?_
  obtain ⟨hrefused, haccepted⟩ := tryRegister_registerAll_empty (ps.take i) p
  simp only [register_eq_ok_iff]
  constructor
  · intro hnew
    exact ⟨_, haccepted fun ⟨q, hq, hm⟩ => hnew q hq hm⟩
  · rintro ⟨r, hr⟩ q hq hm
    rw [(hrefused ⟨q, hq, hm⟩).1] at hr
    cases hr

/-- The last accepted profile with an id is the effective one at the greatest place. -/
theorem lastWithHdId?_firstPerMagic (ps : List Profile) (id : HdKeyId) (p : Profile) :
    lastWithHdId? (firstPerMagic ps) id = some p ↔
      ∃ i, Effective ps i p ∧ p.hdPrivateId = id ∧
        ∀ j q, i < j → Effective ps j q → q.hdPrivateId ≠ id := by
  -- an entry of the numbered series carries its own place
  have hplace (k : Nat) (q : Profile) (j : Nat) :
      ps.zipIdx[k]? = some (q, j) ↔ ps[k]? = some q ∧ j = k := by
    simp [List.getElem?_zipIdx, eq_comm]
  rw [lastWithHdId?, firstPerMagic, ← List.map_reverse, ← List.filter_reverse, List.find?_map,
    List.find?_filter, Option.map_eq_some_iff]
  simp only [find?_reverse_eq_some_iff_getElem?, Function.comp_apply, List.all_eq_true,
    decide_eq_true_eq, decide_eq_false_iff_not]
  constructor
  · rintro ⟨⟨q, j⟩, ⟨⟨hnew, hid⟩, k, hk, hlater⟩, rfl⟩
    obtain ⟨hq, rfl⟩ := (hplace k q j).mp hk
    refine ⟨j, ⟨hq, hnew⟩, hid, ?_⟩
    intro k q' hk heffective hid'
    exact hlater k (q', k) hk ((hplace k q' k).mpr ⟨heffective.1, rfl⟩) ⟨heffective.2, hid'⟩
  · rintro ⟨i, ⟨hi, hnew⟩, hid, hlater⟩
    refine ⟨(p, i), ⟨⟨hnew, hid⟩, i, (hplace i p i).mpr ⟨hi, rfl⟩, ?_⟩, rfl⟩
    rintro k ⟨q, j⟩ hk hentry ⟨hnew', hid'⟩
    obtain ⟨hq, rfl⟩ := (hplace k q j).mp hentry
    exact hlater j q hk ⟨hq, hnew'⟩ hid'

/--
**Extended keys by the history.** After any series of attempts on the empty registry, refused
ones among them, bytes are answered with a public id exactly if they are four, an effective
attempt has them as its private id, and the answer is the public id of the last such attempt. In
every other case, whatever the number of bytes, and also if only refused attempts have them, the
answer is the error that the id is unknown. The effective attempts are those that succeed.
-/
theorem hd_lookup_by_history (ps : List Profile) (bytes : List UInt8) :
    (∀ key, (empty.registerAll ps).hdPublicId bytes = .ok key ↔
      bytes.length = 4 ∧ ∃ i p, Effective ps i p ∧ p.hdPrivateId.toList = bytes ∧
        p.hdPublicId = key ∧
        ∀ j q, i < j → Effective ps j q → q.hdPrivateId.toList ≠ bytes) ∧
    (∀ e, (empty.registerAll ps).hdPublicId bytes = .error e ↔
      e = .unknownHdKeyId ∧
        ¬ (bytes.length = 4 ∧ ∃ i p, Effective ps i p ∧ p.hdPrivateId.toList = bytes)) ∧
    (∀ i p, Effective ps i p ↔
      ps[i]? = some p ∧ ∃ r, (empty.registerAll (ps.take i)).register p = .ok r) := by
  have hr := consistent_registerAll_empty ps
  refine ⟨fun key => ?_, fun e => ?_, effective_iff ps⟩
  · rw [hr.hdPublicId_eq_ok_iff, toList_registerAll_empty]
    constructor
    · -- the bytes are an id, so there are four
      rintro ⟨id, p, rfl, hlast, hkey⟩
      obtain ⟨i, hi, rfl, hlater⟩ := (lastWithHdId?_firstPerMagic ps id p).mp hlast
      refine ⟨p.hdPrivateId.length_toList, i, p, hi, rfl, hkey, ?_⟩
      intro j q hj hq hbytes
      exact hlater j q hj hq (HdKeyId.toList_inj.mp hbytes)
    · rintro ⟨-, i, p, hi, rfl, hkey, hlater⟩
      refine ⟨p.hdPrivateId, p, rfl, (lastWithHdId?_firstPerMagic ps _ p).mpr ?_, hkey⟩
      refine ⟨i, hi, rfl, ?_⟩
      intro j q hj hq hid
      exact hlater j q hj hq (congrArg _ hid)
  · rw [hr.hdPublicId_eq_error_iff, toList_registerAll_empty]
    refine and_congr_right fun _ => ?_
    constructor
    · rintro hall ⟨-, i, p, hi, hbytes⟩
      exact hall p ((mem_firstPerMagic_iff ps p).mpr ⟨i, hi⟩) hbytes
    · rintro hnone p hp rfl
      obtain ⟨i, hi⟩ := (mem_firstPerMagic_iff ps p).mp hp
      exact hnone ⟨p.hdPrivateId.length_toList, i, p, hi, rfl⟩

end Registry

end ChainParams
