import ChainParams.Proofs.Registry.Invariant
import Mathlib.Data.Finset.Card
import Mathlib.Data.List.Induction

/-!
# ChainParams — registration as a history

What a registry answers depends on all attempts made on it. This module reads the answers
off the series of attempted profiles, without the registry: a profile is accepted exactly
if no earlier one of the series has its magic, and every lookup is a search among the
accepted ones.

The proof goes along the series from its front. `firstPerMagic` grows by one profile or
by none at each attempt (`firstPerMagic_concat`), and so does the list of the registry,
under the same condition, since the magics of the accepted profiles are all the magics
that have come up (`exists_mem_firstPerMagic_iff`).

## Results

* `toList_registerAll_empty`      — the list of a registry is the accepted part of its history.
* `tryRegister_registerAll_empty` — the outcome of an attempt that follows a series.
* `registration_history`          — every outcome, and every lookup at the end.
-/

namespace ChainParams

namespace Registry

-- ---------------------------------------------------------------------------
-- The accepted part of a series
-- ---------------------------------------------------------------------------

/-- The profiles of a series whose magic no earlier one has, in order. -/
def firstPerMagic (ps : List Profile) : List Profile :=
  (ps.zipIdx.filter fun (p, i) => (ps.take i).all fun q => q.magic ≠ p.magic).map Prod.fst

/-- A profile is accepted exactly if it stands at a place with no profile of its magic before. -/
theorem mem_firstPerMagic_iff (ps : List Profile) (p : Profile) :
    p ∈ firstPerMagic ps ↔ ∃ i, ps[i]? = some p ∧ ∀ q ∈ ps.take i, q.magic ≠ p.magic := by
  rw [firstPerMagic, List.mem_map]
  constructor
  · rintro ⟨⟨q, i⟩, hmem, rfl⟩
    rw [List.mem_filter, List.mk_mem_zipIdx_iff_getElem?] at hmem
    exact ⟨i, hmem.1, by simpa using hmem.2⟩
  · rintro ⟨i, hi, hnew⟩
    refine ⟨(p, i), ?_, rfl⟩
    rw [List.mem_filter, List.mk_mem_zipIdx_iff_getElem?]
    exact ⟨hi, by simpa using hnew⟩

/-- One more profile is accepted unless its magic has come up. -/
theorem firstPerMagic_concat (ps : List Profile) (p : Profile) :
    firstPerMagic (ps ++ [p]) =
      firstPerMagic ps ++ if ∃ q ∈ ps, q.magic = p.magic then [] else [p] := by
  -- what comes before a place is not changed by a profile behind the series
  have hold : (ps.zipIdx.filter fun (q, i) =>
      ((ps ++ [p]).take i).all fun q' => q'.magic ≠ q.magic) =
      ps.zipIdx.filter fun (q, i) => (ps.take i).all fun q' => q'.magic ≠ q.magic := by
    apply List.filter_congr
    rintro ⟨q, i⟩ hq
    have hi : i < ps.length := by
      rw [List.mk_mem_zipIdx_iff_getElem?] at hq
      exact (List.getElem?_eq_some_iff.mp hq).1
    show (((ps ++ [p]).take i).all fun q' => q'.magic ≠ q.magic) = _
    rw [List.take_append_of_le_length (Nat.le_of_lt hi)]
  rw [firstPerMagic, List.zipIdx_append, List.filter_append, List.map_append, hold]
  congr 1
  rw [List.zipIdx_singleton, Nat.zero_add]
  by_cases h : ∃ q ∈ ps, q.magic = p.magic
  · rw [if_pos h, List.filter_cons_of_neg (by simpa using h)]
    rfl
  · rw [if_neg h, List.filter_cons_of_pos (by simpa using h)]
    rfl

/-- The magics of the accepted profiles are all the magics of the series. -/
theorem exists_mem_firstPerMagic_iff (ps : List Profile) (magic : Magic) :
    (∃ p ∈ firstPerMagic ps, p.magic = magic) ↔ ∃ p ∈ ps, p.magic = magic := by
  -- along the series: a refused profile adds a magic that is there already
  induction ps using List.reverseRecOn with
  | nil => simp [firstPerMagic]
  | append_singleton ps p ih =>
    rw [firstPerMagic_concat]
    by_cases h : ∃ q ∈ ps, q.magic = p.magic
    · rw [if_pos h, List.append_nil, ih]
      constructor
      · rintro ⟨q, hq, hm⟩
        exact ⟨q, List.mem_append_left _ hq, hm⟩
      · rintro ⟨q, hq, hm⟩
        rcases List.mem_append.mp hq with hq | hq
        · exact ⟨q, hq, hm⟩
        · rw [List.mem_singleton] at hq
          rw [← hm, hq]
          exact h
    · rw [if_neg h]
      simp only [List.mem_append, List.mem_singleton, or_and_right, exists_or, ih]

/-- A search for a magic finds the same profile in the series and in its accepted part. -/
theorem find?_magic_firstPerMagic (ps : List Profile) (magic : Magic) :
    (firstPerMagic ps).find? (fun p => p.magic = magic) =
      ps.find? fun p => p.magic = magic := by
  induction ps using List.reverseRecOn with
  | nil => rfl
  | append_singleton ps p ih =>
    rw [firstPerMagic_concat, List.find?_append, List.find?_append, ih]
    by_cases h : ∃ q ∈ ps, q.magic = p.magic
    · rw [if_pos h, List.find?_nil]
      by_cases hp : p.magic = magic
      · -- the refused profile would be found last, but an earlier one is found before it
        obtain ⟨q, hq, hm⟩ := h
        have hsome : (ps.find? fun p => p.magic = magic).isSome = true :=
          List.find?_isSome.mpr ⟨q, hq, by simp [hm, hp]⟩
        obtain ⟨found, hfound⟩ := Option.isSome_iff_exists.mp hsome
        rw [hfound, Option.some_or, Option.some_or]
      · rw [List.find?_singleton, if_neg (by simpa using hp)]
    · rw [if_neg h]

-- ---------------------------------------------------------------------------
-- The registry behind a series of attempts
-- ---------------------------------------------------------------------------

theorem consistent_registerAll_empty (ps : List Profile) : (empty.registerAll ps).Consistent :=
  consistent_empty.registerAll ps

/-- The list of a registry is the accepted part of its history. -/
theorem toList_registerAll_empty (ps : List Profile) :
    (empty.registerAll ps).toList = firstPerMagic ps := by
  induction ps using List.reverseRecOn with
  | nil => rfl
  | append_singleton ps p ih =>
    have hreg := (consistent_registerAll_empty ps).isRegistered_iff p.magic
    rw [ih, exists_mem_firstPerMagic_iff] at hreg
    rw [registerAll_concat, firstPerMagic_concat]
    -- the registry refuses what the history refuses, since both go by the magics that came up
    rcases attempt_cases (empty.registerAll ps) p with ⟨hr, heq⟩ | ⟨hr, heq⟩
    · rw [heq, ih, if_pos (hreg.mp hr), List.append_nil]
    · rw [heq, toList_insert, ih, if_neg]
      intro h
      rw [hreg.mpr h] at hr
      cases hr

/-- A magic is in use exactly if it came up. -/
theorem isRegistered_registerAll_empty (ps : List Profile) (magic : Magic) :
    (empty.registerAll ps).isRegistered magic = true ↔ ∃ p ∈ ps, p.magic = magic := by
  rw [(consistent_registerAll_empty ps).isRegistered_iff, toList_registerAll_empty,
    exists_mem_firstPerMagic_iff]

/-- The place of a magic leads to the profile that a search through the list would find. -/
theorem Consistent.profile?_eq_find? {r : Registry} (hr : r.Consistent) (magic : Magic) :
    r.profile? magic = r.toList.find? fun p => p.magic = magic := by
  cases hf : r.toList.find? fun p => p.magic = magic with
  | some p =>
    rw [hr.profile?_eq_some_iff]
    exact ⟨List.mem_of_find?_eq_some hf, by simpa using List.find?_some hf⟩
  | none =>
    rw [Option.eq_none_iff_forall_ne_some]
    intro p hp
    obtain ⟨hmem, hm⟩ := (hr.profile?_eq_some_iff magic p).mp hp
    simpa [hm] using List.find?_eq_none.mp hf p hmem

/-- The outcome of an attempt after others: it is refused exactly if one of them had the
magic, and then the registry that is left behind is the old one. -/
theorem tryRegister_registerAll_empty (ps : List Profile) (p : Profile) :
    ((∃ q ∈ ps, q.magic = p.magic) →
      (empty.registerAll ps).tryRegister p =
        (.error (.duplicateNetwork p.magic), empty.registerAll ps) ∧
      empty.registerAll (ps ++ [p]) = empty.registerAll ps) ∧
    ((¬ ∃ q ∈ ps, q.magic = p.magic) →
      (empty.registerAll ps).tryRegister p = (.ok (), empty.registerAll (ps ++ [p]))) := by
  rw [← isRegistered_registerAll_empty, registerAll_concat]
  constructor
  · intro h
    exact ⟨tryRegister_of_isRegistered h, attempt_of_isRegistered h⟩
  · intro h
    have hnew : (empty.registerAll ps).isRegistered p.magic = false := Bool.eq_false_iff.mpr h
    rw [tryRegister_of_not_isRegistered hnew, attempt_of_not_isRegistered hnew]

/-- No two accepted profiles share a magic, so they are as many as the magics that came up. -/
theorem size_registerAll_empty (ps : List Profile) :
    (empty.registerAll ps).size = (ps.map Profile.magic).toFinset.card := by
  have hmagics : (ps.map Profile.magic).toFinset =
      ((firstPerMagic ps).map Profile.magic).toFinset := by
    ext magic
    simpa using (exists_mem_firstPerMagic_iff ps magic).symm
  have hnodup := (consistent_registerAll_empty ps).nodup_magics
  rw [toList_registerAll_empty] at hnodup
  rw [hmagics, List.toFinset_card_of_nodup hnodup, List.length_map, ← toList_registerAll_empty]
  rfl

-- ---------------------------------------------------------------------------
-- The whole history
-- ---------------------------------------------------------------------------

/-- The profiles before a place of a series, by their places. -/
theorem exists_mem_take_iff {ps : List Profile} {i : Nat} (hi : i < ps.length)
    (P : Profile → Prop) : (∃ q ∈ ps.take i, P q) ↔ ∃ j, ∃ hj : j < i, P ps[j] := by
  constructor
  · rintro ⟨q, hq, hP⟩
    obtain ⟨j, hj, rfl⟩ := List.mem_take_iff_getElem.mp hq
    exact ⟨j, by omega, hP⟩
  · rintro ⟨j, hj, hP⟩
    exact ⟨ps[j], List.mem_take_iff_getElem.mpr ⟨j, by omega, rfl⟩, hP⟩

/--
**A registry answers by its history.** For any series of attempts on the empty registry: attempt
`i` is refused exactly if an earlier one had its magic; the error names that magic, and what is left
behind is the registry as it was; otherwise it succeeds. In the end the registered profiles are
those of the series whose magic no earlier one has, in order, as many as there are magics. A magic
is in use if it came up, and stands for the first profile that had it. A name stands for the first
*accepted* profile of that name. What was refused is never found.
-/
theorem registration_history (ps : List Profile) :
    (∀ i (hi : i < ps.length),
      ((∃ j, ∃ hj : j < i, ps[j].magic = ps[i].magic) →
        (empty.registerAll (ps.take i)).tryRegister ps[i] =
          (.error (.duplicateNetwork ps[i].magic), empty.registerAll (ps.take i)) ∧
        empty.registerAll (ps.take (i + 1)) = empty.registerAll (ps.take i)) ∧
      ((¬ ∃ j, ∃ hj : j < i, ps[j].magic = ps[i].magic) →
        (empty.registerAll (ps.take i)).tryRegister ps[i] =
          (.ok (), empty.registerAll (ps.take (i + 1))))) ∧
    (empty.registerAll ps).toList = firstPerMagic ps ∧
    (empty.registerAll ps).size = (ps.map Profile.magic).toFinset.card ∧
    (∀ magic, (empty.registerAll ps).isRegistered magic = true ↔ ∃ p ∈ ps, p.magic = magic) ∧
    (∀ magic, (empty.registerAll ps).profile? magic = ps.find? fun p => p.magic = magic) ∧
    (∀ name, (empty.registerAll ps).named? name =
      (firstPerMagic ps).find? fun p => p.name = name) ∧
    (∀ p, ((∃ magic, (empty.registerAll ps).profile? magic = some p) ∨
        (∃ name, (empty.registerAll ps).named? name = some p)) →
      ∃ i, ps[i]? = some p ∧ ∀ q ∈ ps.take i, q.magic ≠ p.magic) := by
  have hr := consistent_registerAll_empty ps
  have hlist := toList_registerAll_empty ps
  have hnamed : ∀ name, (empty.registerAll ps).named? name =
      (firstPerMagic ps).find? fun p => p.name = name := by
    intro name
    rw [named?, hlist]
    rfl
  refine ⟨fun i hi => ?_, hlist, size_registerAll_empty ps,
    isRegistered_registerAll_empty ps, fun magic => ?_, hnamed, ?_⟩
  · rw [← exists_mem_take_iff hi fun q => q.magic = ps[i].magic,
      List.take_succ_eq_append_getElem hi]
    exact tryRegister_registerAll_empty (ps.take i) ps[i]
  · rw [hr.profile?_eq_find?, hlist, find?_magic_firstPerMagic]
  · rintro p (⟨magic, h⟩ | ⟨name, h⟩)
    · rw [hr.profile?_eq_some_iff, hlist] at h
      exact (mem_firstPerMagic_iff ps p).mp h.1
    · rw [hnamed] at h
      exact (mem_firstPerMagic_iff ps p).mp (List.mem_of_find?_eq_some h)

end Registry

end ChainParams
