import ChainParams.Error
import ChainParams.Proofs.Checkpoint.Search
import ChainParams.Proofs.Digest.Text
import Mathlib.Data.List.Forall2

/-!
# ChainParams — tables of checkpoints

A table of heights and digest texts becomes a list of checkpoints entry by entry, and the first
text that is no digest ends the reading. It is all or nothing: either every entry has become the
checkpoint at its place, or there is an error, and that is the error of an entry with good ones
alone before it. Both follow along the table from what happens to its first entry
(`mapM_cons_of_ok`, `mapM_cons_of_error`), and together they say all that can happen.

The text of a digest reads back as the digest, so a list that is written as a table reads back as
the list.

## Results

* `mapM_eq_ok_iff`, `mapM_eq_error_iff` — the two outcomes of reading entry by entry.
* `ofTable_eq_ok_iff`, `ofTable_eq_error_iff` — the same for tables.
* `literals_and_order` — tables, their lists, and the order of these.
-/

namespace ChainParams

-- ---------------------------------------------------------------------------
-- Reading entry by entry
-- ---------------------------------------------------------------------------

section

variable {α β ε : Type} {f : α → Except ε β}

theorem mapM_cons_of_error {a : α} {e : ε} (h : f a = .error e) (l : List α) :
    (a :: l).mapM f = .error e := by
  rw [List.mapM_cons, h]
  rfl

/-- Behind an entry that is read, reading goes on with those that are left. -/
theorem mapM_cons_of_ok {a : α} {b : β} (h : f a = .ok b) (l : List α) :
    (a :: l).mapM f = (l.mapM f).map (b :: ·) := by
  rw [List.mapM_cons, h]
  rfl

theorem exists_of_forall₂ {R : α → β → Prop} {l : List α} {r : List β}
    (h : List.Forall₂ R l r) : ∀ a ∈ l, ∃ b, R a b := by
  induction h with
  | nil => exact List.forall_mem_nil _
  | cons hab _ ih => exact List.forall_mem_cons.mpr ⟨⟨_, hab⟩, ih⟩

theorem mapM_of_forall₂ {l : List α} {r : List β}
    (h : List.Forall₂ (fun a b => f a = .ok b) l r) : l.mapM f = .ok r := by
  induction h with
  | nil => rfl
  | cons ha _ ih =>
    rw [mapM_cons_of_ok ha, ih]
    rfl

/-- The first failure is the failure of all, whatever stands behind it. -/
theorem mapM_of_first_error {before after : List α} {a : α} {e : ε}
    (hbefore : ∀ b ∈ before, ∃ v, f b = .ok v) (ha : f a = .error e) :
    (before ++ a :: after).mapM f = .error e := by
  induction before with
  | nil => exact mapM_cons_of_error ha after
  | cons b before ih =>
    obtain ⟨⟨v, hv⟩, hbefore⟩ := List.forall_mem_cons.mp hbefore
    rw [List.cons_append, mapM_cons_of_ok hv, ih hbefore]
    rfl

/-- Reading succeeds everywhere, or there is a first entry at which it fails. -/
theorem forall₂_or_first_error (l : List α) :
    (∃ r, List.Forall₂ (fun a b => f a = .ok b) l r) ∨
      ∃ before a after e, l = before ++ a :: after ∧ (∀ b ∈ before, ∃ v, f b = .ok v) ∧
        f a = .error e := by
  induction l with
  | nil => exact Or.inl ⟨[], .nil⟩
  | cons a l ih =>
    -- a failure here is the first one; otherwise the first one is that of the rest
    cases ha : f a with
    | error e => exact Or.inr ⟨[], a, l, e, rfl, List.forall_mem_nil _, ha⟩
    | ok b =>
      rcases ih with ⟨r, hr⟩ | ⟨before, bad, after, e, rfl, hbefore, hbad⟩
      · exact Or.inl ⟨b :: r, .cons ha hr⟩
      · exact Or.inr ⟨a :: before, bad, after, e, rfl,
          List.forall_mem_cons.mpr ⟨⟨b, ha⟩, hbefore⟩, hbad⟩

/-- Every entry has become what stands at its place. -/
theorem mapM_eq_ok_iff (l : List α) (r : List β) :
    l.mapM f = .ok r ↔ List.Forall₂ (fun a b => f a = .ok b) l r := by
  refine ⟨fun h => ?_, mapM_of_forall₂⟩
  -- the result tells which of the two outcomes it was, and both determine it
  rcases forall₂_or_first_error (f := f) l with ⟨r', hr⟩ | ⟨before, a, after, e, rfl, hbefore, ha⟩
  · rw [mapM_of_forall₂ hr, Except.ok.injEq] at h
    rw [← h]
    exact hr
  · rw [mapM_of_first_error hbefore ha] at h
    cases h

/-- An entry has failed, and none before it. -/
theorem mapM_eq_error_iff (l : List α) (e : ε) :
    l.mapM f = .error e ↔
      ∃ before a after, l = before ++ a :: after ∧ (∀ b ∈ before, ∃ v, f b = .ok v) ∧
        f a = .error e := by
  constructor
  · intro h
    rcases forall₂_or_first_error (f := f) l with ⟨r, hr⟩ | ⟨before, a, after, e', rfl, hbefore, ha⟩
    · rw [mapM_of_forall₂ hr] at h
      cases h
    · rw [mapM_of_first_error hbefore ha, Except.error.injEq] at h
      exact ⟨before, a, after, rfl, hbefore, h ▸ ha⟩
  · rintro ⟨before, a, after, rfl, hbefore, ha⟩
    exact mapM_of_first_error hbefore ha

/-- An error that is mapped at each entry is mapped at the end. -/
theorem mapM_mapError {δ : Type} (g : ε → δ) (l : List α) :
    l.mapM (fun a => (f a).mapError g) = (l.mapM f).mapError g := by
  induction l with
  | nil => rfl
  | cons a l ih =>
    rw [List.mapM_cons, List.mapM_cons, ih]
    cases f a with
    | error e => rfl
    | ok b =>
      cases l.mapM f with
      | error e => rfl
      | ok bs => rfl

end

/-- A literal is read as the checkpoint with its height and the digest of its text. -/
theorem Checkpoint.ofLiteral_eq_ok_iff (height : UInt32) (text : String) (c : Checkpoint) :
    ofLiteral height text = .ok c ↔ c.height = height ∧ Digest.ofLiteral text = .ok c.digest := by
  rw [ofLiteral, Digest.ofLiteral, Error.ofDigest, Error.ofDigest, mapError_eq_ok_iff,
    mapError_eq_ok_iff, parse, map_eq_ok_iff]
  constructor
  · rintro ⟨d, hd, rfl⟩
    exact ⟨rfl, hd⟩
  · rintro ⟨rfl, hd⟩
    exact ⟨c.digest, hd, rfl⟩

/-- What is wrong with a checkpoint is what is wrong with its digest. -/
theorem Checkpoint.ofLiteral_eq_error_iff (height : UInt32) (text : String) (e : Error) :
    ofLiteral height text = .error e ↔ Digest.ofLiteral text = .error e := by
  rw [ofLiteral, Digest.ofLiteral, Error.ofDigest, Error.ofDigest, mapError_eq_error_iff,
    mapError_eq_error_iff, parse]
  simp only [map_eq_error_iff]

theorem Checkpoint.exists_ofLiteral_iff (height : UInt32) (text : String) :
    (∃ c, ofLiteral height text = .ok c) ↔ ∃ d, Digest.ofLiteral text = .ok d := by
  constructor
  · rintro ⟨c, hc⟩
    exact ⟨c.digest, ((ofLiteral_eq_ok_iff height text c).mp hc).2⟩
  · rintro ⟨d, hd⟩
    exact ⟨⟨height, d⟩, (ofLiteral_eq_ok_iff height text _).mpr ⟨rfl, hd⟩⟩

namespace Checkpoints

-- ---------------------------------------------------------------------------
-- Tables
-- ---------------------------------------------------------------------------

/-- A table is read entry by entry, each as a checkpoint of its own. -/
theorem ofTable_eq (table : List (UInt32 × String)) :
    ofTable table =
      (table.mapM fun entry => Checkpoint.ofLiteral entry.1 entry.2).map ofList := by
  -- the error gets its name at the end of the reading, which is as good as at its entry
  have hentries : (table.mapM fun entry => Checkpoint.ofLiteral entry.1 entry.2) =
      Error.ofDigest (table.mapM fun entry => Checkpoint.parse entry.1 entry.2) :=
    mapM_mapError Error.invalidDigest table
  rw [ofTable, ofLiterals, hentries]
  cases table.mapM fun entry => Checkpoint.parse entry.1 entry.2 with
  | error e => rfl
  | ok items => rfl

/-- A table is read as the list that has the height and the digest of each entry at its place. -/
theorem ofTable_eq_ok_iff (table : List (UInt32 × String)) (cs : Checkpoints) :
    ofTable table = .ok cs ↔
      List.Forall₂ (fun entry c => c.height = entry.1 ∧ Digest.ofLiteral entry.2 = .ok c.digest)
        table cs.toList := by
  -- a list of checkpoints is no more than the checkpoints in it
  have hlist (items : List Checkpoint) : ofList items = cs ↔ items = cs.toList := by
    constructor
    · rintro rfl
      exact (toList_ofList items).symm
    · rintro rfl
      rfl
  simp only [← Checkpoint.ofLiteral_eq_ok_iff]
  rw [ofTable_eq, map_eq_ok_iff]
  simp only [hlist, exists_eq_right]
  exact mapM_eq_ok_iff table cs.toList

/-- The error is that of the first text that is no digest. -/
theorem ofTable_eq_error_iff (table : List (UInt32 × String)) (e : Error) :
    ofTable table = .error e ↔
      ∃ before entry after, table = before ++ entry :: after ∧
        (∀ b ∈ before, ∃ d, Digest.ofLiteral b.2 = .ok d) ∧
        Digest.ofLiteral entry.2 = .error e := by
  rw [ofTable_eq, map_eq_error_iff, mapM_eq_error_iff]
  simp only [Checkpoint.exists_ofLiteral_iff, Checkpoint.ofLiteral_eq_error_iff]

/-- A table is read exactly if all its texts are digests. -/
theorem exists_ofTable_iff (table : List (UInt32 × String)) :
    (∃ cs, ofTable table = .ok cs) ↔ ∀ entry ∈ table, ∃ d, Digest.ofLiteral entry.2 = .ok d := by
  constructor
  · rintro ⟨cs, h⟩ entry hentry
    obtain ⟨c, -, hc⟩ := exists_of_forall₂ ((ofTable_eq_ok_iff table cs).mp h) entry hentry
    exact ⟨c.digest, hc⟩
  · intro h
    cases hread : ofTable table with
    | ok cs => exact ⟨cs, rfl⟩
    | error e =>
      -- the entry that failed would be a digest too
      obtain ⟨before, entry, after, rfl, -, hentry⟩ := (ofTable_eq_error_iff table e).mp hread
      obtain ⟨d, hd⟩ := h entry (List.mem_append_right _ (List.mem_cons_self ..))
      rw [hd] at hentry
      cases hentry

/-- A list that is written as a table reads back as the list. -/
theorem ofTable_text (cs : Checkpoints) :
    ofTable (cs.toList.map fun c => (c.height, c.digest.text)) = .ok cs := by
  rw [ofTable_eq_ok_iff, List.forall₂_map_left_iff, List.forall₂_same]
  intro c _
  refine ⟨rfl, ?_⟩
  rw [Digest.ofLiteral, Digest.parse_text]
  rfl

/-- Heights increase from each checkpoint to the next exactly if they increase between any
two of the list. -/
theorem isStrictlyOrdered_iff_get (cs : Checkpoints) :
    cs.isStrictlyOrdered = true ↔ ∀ i j : Fin cs.toList.length, i < j →
      (cs.toList.get i).height < (cs.toList.get j).height := by
  rw [isStrictlyOrdered_iff_pairwise]
  exact List.pairwise_iff_get

/--
**Tables of checkpoints.** A table is read exactly if all its texts are digests, and then the list
has the height and the digest of each entry at its place, and no others. Otherwise the error is that
of the first text that is no digest. A list that is written as a table reads back as the list. A
list counts as ordered exactly if of any two checkpoints the later one is higher.
-/
theorem literals_and_order :
    (∀ table, (∃ cs, ofTable table = .ok cs) ↔
      ∀ entry ∈ table, ∃ d, Digest.ofLiteral entry.2 = .ok d) ∧
    (∀ table cs, ofTable table = .ok cs ↔
      List.Forall₂ (fun entry c => c.height = entry.1 ∧ Digest.ofLiteral entry.2 = .ok c.digest)
        table cs.toList) ∧
    (∀ table e, ofTable table = .error e ↔
      ∃ before entry after, table = before ++ entry :: after ∧
        (∀ b ∈ before, ∃ d, Digest.ofLiteral b.2 = .ok d) ∧ Digest.ofLiteral entry.2 = .error e) ∧
    (∀ cs : Checkpoints,
      ofTable (cs.toList.map fun c => (c.height, c.digest.text)) = .ok cs) ∧
    (∀ cs : Checkpoints, cs.isStrictlyOrdered = true ↔
      ∀ i j : Fin cs.toList.length, i < j →
        (cs.toList.get i).height < (cs.toList.get j).height) :=
  ⟨exists_ofTable_iff, ofTable_eq_ok_iff, ofTable_eq_error_iff, ofTable_text,
    isStrictlyOrdered_iff_get⟩

/-- Two checkpoints at one height are read, but are not in order. Of two texts that are no digests
the first is named. -/
theorem literals_at_one_height :
    let cs := ofList [⟨10, .ofNat 1⟩, ⟨10, .ofNat 2⟩]
    ofTable [(10, "01"), (10, "02")] = .ok cs ∧ cs.isStrictlyOrdered = false ∧
    ofTable [(7, "01"), (1, "not-a-hash"), (2, "!")] =
      .error (.invalidDigest (.badDigit "not-a-hash" 'n' 54)) := by
  intro cs
  obtain ⟨-, hread, hfail, -, hordered⟩ := literals_and_order
  have hone : Digest.ofLiteral "01" = .ok (.ofNat 1) := by
    decide +kernel
  have htwo : Digest.ofLiteral "02" = .ok (.ofNat 2) := by
    decide +kernel
  have hbad : Digest.ofLiteral "not-a-hash" =
      .error (.invalidDigest (.badDigit "not-a-hash" 'n' 54)) := by
    decide +kernel
  refine ⟨(hread _ cs).mpr (.cons ⟨rfl, hone⟩ (.cons ⟨rfl, htwo⟩ .nil)), ?_, ?_⟩
  · rw [← Bool.not_eq_true, hordered]
    intro h
    exact absurd (h ⟨0, by decide⟩ ⟨1, by decide⟩ (by decide)) (by decide)
  · refine (hfail _ _).mpr ⟨[(7, "01")], _, _, rfl, fun b hb => ?_, hbad⟩
    rw [List.mem_singleton.mp hb]
    exact ⟨_, hone⟩

end Checkpoints

end ChainParams
