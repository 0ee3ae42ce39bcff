import ChainParams.Profile.Builtin
import ChainParams.Proofs.Checkpoint.Search
import ChainParams.Proofs.Profile.Sound
import Mathlib.Algebra.Order.Ring.Nat
import Mathlib.Data.List.Nodup

/-!
# ChainParams — lookups of checkpoints

A checkpoint is looked up by its height in two ways: the one at exactly a height is found by
bisection, the last one at or before a height by a search from the end. Both are compared here
with a plain reading of the list.

Bisection is right where heights increase. That it ends and stays within the list holds of any
list, and is said by a second form of the search: `bisectWithin` reads by places that nothing
vouches for, and may make so many reads only. It can fail in two ways, and with one read for
each bit of the number of checkpoints it never does (`bisectWithin_eq`, by induction on the
halving: half the range is left for one read less).

The search from the end is right in any list. Two of its answers on one list are compared by
their places: the one for the greater height stands at the same place or at a later one, and
what stands later was too high for the smaller height (`atOrBefore?_mono`).

## Results

* `bisectWithin_eq`   — bisection ends, and reads within the list.
* `exact_lookup`      — what bisection finds.
* `atOrBefore?_mono`  — how the search from the end goes with the height.
* `floor_lookup`      — what the search from the end finds.
-/

namespace ChainParams

namespace Checkpoints

-- ---------------------------------------------------------------------------
-- Bisection with reads that can fail
-- ---------------------------------------------------------------------------

/-- What can go wrong with a search. -/
inductive SearchFault where
  /-- It reads at a place that the list does not have. -/
  | outside (place : Nat)
  /-- It has used up its reads. -/
  | unfinished

/-- Looks for a height as bisection does, with so many reads. -/
def bisectWithin (items : Array Checkpoint) (height : UInt32) :
    Nat → Nat → Nat → Except SearchFault (Option Checkpoint)
  | reads, low, high =>
    if low < high then
      match reads with
      | 0 => .error .unfinished
      | reads + 1 =>
        match items[(low + high) / 2]? with
        | none => .error (.outside ((low + high) / 2))
        | some middle =>
          if middle.height = height then .ok (some middle)
          else if middle.height < height then
            bisectWithin items height reads ((low + high) / 2 + 1) high
          else bisectWithin items height reads low ((low + high) / 2)
    else .ok none

/-- Each read leaves half of the range, so the reads suffice, and all are within the list. -/
theorem bisectWithin_eq {items : Array Checkpoint} {height : UInt32} {reads low high : Nat}
    (hsize : high ≤ items.size) (hreads : high - low < 2 ^ reads) :
    bisectWithin items height reads low high = .ok (bisect items height low high hsize) := by
  -- on the reads that are left, for every range that is short enough for them
  induction reads generalizing low high with
  | zero =>
    have hdone : ¬ low < high := by
      rw [pow_zero] at hreads
      omega
    rw [bisectWithin, bisect, if_neg hdone, dif_neg hdone]
  | succ reads ih =>
    rw [pow_succ] at hreads
    rw [bisectWithin, bisect]
    by_cases hlt : low < high
    · have hmiddle : (low + high) / 2 < items.size := by omega
      rw [if_pos hlt, dif_pos hlt]
      simp only [Array.getElem?_eq_getElem hmiddle]
      split
      · rfl
      · split
        · -- the upper half, without the middle one
          exact ih hsize (by omega)
        · -- the lower half
          exact ih (by omega) (by omega)
    · rw [if_neg hlt, dif_neg hlt]

-- ---------------------------------------------------------------------------
-- The checkpoint at a height
-- ---------------------------------------------------------------------------

/-- Where heights increase, no two checkpoints have the same. -/
theorem eq_of_height_eq {cs : Checkpoints} (hcs : cs.isStrictlyOrdered = true)
    {c d : Checkpoint} (hc : c ∈ cs.toList) (hd : d ∈ cs.toList) (h : d.height = c.height) :
    d = c := by
  have hfound := (at?_eq_some_iff hcs c.height c).mpr ⟨hc, rfl⟩
  rw [(at?_eq_some_iff hcs c.height d).mpr ⟨hd, h⟩] at hfound
  exact Option.some.inj hfound

theorem nodup_of_isStrictlyOrdered {cs : Checkpoints} (hcs : cs.isStrictlyOrdered = true) :
    cs.toList.Nodup := by
  rw [isStrictlyOrdered_iff_pairwise] at hcs
  refine hcs.imp fun {a b} hlt heq => ?_
  rw [heq] at hlt
  exact UInt32.lt_irrefl _ hlt

/-- A scan of the whole list for a height meets what bisection finds, and nothing else. -/
theorem filter_height_eq {cs : Checkpoints} (hcs : cs.isStrictlyOrdered = true)
    (height : UInt32) :
    (cs.toList.filter fun c => c.height = height) = (cs.at? height).toList := by
  cases hfound : cs.at? height with
  | none =>
    rw [Option.toList_none, List.filter_eq_nil_iff]
    intro c hc hheight
    have hsome := (at?_eq_some_iff hcs height c).mpr ⟨hc, of_decide_eq_true hheight⟩
    rw [hfound] at hsome
    cases hsome
  | some c =>
    obtain ⟨hc, hheight⟩ := (at?_eq_some_iff hcs height c).mp hfound
    -- having the height is being the checkpoint that was found
    have honly : (cs.toList.filter fun d => d.height = height) =
        cs.toList.filter fun d => d = c := by
      refine List.filter_congr fun d hd => ?_
      rw [decide_eq_decide, ← hheight]
      exact ⟨eq_of_height_eq hcs hc hd, congrArg _⟩
    rw [honly, List.filter_eq, List.count_eq_one_of_mem (nodup_of_isStrictlyOrdered hcs) hc]
    rfl

/--
**The checkpoint at a height.** Where heights increase, bisection finds exactly the checkpoint
of the list that has the height, which is the only one: a scan of the whole list meets no other.
So a profile has a checkpoint at a height exactly if one of its checkpoints has it. With one read
for each bit of the number of checkpoints the search ends, and no read is outside the list.
-/
theorem exact_lookup {cs : Checkpoints} (hcs : cs.isStrictlyOrdered = true) (height : UInt32) :
    (∀ c, cs.at? height = some c ↔ c ∈ cs.toList ∧ c.height = height) ∧
    (∀ c, cs.at? height = some c → ∀ d ∈ cs.toList, d.height = height → d = c) ∧
    (cs.toList.filter fun c => c.height = height) = (cs.at? height).toList ∧
    (∀ p : Profile, p.checkpoints = cs →
      (p.hasCheckpointAt height = true ↔ ∃ c ∈ cs.toList, c.height = height)) ∧
    bisectWithin cs.items height (cs.size.log2 + 1) 0 cs.size = .ok (cs.at? height) := by
  have hfound := at?_eq_some_iff hcs height
  refine ⟨hfound, ?_, filter_height_eq hcs height, ?_, ?_⟩
  · intro c hc d hd hheight
    obtain ⟨hmem, hc⟩ := (hfound c).mp hc
    exact eq_of_height_eq hcs hmem hd (hheight.trans hc.symm)
  · rintro p rfl
    rw [Profile.hasCheckpointAt, Profile.checkpointAt?, Option.isSome_iff_exists]
    exact exists_congr hfound
  · exact bisectWithin_eq (Nat.le_refl _) Nat.lt_log2_self

/-- The main network has a checkpoint at height 800001, and none at 800000. -/
theorem mainnet_at_800001 :
    mainnet.isStrictlyOrdered = true ∧
    mainnet.at? 800001 = some ⟨800001, Digest.ofNat
      0xa6d915a25e905d1329e482aac91228b168de6e6efb3838df16c21c3ac3a82ea2⟩ ∧
    Profile.mainnet.hasCheckpointAt 800001 = true ∧
    Profile.mainnet.hasCheckpointAt 800000 = false := by
  have hordered : mainnet.isStrictlyOrdered = true := (Profile.sound_ofNetwork .mainnet).ordered
  obtain ⟨hfound, -, -, hhas, -⟩ := exact_lookup hordered 800001
  obtain ⟨-, -, -, hnone, -⟩ := exact_lookup hordered 800000
  refine ⟨hordered, (hfound _).mpr ⟨by decide +kernel, rfl⟩, ?_, ?_⟩
  · exact (hhas _ rfl).mpr (by decide +kernel)
  · rw [← Bool.not_eq_true, hnone _ rfl]
    decide +kernel

-- ---------------------------------------------------------------------------
-- The last checkpoint at or before a height
-- ---------------------------------------------------------------------------

/-- No later place holds a checkpoint that is low enough. -/
theorem atOrBefore?_eq_some_iff_getElem? (cs : Checkpoints) (height : UInt32) (c : Checkpoint) :
    cs.atOrBefore? height = some c ↔
      c.height ≤ height ∧ ∃ i : Nat, cs.toList[i]? = some c ∧
        ∀ (j : Nat) (d : Checkpoint), i < j → cs.toList[j]? = some d → height < d.height := by
  rw [atOrBefore?, find?_reverse_eq_some_iff_getElem?]
  simp only [decide_eq_true_eq, decide_eq_false_iff_not, UInt32.not_le]

/-- The search fails exactly if all checkpoints are too high. -/
theorem atOrBefore?_eq_none_iff (cs : Checkpoints) (height : UInt32) :
    cs.atOrBefore? height = none ↔ ∀ c ∈ cs.toList, height < c.height := by
  rw [atOrBefore?, List.find?_eq_none]
  simp only [List.mem_reverse, decide_eq_true_eq, UInt32.not_le]

theorem exists_atOrBefore? {cs : Checkpoints} {height : UInt32} {c : Checkpoint}
    (hc : c ∈ cs.toList) (hle : c.height ≤ height) :
    ∃ d, cs.atOrBefore? height = some d := by
  rw [← Option.ne_none_iff_exists', Ne, atOrBefore?_eq_none_iff]
  intro hall
  exact UInt32.not_lt.mpr hle (hall c hc)

theorem mem_of_atOrBefore? {cs : Checkpoints} {height : UInt32} {c : Checkpoint}
    (h : cs.atOrBefore? height = some c) : c ∈ cs.toList ∧ c.height ≤ height := by
  obtain ⟨hle, i, hi, -⟩ := (atOrBefore?_eq_some_iff_getElem? cs height c).mp h
  exact ⟨List.mem_of_getElem? hi, hle⟩

/-- A greater height has an answer too, at the same place or at a later one, and what stands
later was too high before. -/
theorem atOrBefore?_mono {cs : Checkpoints} {height later : UInt32} {c : Checkpoint}
    (hle : height ≤ later) (h : cs.atOrBefore? height = some c) :
    ∃ d, cs.atOrBefore? later = some d ∧ c.height ≤ d.height ∧
      (c.height ≠ d.height → height < d.height) := by
  obtain ⟨hc, i, hi, hafter⟩ := (atOrBefore?_eq_some_iff_getElem? cs height c).mp h
  have hlow : c.height ≤ later := UInt32.le_trans hc hle
  obtain ⟨d, hd⟩ := exists_atOrBefore? (List.mem_of_getElem? hi) hlow
  obtain ⟨-, j, hj, hbehind⟩ := (atOrBefore?_eq_some_iff_getElem? cs later d).mp hd
  refine ⟨d, hd, ?_⟩
  -- by the places of the two answers; the later answer cannot stand before the earlier one
  rcases Nat.lt_trichotomy i j with hlt | rfl | hgt
  · have hmore : height < d.height := hafter j d hlt hj
    exact ⟨UInt32.le_of_lt (UInt32.lt_of_le_of_lt hc hmore), fun _ => hmore⟩
  · rw [hi, Option.some.injEq] at hj
    subst hj
    exact ⟨UInt32.le_refl _, fun hne => absurd rfl hne⟩
  · exact absurd hlow (UInt32.not_le.mpr (hbehind i c hgt hi))

/-- No checkpoint is above the greatest height. -/
theorem atOrBefore?_greatest (cs : Checkpoints) : cs.atOrBefore? 0xffffffff = cs.latest? := by
  -- every height is low enough, so the search stops at once
  have hall (c : Checkpoint) : c.height ≤ 0xffffffff := by
    rw [UInt32.le_iff_toNat_le]
    exact Nat.le_of_lt_succ c.height.toNat_lt
  rw [atOrBefore?, latest?, ← Array.getLast?_toList, ← List.head?_reverse]
  show cs.toList.reverse.find? _ = cs.toList.reverse.head?
  cases cs.toList.reverse with
  | nil => rfl
  | cons newest older => exact List.find?_cons_of_pos (decide_eq_true (hall newest))

/-- Where heights increase, the last checkpoint that is low enough is the highest of these. -/
theorem atOrBefore?_eq_some_iff_greatest {cs : Checkpoints}
    (hcs : cs.isStrictlyOrdered = true) (height : UInt32) (c : Checkpoint) :
    cs.atOrBefore? height = some c ↔
      c ∈ cs.toList ∧ c.height ≤ height ∧
        ∀ d ∈ cs.toList, d.height ≤ height → d.height ≤ c.height := by
  -- a checkpoint is the answer at its own height, and the answer for a greater height is no lower
  have hhighest {c : Checkpoint} (h : cs.atOrBefore? height = some c) :
      ∀ d ∈ cs.toList, d.height ≤ height → d.height ≤ c.height := by
    intro d hd hle
    obtain ⟨e, he, hde, -⟩ := atOrBefore?_mono hle (atOrBefore?_height hcs hd)
    rw [h, Option.some.injEq] at he
    rw [he]
    exact hde
  constructor
  · intro h
    obtain ⟨hmem, hle⟩ := mem_of_atOrBefore? h
    exact ⟨hmem, hle, hhighest h⟩
  · rintro ⟨hmem, hle, hmax⟩
    obtain ⟨d, hd⟩ := exists_atOrBefore? hmem hle
    obtain ⟨hdmem, hdle⟩ := mem_of_atOrBefore? hd
    -- each of the two is at least as high as the other
    have hsame : d.height = c.height :=
      UInt32.le_antisymm (hmax d hdmem hdle) (hhighest hd c hmem hle)
    rw [hd, eq_of_height_eq hcs hmem hdmem hsame]

/-- Where heights increase, both lookups agree at the height of a checkpoint. -/
theorem at?_eq_some_iff_atOrBefore? {cs : Checkpoints} (hcs : cs.isStrictlyOrdered = true)
    (height : UInt32) (c : Checkpoint) :
    cs.at? height = some c ↔ cs.atOrBefore? height = some c ∧ c.height = height := by
  rw [at?_eq_some_iff hcs]
  constructor
  · rintro ⟨hmem, rfl⟩
    exact ⟨atOrBefore?_height hcs hmem, rfl⟩
  · rintro ⟨h, hheight⟩
    exact ⟨(mem_of_atOrBefore? h).1, hheight⟩

/--
**The last checkpoint at or before a height.** In any list, ordered or not, it is the last one
of the list that is low enough, and there is none exactly if all are too high. A greater height
has an answer wherever a smaller one has, and no lower one; if the two answers differ in height,
the later is above the smaller height. At the greatest height the answer is the newest
checkpoint. Where heights increase it is the highest of those that are low enough, and the
checkpoint at exactly a height is the answer that has this height.
-/
theorem floor_lookup (cs : Checkpoints) (height : UInt32) :
    (∀ c, cs.atOrBefore? height = some c ↔
      c.height ≤ height ∧ ∃ i : Nat, cs.toList[i]? = some c ∧
        ∀ (j : Nat) (d : Checkpoint), i < j → cs.toList[j]? = some d → height < d.height) ∧
    (cs.atOrBefore? height = none ↔ ∀ c ∈ cs.toList, height < c.height) ∧
    (∀ later c, height ≤ later → cs.atOrBefore? height = some c →
      ∃ d, cs.atOrBefore? later = some d ∧ c.height ≤ d.height ∧
        (c.height ≠ d.height → height < d.height)) ∧
    cs.atOrBefore? 0xffffffff = cs.latest? ∧
    (cs.isStrictlyOrdered = true →
      (∀ c, cs.atOrBefore? height = some c ↔
        c ∈ cs.toList ∧ c.height ≤ height ∧
          ∀ d ∈ cs.toList, d.height ≤ height → d.height ≤ c.height) ∧
      ∀ c, cs.at? height = some c ↔ cs.atOrBefore? height = some c ∧ c.height = height) :=
  ⟨atOrBefore?_eq_some_iff_getElem? cs height, atOrBefore?_eq_none_iff cs height,
    fun _ _ => atOrBefore?_mono, atOrBefore?_greatest cs,
    fun hcs => ⟨atOrBefore?_eq_some_iff_greatest hcs height,
      at?_eq_some_iff_atOrBefore? hcs height⟩⟩

/-- Of two checkpoints at height 3 the later one is found, though a higher one stands between
them. For height 8 another one is found, which was too high for 4. On the main network both
lookups find the checkpoint at 10000. -/
theorem floor_of_unordered :
    let cs := ofList [⟨5, .zero⟩, ⟨3, .zero⟩, ⟨9, .zero⟩, ⟨3, .ofNat 1⟩, ⟨7, .zero⟩]
    cs.atOrBefore? 4 = some ⟨3, .ofNat 1⟩ ∧
    (∃ d, cs.atOrBefore? 8 = some d ∧ d.height ≠ 3 ∧ 4 < d.height) ∧
    mainnet.isStrictlyOrdered = true ∧
    ∃ c, mainnet.at? 10000 = some c ∧ mainnet.atOrBefore? 10000 = some c ∧ c.height = 10000 := by
  intro cs
  have hfour : cs.atOrBefore? 4 = some ⟨3, .ofNat 1⟩ := by decide +kernel
  have hseven : cs.atOrBefore? 8 = some ⟨7, .zero⟩ := by decide +kernel
  obtain ⟨d, hd, -, hmore⟩ := (floor_lookup cs 4).2.2.1 8 _ (by decide) hfour
  have hne : d.height ≠ 3 := by
    rw [hseven, Option.some.injEq] at hd
    rw [← hd]
    decide
  have hordered : mainnet.isStrictlyOrdered = true := (Profile.sound_ofNetwork .mainnet).ordered
  have hpinned : mainnet.at? 10000 = some ⟨10000, .ofNat
      0x7b50ea3b42e613e65ec2aca6797a5780e1c545a617e4a610577fb4b040f0035b⟩ := by decide +kernel
  obtain ⟨hfloor, hheight⟩ := (((floor_lookup mainnet 10000).2.2.2.2 hordered).2 _).mp hpinned
  exact ⟨hfour, ⟨d, hd, hne, hmore hne.symm⟩, hordered, _, hpinned, hfloor, hheight⟩

end Checkpoints

end ChainParams
