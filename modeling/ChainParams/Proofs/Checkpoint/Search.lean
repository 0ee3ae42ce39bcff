import ChainParams.Checkpoint
import ChainParams.Proofs.Search
import Mathlib.Data.List.Chain

/-!
# ChainParams — searching for checkpoints

A list of checkpoints is searched by halving, which is right only if heights increase. The
check that they do looks at neighbours alone; heights are ordered by a transitive relation,
so it says the same of any two checkpoints (`isStrictlyOrdered_iff_pairwise`).

What bisection finds is right in any list: it has the height (`bisect_sound`). That it finds
what is there needs the order: if the middle one is too low, so is everything before it, and
if it is too high, so is everything behind it. The half that is dropped then cannot hold
the height (`bisect_complete`, by induction on the halving).

## Results

* `isStrictlyOrdered_iff` — the order of neighbours is the order of all pairs.
* `at?_eq_some_iff`       — bisection finds the checkpoint at a height, if there is one.
* `atOrBefore?_eq_some_iff` — the search from the end finds the last one that is low enough.
* `atOrBefore?_height`    — at the height of a checkpoint that search finds it.
* `exists_latest?`        — the newest checkpoint has the greatest height.
-/

namespace ChainParams

namespace Checkpoints

-- ---------------------------------------------------------------------------
-- The order of heights
-- ---------------------------------------------------------------------------

theorem increasing_iff_isChain (items : List Checkpoint) :
    increasing items = true ↔ items.IsChain fun a b => a.height < b.height := by
  fun_induction increasing items with
  | case1 a b rest ih =>
    rw [Bool.and_eq_true, decide_eq_true_eq, ih, List.isChain_cons_cons]
  | case2 items hshort =>
    match items with
    | [] => simp
    | [a] => simp
    | a :: b :: rest => exact absurd rfl (hshort a b rest)

/-- Heights that increase between neighbours increase between any two checkpoints. -/
theorem isStrictlyOrdered_iff_pairwise (cs : Checkpoints) :
    cs.isStrictlyOrdered = true ↔ cs.toList.Pairwise fun a b => a.height < b.height := by
  let R := fun a b : Checkpoint => a.height < b.height
  have htrans : Trans R R R := ⟨UInt32.lt_trans⟩
  rw [isStrictlyOrdered, increasing_iff_isChain]
  exact List.isChain_iff_pairwise

/-- Heights increase from each checkpoint to the next exactly if they increase between any
two places. -/
theorem isStrictlyOrdered_iff (cs : Checkpoints) :
    cs.isStrictlyOrdered = true ↔
      ∀ i j (_ : i < j) (_ : j < cs.items.size), cs.items[i].height < cs.items[j].height := by
  rw [isStrictlyOrdered_iff_pairwise, toList, List.pairwise_iff_getElem]
  constructor
  · intro h i j hij hj
    exact h i j (by simp; omega) (by simpa using hj) hij
  · intro h i j hi hj hij
    exact h i j hij (by simpa using hj)

-- ---------------------------------------------------------------------------
-- Bisection
-- ---------------------------------------------------------------------------

/-- What bisection finds lies in the range and has the height, whatever the order. -/
theorem bisect_sound {items : Array Checkpoint} {height : UInt32} {low high : Nat}
    {hsize : high ≤ items.size} {c : Checkpoint}
    (h : bisect items height low high hsize = some c) :
    c ∈ items.toList ∧ c.height = height := by
  -- along the halving; only the step that stops has something to show
  fun_induction bisect items height low high hsize with
  | case1 low high hsize hlt middle heq =>
    rw [Option.some.injEq] at h
    subst h
    exact ⟨Array.mem_toList_iff.mpr (Array.getElem_mem _), heq⟩
  | case2 low high hsize hlt middle hne hless ih => exact ih h
  | case3 low high hsize hlt middle hne hless ih => exact ih h
  | case4 => cases h

/-- Where heights increase, the lower of two checkpoints stands before the higher. -/
theorem lt_of_height_lt {items : Array Checkpoint}
    (hsorted : ∀ i j (_ : i < j) (_ : j < items.size), items[i].height < items[j].height)
    {i j : Nat} (hi : i < items.size) (hj : j < items.size)
    (h : items[i].height < items[j].height) : i < j := by
  rcases Nat.lt_trichotomy i j with hlt | rfl | hgt
  · exact hlt
  · exact absurd h (UInt32.lt_irrefl _)
  · exact absurd (UInt32.lt_trans h (hsorted j i hgt hi)) (UInt32.lt_irrefl _)

/-- Bisection finds every checkpoint of the range, if heights increase. -/
theorem bisect_complete {items : Array Checkpoint} {k low high : Nat}
    {hsize : high ≤ items.size} (hk : k < items.size)
    (hsorted : ∀ i j (_ : i < j) (_ : j < items.size), items[i].height < items[j].height)
    (hlow : low ≤ k) (hhigh : k < high) :
    bisect items items[k].height low high hsize = some items[k] := by
  fun_induction bisect items items[k].height low high hsize with
  | case1 low high hsize hlt middle heq =>
    -- heights differ at different places
    have hplace : (low + high) / 2 = k := by
      rcases Nat.lt_trichotomy ((low + high) / 2) k with hlt | heq | hgt
      · exact absurd heq (UInt32.ne_of_lt (hsorted _ _ hlt (by omega)))
      · exact heq
      · exact absurd heq.symm (UInt32.ne_of_lt (hsorted _ _ hgt (by omega)))
    simp only [middle, hplace]
  | case2 low high hsize hlt middle hne hless ih =>
    -- the middle one is too low, so the height is behind it
    exact ih hsorted (lt_of_height_lt hsorted _ hk hless) hhigh
  | case3 low high hsize hlt middle hne hless ih =>
    -- the middle one is too high, so the height is before it
    have hmore : items[k].height < middle.height :=
      UInt32.lt_of_le_of_ne (UInt32.not_lt.mp hless) (Ne.symm hne)
    exact ih hsorted hlow (lt_of_height_lt hsorted hk _ hmore)
  | case4 low high hsize hnot => omega

/-- The checkpoint at a height is found exactly if there is one. -/
theorem at?_eq_some_iff {cs : Checkpoints} (hcs : cs.isStrictlyOrdered = true) (height : UInt32)
    (c : Checkpoint) : cs.at? height = some c ↔ c ∈ cs.toList ∧ c.height = height := by
  constructor
  · exact bisect_sound
  · rintro ⟨hmem, rfl⟩
    obtain ⟨k, hk, rfl⟩ := Array.mem_iff_getElem.mp (Array.mem_toList_iff.mp hmem)
    exact bisect_complete hk ((isStrictlyOrdered_iff cs).mp hcs) (Nat.zero_le k) hk

-- ---------------------------------------------------------------------------
-- The search from the end
-- ---------------------------------------------------------------------------

/-- The search from the end finds the last checkpoint that is low enough. -/
theorem atOrBefore?_eq_some_iff (cs : Checkpoints) (height : UInt32) (c : Checkpoint) :
    cs.atOrBefore? height = some c ↔
      c.height ≤ height ∧ ∃ before after, cs.toList = before ++ c :: after ∧
        ∀ d ∈ after, ¬ d.height ≤ height := by
  rw [atOrBefore?, find?_reverse_eq_some_iff]
  simp only [decide_eq_true_eq, decide_eq_false_iff_not]

/-- Checkpoints behind a checkpoint are higher, so the search at its height stops there. -/
theorem atOrBefore?_height {cs : Checkpoints} (hcs : cs.isStrictlyOrdered = true)
    {c : Checkpoint} (hmem : c ∈ cs.toList) : cs.atOrBefore? c.height = some c := by
  obtain ⟨before, after, heq⟩ := List.append_of_mem hmem
  refine (atOrBefore?_eq_some_iff cs _ c).mpr ⟨UInt32.le_refl _, before, after, heq, ?_⟩
  intro d hd
  rw [isStrictlyOrdered_iff_pairwise, heq, List.pairwise_append, List.pairwise_cons] at hcs
  exact UInt32.not_le.mpr (hcs.2.1.1 d hd)

/-- Where there are checkpoints, the newest one has the greatest height. -/
theorem exists_latest? {cs : Checkpoints} (hcs : cs.isStrictlyOrdered = true)
    (hne : cs.toList ≠ []) :
    ∃ last ∈ cs.toList, cs.latest? = some last ∧ ∀ d ∈ cs.toList, d.height ≤ last.height := by
  obtain ⟨older, last, heq⟩ := (List.eq_nil_or_concat' cs.toList).resolve_left hne
  have hlatest : cs.latest? = some last := by
    rw [latest?, ← Array.getLast?_toList]
    show cs.toList.getLast? = some last
    rw [heq, List.getLast?_concat]
  refine ⟨last, by rw [heq]; simp, hlatest, fun d hd => ?_⟩
  rw [isStrictlyOrdered_iff_pairwise, heq, List.pairwise_append] at hcs
  rw [heq, List.mem_append, List.mem_singleton] at hd
  -- all others stand before it, and are lower
  rcases hd with hd | rfl
  · exact UInt32.le_of_lt (hcs.2.2 d hd last (List.mem_singleton_self _))
  · exact UInt32.le_refl _

end Checkpoints

end ChainParams
