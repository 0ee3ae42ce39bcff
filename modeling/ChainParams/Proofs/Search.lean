/-!
# ChainParams — searches from the end

Two lookups of this library want the last entry that fits: the checkpoint at or before a
height, and the profile that an id of extended keys stands for. Both search the reversed
list from its front. What they find is the entry that fits and is followed by none that
does.

## Results

* `find?_reverse_eq_some_iff` — what a search from the end of a list finds.
* `find?_reverse_eq_some_iff_getElem?` — the same by places.
-/

namespace ChainParams

/-- A search from the end finds an entry that fits and is followed by none that does. -/
theorem find?_reverse_eq_some_iff {α : Type} (fits : α → Bool) (l : List α) (a : α) :
    l.reverse.find? fits = some a ↔
      fits a = true ∧ ∃ before after, l = before ++ a :: after ∧ ∀ b ∈ after, fits b = false := by
  rw [List.find?_eq_some_iff_append]
  refine and_congr_right fun _ => ?_
  -- what stands before an entry in the reversed list stands behind it in the list
  constructor
  · rintro ⟨as, bs, heq, has⟩
    refine ⟨bs.reverse, as.reverse, ?_, fun b hb => ?_⟩
    · rw [← List.reverse_reverse l, heq]
      simp
    · simpa using has b (List.mem_reverse.mp hb)
  · rintro ⟨before, after, rfl, hafter⟩
    refine ⟨after.reverse, before.reverse, by simp, fun b hb => ?_⟩
    simpa using hafter b (List.mem_reverse.mp hb)

/-- No later place holds an entry that fits. -/
theorem find?_reverse_eq_some_iff_getElem? {α : Type} (fits : α → Bool) (l : List α) (a : α) :
    l.reverse.find? fits = some a ↔
      fits a = true ∧ ∃ i : Nat, l[i]? = some a ∧
        ∀ (j : Nat) (b : α), i < j → l[j]? = some b → fits b = false := by
  rw [find?_reverse_eq_some_iff]
  refine and_congr_right fun _ => ?_
  constructor
  · rintro ⟨before, after, rfl, hafter⟩
    refine ⟨before.length, by simp, ?_⟩
    intro j b hj hb
    -- a later place is a place of the part behind the entry
    obtain ⟨k, rfl⟩ := Nat.exists_eq_add_of_lt hj
    have hplace : before.length + k + 1 - before.length = k + 1 := by omega
    rw [List.getElem?_append_right (by omega), hplace, List.getElem?_cons_succ] at hb
    exact hafter b (List.mem_of_getElem? hb)
  · rintro ⟨i, hi, hlater⟩
    obtain ⟨hlt, rfl⟩ := List.getElem?_eq_some_iff.mp hi
    refine ⟨l.take i, l.drop (i + 1), ?_, ?_⟩
    · rw [← List.drop_eq_getElem_cons hlt, List.take_append_drop]
    · intro b hb
      obtain ⟨k, hk⟩ := List.getElem?_of_mem hb
      rw [List.getElem?_drop] at hk
      exact hlater (i + 1 + k) b (by omega) hk

end ChainParams
