import ChainParams.Proofs.Checkpoint.Search
import ChainParams.Proofs.Compact.Canonical
import ChainParams.Proofs.Profile.HrpGrammar
import ChainParams.Proofs.Profile.Sound
import ChainParams.Proofs.Registry.Invariant
import ChainParams.Proofs.Text.Lowering

/-!
# ChainParams — sound profiles in a registry

A registry takes any profile with a new magic, sound or not. This module is about what a
sound one gives once it is there. Each use of a profile rests on a rule of its own:

* segwit prefixes are looked up in lower case but entered as they are, so a prefix is found
  only if it is its own lower-case form; the rules on the human-readable part make it ASCII
  and lower, and then every way of capitalizing it is found as well;
* checkpoints are found by bisection, which needs their order;
* the compact form of the highest target is one that the encoder gave, so it is canonical.

## Results

* `Sound.hrp_small`             — the human-readable part is ASCII without capitals.
* `Sound.lower_eq_segwitPrefix` — every capitalization of the prefix is lowered to it.
* `Sound.limit`                 — what the rules on the highest target come to.
* `sound_profile_works`         — a sound profile serves its lookups where it is registered.
-/

namespace ChainParams

namespace Profile

/-- What holds of a human-readable part and of the separator holds of the prefix. -/
theorem forall_mem_segwitPrefix {hrp : String} {holds : Char → Prop}
    (hhrp : ∀ c ∈ hrp.toList, holds c) (hone : holds '1') :
    ∀ c ∈ (Registry.segwitPrefix hrp).toList, holds c := by
  have hseparator : "1".toList = ['1'] := by decide
  intro c hc
  rw [Registry.segwitPrefix, String.toList_append, hseparator, List.mem_append,
    List.mem_singleton] at hc
  rcases hc with hc | rfl
  · exact hhrp c hc
  · exact hone

/-- The human-readable part of a sound profile is ASCII without capitals. -/
theorem Sound.hrp_small {p : Profile} (hp : p.Sound) :
    ∀ c ∈ p.hrp.toList, c.toNat < 128 ∧ ¬ ('A' ≤ c ∧ c ≤ 'Z') := by
  intro c hc
  obtain ⟨-, -, hchars⟩ := (Hrp.check_and_lower_iff p.hrp).mp ⟨hp.hrp_wellFormed, hp.hrp_lower⟩
  obtain ⟨hvisible, hcapital⟩ := hchars c hc
  exact ⟨by omega, hcapital⟩

theorem Sound.ascii_segwitPrefix {p : Profile} (hp : p.Sound) :
    ∀ c ∈ (Registry.segwitPrefix p.hrp).toList, c.toNat < 128 :=
  forall_mem_segwitPrefix (fun c hc => (hp.hrp_small c hc).1) (by decide)

/-- The segwit prefix of a sound profile is in lower case. -/
theorem Sound.lower_segwitPrefix {p : Profile} (hp : p.Sound) :
    Text.lower (Registry.segwitPrefix p.hrp) = Registry.segwitPrefix p.hrp := by
  rw [Registry.segwitPrefix, Text.lower_append_separator, hp.hrp_lower]

/-- Every capitalization of the prefix is lowered to it. -/
theorem Sound.lower_eq_segwitPrefix {p : Profile} (hp : p.Sound) {text : String}
    (h : Text.SameUpToCase text (Registry.segwitPrefix p.hrp)) :
    Text.lower text = Registry.segwitPrefix p.hrp := by
  rw [Text.lower_eq_lower h hp.ascii_segwitPrefix, hp.lower_segwitPrefix]

/-- The compact form of the highest target is canonical and stands for no more than it. -/
theorem Sound.limit {p : Profile} (hp : p.Sound) :
    Compact.target p.powLimitBits ≤ p.powLimit ∧ p.powLimit < 2 ^ 256 ∧
      Compact.IsCanonical p.powLimitBits := by
  have hbits := hp.limit_fits
  rw [← hp.limit_packed]
  refine ⟨?_, bitLength_le_iff.mp hbits, Compact.isCanonical_ofTarget _⟩
  rw [Compact.target_ofTarget (by omega)]
  exact Nat.div_mul_le_self _ _

/-- The checkpoints of a sound profile are found where they are. -/
theorem Sound.checkpoint {p : Profile} (hp : p.Sound) {c : Checkpoint}
    (hc : c ∈ p.checkpoints.toList) :
    p.checkpointAt? c.height = some c ∧ p.checkpoints.atOrBefore? c.height = some c ∧
      ∃ last ∈ p.checkpoints.toList, p.latestCheckpoint? = some last ∧
        ∀ d ∈ p.checkpoints.toList, d.height ≤ last.height :=
  ⟨(Checkpoints.at?_eq_some_iff hp.ordered _ c).mpr ⟨hc, rfl⟩,
    Checkpoints.atOrBefore?_height hp.ordered hc,
    Checkpoints.exists_latest? hp.ordered (List.ne_nil_of_mem hc)⟩

end Profile

namespace Registry

/-- A profile that is entered is found by its magic. -/
theorem profile?_insert {r : Registry} {p : Profile} (hr : r.Consistent)
    (hnew : r.isRegistered p.magic = false) : (r.insert p).profile? p.magic = some p := by
  rw [(hr.insert hnew).profile?_eq_some_iff, toList_insert]
  simp

/--
**A sound profile serves its lookups.** A profile that validation accepts is registered in
any reachable registry that does not have its magic. From then on its segwit prefix is
found in every capitalization, and its magic leads to it. Each of its checkpoints is found
at its height, exactly and from above, and the newest one has the greatest height. The
compact form of its highest target stands for no more than that target, which is a number
of 256 bits; it has no sign bit, and is the compact form of what it stands for.
-/
theorem sound_profile_works {r : Registry} {p : Profile} (hr : Reachable r)
    (hvalid : p.validate = .ok ()) (hnew : r.isRegistered p.magic = false) :
    ∃ s, r.register p = .ok s ∧
      (∀ text, Text.SameUpToCase text (p.hrp ++ "1") → s.isSegwitPrefix text = true) ∧
      s.profile? p.magic = some p ∧
      (∀ c ∈ p.checkpoints.toList,
        p.checkpointAt? c.height = some c ∧ p.checkpoints.atOrBefore? c.height = some c ∧
        ∃ last ∈ p.checkpoints.toList, p.latestCheckpoint? = some last ∧
          ∀ d ∈ p.checkpoints.toList, d.height ≤ last.height) ∧
      Compact.target p.powLimitBits ≤ p.powLimit ∧ p.powLimit < 2 ^ 256 ∧
      p.powLimitBits &&& 0x800000 = 0 ∧
      Compact.ofTarget (Compact.target p.powLimitBits) = p.powLimitBits := by
  have hp := (Profile.validate_eq_ok_iff p).mp hvalid
  obtain ⟨hle, hlimit, hcanonical⟩ := hp.limit
  refine ⟨r.insert p, ?_, fun text htext => ?_, profile?_insert hr.consistent hnew,
    fun c hc => hp.checkpoint hc, hle, hlimit, ?_, Compact.ofTarget_target hcanonical⟩
  · exact register_of_not_isRegistered hnew
  · -- the query is lowered to the very prefix that was entered
    rw [isSegwitPrefix_insert, hp.lower_eq_segwitPrefix htext, beq_self_eq_true, Bool.true_or]
  · exact (Compact.and_signBit_eq_zero_iff _).mpr hcanonical.unsigned

/-- The main network beside the simulation network: its prefix in mixed case, its magic, its
checkpoint at height 100 and the compact form of its highest target. -/
theorem mainnet_beside_simnet :
    Reachable (empty.attempt .simnet) ∧ Profile.mainnet.validate = .ok () ∧
    (empty.attempt .simnet).isRegistered Magic.mainNet = false ∧
    ∃ s, (empty.attempt .simnet).register .mainnet = .ok s ∧
      s.isSegwitPrefix "EaC1" = true ∧
      s.profile? Magic.mainNet = some .mainnet ∧
      (∃ c, Profile.mainnet.checkpointAt? 100 = some c) ∧
      Compact.ofTarget (Compact.target 0x1e0fffff) = 0x1e0fffff := by
  have hr : Reachable (empty.attempt .simnet) := .attempt _ .empty
  have hvalid : Profile.mainnet.validate = .ok () :=
    (Profile.validate_eq_ok_iff _).mpr (Profile.sound_ofNetwork .mainnet)
  have hnew : (empty.attempt .simnet).isRegistered Magic.mainNet = false := by
    have hempty (magic : Magic) : empty.isRegistered magic = false := by
      simp [empty, isRegistered]
    rw [attempt_of_not_isRegistered (hempty _), isRegistered_insert, hempty, Bool.or_false]
    decide
  obtain ⟨s, hreg, hprefix, hmagic, hcheckpoints, -, -, -, hcompact⟩ :=
    sound_profile_works hr hvalid hnew
  obtain ⟨c, hc, hheight⟩ :
      ∃ c ∈ Profile.mainnet.checkpoints.toList, c.height = 100 := by decide
  have hfound := (hcheckpoints c hc).1
  rw [hheight] at hfound
  exact ⟨hr, hvalid, hnew, s, hreg, hprefix "EaC1" (by decide), hmagic, ⟨c, hfound⟩, hcompact⟩

end Registry

end ChainParams
