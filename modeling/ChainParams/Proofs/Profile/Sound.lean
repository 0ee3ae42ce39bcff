import ChainParams.Error
import ChainParams.Profile.Builtin

/-!
# ChainParams — profiles without defects

A profile is accepted by validation if none of the rules is broken. `Sound` states the
rules, one field each, without the list of defects that validation collects; a rule that is
kept adds nothing to that list and a rule that is broken adds a defect, so the list is empty
exactly if the profile is sound.

## Results

* `defects_eq_nil_iff`    — no defects are found exactly if every rule is kept.
* `validate_eq_ok_iff`    — validation accepts the sound profiles.
* `sound_ofNetwork`       — the built-in profiles are sound.
-/

namespace ChainParams

-- ---------------------------------------------------------------------------
-- Rules one by one
-- ---------------------------------------------------------------------------

theorem RuleChange.mem_all (id : RuleChange) : id ∈ RuleChange.all := by
  cases id <;> decide

/-- A rule adds its defect exactly if it is broken. -/
theorem rule_eq_nil_iff {rule : Prop} [Decidable rule] (d : Defect) :
    (if rule then [] else [d]) = [] ↔ rule := by
  by_cases h : rule
  · simp [h]
  · simp [h]

/-- A deployment has no defects if its window and its bit are right. -/
theorem Deployment.defects_eq_nil_iff (id : RuleChange) (d : Deployment) :
    d.defects id = [] ↔ d.hasValidWindow = true ∧ d.bit ≤ maxBit := by
  rw [defects, List.append_eq_nil_iff, rule_eq_nil_iff, rule_eq_nil_iff]

namespace Profile

/-- A highest target has no defects if it is narrow enough and its compact form is as stated. -/
theorem limitDefects_eq_nil_iff (p : Profile) :
    p.limitDefects = [] ↔
      bitLength p.powLimit ≤ 256 ∧ Compact.ofTarget p.powLimit = p.powLimitBits := by
  rw [limitDefects, List.append_eq_nil_iff, rule_eq_nil_iff, rule_eq_nil_iff]
  rfl

/-- A human-readable part has no defects if it is well formed and in lower case. -/
theorem hrpDefects_eq_nil_iff (p : Profile) :
    p.hrpDefects = [] ↔ Hrp.check p.hrp = .ok () ∧ Text.lower p.hrp = p.hrp := by
  rw [hrpDefects, List.append_eq_nil_iff, rule_eq_nil_iff]
  refine and_congr_left fun _ => ?_
  cases Hrp.check p.hrp with
  | ok => simp
  | error e => simp

/-- The deployments have no defects if none of them has one. -/
theorem deploymentDefects_eq_nil_iff (p : Profile) :
    p.deployments.entries.flatMap (fun (id, d) => d.defects id) = [] ↔
      ∀ id, (p.deployment id).hasValidWindow = true ∧
        (p.deployment id).bit ≤ Deployment.maxBit := by
  rw [Deployments.entries_eq_map_get, List.flatMap_eq_nil_iff, List.forall_mem_map]
  constructor
  · intro h id
    exact (Deployment.defects_eq_nil_iff id _).mp (h id id.mem_all)
  · intro h id _
    exact (Deployment.defects_eq_nil_iff id _).mpr (h id)

-- ---------------------------------------------------------------------------
-- Sound profiles
-- ---------------------------------------------------------------------------

/-- A profile that breaks no rule. -/
structure Sound (p : Profile) : Prop where
  ordered : p.checkpoints.isStrictlyOrdered = true
  deployments (id : RuleChange) :
    (p.deployment id).hasValidWindow = true ∧ (p.deployment id).bit ≤ Deployment.maxBit
  window_ne_zero : p.confirmationWindow ≠ 0
  threshold_le : p.activationThreshold ≤ p.confirmationWindow
  limit_fits : bitLength p.powLimit ≤ 256
  limit_packed : Compact.ofTarget p.powLimit = p.powLimitBits
  hrp_wellFormed : Hrp.check p.hrp = .ok ()
  hrp_lower : Text.lower p.hrp = p.hrp

/-- No defects are found exactly if every rule is kept. -/
theorem defects_eq_nil_iff (p : Profile) : p.defects = [] ↔ p.Sound := by
  rw [defects]
  simp only [List.append_eq_nil_iff, rule_eq_nil_iff, deploymentDefects_eq_nil_iff,
    limitDefects_eq_nil_iff, hrpDefects_eq_nil_iff, ite_eq_right_iff, List.cons_ne_nil, imp_false]
  constructor
  · rintro ⟨⟨⟨⟨⟨hordered, hdeps⟩, hwindow⟩, hthreshold⟩, hfits, hpacked⟩, hwell, hlower⟩
    exact ⟨hordered, hdeps, hwindow, hthreshold, hfits, hpacked, hwell, hlower⟩
  · rintro ⟨hordered, hdeps, hwindow, hthreshold, hfits, hpacked, hwell, hlower⟩
    exact ⟨⟨⟨⟨⟨hordered, hdeps⟩, hwindow⟩, hthreshold⟩, hfits, hpacked⟩, hwell, hlower⟩

/-- Validation accepts the sound profiles. -/
theorem validate_eq_ok_iff (p : Profile) : p.validate = .ok () ↔ p.Sound := by
  rw [← defects_eq_nil_iff, validate]
  cases p.defects with
  | nil => simp
  | cons d ds => simp

/-- The built-in profiles pass their own check. -/
theorem sound_ofNetwork (n : Network) : (ofNetwork n).Sound := by
  rw [← defects_eq_nil_iff]
  cases n with
  | mainnet => decide +kernel
  | testnet4 => decide +kernel
  | regtest => decide +kernel
  | simnet => decide +kernel

end Profile

end ChainParams
