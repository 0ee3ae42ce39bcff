import ChainParams.Proofs.Checkpoint.Search
import ChainParams.Proofs.Compact.Form
import ChainParams.Proofs.Profile.HrpGrammar
import ChainParams.Proofs.Profile.Sound

/-!
# ChainParams — the rules in plain terms

`Sound` says which rules validation keeps by the checks that it makes: neighbouring heights,
the number of bits, the pass over the human-readable part and its lower-case form. This module
says what these checks come to, in terms of the fields of the profile alone. Two of them need
an argument: heights that increase between neighbours increase between any two places, and the
two checks on the human-readable part leave exactly the texts without capitals.

## Results

* `validate_eq_error_iff`       — a profile that is not accepted is an error with its defects.
* `capitalHrp_mem_defects_iff`  — when the lower-case rule on the human-readable part is broken.
* `validate_accepts_iff`        — the profiles that validation accepts.
-/

namespace ChainParams

/-- A window never closes, or it closes after it opens. -/
theorem Deployment.hasValidWindow_iff_never (d : Deployment) :
    d.hasValidWindow = true ↔ d.expireTime = never ∨ d.startTime < d.expireTime := by
  rw [hasValidWindow, isNeverExpiring, Bool.or_eq_true, decide_eq_true_iff, decide_eq_true_iff]

theorem Deployment.hasValidWindow_iff (d : Deployment) :
    d.hasValidWindow = true ↔ d.expireTime.toNat = 2 ^ 63 - 1 ∨ d.startTime < d.expireTime := by
  rw [hasValidWindow_iff_never, ← UInt64.toNat_inj]
  rfl

namespace Profile

/-- A profile that is not accepted is an error that names all its defects. -/
theorem validate_eq_error_iff (p : Profile) (e : Error) :
    p.validate = .error e ↔ p.defects ≠ [] ∧ e = .invalidProfile p.name p.defects := by
  rw [validate]
  cases p.defects with
  | nil => simp
  | cons d ds => simp [eq_comm]

/-- Validation reports what is among the defects. -/
theorem exists_validate_eq_error_iff (p : Profile) (d : Defect) :
    (∃ defects, p.validate = .error (.invalidProfile p.name defects) ∧ d ∈ defects) ↔
      d ∈ p.defects := by
  simp only [validate_eq_error_iff, Error.invalidProfile.injEq, true_and]
  constructor
  · rintro ⟨defects, ⟨-, rfl⟩, hd⟩
    exact hd
  · exact fun hd => ⟨p.defects, ⟨List.ne_nil_of_mem hd, rfl⟩, hd⟩

/-- No other rule speaks of capitals in the human-readable part. -/
theorem capitalHrp_mem_defects_iff (p : Profile) :
    Defect.capitalHrp p.hrp ∈ p.defects ↔ Text.lower p.hrp ≠ p.hrp := by
  -- the defects of the other parts are of other kinds
  have hdeployment (id : RuleChange) (d : Deployment) :
      Defect.capitalHrp p.hrp ∉ d.defects id := by
    simp [Deployment.defects]
  have hlimit : Defect.capitalHrp p.hrp ∉ p.limitDefects := by
    simp [limitDefects]
  have hhrp : Defect.capitalHrp p.hrp ∈ p.hrpDefects ↔ Text.lower p.hrp ≠ p.hrp := by
    rw [hrpDefects]
    cases Hrp.check p.hrp with
    | ok => simp
    | error e => simp
  rw [defects]
  simp [hdeployment, hlimit, hhrp]

/--
**What validation accepts.** A profile is accepted exactly if the heights of its checkpoints
increase between any two places, each of its three deployments has a version bit of at most 28
and a window that opens before it closes or never closes, the window of votes is not empty and
has no fewer blocks than votes are needed, the highest target has at most 256 bits and the
compact form that is stated, and the human-readable part has 1 to 83 bytes, of which all are
visible ASCII and none are capitals.
-/
theorem validate_accepts_iff (p : Profile) :
    p.validate = .ok () ↔
      (∀ i j (_ : i < j) (_ : j < p.checkpoints.items.size),
        p.checkpoints.items[i].height < p.checkpoints.items[j].height) ∧
      (∀ id, ((p.deployment id).expireTime.toNat = 2 ^ 63 - 1 ∨
          (p.deployment id).startTime < (p.deployment id).expireTime) ∧
        (p.deployment id).bit ≤ 28) ∧
      0 < p.confirmationWindow ∧ p.activationThreshold ≤ p.confirmationWindow ∧
      p.powLimit < 2 ^ 256 ∧ Compact.ofTarget p.powLimit = p.powLimitBits ∧
      1 ≤ p.hrp.utf8ByteSize ∧ p.hrp.utf8ByteSize ≤ 83 ∧
      ∀ c ∈ p.hrp.toList, (33 ≤ c.toNat ∧ c.toNat ≤ 126) ∧ ¬ ('A' ≤ c ∧ c ≤ 'Z') := by
  have hwindow : p.confirmationWindow ≠ 0 ↔ 0 < p.confirmationWindow :=
    UInt32.pos_iff_ne_zero.symm
  rw [validate_eq_ok_iff, ← Hrp.check_and_lower_iff, ← Checkpoints.isStrictlyOrdered_iff,
    ← hwindow]
  simp only [← Deployment.hasValidWindow_iff, ← bitLength_le_iff]
  constructor
  · intro h
    exact ⟨h.ordered, h.deployments, h.window_ne_zero, h.threshold_le, h.limit_fits,
      h.limit_packed, h.hrp_wellFormed, h.hrp_lower⟩
  · rintro ⟨hordered, hdeps, hwindow, hthreshold, hfits, hpacked, hwell, hlower⟩
    exact ⟨hordered, hdeps, hwindow, hthreshold, hfits, hpacked, hwell, hlower⟩

end Profile

end ChainParams
