import ChainParams.Error
import ChainParams.Profile.Builtin
import ChainParams.Proofs.Compact.ClosedForm

/-!
# ChainParams — limits made of one bits

Most highest targets are `2^b - 1`, a number of `b` one bits. Encoding keeps the bits down to
a whole byte and drops the others, and what is kept of one bits are one bits: decoding gives
`2^b` less the unit that encoding rounds to. Three bytes are kept, and the top bit of the top
one has to stay clear, so 16 bits are kept besides those of the byte that is begun. A number
that has no more bits than that is kept as it is.

A profile whose compact form is that of its highest target can have one defect of its highest
target at most, that it is too wide.

## Results

* `bitLength_ones`       — `b` one bits have the length `b`.
* `target_ofTarget_ones` — what encoding keeps of them.
* `ones_limits`          — encoding, saturation, and what validation says of such limits.
-/

namespace ChainParams

namespace Compact

variable {b : Nat}

theorem ones_eq (b : Nat) : ones b = 2 ^ b - 1 := by
  rw [ones, Nat.one_shiftLeft]

/-- `b` one bits have the length `b`. -/
theorem bitLength_ones (b : Nat) : bitLength (ones b) = b := by
  have hpos := Nat.two_pow_pos b
  refine Nat.le_antisymm (bitLength_le_iff.mpr (by rw [ones_eq]; omega)) ?_
  by_contra hlt
  -- fewer bits would leave room for a number below the half of `2^b` only
  have hshort : ones b < 2 ^ (b - 1) := bitLength_le_iff.mp (by omega)
  have hhalf : 2 ^ b = 2 ^ (b - 1) * 2 ^ 1 := two_pow_eq_mul (by omega)
  have hunit := Nat.two_pow_pos (b - 1)
  rw [ones_eq] at hshort
  omega

/-- One bits rounded down to a power of two are one bits above it. -/
theorem ones_div_mul {k : Nat} (h : k ≤ b) : ones b / 2 ^ k * 2 ^ k = 2 ^ b - 2 ^ k := by
  have hpos := Nat.two_pow_pos k
  have hsplit : 2 ^ b = 2 ^ (b - k) * 2 ^ k := two_pow_eq_mul (by omega)
  have hhead := Nat.two_pow_pos (b - k)
  have hdiv : ones b / 2 ^ k = 2 ^ (b - k) - 1 := by
    rw [ones_eq, hsplit]
    refine Nat.div_eq_of_lt_le ?_ ?_
    · rw [Nat.sub_mul]
      omega
    · rw [Nat.sub_add_cancel hhead]
      have := Nat.mul_pos hhead hpos
      omega
  rw [hdiv, Nat.sub_mul, Nat.one_mul, ← hsplit]

/-- The bits that encoding drops of `b` one bits. -/
theorem dropped_bits (b : Nat) : b - min b (16 + b % 8) = 8 * (b / 8 + 1 - 3) := by
  omega

/-- What encoding keeps of `b` one bits: the unit that it rounds to is taken off the next power. -/
theorem target_ofTarget_ones (h : b ≤ 2039) :
    target (ofTarget (ones b)) = 2 ^ b - 2 ^ (b - min b (16 + b % 8)) := by
  have hkept : keptUnit (ones b) = 2 ^ (b - min b (16 + b % 8)) := by
    rw [keptUnit, signedLength, bitLength_ones, dropped_bits]
  rw [target_ofTarget (by rw [bitLength_ones]; omega), hkept]
  exact ones_div_mul (Nat.sub_le _ _)

/-- From 2040 one bits on the word is the largest one. -/
theorem ofTarget_ones_of_wide (h : 2040 ≤ b) : ofTarget (ones b) = 0xff7fffff := by
  rw [← largest_eq]
  exact ofTarget_of_wide (by rw [bitLength_ones]; exact h)

end Compact

-- ---------------------------------------------------------------------------
-- What validation says of a highest target
-- ---------------------------------------------------------------------------

/-- Whether a defect is one of the highest target. -/
def Defect.isOfLimit : Defect → Bool
  | .wideLimit _ => true
  | .limitBits _ _ => true
  | _ => false

namespace Profile

/-- The defects that validation reports. -/
def reported (p : Profile) : List Defect :=
  match p.validate with
  | .error (.invalidProfile _ defects) => defects
  | _ => []

/-- Validation reports the defects of the profile, all of them. -/
theorem reported_eq (p : Profile) : p.reported = p.defects := by
  rw [reported, validate]
  cases p.defects <;> rfl

/-- Among the defects of a profile, those of its highest target are the ones that its two rules
add. -/
theorem filter_isOfLimit_defects (p : Profile) :
    p.defects.filter Defect.isOfLimit = p.limitDefects := by
  -- a rule about anything else adds nothing, kept or broken
  have hrule (good : Prop) [Decidable good] {defect : Defect} (h : defect.isOfLimit = false) :
      (if good then [] else [defect]).filter Defect.isOfLimit = [] := by
    split <;> simp [h]
  have hdeployments : (p.deployments.entries.flatMap fun entry =>
      (entry.2.defects entry.1).filter Defect.isOfLimit) = [] := by
    rw [List.flatMap_eq_nil_iff]
    intro entry _
    rw [Deployment.defects, List.filter_append, hrule _ rfl, hrule _ rfl, List.append_nil]
  have hwindow : (if p.confirmationWindow = 0 then [.emptyWindow] else []).filter
      Defect.isOfLimit = [] := by
    rw [← ite_not]
    exact hrule _ rfl
  have hlimit : p.limitDefects.filter Defect.isOfLimit = p.limitDefects := by
    rw [List.filter_eq_self]
    intro defect hdefect
    simp only [limitDefects, List.mem_append, List.mem_ite_nil_left, List.mem_singleton] at hdefect
    rcases hdefect with ⟨-, rfl⟩ | ⟨-, rfl⟩ <;> rfl
  have hhrp : p.hrpDefects.filter Defect.isOfLimit = [] := by
    rw [hrpDefects, List.filter_append, hrule _ rfl]
    cases Hrp.check p.hrp <;> rfl
  rw [defects]
  simp only [List.filter_append, List.filter_flatMap]
  rw [hrule _ rfl, hdeployments, hwindow, hrule _ rfl, hlimit, hhrp, List.append_nil]
  rfl

/-- With the compact form of its highest target, a profile has no defect of its highest target
but a width of more than 256 bits. -/
theorem filter_isOfLimit_reported {p : Profile}
    (hbits : p.powLimitBits = Compact.ofTarget p.powLimit) :
    p.reported.filter Defect.isOfLimit =
      if bitLength p.powLimit ≤ 256 then [] else [.wideLimit (bitLength p.powLimit)] := by
  rw [reported_eq, filter_isOfLimit_defects, limitDefects, if_pos hbits.symm, List.append_nil]
  rfl

end Profile

namespace Compact

/--
**Limits made of one bits.** Encoding `b` one bits and decoding them again keeps the
`16 + b % 8` highest of them, or all if there are no more, as long as `b` is at most 2039; from
2040 bits on the word is the largest one. Of a profile with such a highest target and its compact
form, validation reports no defect of the highest target exactly up to 256 bits, and beyond them
exactly one, its width.
-/
theorem ones_limits :
    (∀ b, b ≤ 2039 →
      target (ofTarget (ones b)) = 2 ^ b - 2 ^ (b - min b (16 + b % 8))) ∧
    (∀ b, 2040 ≤ b → ofTarget (ones b) = 0xff7fffff) ∧
    ∀ (p : Profile) (b : Nat), p.powLimit = ones b → p.powLimitBits = ofTarget p.powLimit →
      (p.reported.filter Defect.isOfLimit = [] ↔ b ≤ 256) ∧
      (256 < b → p.reported.filter Defect.isOfLimit = [.wideLimit b]) := by
  refine ⟨fun b => target_ofTarget_ones, fun b => ofTarget_ones_of_wide, ?_⟩
  intro p b hlimit hbits
  rw [Profile.filter_isOfLimit_reported hbits, hlimit, bitLength_ones]
  refine ⟨?_, fun hwide => if_neg (by omega)⟩
  split
  · next h => exact iff_of_true rfl h
  · next h => exact iff_of_false (List.cons_ne_nil _ _) h

/-- The limit of the simulation network made one bit too wide: the one defect is its width. -/
theorem wide_limit_of_simnet :
    ∃ p : Profile, p.powLimit = ones 257 ∧ p.powLimitBits = ofTarget p.powLimit ∧
      p.reported.filter Defect.isOfLimit = [.wideLimit 257] :=
  ⟨{ Profile.simnet with powLimit := ones 257, powLimitBits := ofTarget (ones 257) }, rfl, rfl,
    (ones_limits.2.2 _ 257 rfl rfl).2 (by decide)⟩

/-- A multiple of eight keeps two bytes, and seven bits more keep three but for one bit. -/
example : ofTarget (ones 224) = 0x1d00ffff ∧ ofTarget (ones 255) = 0x207fffff := by decide +kernel

end Compact

end ChainParams
