import ChainParams.Hrp
import ChainParams.Profile
import ChainParams.Text.LowerCase
import ChainParams.Text.Quoted

/-!
# ChainParams — defects of a profile

A profile is kept as it is given. Whether its parts fit together is checked against a
fixed series of rules, and every rule that is broken is a defect; none hides another.

* `Defect`          — the rules that a profile can break, with what broke them.
* `Profile.defects` — all defects of a profile, in the order of the rules.
-/

namespace ChainParams

/-- One way in which a profile does not fit together. -/
inductive Defect where
  /-- Checkpoint heights do not increase. -/
  | checkpointOrder
  /-- The window of a deployment closes before it opens. -/
  | window (id : RuleChange) (startTime expireTime : UInt64)
  /-- A deployment uses a bit that is not there for votes. -/
  | versionBit (id : RuleChange) (bit : UInt8)
  /-- The window of votes is empty. -/
  | emptyWindow
  /-- More votes are needed than a window has. -/
  | threshold (votes blocks : UInt32)
  /-- The highest target has more bits than a digest. -/
  | wideLimit (bits : Nat)
  /-- The highest target and its compact form differ. -/
  | limitBits (packed stated : UInt32)
  /-- The human-readable part is not well formed. -/
  | badHrp (hrp : String) (error : HrpError)
  /-- The human-readable part is not in lower case, so that no query can match it. -/
  | capitalHrp (hrp : String)
deriving DecidableEq

namespace Defect

/-- A word in hexadecimal with all its digits. -/
def word (w : UInt32) : String :=
  s!"0x{String.ofList (Hex.padded 8 w.toNat)}"

/-- What the defect says. -/
def message : Defect → String
  | checkpointOrder => "checkpoint heights are not strictly increasing"
  | window id startTime expireTime =>
    s!"deployment {id.name} starts at {startTime.toNat} but expires at {expireTime.toNat}"
  | versionBit id bit => s!"deployment {id.name} uses version bit {bit.toNat}"
  | emptyWindow => "miner confirmation window is zero"
  | threshold votes blocks =>
    s!"activation threshold {votes.toNat} exceeds confirmation window {blocks.toNat}"
  | wideLimit bits => s!"pow limit is {bits} bits wide, more than a 256-bit hash"
  | limitBits packed stated => s!"pow limit encodes to {word packed}, not {word stated}"
  | badHrp hrp error => s!"bech32 hrp {Text.quoted hrp} is invalid: {error.message}"
  | capitalHrp hrp => s!"bech32 hrp {Text.quoted hrp} is not lower case"

end Defect

namespace Deployment

/-- The highest version bit that can be voted with. -/
def maxBit : UInt8 := 28

/-- The defects of the deployment of a rule change. -/
def defects (id : RuleChange) (d : Deployment) : List Defect :=
  (if d.hasValidWindow then [] else [.window id d.startTime d.expireTime]) ++
  (if d.bit ≤ maxBit then [] else [.versionBit id d.bit])

end Deployment

namespace Profile

/-- The defects of the highest target. -/
def limitDefects (p : Profile) : List Defect :=
  let bits := bitLength p.powLimit
  let packed := Compact.ofTarget p.powLimit
  (if bits ≤ 8 * Compact.maxTargetBytes then [] else [.wideLimit bits]) ++
  (if packed = p.powLimitBits then [] else [.limitBits packed p.powLimitBits])

/-- The defects of the human-readable part. -/
def hrpDefects (p : Profile) : List Defect :=
  (match Hrp.check p.hrp with
    | .ok () => []
    | .error e => [.badHrp p.hrp e]) ++
  (if Text.lower p.hrp = p.hrp then [] else [.capitalHrp p.hrp])

/-- All defects of a profile, in the order of the rules. -/
def defects (p : Profile) : List Defect :=
  (if p.checkpoints.isStrictlyOrdered then [] else [.checkpointOrder]) ++
  p.deployments.entries.flatMap (fun (id, d) => d.defects id) ++
  (if p.confirmationWindow = 0 then [.emptyWindow] else []) ++
  (if p.activationThreshold ≤ p.confirmationWindow then []
    else [.threshold p.activationThreshold p.confirmationWindow]) ++
  p.limitDefects ++
  p.hrpDefects

end Profile

end ChainParams
