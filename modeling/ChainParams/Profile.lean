import ChainParams.Checkpoint
import ChainParams.Compact
import ChainParams.Deployment
import ChainParams.Duration
import ChainParams.Genesis

/-!
# ChainParams — network profiles

A profile holds all that tells one network from another: how its blocks are made, how
its addresses and keys are written, and where its peers are found.

* `Profile`                  — the parameters of a network.
* `Profile.retargetInterval` — the blocks between two changes of difficulty.
* `Profile.checkpointAt?`, `Profile.hasCheckpointAt`, `Profile.latestCheckpoint?`.
-/

namespace ChainParams

/-- The four bytes in front of an extended key. -/
structure HdKeyId where
  bytes : Vector UInt8 4
deriving DecidableEq

namespace HdKeyId

/-- The id with the given bytes, if they are four. -/
def ofBytes? (bytes : List UInt8) : Option HdKeyId :=
  if h : bytes.toArray.size = 4 then some ⟨⟨bytes.toArray, h⟩⟩ else none

/-- The id made of four bytes. -/
def ofFour (a b c d : UInt8) : HdKeyId :=
  ⟨#v[a, b, c, d]⟩

/-- The bytes of an id in order. -/
def toList (id : HdKeyId) : List UInt8 :=
  id.bytes.toList

instance : Hashable HdKeyId where
  hash id := hash id.toList

end HdKeyId

/-- The parameters of a network. -/
structure Profile where
  name : String
  magic : Magic
  /-- Where peers listen. -/
  defaultPort : String
  seeds : List Seed

  genesis : Genesis
  genesisDigest : Digest

  /-- The highest target allowed. -/
  powLimit : Nat
  /-- The highest target in compact form. -/
  powLimitBits : UInt32

  /-- The heights at which three early rule changes took effect. -/
  bip34Height : UInt32
  bip65Height : UInt32
  bip66Height : UInt32

  /-- The blocks before newly made coins can be spent. -/
  coinbaseMaturity : UInt16
  /-- The blocks between two cuts of the subsidy. -/
  subsidyInterval : UInt32

  /-- The time that should pass between two changes of difficulty. -/
  targetTimespan : Duration
  /-- The time that should pass between two blocks. -/
  targetTimePerBlock : Duration
  /-- The bound on one change of difficulty. -/
  adjustmentFactor : Int64
  /-- Whether the difficulty drops to the least one after a long gap without blocks. -/
  dropsDifficulty : Bool
  /-- The length of such a gap. -/
  dropAfter : Duration
  /-- Whether blocks may be made by the node itself. -/
  canGenerate : Bool

  checkpoints : Checkpoints

  /-- The votes in a window that lock a rule change in. -/
  activationThreshold : UInt32
  /-- The blocks in a window of votes. -/
  confirmationWindow : UInt32
  deployments : Deployments

  /-- Whether transactions of unusual form are passed on. -/
  relaysNonStandard : Bool

  /-- The human-readable part of segwit addresses. -/
  hrp : String

  /-- The first byte of an address that pays to a public key's digest. -/
  pubKeyHashId : UInt8
  /-- The first byte of an address that pays to a script's digest. -/
  scriptHashId : UInt8
  /-- The first byte of a private key as text. -/
  privateKeyId : UInt8
  /-- The first bytes of two early forms of segwit address. -/
  witnessPubKeyHashId : UInt8
  witnessScriptHashId : UInt8

  /-- The bytes in front of extended private keys. -/
  hdPrivateId : HdKeyId
  /-- The bytes in front of extended public keys. -/
  hdPublicId : HdKeyId

  /-- The number of the coin in key derivation paths. -/
  coinType : UInt32
deriving DecidableEq

namespace Profile

/-- The blocks between two changes of difficulty: the quotient of the two times in whole
seconds. It is zero if a block takes less than a second. -/
def retargetInterval (p : Profile) : UInt64 :=
  p.targetTimespan.seconds / p.targetTimePerBlock.seconds

/-- The deployment of a rule change. -/
def deployment (p : Profile) (id : RuleChange) : Deployment :=
  p.deployments.get id

/-- The checkpoint at exactly a height. -/
def checkpointAt? (p : Profile) (height : UInt32) : Option Checkpoint :=
  p.checkpoints.at? height

/-- Whether there is a checkpoint at a height. -/
def hasCheckpointAt (p : Profile) (height : UInt32) : Bool :=
  (p.checkpointAt? height).isSome

/-- The newest checkpoint. -/
def latestCheckpoint? (p : Profile) : Option Checkpoint :=
  p.checkpoints.latest?

end Profile

end ChainParams
