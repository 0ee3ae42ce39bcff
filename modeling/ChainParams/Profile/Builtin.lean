import ChainParams.Checkpoint.Builtin
import ChainParams.Profile

/-!
# ChainParams — built-in profiles

The profiles of the four built-in networks.

* `Profile.ofNetwork` — the profile of a built-in network.
* `Profile.builtin`   — all of them, in the order in which they are registered.
-/

namespace ChainParams.Profile

/-- The bits with which the test change, relative lock times and segregated witnesses are
voted on in every built-in network. -/
def testDummyBit : UInt8 := 28
def csvBit : UInt8 := 0
def segwitBit : UInt8 := 1

/-- The seeds of the main network. -/
def mainSeeds : List Seed :=
  [⟨"85.25.44.119", true⟩, ⟨"13.114.218.80", true⟩, ⟨"159.69.19.237", false⟩,
   ⟨"46.105.62.121", false⟩, ⟨"46.101.126.142", false⟩, ⟨"212.237.21.74", true⟩,
   ⟨"109.169.63.180", true⟩, ⟨"5.9.10.66", false⟩, ⟨"209.97.179.113", false⟩,
   ⟨"45.77.86.161", false⟩]

/-- The highest target of the public networks. -/
def publicLimit : Nat :=
  0xfffff <<< 216

/-- The deployments of a public network, whose votes on two changes open together. -/
def publicDeployments (opening : UInt64) : Deployments where
  testDummy := ⟨testDummyBit, 1199145601, 1230767999⟩
  csv := ⟨csvBit, opening, 1517356801⟩
  segwit := ⟨segwitBit, opening, 1517356801⟩

/-- The deployments of a private network. -/
def privateDeployments : Deployments :=
  .alwaysActive testDummyBit csvBit segwitBit

/-- The profile of the main network. -/
def mainnet : Profile where
  name := Network.mainnet.name
  magic := Network.mainnet.magic
  defaultPort := "35677"
  seeds := mainSeeds
  genesis := .ofNetwork .mainnet
  genesisDigest := Genesis.digestOfNetwork .mainnet
  powLimit := publicLimit
  powLimitBits := 0x1e0fffff
  bip34Height := 710000
  -- not planned yet
  bip65Height := 99999999
  bip66Height := 99999999
  coinbaseMaturity := 30
  subsidyInterval := 525600
  targetTimespan := .ofMinutes 30
  targetTimePerBlock := .ofMinutes 1
  adjustmentFactor := 16
  dropsDifficulty := false
  dropAfter := .ofMinutes 0
  canGenerate := false
  checkpoints := .mainnet
  activationThreshold := 6048
  confirmationWindow := 8064
  deployments := publicDeployments 1485561600
  relaysNonStandard := false
  hrp := "eac"
  pubKeyHashId := 0x30
  scriptHashId := 0x32
  privateKeyId := 0xb0
  witnessPubKeyHashId := 0x06
  witnessScriptHashId := 0x0a
  hdPrivateId := .ofFour 0x04 0x88 0xad 0xe4
  hdPublicId := .ofFour 0x04 0x88 0xb2 0x1e
  coinType := 2

/-- The profile of the test network, version 4. -/
def testnet4 : Profile where
  name := Network.testnet4.name
  magic := Network.testnet4.magic
  defaultPort := "25677"
  seeds := []
  genesis := .ofNetwork .testnet4
  genesisDigest := Genesis.digestOfNetwork .testnet4
  powLimit := publicLimit
  powLimitBits := 0x1e0fffff
  bip34Height := 76
  bip65Height := 76
  bip66Height := 76
  coinbaseMaturity := 30
  subsidyInterval := 525600
  targetTimespan := .ofMinutes 30
  targetTimePerBlock := .ofMinutes 1
  adjustmentFactor := 16
  dropsDifficulty := true
  dropAfter := .ofMinutes 5
  canGenerate := false
  checkpoints := .testnet4
  activationThreshold := 1512
  confirmationWindow := 2016
  deployments := publicDeployments 1483228800
  relaysNonStandard := true
  hrp := "teac"
  pubKeyHashId := 0x6f
  scriptHashId := 0x3a
  privateKeyId := 0xef
  witnessPubKeyHashId := 0x52
  witnessScriptHashId := 0x31
  hdPrivateId := .ofFour 0x04 0x35 0x83 0x94
  hdPublicId := .ofFour 0x04 0x35 0x87 0xcf
  coinType := 1

/-- The profile of the regression test network. -/
def regtest : Profile where
  name := Network.regtest.name
  magic := Network.regtest.magic
  defaultPort := "18444"
  seeds := []
  genesis := .ofNetwork .regtest
  genesisDigest := Genesis.digestOfNetwork .regtest
  powLimit := Compact.ones 255
  powLimitBits := 0x207fffff
  -- not in force, so that blocks of version 1 stay valid
  bip34Height := 100000000
  bip65Height := 1351
  bip66Height := 1251
  coinbaseMaturity := 30
  subsidyInterval := 525600
  targetTimespan := .ofMinutes 30
  targetTimePerBlock := .ofMinutes 1
  adjustmentFactor := 16
  dropsDifficulty := true
  dropAfter := .ofMinutes 20
  canGenerate := true
  checkpoints := .empty
  activationThreshold := 108
  confirmationWindow := 144
  deployments := privateDeployments
  relaysNonStandard := true
  hrp := "reac"
  pubKeyHashId := 0x6f
  scriptHashId := 0x3a
  privateKeyId := 0xef
  witnessPubKeyHashId := 0x00
  witnessScriptHashId := 0x00
  hdPrivateId := .ofFour 0x04 0x35 0x83 0x94
  hdPublicId := .ofFour 0x04 0x35 0x87 0xcf
  coinType := 1

/-- The profile of the simulation network. It has no seeds, for with them it would
turn into one more public test network. -/
def simnet : Profile where
  name := Network.simnet.name
  magic := Network.simnet.magic
  defaultPort := "18555"
  seeds := []
  genesis := .ofNetwork .simnet
  genesisDigest := Genesis.digestOfNetwork .simnet
  powLimit := Compact.ones 255
  powLimitBits := 0x207fffff
  bip34Height := 0
  bip65Height := 0
  bip66Height := 0
  coinbaseMaturity := 30
  subsidyInterval := 210000
  targetTimespan := .ofMinutes (14 * 24 * 60)
  targetTimePerBlock := .ofMinutes 10
  adjustmentFactor := 16
  dropsDifficulty := true
  dropAfter := .ofMinutes 20
  canGenerate := true
  checkpoints := .empty
  activationThreshold := 75
  confirmationWindow := 100
  deployments := privateDeployments
  relaysNonStandard := true
  hrp := "seac"
  pubKeyHashId := 0x3f
  scriptHashId := 0x7b
  privateKeyId := 0x64
  witnessPubKeyHashId := 0x19
  witnessScriptHashId := 0x28
  hdPrivateId := .ofFour 0x04 0x20 0xb9 0x00
  hdPublicId := .ofFour 0x04 0x20 0xbd 0x3a
  coinType := 115

/-- The profile of a built-in network. -/
def ofNetwork : Network → Profile
  | .mainnet => mainnet
  | .testnet4 => testnet4
  | .regtest => regtest
  | .simnet => simnet

/-- The profiles of the built-in networks, in the order in which they are registered. -/
def builtin : List Profile :=
  Network.all.map ofNetwork

theorem magic_ofNetwork (n : Network) : (ofNetwork n).magic = n.magic := by
  cases n <;> rfl

end ChainParams.Profile
