import ChainParams.Digest
import ChainParams.Network

/-!
# ChainParams — first blocks

The header of the first block of a chain and its digest, for each built-in network. The
transaction in it is not held here.

* `Genesis.ofNetwork`       — the first block of a built-in network.
* `Genesis.digestOfNetwork` — its digest.
-/

namespace ChainParams

/-- The header of a block. -/
structure Header where
  version : Int32
  prevBlock : Digest
  merkleRoot : Digest
  /-- The time of the block in seconds after the start of 1970. -/
  timestamp : UInt32
  /-- The compact target. -/
  bits : UInt32
  nonce : UInt32
deriving DecidableEq

/-- The first block of a chain. -/
structure Genesis where
  header : Header
deriving DecidableEq

namespace Genesis

/-- The root of the transaction tree, the same for every built-in network. -/
def merkleRoot : Digest :=
  .ofNat 0x13757c3610411891452ac1f04d7f81946339b0e5b5aba216e6646e81805c4bb1

/-- A first block with the common root and nothing before it. -/
def ofFields (version : Int32) (timestamp bits nonce : UInt32) : Genesis where
  header := { version, prevBlock := .zero, merkleRoot, timestamp, bits, nonce }

/-- The first block of a built-in network. -/
def ofNetwork : Network → Genesis
  | .mainnet => ofFields 1 1386746168 0x1e0ffff0 12468024
  | .testnet4 => ofFields 2 1386746169 0x1e0ffff0 12468025
  | .regtest => ofFields 1 1386746169 0x1e0ffff0 12468025
  | .simnet => ofFields 1 1401292357 0x207fffff 2

/-- The digest of the first block of a built-in network. -/
def digestOfNetwork : Network → Digest
  | .mainnet => .ofNat 0x21717d4df403301c0538f1cb9af718e483ad06728bbcd8cc6c9511e2f9146ced
  | .testnet4 => .ofNat 0x4966625a4b2851d9fdee139e56211a0d88575f59ed816ff5e6a63deb4e3e29a0
  | .regtest => .ofNat 0x530827f38f93b43ed12af0b3ad25a288dc02ed74d6d7857862df51fc56c416f9
  | .simnet => .ofNat 0x1235c919b81ddcb578b67dce20669fd0c9c5a3450dbcfa2b869dbcb43a3ba4be

end Genesis

end ChainParams
