import ChainParams.Config
import ChainParams.Json.Document
import ChainParams.Profile

/-!
# ChainParams — written forms

The documents that stand for values of this library. Records have their members in the
order of their fields.

* `Profile.document` and the like — the document of a value.
-/

namespace ChainParams

open Json (Document)

/-- A digest is written as its text. -/
def Digest.document (d : Digest) : Document :=
  .text d.text

/-- A magic is written as its number. -/
def Magic.document (m : Magic) : Document :=
  .nat m.word.toNat

/-- A built-in network is written as its name. -/
def Network.document (n : Network) : Document :=
  .text n.name

def Seed.document (s : Seed) : Document :=
  .record [("host", .text s.host), ("has_filtering", .flag s.filtering)]

def Header.document (h : Header) : Document :=
  .record [
    ("version", .number h.version.toInt),
    ("prev_block", h.prevBlock.document),
    ("merkle_root", h.merkleRoot.document),
    ("timestamp", .nat h.timestamp.toNat),
    ("bits", .nat h.bits.toNat),
    ("nonce", .nat h.nonce.toNat)]

def Genesis.document (g : Genesis) : Document :=
  .record [("header", g.header.document)]

/-- A rule change is written as its title. -/
def RuleChange.document (id : RuleChange) : Document :=
  .text id.title

def Deployment.document (d : Deployment) : Document :=
  .record [
    ("bit_number", .nat d.bit.toNat),
    ("start_time", .nat d.startTime.toNat),
    ("expire_time", .nat d.expireTime.toNat)]

/-- The table of deployments is written as a list without keys. -/
def Deployments.document (ds : Deployments) : Document :=
  .list (ds.toList.map Deployment.document)

def Checkpoint.document (c : Checkpoint) : Document :=
  .record [("height", .nat c.height.toNat), ("hash", c.digest.document)]

def Checkpoints.document (cs : Checkpoints) : Document :=
  .record [("checkpoints", .list (cs.toList.map Checkpoint.document))]

def Duration.document (d : Duration) : Document :=
  .record [("secs", .nat d.seconds.toNat), ("nanos", .nat d.nanos.toNat)]

/-- The digits of a number in base 2^32, least significant first; zero has none. -/
def wordDigits (n : Nat) : List Nat :=
  if n = 0 then [] else n % UInt32.size :: wordDigits (n / UInt32.size)
termination_by n
decreasing_by exact Nat.div_lt_self (by omega) (by decide)

/-- The id of extended keys is written as a list of its bytes. -/
def HdKeyId.document (id : HdKeyId) : Document :=
  .list (id.toList.map fun b => .nat b.toNat)

def Profile.document (p : Profile) : Document :=
  .record [
    ("name", .text p.name),
    ("net", p.magic.document),
    ("default_port", .text p.defaultPort),
    ("dns_seeds", .list (p.seeds.map Seed.document)),
    ("genesis_block", p.genesis.document),
    ("genesis_hash", p.genesisDigest.document),
    ("pow_limit", .list ((wordDigits p.powLimit).map Document.nat)),
    ("pow_limit_bits", .nat p.powLimitBits.toNat),
    ("bip0034_height", .nat p.bip34Height.toNat),
    ("bip0065_height", .nat p.bip65Height.toNat),
    ("bip0066_height", .nat p.bip66Height.toNat),
    ("coinbase_maturity", .nat p.coinbaseMaturity.toNat),
    ("subsidy_reduction_interval", .nat p.subsidyInterval.toNat),
    ("target_timespan", p.targetTimespan.document),
    ("target_time_per_block", p.targetTimePerBlock.document),
    ("retarget_adjustment_factor", .number p.adjustmentFactor.toInt),
    ("reduce_min_difficulty", .flag p.dropsDifficulty),
    ("min_diff_reduction_time", p.dropAfter.document),
    ("generate_supported", .flag p.canGenerate),
    ("checkpoints", p.checkpoints.document),
    ("rule_change_activation_threshold", .nat p.activationThreshold.toNat),
    ("miner_confirmation_window", .nat p.confirmationWindow.toNat),
    ("deployments", p.deployments.document),
    ("relay_non_std_txs", .flag p.relaysNonStandard),
    ("bech32_hrp_segwit", .text p.hrp),
    ("pub_key_hash_addr_id", .nat p.pubKeyHashId.toNat),
    ("script_hash_addr_id", .nat p.scriptHashId.toNat),
    ("private_key_id", .nat p.privateKeyId.toNat),
    ("witness_pub_key_hash_addr_id", .nat p.witnessPubKeyHashId.toNat),
    ("witness_script_hash_addr_id", .nat p.witnessScriptHashId.toNat),
    ("hd_private_key_id", p.hdPrivateId.document),
    ("hd_public_key_id", p.hdPublicId.document),
    ("hd_coin_type", .nat p.coinType.toNat)]

def Config.document (c : Config) : Document :=
  .record [("network", .text c.network)]

end ChainParams
