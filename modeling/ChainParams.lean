import ChainParams.Registry.Handle
import ChainParams.Registry.Shared
import ChainParams.Proofs.Checkpoint.Literals
import ChainParams.Proofs.Checkpoint.Lookup
import ChainParams.Proofs.Codec.Faithful
import ChainParams.Proofs.Codec.IntegerRange
import ChainParams.Proofs.Codec.RoundTrip
import ChainParams.Proofs.Codec.Truncation
import ChainParams.Proofs.Compact.OneBits
import ChainParams.Proofs.Compact.Order
import ChainParams.Proofs.Config.Selection
import ChainParams.Proofs.Deployment.Times
import ChainParams.Proofs.Digest.NormalForm
import ChainParams.Proofs.Digest.Refusal
import ChainParams.Proofs.Json.Unique
import ChainParams.Proofs.Profile.Report
import ChainParams.Proofs.Profile.Retarget
import ChainParams.Proofs.Registry.HdKeys
import ChainParams.Proofs.Registry.Order
import ChainParams.Proofs.Registry.Sharing
import ChainParams.Proofs.Registry.SegwitPrefix
import ChainParams.Proofs.Registry.Stability
