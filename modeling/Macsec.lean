import Macsec.Foundation.Machine
import Macsec.Foundation.Ledger
import Macsec.Foundation.Copies
import Macsec.Foundation.CounterMode
import Macsec.Foundation.Octets
import Macsec.Foundation.BitPolynomial
import Macsec.Foundation.Traced
import Macsec.Common
import Macsec.Hex
import Macsec.Math.BlockCipher
import Macsec.Math.ByteField
import Macsec.Math.AesSpec
import Macsec.Math.AesRom
import Macsec.Math.Aes
import Macsec.Math.AesTables
import Macsec.Math.AesGeneration
import Macsec.Math.AesRefinement
import Macsec.Math.AesInverse
import Macsec.Math.Cmac
import Macsec.Math.CmacSpec
import Macsec.Math.CmacRefinement
import Macsec.Math.HashField
import Macsec.Math.Gcm
import Macsec.Math.Ghash
import Macsec.Math.GcmSpec
import Macsec.Math.GcmRefinement
import Macsec.Math.GcmCounters
import Macsec.Foundation.Reversal
import Macsec.Foundation.Alternation
import Macsec.MkaCrypto
import Macsec.Math.KeyWrapSpec
import Macsec.KeyWrapRefinement
import Macsec.KdfRefinement
import Macsec.FrameCrypto.Defs
import Macsec.FrameCrypto.Replay
import Macsec.FrameCrypto.Frames
import Macsec.Mka.Types
import Macsec.Mka.Participant
import Macsec.Mka.Wire
import Macsec.Mka.Protocol
import Macsec.Api.Defs
import Macsec.Mka.Invariant
import Macsec.Mka.Election
import Macsec.Mka.Operations
import Macsec.Mka.Reception
import Macsec.Mka.Adoption
import Macsec.Mka.Authentication
import Macsec.Mka.Malformed
import Macsec.Mka.Bounds
import Macsec.Mka.Transitions
import Macsec.Mka.RoundTrip
import Macsec.Mka.Construction
import Macsec.Mka.Moves
import Macsec.Mka.Scripts
import Macsec.Mka.Delivery
import Macsec.Mka.Displacement
import Macsec.Mka.Settings
import Macsec.Mka.Schedule
import Macsec.Mka.Numbering
import Macsec.Mka.Distribution
import Macsec.Mka.Replacement
import Macsec.Mka.Retransmission
import Macsec.Mka.Confirmation
import Macsec.Api.Service
import Macsec.Api.Runs
import Macsec.Api.Refinement
import Macsec.Api.Rejection
import Macsec.FrameCrypto.RoundTrip
import Macsec.FrameCrypto.Window
import Macsec.FrameCrypto.Runs
import Macsec.FrameCrypto.Failures
import Macsec.FrameCrypto.Cache
import Macsec.FrameCrypto.Numbers
import Macsec.Api.StaticMode
import Macsec.Api.Steady
import Macsec.Api.FailClosed
import Macsec.Api.Scripts
import Macsec.Api.Construction
import Macsec.Api.Reporting
import Macsec.System.Defs
import Macsec.System.Reflection
import Macsec.System.Network
import Macsec.System.Uniqueness
import Macsec.System.Origins
import Macsec.System.Return
import Macsec.System.StaticLink
import Macsec.Mka.Recognition
import Macsec.Mka.Timeout
import Macsec.Mka.Atomicity
import Macsec.Mka.Repetition
import Macsec.Mka.Reasons
import Macsec.Mka.Association
import Macsec.Api.Steps
import Macsec.Api.Completion
import Macsec.Api.Orphans
import Macsec.Api.Identities
import Macsec.Api.Numbers
import Macsec.Api.Liveness
import Macsec.Api.Rediscovery
import Macsec.Api.Arrivals
import Macsec.Api.Uniqueness
import Macsec.Api.StaticClosed
import Macsec.Api.StaticNumbers
import Macsec.Api.Placement
import Macsec.Mka.Companions
import Macsec.Api.Identity
import Macsec.Api.Confirmation
import Macsec.System.Confirmation
import Macsec.System.Impasse
import Macsec.Api.Acceptance
import Macsec.LinuxTap.Defs
import Macsec.LinuxTap.Startup
