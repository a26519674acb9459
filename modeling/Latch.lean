import Latch.Arch.CortexM
import Latch.Capture.Kept
import Latch.Collector.Resync
import Latch.Core.Admission
import Latch.Core.Attest
import Latch.Core.BootLoop
import Latch.Core.KeyLifecycle
import Latch.Core.Lifecycle
import Latch.Envelope.Failure
import Latch.Envelope.History
import Latch.Envelope.Redaction
import Latch.Envelope.Replay
import Latch.Envelope.Rle
import Latch.Recorder.Interrupted
import Latch.Recorder.Profile
import Latch.Security.Provider
import Latch.Spool.Reserve
import Latch.Storage.EraseCounts
import Latch.Storage.FlashProgram
import Latch.Storage.Geometry
import Latch.Storage.Rotation
import Latch.Transport.Eligibility
import Latch.Transport.Exclusion
import Latch.Transport.Identity
