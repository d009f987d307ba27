import Roadcast.Protocol.Header
import Roadcast.Protocol.FrameBatch
import Roadcast.Protocol.SignalBatch
import Roadcast.Protocol.Control
import Roadcast.Catalog.SchemaChunk
import Roadcast.Source.History
import Roadcast.Daemon.Incremental
import Roadcast.Daemon.FrozenPages
import Roadcast.Daemon.CatchupComplete
import Roadcast.Daemon.ResyncState
import Roadcast.System.Compatibility
import Roadcast.System.Agreement
import Roadcast.System.Continuity
import Roadcast.Daemon.Timestamps
import Roadcast.Daemon.Input
import Roadcast.Daemon.Isolation
import Roadcast.Daemon.Restart
import Roadcast.Daemon.SetupDeadline
import Roadcast.Protocol.WireBatch
import Roadcast.System.Schema
import Roadcast.Lib.Checked
import Roadcast.Sdk.Decoding
import Roadcast.Sdk.Following
import Roadcast.Sdk.Handling
import Roadcast.Sdk.IndexSafety
import Roadcast.Sdk.Resync
import Roadcast.Catalog.Bits
import Roadcast.Daemon.DenseUpdate
import Roadcast.Generator.Compiled
import Roadcast.Generator.Coverage
import Roadcast.Lib.Counted
import Roadcast.Sdk.Rejected
import Roadcast.Source.Backoff
import Roadcast.Source.Elf
import Roadcast.Source.ElfBounds
import Roadcast.Source.Mapping
import Roadcast.Daemon.Progress
import Roadcast.Daemon.ResyncProgress
import Roadcast.Lib.Cursor
import Roadcast.Source.Provenance
import Roadcast.Daemon.SamplerThread
import Roadcast.Daemon.Pace
import Roadcast.System.ClientSession
