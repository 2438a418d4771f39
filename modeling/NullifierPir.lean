import NullifierPir.Lib.Crash
import NullifierPir.Client.RoundTrip
import NullifierPir.Export.Soundness
import NullifierPir.Export.Roots
import NullifierPir.Server.Query
import NullifierPir.NfServer.VerifyRoot
import NullifierPir.Store
import NullifierPir.Types.Metadata
import NullifierPir.Ingest.FileStore
import NullifierPir.Ingest.Sync
import NullifierPir.Ingest.Chain
import NullifierPir.Ingest.SyncOps
import NullifierPir.Ingest.SyncRun
import NullifierPir.Ingest.BatchRanges
import NullifierPir.Ingest.CrashResume
import NullifierPir.Lib.TxMerkle
import NullifierPir.Server.PrecomputeCache
import NullifierPir.Updater.Host
import NullifierPir.Updater.Reconciler
import NullifierPir.Updater.Steps
import NullifierPir.Updater.Staging
import NullifierPir.Updater.Rollback
import NullifierPir.Updater.Generations
import NullifierPir.Updater.Install
import NullifierPir.Updater.EnrollmentRuns
import NullifierPir.Server.QueryCodec
import NullifierPir.Imt.Circuit
import NullifierPir.Lib.Sponge
import NullifierPir.Imt.Poseidon
import NullifierPir.NfServer.BlockBinding
import NullifierPir.Export.Decode
import NullifierPir.Export.Files
import NullifierPir.Export.Agreement
import NullifierPir.Client.Hostile
import NullifierPir.Ingest.HeightIndex
import NullifierPir.Ingest.Received
import NullifierPir.NfServer.Bootstrap
import NullifierPir.NfServer.Snapshot
import NullifierPir.Apm.Alerts
import NullifierPir.Apm.Metrics
import NullifierPir.Export.Lookup
import NullifierPir.NfServer.Watchdog
import NullifierPir.NfServer.Discovery
import NullifierPir.Export.Checkpoint
import NullifierPir.NfServer.Outcomes
import NullifierPir.NfServer.PirUpdate
import NullifierPir.Lib.PyJson
import NullifierPir.Scripts.VerifyRound
import NullifierPir.Lib.Requests
import NullifierPir.Client.Fetch
import NullifierPir.NfServer.Installed
import NullifierPir.Server.Serving
import NullifierPir.Export.Complete
import NullifierPir.NfServer.CmdSync
import NullifierPir.NfServer.ProviderIndependence
import NullifierPir.NfServer.ExportHeight
import NullifierPir.NfServer.NetworkRuns
