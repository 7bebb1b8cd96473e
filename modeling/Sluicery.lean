import Sluicery.Tasks.Waiting
import Sluicery.Tasks.CancelRequests
import Sluicery.Tasks.Fencing
import Sluicery.Tasks.PublishedFiles
import Sluicery.Tasks.IndexedArtifacts
import Sluicery.Tasks.Dependencies
import Sluicery.Tasks.Attempts
import Sluicery.Tasks.Redownload
import Sluicery.System.Frames
import Sluicery.System.Stranding
import Sluicery.System.PlaylistLock
import Sluicery.System.RunRows
import Sluicery.System.TargetEvents
import Sluicery.System.IndexCrash
import Sluicery.Core.RetentionAgreement
import Sluicery.Core.RetentionCompletion
import Sluicery.Core.CommandPlacement
import Sluicery.Core.OptionLayers
import Sluicery.Core.TrackedPaths
import Sluicery.Core.YtdlpUpdateSafety
import Sluicery.Operations.Steps
import Sluicery.Runner.Cancel
import Sluicery.Layout
import Sluicery.Web.Settings
import Sluicery.Core.ConfigRoundTrip
import Sluicery.Tasks.Claims
import Sluicery.Core.DownloadOutcomes
import Sluicery.Web.CancelTargets
import Sluicery.System.RetryCounts
import Sluicery.Downloader.Progress
import Sluicery.Core.DiscoverEntries
import Sluicery.Web.Sessions
import Sluicery.Core.Reconciled
import Sluicery.Runner.Masking
import Sluicery.Core.SourceUrl
import Sluicery.Core.Naming
import Sluicery.Layout.Subpath
import Sluicery.Core.RetentionSelection
import Sluicery.Core.FolderMoveBack
import Sluicery.Core.IntegrityDecisions
import Sluicery.Core.IntegritySafety
import Sluicery.Storage.NoOverwrite
import Sluicery.Storage.LocalDeletion
import Sluicery.Storage.RemoteDeletion
import Sluicery.Storage.DeletionSafety
import Sluicery.Web.Lockout
import Sluicery.Scheduler.Reconcile
import Sluicery.Operations.WriterCalls
import Sluicery.Backup.RoundTrip
import Sluicery.Backup.Resumed
import Sluicery.Core.YtdlpReleases
import Sluicery.Operations.LockReleased
