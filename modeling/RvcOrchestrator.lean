import RvcOrchestrator.Manager.EpochProgress
import RvcOrchestrator.Manager.LogAccess
import RvcOrchestrator.Manager.ArtifactCleanup
import RvcOrchestrator.Manager.ArtifactRecovery
import RvcOrchestrator.Manager.ArtifactQuota
import RvcOrchestrator.Manager.SampleSafety
import RvcOrchestrator.Manager.DatasetAtomicity
import RvcOrchestrator.Manager.DatasetCleanup
import RvcOrchestrator.Manager.MlflowClaims
import RvcOrchestrator.Worker.ClaimRuntime
import RvcOrchestrator.Fleet.TestSetAudio
import RvcOrchestrator.Fleet.LeaseReplies
import RvcOrchestrator.Manager.MaintenanceSafety
import RvcOrchestrator.Fleet.SampleMetrics
import RvcOrchestrator.Web.Sha256
import RvcOrchestrator.Worker.StageExecution
import RvcOrchestrator.Manager.CleanupCandidates
import RvcOrchestrator.Manager.DatasetIngestion
import RvcOrchestrator.Manager.LogCursors
import RvcOrchestrator.Worker.TrainingLogReaders
import RvcOrchestrator.Worker.InferenceInputs
import RvcOrchestrator.Worker.TelemetryDeduplication
import RvcOrchestrator.Worker.TransferDownload
import RvcOrchestrator.Manager.RateLimits
import RvcOrchestrator.Web.ComparisonJobs
import RvcOrchestrator.Web.JobRequests
import RvcOrchestrator.Web.RegistryReconciliation
import RvcOrchestrator.Worker.CheckpointRetention
import RvcOrchestrator.Worker.LogSanitizing
import RvcOrchestrator.Manager.BodyLimits
import RvcOrchestrator.Worker.TelemetryDurability
