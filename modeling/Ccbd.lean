import Ccbd.AgentIo.Writer
import Ccbd.Audit.Histories
import Ccbd.Audit.JobTimes
import Ccbd.Audit.VersionFence
import Ccbd.Audit.Versioned
import Ccbd.Completion.Distill
import Ccbd.Completion.LateCompletion
import Ccbd.Completion.LogReader
import Ccbd.Db.BareConnection
import Ccbd.Dispatch.Cancellation
import Ccbd.Dispatch.Exclusive
import Ccbd.Gateway.Credentials
import Ccbd.Gateway.Identity
import Ccbd.Marker.PerceptionStream
import Ccbd.Master.FailedRevival
import Ccbd.Master.Readiness
import Ccbd.Monitor.AgentWatch
import Ccbd.Orchestrator.AckOwnership
import Ccbd.Orchestrator.AtMostOnce
import Ccbd.Orchestrator.EndedSessions
import Ccbd.Orchestrator.JobNotices
import Ccbd.Orchestrator.QueuedWork
import Ccbd.Orchestrator.RecoveryHome
import Ccbd.Orchestrator.RecoveryIntents
import Ccbd.Orchestrator.RecoveryReplay
import Ccbd.Outbox.Delivery
import Ccbd.Prompt.KeyEffects
import Ccbd.Provider.Hooks
import Ccbd.Provider.Settings
import Ccbd.Rpc.AgentRemoval
import Ccbd.Rpc.AgentSend
import Ccbd.Rpc.StuckBackfill
import Ccbd.Rpc.JobCancel
import Ccbd.Rpc.RealignAgreement
import Ccbd.Rpc.RealignRows
import Ccbd.Rpc.RuntimeSnapshot
import Ccbd.Rpc.SpawnCleanup
import Ccbd.Platform.UnitFile
