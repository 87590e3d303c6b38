import ZepGpu.Core.Cancellation
import ZepGpu.Core.DeviceExclusivity
import ZepGpu.Core.DispatchOrder
import ZepGpu.Core.StageOnce
import ZepGpu.Ledger.Concurrency
import ZepGpu.Ledger.HeaderExport
import ZepGpu.Ledger.Storage
import ZepGpu.Overlay.Delivery
import ZepGpu.Placement.Supply
import ZepGpu.Queue.Cancelled
import ZepGpu.Queue.GangBlocks
import ZepGpu.Queue.LostResults
import ZepGpu.Queue.PayloadRoundTrip
import ZepGpu.Queue.RoomTasks
import ZepGpu.Queue.UsageOnce
import ZepGpu.Resources.KernelRuns
import ZepGpu.Rooms.Leases
import ZepGpu.Rooms.ResumedAssignments
import ZepGpu.Rooms.ShareStates
import ZepGpu.Security.CallbackRebinding
import ZepGpu.Security.ConcurrentQuota
import ZepGpu.Training.Arrival
import ZepGpu.Training.Completeness
import ZepGpu.Training.CompressionLimits
import ZepGpu.Training.Liveness
import ZepGpu.Training.PartialRestore
import ZepGpu.Training.Refusal
import ZepGpu.Training.RefusedEnvelopes
import ZepGpu.Training.RelayAgreement
import ZepGpu.Training.Restart
import ZepGpu.Training.WorkerBuffer
import ZepGpu.TrainingRuns.Lifecycle
import ZepGpu.Utils.RateLimiter
import ZepGpu.Utils.SimulationClock
import ZepGpu.Vpn.AddressUniqueness
import ZepGpu.Vpn.NestingGuard
import ZepGpu.Vpn.ResultOwnership
import ZepGpu.Websockets.Coherence
import ZepGpu.Websockets.Revocation
