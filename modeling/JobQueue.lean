import JobQueue.Lib.Prog
import JobQueue.Lib.SortedSet
import JobQueue.Lib.Decimal
import JobQueue.Lib.Text
import JobQueue.Lib.Json
import JobQueue.Lib.JsonText
import JobQueue.Lib.Regex
import JobQueue.Lib.Transition
import JobQueue.Lib.SlidingWindow
import JobQueue.Lib.Trace
import JobQueue.Lib.Fault
import JobQueue.Lib.CircuitBreaker
import JobQueue.Lib.Protocol
import JobQueue.Lib.Split
import JobQueue.Lib.Pool
import JobQueue.Lib.Budget
import JobQueue.Lib.Expiry
import JobQueue.Lib.Lines
import JobQueue.Lib.Layers
import JobQueue.Model.Job
import JobQueue.Model.RateLimiterService
import JobQueue.Model.State
import JobQueue.Model.Service
import JobQueue.Model.JobService
import JobQueue.Model.RedisDispatcherService
import JobQueue.Model.WatcherService
import JobQueue.Model.KafkaConsumerService
import JobQueue.Model.AdminService
import JobQueue.Model.Call
import JobQueue.Model.SelfHealer
import JobQueue.Model.SelfHealerClient
import JobQueue.Model.LogFile
import JobQueue.Model.IncidentPublisherService
import JobQueue.Model.AgentModels
import JobQueue.Model.RulesEngine
import JobQueue.Model.AgentOrchestrator
import JobQueue.Model.ObserverAgent
import JobQueue.Model.JobQueueClient
import JobQueue.Lifecycle.View
import JobQueue.Lifecycle.Move
import JobQueue.Lifecycle.Refinement
import JobQueue.Lifecycle.Carrier
import JobQueue.Lifecycle.Accounting
import JobQueue.Lifecycle.NoEarlySend
import JobQueue.Lifecycle.RecoveryPages
import JobQueue.Lifecycle.Drain
import JobQueue.Lifecycle.Terminal
import JobQueue.Lifecycle.Cancellation
import JobQueue.Lifecycle.Backoff
import JobQueue.Lifecycle.TimeOfDay
import JobQueue.Lifecycle.RedisLoss
import JobQueue.Lifecycle.PendingPage
import JobQueue.Lifecycle.PublishFailure
import JobQueue.Lifecycle.IncidentFailure
import JobQueue.Lifecycle.SchedulePass
import JobQueue.Lifecycle.WriteFailure
import JobQueue.Lifecycle.DispatchFaults
import JobQueue.Lifecycle.RecoveryRetry
import JobQueue.Lifecycle.RetryPage
import JobQueue.Lifecycle.Progress
import JobQueue.Lifecycle.Settlement
import JobQueue.Lifecycle.Times
import JobQueue.Lifecycle.Guards
import JobQueue.Lifecycle.NoDeadEnd
import JobQueue.Lifecycle.Unseen
import JobQueue.Lifecycle.Reports
import JobQueue.Limiter.OverAdmission
import JobQueue.Limiter.Denial
import JobQueue.Circuit.Refinement
import JobQueue.Concurrency.Threads
import JobQueue.Concurrency.Custody
import JobQueue.Concurrency.LostUpdate
import JobQueue.Concurrency.ConsumerStop
import JobQueue.Concurrency.StartFinish
import JobQueue.Concurrency.HalfOpen
import JobQueue.Concurrency.CoolDown
import JobQueue.Concurrency.Exclusion
import JobQueue.Concurrency.Copies
import JobQueue.Concurrency.Integrity
import JobQueue.Healer.LogMessages
import JobQueue.Healer.Detection
import JobQueue.Healer.Document
import JobQueue.Healer.RoundTrip
import JobQueue.Healer.Forgery
import JobQueue.Healer.Follow
import JobQueue.Agent.Enrichment
import JobQueue.Agent.Pipeline
import JobQueue.Agent.SafetyGate
import JobQueue.Agent.Escalation
import JobQueue.Agent.Record
import JobQueue.Agent.Publication
import JobQueue.Agent.Deduplication
import JobQueue.Agent.History
import JobQueue.Agent.Evidence
import JobQueue.Api.Controllers
import JobQueue.Api.Requests
import JobQueue.Api.Traffic
import JobQueue.Loop.Deployment
import JobQueue.Loop.Safety
import JobQueue.Loop.Backing
import JobQueue.Loop.Footprint
import JobQueue.Loop.Diagnosis
import JobQueue.Loop.Verdict
import JobQueue.Model.AgentService
import JobQueue.Agent.Observation
import JobQueue.Loop.Ingestion
