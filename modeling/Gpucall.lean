import Gpucall.DateTime
import Gpucall.Json
import Gpucall.Domain
import Gpucall.Tenant.Ledger
import Gpucall.Tenant.Budget
import Gpucall.Lib.Prog
import Gpucall.Tenant.Charging
import Gpucall.Tenant.Session
import Gpucall.Tenant.Serializable
import Gpucall.Routing.Environment
import Gpucall.Routing.Rejection
import Gpucall.Routing.Costing
import Gpucall.Routing.Registry
import Gpucall.Lib.GroupSort
import Gpucall.Routing.Compiler
import Gpucall.Lib.FirstWins
import Gpucall.Routing.ValidationEvidence
import Gpucall.Routing.ValidationFiles
import Gpucall.Routing.FailClosed
import Gpucall.Routing.RecipeChoice
import Gpucall.Routing.LivePrice
import Gpucall.Routing.CatalogOrder
import Gpucall.Routing.Reservation
import Gpucall.Dispatcher.Admission
import Gpucall.Dispatcher.Calls
import Gpucall.Dispatcher.Execute
import Gpucall.Dispatcher.Inflight
import Gpucall.Dispatcher.Limits
import Gpucall.Dispatcher.SharedAdmission
import Gpucall.Dispatcher.SecurityGate
import Gpucall.Dispatcher.Stream
import Gpucall.Dispatcher.Starts
import Gpucall.Dispatcher.Attempts
import Gpucall.Lib.Each
import Gpucall.Dispatcher.Cleanup
import Gpucall.Dispatcher.Jobs
import Gpucall.Dispatcher.Settlement
import Gpucall.Gateway.Handlers
import Gpucall.Gateway.RequestBudget
import Gpucall.Gateway.Idempotency
import Gpucall.Lib.HashChain
import Gpucall.AuditTrail
import Gpucall.Execution.WorkerMessages
import Gpucall.Execution.ModalStream
import Gpucall.Text
import Gpucall.JsonLoads
import Gpucall.JsonDumps
import Gpucall.Gateway.OpenaiStream
import Gpucall.Lib.Utf8
import Gpucall.Url
import Gpucall.ObjectStore
import Gpucall.Execution.Artifacts
import Gpucall.Execution.ArtifactReclaim
import Gpucall.Execution.LeaseManifest
import Gpucall.Execution.HyperstackReconcile
import Gpucall.Execution.RunpodVllm
import Gpucall.Execution.RunpodJobs
import Gpucall.Execution.ChatPayloads
import Gpucall.Lib.Frames
import Gpucall.Execution.LocalOpenai
import Gpucall.Gateway.ReplayPrivacy
import Gpucall.Lib.AsyncLock
import Gpucall.Gateway.ExecutionLock
import Gpucall.Gateway.RateLimit
import Gpucall.Gateway.MessageContent
import Gpucall.Tenant.Objects
import Gpucall.Dispatcher.Redaction
import Gpucall.Lib.Recent
import Gpucall.Routing.RegistryStore
import Gpucall.Lib.FileTree
import Gpucall.Config.Fingerprint
import Gpucall.Admin.LiveValidation
import Gpucall.Admin.ValidationRefresh
import Gpucall.Lib.PosixPath
import Gpucall.Config.Activation
import Gpucall.Admin.EvidenceKept
import Gpucall.Lib.StepRun
import Gpucall.Lib.Schema
import Gpucall.Config.Providers
import Gpucall.Admin.TuplePromotion
import Gpucall.Admin.FailedActivation
import Gpucall.Admin.SplitTuple
import Gpucall.Admin.PromotedTuples
import Gpucall.Config.Credentials
import Gpucall.Tenant.BootstrapKey
import Gpucall.Sovereignty
import Gpucall.Execution.DataRefFetch
import Gpucall.Catalog.OldEvidence
import Gpucall.ArtifactRegistry
import Gpucall.Panopticon.MergeOrder
import Gpucall.Panopticon.Client
import Gpucall.Panopticon.StoreRuns
import Gpucall.Recipes.OnlyWidens
import Gpucall.Recipes.Served
import Gpucall.Routing.CostMonotone
import Gpucall.Routing.Refusal
import Gpucall.Execution.SystemPrompt
import Gpucall.Dispatcher.OutputValidation
import Gpucall.Execution.StopTokens
import Gpucall.Routing.ContextEstimate
import Gpucall.Routing.CompileRaises
import Gpucall.Lib.Rfc8259
import Gpucall.JsonGrammar
import Gpucall.Dispatcher.StructuredTexts
import Gpucall.Admin.RequestIndex
import Gpucall.Admin.Inbox
import Gpucall.Admin.InboxWrites
import Gpucall.Admin.ConfinedWrites
import Gpucall.Admin.InboxWorld
import Gpucall.Admin.InboxRun
import Gpucall.Admin.NothingLost
import Gpucall.Admin.SubmissionStatus
import Gpucall.Lib.Braces
import Gpucall.Execution.JsonObjectText
import Gpucall.Catalog.ValidatorBudget
import Gpucall.Config.SplitLayout
import Gpucall.Lib.Hex
import Gpucall.Execution.ArtifactKeys
import Gpucall.Lib.Trim
import Gpucall.Panopticon.GpuRefs
import Gpucall.Panopticon.Provisioning
import Gpucall.Catalog.TupleCandidates
import Gpucall.Sdk.LogRedaction
import Gpucall.Panopticon.Remediation
import Gpucall.Panopticon.RemediationPlan
import Gpucall.Routing.EvidenceDigest
import Gpucall.JsonChars
import Gpucall.Lib.Lines
import Gpucall.AuditTail
import Gpucall.Lib.FixedWidth
import Gpucall.IsoFormat
import Gpucall.Tenant.SqliteLedger
import Gpucall.Routing.ObservationOrder
import Gpucall.JsonRoundTrip
import Gpucall.JsonWellFormed
import Gpucall.Interpreter
import Gpucall.Mcp.Server
import Gpucall.Mcp.Stdio
import Gpucall.Dispatcher.JobOwners
import Gpucall.Sdk.CircuitBreaker
import Gpucall.Gateway.OpenaiAdmission
import Gpucall.Gateway.OpenaiPassThrough
import Gpucall.Lib.Runs
import Gpucall.Execution.WorkerEgress
import Gpucall.Tenant.CallerAuthRegistry
import Gpucall.Tenant.KeyLifecycle
