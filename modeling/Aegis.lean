import Aegis.Lib.Guarded
import Aegis.Lib.Runs
import Aegis.DeliveryControl.Contracts
import Aegis.DeliveryControl.Settlement
import Aegis.DeliveryControl.TargetLedger
import Aegis.DeliveryControl.TargetExclusion
import Aegis.DeliveryControl.AuthorityClaims
import Aegis.DeliveryControl.AuthorityRuns
import Aegis.DeliveryControl.EventHistory
import Aegis.DeliveryControl.TamperEvidence
import Aegis.DeliveryControl.LifecycleRoutes
import Aegis.DeliveryControl.StoreTables
import Aegis.DeliveryControl.BudgetReplay
import Aegis.DeliveryControl.StoreWrites
import Aegis.DeliveryControl.BudgetSettlement
import Aegis.DeliveryControl.Dispatch
import Aegis.DeliveryControl.EffectObservation
import Aegis.DeliveryControl.Validation
import Aegis.DeliveryControl.Completion
import Aegis.DeliveryControl.Control
import Aegis.DeliveryControl.OperationMoves
import Aegis.DeliveryControl.StoreSystem
import Aegis.DeliveryControl.SingleSlot
import Aegis.Calibration.Ledger
import Aegis.Calibration.LedgerOperations
import Aegis.Calibration.LedgerMoves
import Aegis.Calibration.LedgerSystem
import Aegis.Calibration.LedgerTracking
import Aegis.Calibration.LedgerSound
import Aegis.Calibration.LedgerCeilings
import Aegis.Calibration.HoldoutOnePass
import Aegis.Calibration.LedgerHandles
import Aegis.Calibration.StoppedRuns
import Aegis.Calibration.Reopening
import Aegis.Lib.Dict
import Aegis.Lib.Json
import Aegis.Lib.JsonText
import Aegis.Lib.JsonParse
import Aegis.Budget.Ledger
import Aegis.Budget.Conservation
import Aegis.Lib.TextLines
import Aegis.Budget.Loading
import Aegis.Budget.Restart
import Aegis.Live.CostMeter
import Aegis.Live.Adapters
import Aegis.Live.Pipeline
import Aegis.Live.MeterAccounts
import Aegis.Live.RunAccounting
import Aegis.Evidence.Artifacts
import Aegis.Evidence.Writer
import Aegis.Evidence.Verifier
import Aegis.Evidence.Verified
import Aegis.Evidence.MarkerBinding
import Aegis.Evidence.WrittenFiles
import Aegis.Evidence.Acceptance
import Aegis.Lib.Calendar
import Aegis.Lib.JsonStrict
import Aegis.Lib.Registry
import Aegis.Lib.SortBy
import Aegis.Lib.Vocabulary
import Aegis.Usage.Contract
import Aegis.Usage.CentralStore
import Aegis.Usage.StoreMoves
import Aegis.Usage.Withdrawal
import Aegis.Usage.ImportHistory
import Aegis.Usage.LateReports
import Aegis.Lib.JsonSize
import Aegis.Usage.Completeness
import Aegis.Usage.LocalStore
import Aegis.Usage.Recording
import Aegis.Usage.RecorderRuns
import Aegis.Usage.HonestRecorder
import Aegis.DeliveryControl.ClaimIds
import Aegis.Materialize.Routing
import Aegis.Lib.Disk
import Aegis.Materialize.Materializer
import Aegis.Materialize.Verification
import Aegis.Materialize.Written
import Aegis.Materialize.Routed
import Aegis.Materialize.Leakage
import Aegis.Materialize.Agreement
import Aegis.Lib.PythonText
import Aegis.Live.Cumulative
import Aegis.Live.SmokeIdentities
import Aegis.Live.SmokeSpendMaps
import Aegis.Live.LedgerReconciliation
import Aegis.Judge.Verdicts
import Aegis.Lib.PythonJson
import Aegis.Live.JudgeAdapter
import Aegis.Live.SettledOnce
import Aegis.Judge.Binding
import Aegis.Judge.StructuredVerdict
import Aegis.Judge.Parsing
import Aegis.DeliveryControl.CheckedConnection
import Aegis.DeliveryControl.SchemaText
import Aegis.DeliveryControl.AdoptionFences
import Aegis.DeliveryControl.CommandReplay
import Aegis.Lib.DoubledSeparator
import Aegis.Runner.Identity
import Aegis.Runner.Attempts
import Aegis.Runner.Aggregation
import Aegis.Lib.LongestPrefix
import Aegis.Runner.Scheduler
import Aegis.Runner.Scheduling
import Aegis.Graders.Base
import Aegis.Lib.LongRun
import Aegis.Graders.StateMachine
import Aegis.Graders.AppendOnly
import Aegis.Live.ReservationState
import Aegis.Usage.CohortConservation
import Aegis.Usage.Publishing
import Aegis.Usage.DerivedCounts
import Aegis.Graders.ApprovalEvents
import Aegis.Graders.ApprovalLifecycle
import Aegis.Graders.ApprovalAuthority
import Aegis.Graders.Approval
import Aegis.Lib.Regex
import Aegis.Lib.SourceLines
import Aegis.Lib.Unicode
import Aegis.Links.Code
import Aegis.Links.Anchors
import Aegis.Lib.DigitOrder
import Aegis.Readability.KeeperTable
import Aegis.Readability.LatestEvents
import Aegis.Readability.JudgedOnce
import Aegis.Lib.TextFolding
import Aegis.PlanLint.Lint
import Aegis.CiDurations.Reading
import Aegis.CiDurations.Verdict
import Aegis.CiDurations.Earned
import Aegis.Lib.Readings
import Aegis.Live.AllowanceHistory
import Aegis.Live.HistoryCounts
import Aegis.Graders.Activation
import Aegis.Lib.JsonBytes
import Aegis.Lib.JsonSpelling
import Aegis.RecordVerifier.Locate
import Aegis.Routing.Contract
import Aegis.Routing.Advice
import Aegis.Lib.JsonLeast
import Aegis.Routing.Requests
import Aegis.Routing.Answerable
import Aegis.CiDurations.ExitCodes
import Aegis.CiDurations.Rendering
import Aegis.Lib.Comments
import Aegis.PrBody.Check
import Aegis.PrBody.Coverage
