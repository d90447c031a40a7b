import NovaHarness.RecordValidation
import NovaHarness.EarlyExit
import NovaHarness.LabelledPaths
import NovaHarness.OrchestrationMachine
import NovaHarness.Driver
import NovaHarness.DriverRuns
import NovaHarness.ExecutionCycle
import NovaHarness.TaskContractSchema
import NovaHarness.ApprovalSafetySchema
import NovaHarness.ToolInterfaceSchema
import NovaHarness.PromptSchemas
import NovaHarness.TraceSchemas
import NovaHarness.Pipeline
import NovaHarness.PipelineRun
import NovaHarness.PipelinePhases
import NovaHarness.PipelineOutcome
import NovaHarness.PipelineFrames
import NovaHarness.ResultRecords
import NovaHarness.OneVerdict
import NovaHarness.EffectGating
import NovaHarness.PendingApproval
import NovaHarness.RuleOrder
import NovaHarness.RunCompletion
import NovaHarness.ContextCandidates
import NovaHarness.RankedLists
import NovaHarness.ContextSelection
import NovaHarness.RiskApprovalSchema
import NovaHarness.SelectionAccounting
import NovaHarness.ApprovalQuorum
import NovaHarness.LinkWalks
import NovaHarness.SessionGraphSchema
import NovaHarness.SessionGraphReferences
import NovaHarness.ParallelJoinSchema
import NovaHarness.ParallelJoins
import NovaHarness.SynthesisFinalization
import NovaHarness.SkillActivation
import NovaHarness.CrashFreedom
import NovaHarness.ExecutorLimits
import NovaHarness.FailedExecution
import NovaHarness.DriverRejection
import NovaHarness.EventCounts
import NovaHarness.OutputRendering
import NovaHarness.GeneratedVerdict
import NovaHarness.DelegationChain
import NovaHarness.ResolutionPolicies
import NovaHarness.RoutingConstraints
import NovaHarness.SelectionCaps
import NovaHarness.TriggerOutcomes
import NovaHarness.KeywordSets
import NovaHarness.ClarificationClosure
import NovaHarness.JoinRecheck
import NovaHarness.PosixPaths
import NovaHarness.TaskScopePaths
import NovaHarness.CriteriaTightening
import NovaHarness.Revalidation
import NovaHarness.IdPadding
import NovaHarness.AuditTrail
import NovaHarness.CapabilityVersions
import NovaHarness.Timestamps
import NovaHarness.ToolReceipts
import NovaHarness.RunningLoops
import NovaHarness.RetryRecovery
import NovaHarness.AcceptanceDone
import NovaHarness.BudgetEnvelopes
import NovaHarness.VerificationResults
import NovaHarness.EnvironmentSecrets
import NovaHarness.HumanApprovals
import NovaHarness.ComposedRoutines
import NovaHarness.RunTriggers
import NovaHarness.RunCourses
import NovaHarness.SharedDrivers
import NovaHarness.RunReadings
import NovaHarness.MachinePaths
import NovaHarness.RunProgress
import NovaHarness.RankedCuts
import NovaHarness.SelectionStability
import NovaHarness.FirstOccurrences
import NovaHarness.MachineVariants
import NovaHarness.DefaultSafetyPolicy
import NovaHarness.ResultReload
import NovaHarness.SettledFields
import NovaHarness.ListingOrder
import NovaHarness.CapabilityNegotiation
import NovaHarness.ContractReload
import NovaHarness.DelimitedCodes
import NovaHarness.OutputReading
import NovaHarness.RunReproduction
import NovaHarness.GraphRenaming
import NovaHarness.Allotments
import NovaHarness.SelectionTrades
