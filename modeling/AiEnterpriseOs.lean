import AiEnterpriseOs.Orchestration.EngineCheckpoints
import AiEnterpriseOs.Orchestration.EngineExecutions
import AiEnterpriseOs.Memory.Durability
import AiEnterpriseOs.Memory.LogRecovery
import AiEnterpriseOs.Memory.SnapshotDeletion
import AiEnterpriseOs.Memory.Linking
import AiEnterpriseOs.Memory.ArchiveFlags
import AiEnterpriseOs.Memory.UpkeepTwice
import AiEnterpriseOs.Memory.StructuredSearch
import AiEnterpriseOs.Memory.WorkingStore
import AiEnterpriseOs.Memory.TierStores
import AiEnterpriseOs.Memory.KnowledgeRuns
import AiEnterpriseOs.Orchestration.Restart
import AiEnterpriseOs.ReadModel.Appender
import AiEnterpriseOs.Telemetry.Interleaving
import AiEnterpriseOs.Events.DeadLetterDurability
import AiEnterpriseOs.Runtime.OneRecovery
import AiEnterpriseOs.Runtime.Shutdown
import AiEnterpriseOs.Runtime.IsolationAlerts
import AiEnterpriseOs.Runtime.FailedStart
import AiEnterpriseOs.Runtime.CircuitBreaker
import AiEnterpriseOs.Runtime.FalseRecovery
import AiEnterpriseOs.Runtime.ProcessThreads
import AiEnterpriseOs.Runtime.StateMirror
import AiEnterpriseOs.Orchestrator.DryRun
import AiEnterpriseOs.Runtime.JobOverlap
import AiEnterpriseOs.Runtime.JobNotifications
import AiEnterpriseOs.Runtime.DependencyRounds
import AiEnterpriseOs.Decisions.Escalation
import AiEnterpriseOs.Decisions.HistoryRestart
import AiEnterpriseOs.Services.DashboardStream
import AiEnterpriseOs.Services.DecisionInbox
import AiEnterpriseOs.Generator.FileWriter
import AiEnterpriseOs.Services.GenerateHistory
import AiEnterpriseOs.Services.SharedPrompt
import AiEnterpriseOs.ReadModel.LogAnswers
import AiEnterpriseOs.Events.AtLeastOnce
import AiEnterpriseOs.Events.ReplayRecord
import AiEnterpriseOs.Events.LogReading
import AiEnterpriseOs.Events.FilterAlgebra
import AiEnterpriseOs.Telemetry.RetentionPreview
import AiEnterpriseOs.Telemetry.SessionClock
import AiEnterpriseOs.Orchestration.DeclarationOrder
import AiEnterpriseOs.Orchestration.LifecycleConformance
import AiEnterpriseOs.Orchestration.DependencyTheory
import AiEnterpriseOs.Api.WriteGuard
import AiEnterpriseOs.Decisions.Matrix
import AiEnterpriseOs.Workflow.Validation
import AiEnterpriseOs.Runtime.HeartbeatDetection
import AiEnterpriseOs.Runtime.Readmission
import AiEnterpriseOs.Runtime.ReloadAtomicity
import AiEnterpriseOs.Orchestration.CheckpointRecency
import AiEnterpriseOs.Orchestration.PausedRetries
import AiEnterpriseOs.Orchestration.ConditionCoherence
import AiEnterpriseOs.Generator.GraphLevels
import AiEnterpriseOs.Generator.Planner
import AiEnterpriseOs.Agents.SyncReport
import AiEnterpriseOs.Company.Reporting
import AiEnterpriseOs.Company.Levels
import AiEnterpriseOs.Company.OrganizationGraph
import AiEnterpriseOs.Integrity.CliSurface
import AiEnterpriseOs.TemplateEngine.YamlSubstitution
