import AiEnterpriseOs.PyValue

/-!
# Events

The events of the bus, with the metadata that its components read.
-/

namespace AiEnterpriseOs.Events

inductive EventPriority where
  | critical
  | high
  | normal
  | low
  | background
  deriving DecidableEq

inductive EventStatus where
  | pending
  | delivering
  | delivered
  | failed
  | skipped
  | retrying
  | deadLetter
  | expired
  | replayed
  deriving DecidableEq

inductive EventType where
  | companyCreated
  | companyUpdated
  | departmentCreated
  | departmentUpdated
  | executiveHired
  | executiveUpdated
  | workflowStarted
  | workflowCompleted
  | workflowFailed
  | workflowCancelled
  | decisionRequested
  | decisionApproved
  | decisionRejected
  | decisionEscalated
  | decisionDeferred
  | memorySaved
  | memoryUpdated
  | memoryArchived
  | memoryRestored
  | projectStarted
  | projectCompleted
  | projectMilestone
  | meetingScheduled
  | meetingCompleted
  | agentStarted
  | agentCompleted
  | agentFailed
  | bootstrapStarted
  | bootstrapFinished
  | generationStarted
  | generationFinished
  | generationFailed
  | registryLoaded
  | registryReloaded
  | systemStartup
  | systemShutdown
  | systemError
  | systemHealthCheck
  | auditRecorded
  | auditWrite
  | auditWriteRejected
  | eventPublished
  | eventReplayed
  | eventDlq
  | integrationTriggered
  | integrationCompleted
  | integrationFailed
  | pipelineStarted
  | pipelineCompleted
  | pipelineFailed
  | pipelineCancelled
  | pipelineRecovered
  | taskStarted
  | taskCompleted
  | taskFailed
  | taskSkipped
  deriving DecidableEq

def EventPriority.value : EventPriority → String
  | critical => "critical"
  | high => "high"
  | normal => "normal"
  | low => "low"
  | background => "background"

def EventType.value : EventType → String
  | companyCreated => "company.created"
  | companyUpdated => "company.updated"
  | departmentCreated => "department.created"
  | departmentUpdated => "department.updated"
  | executiveHired => "executive.hired"
  | executiveUpdated => "executive.updated"
  | workflowStarted => "workflow.started"
  | workflowCompleted => "workflow.completed"
  | workflowFailed => "workflow.failed"
  | workflowCancelled => "workflow.cancelled"
  | decisionRequested => "decision.requested"
  | decisionApproved => "decision.approved"
  | decisionRejected => "decision.rejected"
  | decisionEscalated => "decision.escalated"
  | decisionDeferred => "decision.deferred"
  | memorySaved => "memory.saved"
  | memoryUpdated => "memory.updated"
  | memoryArchived => "memory.archived"
  | memoryRestored => "memory.restored"
  | projectStarted => "project.started"
  | projectCompleted => "project.completed"
  | projectMilestone => "project.milestone"
  | meetingScheduled => "meeting.scheduled"
  | meetingCompleted => "meeting.completed"
  | agentStarted => "agent.started"
  | agentCompleted => "agent.completed"
  | agentFailed => "agent.failed"
  | bootstrapStarted => "bootstrap.started"
  | bootstrapFinished => "bootstrap.finished"
  | generationStarted => "generation.started"
  | generationFinished => "generation.finished"
  | generationFailed => "generation.failed"
  | registryLoaded => "registry.loaded"
  | registryReloaded => "registry.reloaded"
  | systemStartup => "system.startup"
  | systemShutdown => "system.shutdown"
  | systemError => "system.error"
  | systemHealthCheck => "system.health_check"
  | auditRecorded => "audit.recorded"
  | auditWrite => "audit.write"
  | auditWriteRejected => "audit.write_rejected"
  | eventPublished => "event.published"
  | eventReplayed => "event.replayed"
  | eventDlq => "event.dead_letter"
  | integrationTriggered => "integration.triggered"
  | integrationCompleted => "integration.completed"
  | integrationFailed => "integration.failed"
  | pipelineStarted => "pipeline.started"
  | pipelineCompleted => "pipeline.completed"
  | pipelineFailed => "pipeline.failed"
  | pipelineCancelled => "pipeline.cancelled"
  | pipelineRecovered => "pipeline.recovered"
  | taskStarted => "task.started"
  | taskCompleted => "task.completed"
  | taskFailed => "task.failed"
  | taskSkipped => "task.skipped"

/-- Time stamps are microseconds from 1970-01-01 in UTC. -/
structure EventMetadata where
  eventId : String
  timestamp : Int
  eventType : EventType
  source : String
  correlationId : Option String
  priority : EventPriority
  maxRetries : Nat
  tags : List String

structure Event where
  metadata : EventMetadata
  payload : List (String × PyValue)

instance : Inhabited Event where
  default :=
    { metadata :=
        { eventId := ""
          timestamp := 0
          eventType := .companyCreated
          source := ""
          correlationId := none
          priority := .normal
          maxRetries := 3
          tags := [] }
      payload := [] }

/-- Full event envelope including delivery tracking. -/
structure EventEnvelope where
  event : Event
  routingKey : String
  deliveredTo : List String
  failedAt : Option Int
  errorMessage : Option String
  deliveredAt : Option Int

/-- Result of delivering an event to a single subscriber. -/
structure DeliveryResult where
  eventId : String
  subscriberName : String
  status : EventStatus
  error : String
  note : String

def Event.sample (eventId source : String) (priority : EventPriority) : Event where
  metadata :=
    { eventId := eventId
      timestamp := 0
      eventType := .companyCreated
      source := source
      correlationId := none
      priority := priority
      maxRetries := 3
      tags := [] }
  payload := []

end AiEnterpriseOs.Events
