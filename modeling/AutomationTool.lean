import AutomationTool.Core.LTS
import AutomationTool.Core.Table
import AutomationTool.Core.Prog
import AutomationTool.Core.Dispatch
import AutomationTool.Core.Permit
import AutomationTool.Core.Interference
import AutomationTool.Core.Schedule
import AutomationTool.Protocol.Envelope
import AutomationTool.Executor.Ledger.State
import AutomationTool.Executor.Ledger.Gate
import AutomationTool.Executor.Ledger.SideEffects
import AutomationTool.Executor.Ledger.Commands
import AutomationTool.Executor.Ledger.Outbox
import AutomationTool.Executor.Ledger.Controls
import AutomationTool.Executor.Ledger.Recovery
import AutomationTool.Executor.Ledger.Service
import AutomationTool.Executor.Ledger.AtMostOnce
import AutomationTool.Executor.Ledger.Spool
import AutomationTool.Executor.Journal
import AutomationTool.Executor.History
import AutomationTool.Executor.JournalInvariants
import AutomationTool.Executor.ActionGate
import AutomationTool.Bugs.StaleGatePolicy
import AutomationTool.Executor.ReceivedCommands
import AutomationTool.Executor.SideEffectRecovery
import AutomationTool.Executor.ActionOperation
import AutomationTool.Executor.CommandProcessor
import AutomationTool.Executor.CrashRecovery
import AutomationTool.Executor.System
import AutomationTool.Bugs.ShadowedStop
import AutomationTool.Bugs.StaleAuthorization
import AutomationTool.Bugs.SharedRecovery
import AutomationTool.Bugs.SecondReport
import AutomationTool.Bugs.UnboundedSpool
import AutomationTool.Bugs.EventGap
import AutomationTool.Core.Relation
import AutomationTool.Core.Breaker
import AutomationTool.Core.Quota
import AutomationTool.Core.Delivery
import AutomationTool.Core.Crew
import AutomationTool.Core.Chunks
import AutomationTool.Core.Lane
import AutomationTool.Core.Moments
import AutomationTool.Core.RowLocks
import AutomationTool.Core.Chronicle
import AutomationTool.Core.Failing
import AutomationTool.Core.Windows
import AutomationTool.Core.FilterGraph
import AutomationTool.Core.Feed
import AutomationTool.Core.Hex
import AutomationTool.Core.Json
import AutomationTool.Editing.Timeline
import AutomationTool.Editing.Layout
import AutomationTool.Protocol.LocalRendering
import AutomationTool.Executor.FrameGrid
import AutomationTool.Executor.VisualRendering
import AutomationTool.Executor.AudioRendering
import AutomationTool.Editing.TimelineDraft
import AutomationTool.Editing.TimelineRepository
import AutomationTool.Editing.TimelineService
import AutomationTool.Editing.EditingJobs
import AutomationTool.Editing.EditingJobHistory
import AutomationTool.Editing.Materials
import AutomationTool.Editing.MaterialRepository
import AutomationTool.Editing.MaterialService
import AutomationTool.Executor.SmartEditGeneration
import AutomationTool.Executor.SegmentSelection
import AutomationTool.Desktop.SmartEditResult
import AutomationTool.Desktop.SmartEditDocument
import AutomationTool.Editing.TimelineRequest
import AutomationTool.Desktop.TimelineDocument
import AutomationTool.Bugs.MixedDraft
import AutomationTool.Bugs.StaleWriteback
import AutomationTool.Bugs.UnnamedConflict
import AutomationTool.ControlPlane.Domain
import AutomationTool.ControlPlane.Database
import AutomationTool.ControlPlane.TaskCommands
import AutomationTool.ControlPlane.TargetPreview
import AutomationTool.ControlPlane.CandidatePolicy
import AutomationTool.ControlPlane.TaskDiscovery
import AutomationTool.ControlPlane.EventConvergence
import AutomationTool.ControlPlane.RiskAuthorization
import AutomationTool.ControlPlane.Orchestration
import AutomationTool.ControlPlane.Installations
import AutomationTool.ControlPlane.Service
import AutomationTool.ControlPlane.Effect
import AutomationTool.ControlPlane.Timeline
import AutomationTool.ControlPlane.Coupling
import AutomationTool.ControlPlane.Redelivery
import AutomationTool.ControlPlane.Authorizations
import AutomationTool.ControlPlane.TaskEventStream
import AutomationTool.ControlPlane.Backing
import AutomationTool.ControlPlane.FailureCircuit
import AutomationTool.ControlPlane.CommandDelivery
import AutomationTool.ControlPlane.CommandSequences
import AutomationTool.ControlPlane.Progression
import AutomationTool.ControlPlane.Advancing
import AutomationTool.Executor.PlatformSession
import AutomationTool.ControlPlane.SessionHealth
import AutomationTool.ControlPlane.DiscoveryBatches
import AutomationTool.ControlPlane.DiscoveryConvergence
import AutomationTool.ControlPlane.DiscoveryReassembly
import AutomationTool.Bugs.OvertakenCommand
import AutomationTool.Bugs.LeftoverAuthorization
import AutomationTool.Bugs.AbandonedDiscoveries
import AutomationTool.ControlPlane.ConnectionRegistry
import AutomationTool.ControlPlane.RegistryConduct
import AutomationTool.Publishing.OpenApi
import AutomationTool.Publishing.Store
import AutomationTool.Publishing.Service
import AutomationTool.Publishing.ArchivePublishing
import AutomationTool.Publishing.ArchiveReconciliation
import AutomationTool.Publishing.UploadPlan
import AutomationTool.Publishing.Effects
import AutomationTool.Publishing.System
import AutomationTool.Publishing.SingleAdmission
import AutomationTool.Publishing.CreationFlight
import AutomationTool.Bugs.RepeatedListing
import AutomationTool.Bugs.MixedTokens
import AutomationTool.Bugs.MovedClock
import AutomationTool.Bugs.EarlyAbsence
import AutomationTool.Bugs.UnnamedSettlement
import AutomationTool.Executor.EditingProtocol
import AutomationTool.Executor.EditingWorker
import AutomationTool.Executor.EditingSessions
import AutomationTool.Bugs.LateLine
import AutomationTool.Desktop.UpdatePolicy
import AutomationTool.Desktop.VideoOrchestrator
import AutomationTool.Desktop.Listening
import AutomationTool.Desktop.LocalMaterialLibrary
import AutomationTool.Desktop.MaterialTransactions
import AutomationTool.Desktop.JobStanding
import AutomationTool.Desktop.WorkerChannel
import AutomationTool.Bugs.CrossedAbort
import AutomationTool.Executor.Skills.SkillReplayer
import AutomationTool.Executor.Skills.ReplayConduct
import AutomationTool.Executor.Skills.SkillOrchestrator
import AutomationTool.Bugs.EscapedFailure
import AutomationTool.Executor.MaterialPaths
import AutomationTool.Executor.MaterialPathStore
import AutomationTool.Bugs.NegativeTime
import AutomationTool.Executor.SmartEditCommit
import AutomationTool.Bugs.StrandedNarration
import AutomationTool.Executor.LocalArtifact
import AutomationTool.Executor.ArtifactInventory
import AutomationTool.Executor.ArtifactConduct
import AutomationTool.Executor.ArtifactGovernance
import AutomationTool.Bugs.EmptyArtifact
import AutomationTool.Executor.FrameSelection
import AutomationTool.Executor.SemanticMatching
import AutomationTool.Core.Assignment
import AutomationTool.Bugs.ManyStills
import AutomationTool.Desktop.TaskProjections
import AutomationTool.Desktop.TaskProjectionReducer
import AutomationTool.Desktop.TaskViews
import AutomationTool.ControlPlane.TaskMoments
import AutomationTool.ControlPlane.DeviceRepositories
import AutomationTool.ControlPlane.DeviceInvariants
import AutomationTool.Core.Directory
import AutomationTool.Core.Intervals
import AutomationTool.Core.MemoSearch
import AutomationTool.Executor.ScriptAlignment
import AutomationTool.Executor.AlignmentSearch
import AutomationTool.Executor.RecordedClips
import AutomationTool.Executor.CaptionLayout
import AutomationTool.Bugs.TallerLine
import AutomationTool.Executor.SpeechEvidence
import AutomationTool.Executor.SpeechBatches
import AutomationTool.Executor.CaptionFiles
import AutomationTool.Bugs.DanglingLink
import AutomationTool.Executor.RenderExecution
import AutomationTool.Bugs.OverlaidLink
import AutomationTool.Executor.PublishOperation
import AutomationTool.Bugs.OtherJob
import AutomationTool.Core.EditDistance
import AutomationTool.Executor.AlignmentDistance
import AutomationTool.Desktop.UpdateConsent
import AutomationTool.Desktop.ObservedReleases
import AutomationTool.Bugs.SameTitle
import AutomationTool.ControlPlane.DesktopUpdateCatalog
import AutomationTool.Bugs.LongIdentifier
import AutomationTool.Core.Base64
import AutomationTool.Core.Keyset
import AutomationTool.ControlPlane.TaskQueries
import AutomationTool.Executor.AuthoringWorkspace
import AutomationTool.Executor.ScriptVoiceover
