import ReviewGraph.Markers
import ReviewGraph.MarkerScan
import ReviewGraph.MarkerReconciliation
import ReviewGraph.PayloadValidation
import ReviewGraph.Foundation.Concurrency
import ReviewGraph.WriterGithub
import ReviewGraph.WriterGithubRuns
import ReviewGraph.WriterGithubSharing
import ReviewGraph.Foundation.DateTime
import ReviewGraph.Models.Gates
import ReviewGraph.Posting
import ReviewGraph.FinalPayload
import ReviewGraph.CandidatePreview
import ReviewGraph.CandidateValidation
import ReviewGraph.Foundation.Double
import ReviewGraph.Approval
import ReviewGraph.Permissions
import ReviewGraph.State
import ReviewGraph.ApprovedPayload
import ReviewGraph.ContextBudget
import ReviewGraph.ReviewerBudget
import ReviewGraph.FindingPolicy
import ReviewGraph.MemoryProvenance
import ReviewGraph.Quality
import ReviewGraph.FindingSupport
import ReviewGraph.PassiveMemory
import ReviewGraph.LivePostTransport
import ReviewGraph.Foundation.JsonAscii
import ReviewGraph.Models.ReviewerContext
import ReviewGraph.LlmPolicy
import ReviewGraph.LiveCalls
import ReviewGraph.ConversationMemory
import ReviewGraph.Routing
import ReviewGraph.RoutingByComments
import ReviewGraph.Finalization
import ReviewGraph.FakePosts
import ReviewGraph.ContextOmission
import ReviewGraph.Foundation.Lines
import ReviewGraph.PatchParser
import ReviewGraph.PatchRanges
import ReviewGraph.PatchGrammar
import ReviewGraph.TextReaders
import ReviewGraph.PagedReads
import ReviewGraph.LivePagedReads
import ReviewGraph.DiffAnchors
import ReviewGraph.LiveMarkerScan
import ReviewGraph.Foundation.Matches
import ReviewGraph.RedactionEdits
import ReviewGraph.RedactionCores
import ReviewGraph.RedactionPasses
import ReviewGraph.MarkerParsers
import ReviewGraph.PostingPlan
import ReviewGraph.WriterRelease
import ReviewGraph.PermissionGate
import ReviewGraph.TargetFreshness
import ReviewGraph.Normalization
import ReviewGraph.ReviewerExecution
import ReviewGraph.ReviewThreads
import ReviewGraph.PullRequestRefs
import ReviewGraph.GeneratedIds
import ReviewGraph.RunItemIds
import ReviewGraph.Foundation.Calendar
import ReviewGraph.UtcAges
import ReviewGraph.Foundation.Tables
import ReviewGraph.ReviewerRuns
import ReviewGraph.ChangeRisk
import ReviewGraph.MemoryIds
import ReviewGraph.StructuredRedaction
import ReviewGraph.ClarificationAnswers
import ReviewGraph.FlatMarkerScan
import ReviewGraph.FinalMarkerLine
import ReviewGraph.ApprovalBinding
import ReviewGraph.InputParsers
import ReviewGraph.ReviewerConfigs
import ReviewGraph.FixtureInputs
import ReviewGraph.FinalizationProbes
import ReviewGraph.ApprovedArtifact
import ReviewGraph.Foundation.RaisingPrograms
import ReviewGraph.LivePostFlow
import ReviewGraph.LivePostCalls
import ReviewGraph.LivePostRuns
import ReviewGraph.DryRun
