import ReviewGraph.Models.Context
import ReviewGraph.State

/-!
# What reviewers return

The records of `models.py` for the findings and requests of a reviewer, before and after the quality
gate, and the key of a reviewer run.
-/

namespace ReviewGraph

/-- `ALLOWED_RAW_FINDING_EVIDENCE_SOURCES`. -/
def allowedRawFindingEvidenceSources : List Text := ["diff", "trusted_memory"]

/-- `RawReviewerFinding`. -/
structure RawReviewerFinding where
  id : Text
  severity : Severity
  confidence : Confidence
  path : Text
  line : ℤ
  title : Text
  rationale : Text
  evidence : Text
  lineEnd : Option ℤ
  suggestedFix : Option Text
  evidenceSources : List Text
  evidenceMemoryIds : List Text
  deriving DecidableEq

instance : Record RawReviewerFinding where
  postInit f := do
    requireNonEmpty f.id "raw reviewer finding id"
    requireNonEmpty f.path "raw reviewer finding path"
    requireNonEmpty f.title "raw reviewer finding title"
    requireNonEmpty f.rationale "raw reviewer finding rationale"
    requireNonEmpty f.evidence "raw reviewer finding evidence"
    require (0 < f.line) "raw reviewer finding line must be a positive integer"
    require (∀ lineEnd ∈ f.lineEnd, f.line ≤ lineEnd)
      "raw reviewer finding line_end must be an integer greater than or equal to line"
    requireOptionalNonEmpty f.suggestedFix "raw reviewer finding suggested_fix"
    requireAllowedStrTuple f.evidenceSources "raw reviewer finding evidence_sources"
      allowedRawFindingEvidenceSources
    requireStringTuple f.evidenceMemoryIds "raw reviewer finding evidence_memory_ids" true

/-- `ClarificationRequest`, without the fields that the quality gate passes on unread. -/
structure ClarificationRequest where
  id : Text
  reviewer : Text
  question : Text
  whyItMatters : Text
  blocksVerdict : Bool
  evidenceSources : List Text
  evidenceMemoryIds : List Text
  deriving DecidableEq

instance : Record ClarificationRequest where
  postInit r := do
    requireNonEmpty r.id "clarification request id"
    requireNonEmpty r.reviewer "clarification request reviewer"
    requireNonEmpty r.question "clarification request question"
    requireNonEmpty r.whyItMatters "clarification request why_it_matters"
    requireAllowedStrTuple r.evidenceSources "clarification request evidence_sources"
      allowedRawFindingEvidenceSources
    requireStringTuple r.evidenceMemoryIds "clarification request evidence_memory_ids" true

/-- `SuggestedReply`. -/
structure SuggestedReply where
  id : Text
  sourceCommentId : Text
  proposedBody : Text
  deriving DecidableEq

instance : Record SuggestedReply where
  postInit r := do
    requireNonEmpty r.id "suggested reply id"
    requireNonEmpty r.sourceCommentId "suggested reply source_comment_id"
    requireNonEmpty r.proposedBody "suggested reply proposed_body"

/-- `SuppressedReviewerOutput`. -/
structure SuppressedOutput where
  id : Text
  reason : Text
  deriving DecidableEq

instance : Record SuppressedOutput where
  postInit o := do
    requireNonEmpty o.id "suppressed reviewer output id"
    requireNonEmpty o.reason "suppressed reviewer output reason"

/-- `ReviewerRunKey`. -/
structure ReviewerRunKey where
  targetHash : Text
  configHash : Text
  stage : ReviewStage
  reviewer : Text
  attempt : ℤ
  retryOf : Option Text
  clarificationId : Option Text
  deriving DecidableEq

instance : Record ReviewerRunKey where
  postInit k := do
    requireNonEmpty k.targetHash "target_hash"
    requireNonEmpty k.configHash "config_hash"
    requireNonEmpty k.reviewer "reviewer"
    require (0 < k.attempt) "attempt must be a positive integer"
    requireOptionalNonEmpty k.retryOf "retry_of"
    requireOptionalNonEmpty k.clarificationId "clarification_id"

/-- The reviewer of a run key is named. -/
lemma ReviewerRunKey.reviewer_ne_nil (k : Checked ReviewerRunKey) : k.val.reviewer ≠ [] := by
  have hchecks := k.property
  simp only [Record.postInit, check_bind_eq_ok, requireNonEmpty_eq_ok] at hchecks
  exact hchecks.2.2.1

/-- The fields of `ReviewerResult` that the quality gate reads. -/
structure ReviewerResult where
  runKey : Checked ReviewerRunKey
  findings : List (Checked RawReviewerFinding)
  clarificationRequests : List (Checked ClarificationRequest)
  localNotes : List (Checked LocalNote)
  suggestedReplies : List (Checked SuggestedReply)
  suppressedOutputs : List (Checked SuppressedOutput)

end ReviewGraph
