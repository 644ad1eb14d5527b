import ReviewGraph.MarkerReconciliation
import ReviewGraph.Models.Gates
import ReviewGraph.WriterInput

/-!
# Finalization

`finalize_github_payload` of `finalization.py` and `build_finalized_issue_comment_writer_input` of
`writer_input.py`.  A payload is released only after the checks of the approval, the actor and the
target, and only if the scan of the markers says that it is safe to post.
-/

namespace ReviewGraph

/-- `BoundMarkerReconciliationResult`. -/
structure BoundMarkerReconciliationResult where
  result : Checked MarkerReconciliationResult
  expectedTargetHash : Text
  expectedPayloadHash : Text
  expectedFindingsHash : Text
  deriving DecidableEq

instance : Record BoundMarkerReconciliationResult where
  postInit b := do
    require (b.expectedTargetHash.startsWith hashPrefix = true)
      "bound marker reconciliation expected_target_hash must be a hash"
    require (b.expectedPayloadHash.startsWith hashPrefix = true)
      "bound marker reconciliation expected_payload_hash must be a hash"
    require (b.expectedFindingsHash.startsWith hashPrefix = true)
      "bound marker reconciliation expected_findings_hash must be a hash"

/-- `_dry_run_error`. -/
structure DryRunError where
  reasonCode : Text
  retryable : Bool
  endpointKind : Text
  requestId : Option Text
  mismatchedFields : List Text
  deriving DecidableEq

/-- `FinalizeGithubPayloadResult`. -/
structure FinalizeGithubPayloadResult where
  actorPermissionFinalizationCheck : Option (Checked ActorPermissionFinalizationCheckResult)
  targetFreshnessCheck : Option (Checked TargetFreshnessCheckResult)
  finalizationStatus : Checked FinalizationStatus
  approvedGithubActor : Option Text := none
  payloadValidation : Option (Checked PayloadValidationResult) := none
  markerReconciliation : Option (Checked MarkerReconciliationResult) := none
  finalPayload : Option (Checked FinalIssueCommentPayload) := none
  dryRunError : Option DryRunError := none
  finalPayloadBuilderCalls : ℕ := 0
  writerInputReleased : Bool := false

/-- The outcomes of the checks that come first: the reason why the approval is refused, if it is,
the check of the actor's permission and that of the target.  Nothing below depends on how they come
about. -/
structure FinalizationChecks where
  approvalPreflight : Option Text
  actorCheck : Checked ActorPermissionFinalizationCheckResult
  targetCheck : Checked TargetFreshnessCheckResult

/-- The status of a payload that is not finalized. -/
def notFinalized (approval : ApprovalDecision) (state : FinalizationState)
    (reasonCode : FinalizationReasonCode) (reason : Text) : Result (Checked FinalizationStatus) :=
  construct {
    state
    finalPayloadHash := none
    targetHash := some approval.approvedReviewTargetHash
    reasonCode := some reasonCode
    reason := some reason }

/-- The reconciliation of the markers of a built payload, once the checks have passed. -/
def finalizeBuiltPayload (approval : ApprovalDecision) (checks : FinalizationChecks)
    (payload : Checked FinalIssueCommentPayload)
    (markerReconciler :
      Checked FinalIssueCommentPayload → Result (Checked BoundMarkerReconciliationResult)) :
    Result FinalizeGithubPayloadResult := do
  let payloadValidation ← validateFinalIssueCommentPayload (some payload)
  if payloadValidation.val.status ≠ .pass then
    let status ← notFinalized approval .failedClosed .payloadValidationFailed
      "final payload validation failed"
    return {
      actorPermissionFinalizationCheck := some checks.actorCheck
      targetFreshnessCheck := some checks.targetCheck
      finalizationStatus := status
      payloadValidation := some payloadValidation
      finalPayloadBuilderCalls := 1
      dryRunError := some ⟨"payload_validation_failed", false, "final_payload", none, []⟩ }
  let boundMarker ← markerReconciler payload
  let markerReconciliation := boundMarker.val.result
  if boundMarker.val.expectedTargetHash ≠ payload.val.markerTargetHash ∨
      boundMarker.val.expectedPayloadHash ≠ payload.val.markerPayloadHash ∨
      boundMarker.val.expectedFindingsHash ≠ payload.val.markerFindingsHash then
    let status ← notFinalized approval .failedClosed .markerReconciliationFailed
      "marker reconciliation binding mismatch"
    return {
      actorPermissionFinalizationCheck := some checks.actorCheck
      targetFreshnessCheck := some checks.targetCheck
      finalizationStatus := status
      payloadValidation := some payloadValidation
      markerReconciliation := some markerReconciliation
      finalPayloadBuilderCalls := 1
      dryRunError :=
        some ⟨"marker_reconciliation_binding_mismatch", false, "issue_comments", none, []⟩ }
  match markerReconciliation.val.status with
  | .safeToPost =>
    let status ← construct {
      state := .finalized
      finalPayloadHash := some payload.val.finalPayloadHash
      targetHash := some payload.val.reviewTarget.val.targetHash
      reasonCode := none
      reason := none }
    return {
      actorPermissionFinalizationCheck := some checks.actorCheck
      targetFreshnessCheck := some checks.targetCheck
      finalizationStatus := status
      approvedGithubActor := some approval.approvedGithubActor
      payloadValidation := some payloadValidation
      markerReconciliation := some markerReconciliation
      finalPayload := some payload
      finalPayloadBuilderCalls := 1
      writerInputReleased := true }
  | .reconciledExisting =>
    let status ← notFinalized approval .notReady .markerReconciledExisting
      "marker reconciliation matched an existing comment"
    return {
      actorPermissionFinalizationCheck := some checks.actorCheck
      targetFreshnessCheck := some checks.targetCheck
      finalizationStatus := status
      payloadValidation := some payloadValidation
      markerReconciliation := some markerReconciliation
      finalPayloadBuilderCalls := 1 }
  | .failedClosed =>
    let summary := markerReconciliation.val.transportSummary
    let status ← notFinalized approval .failedClosed .markerReconciliationFailed
      "marker reconciliation failed closed"
    return {
      actorPermissionFinalizationCheck := some checks.actorCheck
      targetFreshnessCheck := some checks.targetCheck
      finalizationStatus := status
      payloadValidation := some payloadValidation
      markerReconciliation := some markerReconciliation
      finalPayloadBuilderCalls := 1
      dryRunError := some ⟨markerReconciliation.val.reasonCode.value, summary.val.retryable,
        summary.val.endpointKind, summary.val.requestId, []⟩ }

/-- `finalize_github_payload`, given the outcomes of its checks; a builder returns a payload or
raises. -/
def finalizeGithubPayload (approval : ApprovalDecision) (checks : FinalizationChecks)
    (finalPayloadBuilder : Option (Result (Checked FinalIssueCommentPayload)))
    (markerReconciler : Option
      (Checked FinalIssueCommentPayload → Result (Checked BoundMarkerReconciliationResult))) :
    Result FinalizeGithubPayloadResult := do
  if let some approvedPreflight := checks.approvalPreflight then
    let status ← notFinalized approval .failedClosed .approvalPreflightFailed approvedPreflight
    return {
      actorPermissionFinalizationCheck := none
      targetFreshnessCheck := none
      finalizationStatus := status
      dryRunError := some ⟨"approval_preflight_failed", false, "approval", none, []⟩ }
  if checks.actorCheck.val.status ≠ .pass then
    let status ← notFinalized approval .failedClosed .actorPermissionFailed
      "actor permission finalization preflight failed"
    return {
      actorPermissionFinalizationCheck := some checks.actorCheck
      targetFreshnessCheck := none
      finalizationStatus := status
      dryRunError := some ⟨"actor_permission_failed", false, "issue_comment_permission", none, []⟩ }
  if checks.targetCheck.val.status ≠ .pass then
    let status ← notFinalized approval .failedClosed .targetFreshnessFailed
      "target freshness preflight failed"
    let summary := checks.targetCheck.val.transportSummary
    return {
      actorPermissionFinalizationCheck := some checks.actorCheck
      targetFreshnessCheck := some checks.targetCheck
      finalizationStatus := status
      dryRunError := some {
        reasonCode := checks.targetCheck.val.reasonCode.elim [] TargetFreshnessReasonCode.value
        retryable := summary.any fun s => s.val.retryable
        endpointKind := summary.elim [] fun s => s.val.endpointKind
        requestId := summary.bind fun s => s.val.requestId
        mismatchedFields := checks.targetCheck.val.mismatchedFields } }
  match finalPayloadBuilder with
  | none =>
    let status ← notFinalized approval .notReady .markerReconciliationDeferred
      "marker reconciliation is deferred"
    return {
      actorPermissionFinalizationCheck := some checks.actorCheck
      targetFreshnessCheck := some checks.targetCheck
      finalizationStatus := status }
  | some built =>
    let payload ← built
    if payload.val.finalPayloadHash ≠ approval.approvedFinalPayloadHash then
      let status ← notFinalized approval .failedClosed .payloadValidationFailed
        "final payload hash did not match approval"
      return {
        actorPermissionFinalizationCheck := some checks.actorCheck
        targetFreshnessCheck := some checks.targetCheck
        finalizationStatus := status
        finalPayloadBuilderCalls := 1
        dryRunError := some ⟨"payload_validation_failed", false, "final_payload", none, []⟩ }
    match markerReconciler with
    | some markerReconciler => finalizeBuiltPayload approval checks payload markerReconciler
    | none =>
      let status ← notFinalized approval .notReady .markerReconciliationDeferred
        "marker reconciliation is deferred"
      return {
        actorPermissionFinalizationCheck := some checks.actorCheck
        targetFreshnessCheck := some checks.targetCheck
        finalizationStatus := status
        finalPayloadBuilderCalls := 1 }

/-- `build_finalized_issue_comment_writer_input`. -/
def buildFinalizedIssueCommentWriterInput (finalization : FinalizeGithubPayloadResult)
    (approval : ApprovalDecision) (runId : Text) :
    Result (Checked FinalizedIssueCommentWriterInput) := do
  require (approval.approved = true) "finalized writer input requires approved decision"
  require (finalization.finalizationStatus.val.state = .finalized)
    "finalized writer input requires finalized state"
  require (finalization.writerInputReleased = true)
    "finalized writer input requires released writer input"
  match finalization.finalPayload with
  | none => throw (.valueError "finalized writer input requires final payload")
  | some payload =>
    require (finalization.actorPermissionFinalizationCheck.any fun c => c.val.status = .pass)
      "finalized writer input requires passed actor permission finalization check"
    require (finalization.targetFreshnessCheck.any fun c => c.val.status = .pass)
      "finalized writer input requires passed target freshness check"
    require (finalization.payloadValidation.any fun v => v.val.status = .pass)
      "finalized writer input requires passed payload validation"
    match finalization.markerReconciliation with
    | none => throw (.valueError "finalized writer input requires marker reconciliation")
    | some marker =>
      require (marker.val.status = .safeToPost)
        "finalized writer input requires safe marker reconciliation"
      require (finalization.finalizationStatus.val.finalPayloadHash =
          some payload.val.finalPayloadHash)
        "finalized writer input finalization hash mismatch"
      require (finalization.finalizationStatus.val.targetHash =
          some payload.val.reviewTarget.val.targetHash)
        "finalized writer input target hash mismatch"
      require (finalization.approvedGithubActor = some approval.approvedGithubActor)
        "finalized writer input approved actor mismatch"
      require (approval.approvedFinalPayloadHash = payload.val.finalPayloadHash)
        "finalized writer input approval payload hash mismatch"
      require (approval.approvedReviewTargetHash = payload.val.reviewTarget.val.targetHash)
        "finalized writer input approval target hash mismatch"
      require (runId = payload.val.markerRunId)
        "finalized writer input run_id must match final payload marker run_id"
      construct {
        finalPayload := payload
        finalPayloadHash := payload.val.finalPayloadHash
        targetHash := payload.val.reviewTarget.val.targetHash
        markerReconciliationStatus := marker.val.status
        approvedActor := approval.approvedGithubActor
        runId }

end ReviewGraph
