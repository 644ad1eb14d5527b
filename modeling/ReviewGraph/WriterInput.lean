import ReviewGraph.PayloadValidation

/-!
# Finalized writer input

`FinalizedIssueCommentWriterInput` of `writer_input.py`, the only input that a writer accepts.
-/

namespace ReviewGraph

/-- `FinalizedIssueCommentWriterInput`. -/
structure FinalizedIssueCommentWriterInput where
  finalPayload : Checked FinalIssueCommentPayload
  finalPayloadHash : Text
  targetHash : Text
  markerReconciliationStatus : MarkerReconciliationStatus
  approvedActor : Text
  runId : Text
  deriving DecidableEq

/-- `FinalizedIssueCommentWriterInput._validate`. -/
instance : Record FinalizedIssueCommentWriterInput where
  postInit i := do
    require (i.finalPayloadHash = i.finalPayload.val.finalPayloadHash)
      "finalized writer input payload hash mismatch"
    require (i.targetHash = i.finalPayload.val.reviewTarget.val.targetHash)
      "finalized writer input target hash mismatch"
    require (i.markerReconciliationStatus = .safeToPost)
      "finalized writer input requires safe marker reconciliation"
    require (i.approvedActor ≠ []) "finalized writer input approved_actor is required"
    require (i.runId ≠ []) "finalized writer input run_id is required"

/-- What the checks of a writer input establish. -/
lemma FinalizedIssueCommentWriterInput.postInit_eq_ok {i : FinalizedIssueCommentWriterInput} :
    Record.postInit i = .ok () ↔ i.finalPayloadHash = i.finalPayload.val.finalPayloadHash ∧
      i.targetHash = i.finalPayload.val.reviewTarget.val.targetHash ∧
      i.markerReconciliationStatus = .safeToPost ∧ i.approvedActor ≠ [] ∧ i.runId ≠ [] := by
  simp only [Record.postInit, check_bind_eq_ok, require_eq_ok]

end ReviewGraph
