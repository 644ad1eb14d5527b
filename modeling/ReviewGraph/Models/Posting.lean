import ReviewGraph.Models.Review

/-!
# Posting records

The records of `models.py` that report on the last steps before and after a comment is posted:
payload validation, marker reconciliation and the result of a writer.
-/

namespace ReviewGraph

/-! ## Payload validation -/

/-- `PayloadValidationReasonCode`. -/
inductive PayloadValidationReasonCode
  | wrongArtifactKind
  | redactionNotPassed
  | candidateContainsMarker
  | candidateBindingMismatch
  | notFinalPayload
  | bodyHashMismatch
  | findingsHashMismatch
  | duplicateFingerprints
  | targetHashMismatch
  | markerNotFinalLine
  | markerFieldMismatch
  | finalPayloadHashMismatch
  | wrongMethod
  | wrongEndpoint
  | requestTargetMismatch
  | wrongRequestBody
  | formalReviewPayloadRejected
  deriving DecidableEq, Repr

/-- The string value of a reason. -/
def PayloadValidationReasonCode.value : PayloadValidationReasonCode → Text
  | wrongArtifactKind => "wrong_artifact_kind"
  | redactionNotPassed => "redaction_not_passed"
  | candidateContainsMarker => "candidate_contains_marker"
  | candidateBindingMismatch => "candidate_binding_mismatch"
  | notFinalPayload => "not_final_payload"
  | bodyHashMismatch => "body_hash_mismatch"
  | findingsHashMismatch => "findings_hash_mismatch"
  | duplicateFingerprints => "duplicate_fingerprints"
  | targetHashMismatch => "target_hash_mismatch"
  | markerNotFinalLine => "marker_not_final_line"
  | markerFieldMismatch => "marker_field_mismatch"
  | finalPayloadHashMismatch => "final_payload_hash_mismatch"
  | wrongMethod => "wrong_method"
  | wrongEndpoint => "wrong_endpoint"
  | requestTargetMismatch => "request_target_mismatch"
  | wrongRequestBody => "wrong_request_body"
  | formalReviewPayloadRejected => "formal_review_payload_rejected"

/-- `PayloadValidationResult`. -/
structure PayloadValidationResult where
  status : GateStatus
  payloadHash : Option Text
  targetHash : Option Text
  reasonCode : Option PayloadValidationReasonCode
  reason : Option Text
  deriving DecidableEq

instance : Record PayloadValidationResult where
  postInit r := do
    requireOptionalHashLike r.payloadHash "payload validation payload_hash"
    requireOptionalHashLike r.targetHash "payload validation target_hash"
    requireOptionalNonEmpty r.reason "payload validation reason"
    require (r.status = .pass → r.payloadHash ≠ none)
      "payload validation pass requires payload_hash"
    require (r.status = .pass → r.targetHash ≠ none) "payload validation pass requires target_hash"
    require (r.status = .pass → r.reasonCode = none)
      "payload validation pass must not include reason_code"
    require (r.status ≠ .pass → r.reasonCode ≠ none)
      "payload validation failure requires reason_code"

/-! ## Marker reconciliation -/

/-- `MarkerReconciliationStatus`. -/
inductive MarkerReconciliationStatus
  | safeToPost
  | reconciledExisting
  | failedClosed
  deriving DecidableEq, Repr

/-- `MarkerReconciliationReasonCode`. -/
inductive MarkerReconciliationReasonCode
  | safeToPost
  | matchedExisting
  | paginationIncomplete
  | repeatedCursor
  | pageCapExceeded
  | commentCapExceeded
  | malformedPage
  | timeout
  | rateLimited
  | forbidden
  | notFound
  | unavailable
  | transportUnknown
  | trustedMarkerConflict
  | trustedMarkerMalformed
  deriving DecidableEq, Repr

/-- The string value of a reason. -/
def MarkerReconciliationReasonCode.value : MarkerReconciliationReasonCode → Text
  | safeToPost => "safe_to_post"
  | matchedExisting => "matched_existing"
  | paginationIncomplete => "pagination_incomplete"
  | repeatedCursor => "repeated_cursor"
  | pageCapExceeded => "page_cap_exceeded"
  | commentCapExceeded => "comment_cap_exceeded"
  | malformedPage => "malformed_page"
  | timeout => "timeout"
  | rateLimited => "rate_limited"
  | forbidden => "forbidden"
  | notFound => "not_found"
  | unavailable => "unavailable"
  | transportUnknown => "transport_unknown"
  | trustedMarkerConflict => "trusted_marker_conflict"
  | trustedMarkerMalformed => "trusted_marker_malformed"

/-- `RETRYABLE_MARKER_RECONCILIATION_REASON_CODES`. -/
def retryableMarkerReconciliationReasonCodes : List MarkerReconciliationReasonCode :=
  [.timeout, .rateLimited, .unavailable, .transportUnknown]

/-- `MARKER_SCAN_ENDPOINT_KIND`. -/
def markerScanEndpointKind : Text := "issue_comments"

/-- `MarkerScanTransportSummary`. -/
structure MarkerScanTransportSummary where
  endpointKind : Text
  pageCount : ℕ
  commentCount : ℕ
  markerCount : ℕ
  retryable : Bool
  reasonCode : Option MarkerReconciliationReasonCode
  requestId : Option Text
  deriving DecidableEq

instance : Record MarkerScanTransportSummary where
  postInit s := do
    requireNonEmpty s.endpointKind "marker scan transport summary endpoint_kind"
    require (s.endpointKind = markerScanEndpointKind)
      "marker scan transport summary endpoint_kind must be issue_comments"
    require (s.reasonCode = none → s.retryable = false)
      "marker scan transport summary without failure cannot be retryable"
    require (∀ code ∈ s.reasonCode,
        s.retryable = decide (code ∈ retryableMarkerReconciliationReasonCodes))
      "marker scan transport summary retryable mismatch"
    requireRequestId "marker scan transport summary" s.requestId

/-- `MarkerReconciliationResult`. -/
structure MarkerReconciliationResult where
  status : MarkerReconciliationStatus
  reasonCode : MarkerReconciliationReasonCode
  transportSummary : Checked MarkerScanTransportSummary
  trustedActor : Option Text
  existingCommentId : Option Text
  duplicateCommentIds : List Text
  writerInputReleased : Bool
  finalizationPassed : Bool
  reason : Option Text
  deriving DecidableEq

instance : Record MarkerReconciliationResult where
  postInit r := do
    requireOptionalNonEmpty r.trustedActor "marker reconciliation trusted_actor"
    requireOptionalNonEmpty r.existingCommentId "marker reconciliation existing_comment_id"
    requireStringTuple r.duplicateCommentIds "marker reconciliation duplicate_comment_ids" true
    require (r.writerInputReleased = false ∧ r.finalizationPassed = false)
      "marker reconciliation cannot release writer input by itself"
    requireOptionalNonEmpty r.reason "marker reconciliation reason"
    match r.status with
    | .safeToPost => do
      require (r.reasonCode = .safeToPost)
        "safe marker reconciliation requires safe_to_post reason"
      require (r.trustedActor = none ∧ r.existingCommentId = none ∧ r.duplicateCommentIds = [])
        "safe marker reconciliation must not include existing marker data"
      require (r.transportSummary.val.reasonCode = none ∧ r.transportSummary.val.retryable = false)
        "safe marker reconciliation transport summary must not include failure"
    | .reconciledExisting => do
      require (r.reasonCode = .matchedExisting)
        "reconciled marker requires matched_existing reason"
      require (r.trustedActor ≠ none ∧ r.existingCommentId ≠ none)
        "reconciled marker requires trusted actor and existing comment"
      require (r.transportSummary.val.reasonCode = none ∧ r.transportSummary.val.retryable = false)
        "reconciled marker transport summary must not include failure"
    | .failedClosed => do
      require (r.reasonCode ≠ .safeToPost ∧ r.reasonCode ≠ .matchedExisting)
        "failed marker reconciliation requires failure reason"
      require (r.trustedActor = none ∧ r.existingCommentId = none ∧ r.duplicateCommentIds = [])
        "failed marker reconciliation must not include existing marker data"
      require (r.transportSummary.val.reasonCode = some r.reasonCode)
        "failed marker reconciliation transport summary reason mismatch"

namespace MarkerReconciliationResult

/-- A reconciled result names an existing comment. -/
lemma existingCommentId_of_reconciled {r : Checked MarkerReconciliationResult}
    (h : r.val.status = .reconciledExisting) : ∃ id, r.val.existingCommentId = some id ∧
      id ≠ [] := by
  have hr := r.property
  simp only [Record.postInit, check_bind_eq_ok, requireOptionalNonEmpty_eq_ok, h,
    require_eq_ok] at hr
  obtain ⟨-, hne, -, -, -, -, ⟨-, hsome⟩, -⟩ := hr
  obtain ⟨id, hid⟩ := Option.ne_none_iff_exists'.1 hsome
  exact ⟨id, hid, fun h => hne (h ▸ hid)⟩

end MarkerReconciliationResult

/-! ## Writers -/

/-- `WriterStatus`. -/
inductive WriterStatus
  | notCalled
  | posted
  | reconciled
  | failed
  deriving DecidableEq, Repr

/-- `GitHubWriterResult`. -/
structure GitHubWriterResult where
  status : WriterStatus
  artifactKind : ArtifactKind
  targetHash : Text
  payloadHash : Text
  commentId : Option Text
  error : Option Text
  deriving DecidableEq

instance : Record GitHubWriterResult where
  postInit r := do
    requireHashLike r.targetHash "github writer target_hash"
    requireHashLike r.payloadHash "github writer payload_hash"
    requireOptionalNonEmpty r.commentId "github writer comment_id"
    requireOptionalNonEmpty r.error "github writer error"
    require (r.status = .posted ∨ r.status = .reconciled → r.commentId ≠ none)
      "posted or reconciled writer result requires comment_id"
    require (r.status = .failed → r.error ≠ none) "failed writer result requires error"

/-- What the checks of a writer result establish. -/
lemma GitHubWriterResult.postInit_eq_ok {r : GitHubWriterResult} :
    Record.postInit r = .ok () ↔ hashPrefix <+: r.targetHash ∧ hashPrefix <+: r.payloadHash ∧
      r.commentId ≠ some [] ∧ r.error ≠ some [] ∧
      (r.status = .posted ∨ r.status = .reconciled → r.commentId ≠ none) ∧
      (r.status = .failed → r.error ≠ none) := by
  simp only [Record.postInit, check_bind_eq_ok, requireHashLike_eq_ok,
    requireOptionalNonEmpty_eq_ok, require_eq_ok]

end ReviewGraph
