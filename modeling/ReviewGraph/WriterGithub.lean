import ReviewGraph.MarkerReconciliation
import ReviewGraph.WriterInput

/-!
# The GitHub writer

`GitHubIssueCommentWriter` of `writer_github.py`.  The environment of a call of
`post_issue_comment` consists of the set of attempted keys behind its lock, the transport that posts
comments and the transport that lists them; each use of one of them is a `WriterCall`.
-/

namespace ReviewGraph

open Interaction

/-! ## Outcomes and reasons -/

/-- `GitHubIssueCommentWriterOutcomeDetail`. -/
inductive GitHubIssueCommentWriterOutcomeDetail
  | posted
  | reconciledExisting
  | validationFailed
  | transportFailed
  | retryableUnknown
  | ambiguousUnresolved
  | forbiddenSecondPost
  | trustedMarkerConflict
  | responseActorMismatch
  | malformedResponse
  deriving DecidableEq, Repr

/-- `GitHubIssueCommentWriterReasonCode`. -/
inductive GitHubIssueCommentWriterReasonCode
  | validationFailed
  | timeout
  | rateLimited
  | forbidden
  | notFound
  | unavailable
  | malformedResponse
  | transportUnknown
  | ambiguousAccepted
  | ambiguousUnresolved
  | forbiddenSecondPost
  | trustedMarkerConflict
  | responseActorMismatch
  deriving DecidableEq, Repr

/-- The string value of a reason. -/
def GitHubIssueCommentWriterReasonCode.value : GitHubIssueCommentWriterReasonCode → Text
  | validationFailed => "validation_failed"
  | timeout => "timeout"
  | rateLimited => "rate_limited"
  | forbidden => "forbidden"
  | notFound => "not_found"
  | unavailable => "unavailable"
  | malformedResponse => "malformed_response"
  | transportUnknown => "transport_unknown"
  | ambiguousAccepted => "ambiguous_accepted"
  | ambiguousUnresolved => "ambiguous_unresolved"
  | forbiddenSecondPost => "forbidden_second_post"
  | trustedMarkerConflict => "trusted_marker_conflict"
  | responseActorMismatch => "response_actor_mismatch"

/-- `_RETRYABLE_WRITER_REASONS`. -/
def retryableWriterReasons : List GitHubIssueCommentWriterReasonCode :=
  [.timeout, .rateLimited, .unavailable, .transportUnknown, .ambiguousAccepted,
    .ambiguousUnresolved]

/-! ## The transport -/

/-- `GitHubIssueCommentPostResponse`; `none` is a value that is not a string. -/
structure GitHubIssueCommentPostResponse where
  commentId : Option Text
  authorLogin : Option Text
  requestId : Option Text
  deriving DecidableEq

/-- `GitHubIssueCommentPostTransportFailure`; a request identifier that is not a string is
`none`. -/
structure GitHubIssueCommentPostTransportFailure where
  reasonCode : GitHubIssueCommentWriterReasonCode
  requestId : Option Text
  ambiguousAccepted : Bool
  /-- The reason for an ambiguous acceptance sets the flag. -/
  ambiguous_of_reason : reasonCode = .ambiguousAccepted → ambiguousAccepted = true
  deriving DecidableEq

/-- Build a failure from the arguments of its constructor. -/
def GitHubIssueCommentPostTransportFailure.init
    (reasonCode : GitHubIssueCommentWriterReasonCode) (requestId : Option Text)
    (ambiguousAccepted : Bool) : GitHubIssueCommentPostTransportFailure where
  reasonCode
  requestId
  ambiguousAccepted := ambiguousAccepted || reasonCode = .ambiguousAccepted
  ambiguous_of_reason := by simp +contextual

/-- A call of `post_issue_comment` of the transport; the body is the value of its only key. -/
structure IssueCommentPost where
  ownerRepo : Text
  prNumber : ℤ
  body : Text
  timeoutSeconds : ℤ
  deriving DecidableEq

/-- What a call of `post_issue_comment` can do: return a response, return something else, raise the
transport's failure, or raise another exception. -/
inductive PostOutcome
  | response (response : GitHubIssueCommentPostResponse)
  | otherResponse
  | failure (failure : GitHubIssueCommentPostTransportFailure)
  | raised
  deriving DecidableEq

/-- The key of `_retry_sequence_key`: the run and the hashes of the marker. -/
structure RetrySequenceKey where
  runId : Text
  markerTargetHash : Text
  markerPayloadHash : Text
  markerFindingsHash : Text
  deriving DecidableEq

/-- The interactions of the writer: test a key and add it to the attempted ones under the lock, post
a comment, and fetch a page of comments. -/
inductive WriterCall
  | checkKey (key : RetrySequenceKey)
  | post (request : IssueCommentPost)
  | fetch (page : MarkerFetch)
  deriving DecidableEq

/-- The answers to the calls of a writer; for a key, whether it had been attempted before. -/
abbrev WriterCall.Answer : WriterCall → Type
  | checkKey _ => Bool
  | post _ => PostOutcome
  | fetch _ => FetchOutcome

/-! ## Results -/

/-- `_require_optional_safe_text`. -/
def requireOptionalSafeText (value : Option Text) (fieldName : Text) : Result Unit :=
  value.elim (.ok ()) fun value => do
    require (value ≠ []) (fieldName ++ " must be non-empty")
    require (hasSecretFragment value = false) (fieldName ++ " must be redacted")

/-- The text is absent, or not empty and no secret. -/
@[simp] lemma requireOptionalSafeText_eq_ok {value : Option Text} {fieldName : Text} :
    requireOptionalSafeText value fieldName = .ok () ↔
      ∀ v ∈ value, v ≠ [] ∧ hasSecretFragment v = false := by
  cases value with
  | none => simp [requireOptionalSafeText]
  | some v => simp [requireOptionalSafeText]

/-- `GitHubIssueCommentWriterTransportSummary`. -/
structure GitHubIssueCommentWriterTransportSummary where
  endpointKind : Text
  method : Text
  endpoint : Text
  postAttemptCount : ℕ
  recoveryScanCount : ℕ
  retryable : Bool
  reasonCode : Option Text
  requestId : Option Text
  deriving DecidableEq

instance : Record GitHubIssueCommentWriterTransportSummary where
  postInit s := do
    require (s.endpointKind = "issue_comment")
      "writer transport summary endpoint_kind must be issue_comment"
    require (s.method = "POST") "writer transport summary method must be POST"
    require (("/repos/" : Text) <+: s.endpoint)
      "writer transport summary endpoint must be redacted REST path"
    requireOptionalSafeText s.reasonCode "writer transport summary reason_code"
    requireOptionalSafeText s.requestId "writer transport summary request_id"

/-- `GitHubIssueCommentWriterAttemptResult`. -/
structure GitHubIssueCommentWriterAttemptResult where
  writerResult : Checked GitHubWriterResult
  outcomeDetail : GitHubIssueCommentWriterOutcomeDetail
  transportSummary : Checked GitHubIssueCommentWriterTransportSummary
  markerReconciliation : Option (Checked MarkerReconciliationResult)
  deriving DecidableEq

/-- `_safe_request_id`, which makes the same checks as the marker scan. -/
def safeRequestId (requestId : Option Text) : Option Text := safeMarkerRequestId requestId

/-! ## The writer -/

/-- `GitHubIssueCommentWriter` without its transports and its set of keys; the flag says whether
there is a transport for the recovery scan. -/
structure GitHubIssueCommentWriter where
  recoveryMarkerTransport : Bool
  trustedBotAuthors : List Text
  timeoutSeconds : ℤ
  markerLimits : Option (Checked MarkerScanLimits)
  deriving DecidableEq

instance : Record GitHubIssueCommentWriter where
  postInit w := do
    require (∀ author ∈ w.trustedBotAuthors, author ≠ [])
      "trusted bot authors must be non-empty strings"
    require (0 < w.timeoutSeconds) "github issue-comment writer timeout_seconds must be positive"

namespace FinalizedIssueCommentWriterInput

variable (input : FinalizedIssueCommentWriterInput)

/-- `_retry_sequence_key`. -/
def retrySequenceKey : RetrySequenceKey where
  runId := input.runId
  markerTargetHash := input.finalPayload.val.markerTargetHash
  markerPayloadHash := input.finalPayload.val.markerPayloadHash
  markerFindingsHash := input.finalPayload.val.markerFindingsHash

/-- `_issue_comment_endpoint`. -/
def issueCommentEndpoint : Text :=
  let target := input.finalPayload.val.reviewTarget.val
  "/repos/" ++ (target.ownerRepo ++ ("/issues/" ++ (Text.ofInt target.prNumber ++ "/comments")))

end FinalizedIssueCommentWriterInput

namespace GitHubIssueCommentWriter

/-- `_summary`; an endpoint that is passed explicitly is this one as well. -/
def summary (input : FinalizedIssueCommentWriterInput) (postAttemptCount recoveryScanCount : ℕ)
    (retryable : Bool) (reasonCode requestId : Option Text) :
    Result (Checked GitHubIssueCommentWriterTransportSummary) :=
  construct {
    endpointKind := "issue_comment"
    method := "POST"
    endpoint := input.issueCommentEndpoint
    postAttemptCount, recoveryScanCount, retryable, reasonCode
    requestId := safeRequestId requestId }

/-- The arguments of `_failed_result` besides the writer input. -/
structure FailedResult where
  outcomeDetail : GitHubIssueCommentWriterOutcomeDetail
  reasonCode : Text
  retryable : Bool
  requestId : Option Text := none
  postAttemptCount : ℕ
  recoveryScanCount : ℕ := 0
  markerReconciliation : Option (Checked MarkerReconciliationResult) := none

/-- `_failed_result`. -/
def failedResult (input : FinalizedIssueCommentWriterInput) (failed : FailedResult) :
    Result GitHubIssueCommentWriterAttemptResult := do
  let writerResult ← construct {
    status := .failed
    artifactKind := .issueComment
    targetHash := input.targetHash
    payloadHash := input.finalPayloadHash
    commentId := none
    error := some failed.reasonCode }
  let transportSummary ← summary input failed.postAttemptCount failed.recoveryScanCount
    failed.retryable (some failed.reasonCode) failed.requestId
  return {
    writerResult, transportSummary
    outcomeDetail := failed.outcomeDetail
    markerReconciliation := failed.markerReconciliation }

/-- The arguments of `_recover_after_potential_acceptance` besides the writer input. -/
structure Recovery where
  postAttemptCount : ℕ
  safeToPostDetail : GitHubIssueCommentWriterOutcomeDetail
  safeToPostReason : GitHubIssueCommentWriterReasonCode
  safeToPostRetryable : Bool
  requestId : Option Text := none

variable (w : GitHubIssueCommentWriter)

/-- The recovery scan of a writer input. -/
def recoveryScan (input : FinalizedIssueCommentWriterInput) : MarkerScanArguments where
  ownerRepo := input.finalPayload.val.reviewTarget.val.ownerRepo
  prNumber := input.finalPayload.val.reviewTarget.val.prNumber
  approvedActor := input.approvedActor
  trustedBotAuthors := w.trustedBotAuthors
  expectedTargetHash := input.finalPayload.val.markerTargetHash
  expectedPayloadHash := input.finalPayload.val.markerPayloadHash
  expectedFindingsHash := input.finalPayload.val.markerFindingsHash
  limits := w.markerLimits

/-- The result of a recovery from the result of its scan. -/
def recoveredResult (input : FinalizedIssueCommentWriterInput) (recovery : Recovery)
    (marker : Checked MarkerReconciliationResult) : Result GitHubIssueCommentWriterAttemptResult :=
  match marker.val.status with
  | .reconciledExisting => do
    let writerResult ← construct {
      status := .reconciled
      artifactKind := .issueComment
      targetHash := input.targetHash
      payloadHash := input.finalPayloadHash
      commentId := marker.val.existingCommentId
      error := none }
    let transportSummary ← summary input recovery.postAttemptCount 1 false
      (some marker.val.reasonCode.value) marker.val.transportSummary.val.requestId
    return {
      writerResult, transportSummary
      outcomeDetail := .reconciledExisting
      markerReconciliation := some marker }
  | .safeToPost =>
    failedResult input {
      outcomeDetail := recovery.safeToPostDetail
      reasonCode := recovery.safeToPostReason.value
      retryable := recovery.safeToPostRetryable
      requestId := marker.val.transportSummary.val.requestId
      postAttemptCount := recovery.postAttemptCount
      recoveryScanCount := 1
      markerReconciliation := some marker }
  | .failedClosed =>
    failedResult input {
      outcomeDetail :=
        if marker.val.reasonCode = .trustedMarkerConflict then .trustedMarkerConflict
        else if marker.val.transportSummary.val.retryable then .retryableUnknown
        else .transportFailed
      reasonCode := marker.val.reasonCode.value
      retryable := marker.val.transportSummary.val.retryable
      requestId := marker.val.transportSummary.val.requestId
      postAttemptCount := recovery.postAttemptCount
      recoveryScanCount := 1
      markerReconciliation := some marker }

/-- `_recover_after_potential_acceptance`. -/
def recoverAfterPotentialAcceptance (input : FinalizedIssueCommentWriterInput)
    (recovery : Recovery) :
    Prog WriterCall WriterCall.Answer (Result GitHubIssueCommentWriterAttemptResult) :=
  if w.recoveryMarkerTransport then do
    let marker ← (Prog.embed WriterCall.fetch
      (reconcilePaginatedTrustedMarkers (w.recoveryScan input)) :
      Prog WriterCall WriterCall.Answer (Result (Checked MarkerReconciliationResult)))
    return marker >>= recoveredResult input recovery
  else
    return failedResult input {
      outcomeDetail := recovery.safeToPostDetail
      reasonCode := recovery.safeToPostReason.value
      retryable := recovery.safeToPostRetryable
      requestId := recovery.requestId
      postAttemptCount := recovery.postAttemptCount }

/-- The result of a post that returned a response. -/
def respondedResult (input : FinalizedIssueCommentWriterInput)
    (response : GitHubIssueCommentPostResponse) : Result GitHubIssueCommentWriterAttemptResult :=
  if response.commentId.all (· = []) then
    failedResult input {
      outcomeDetail := .malformedResponse
      reasonCode := GitHubIssueCommentWriterReasonCode.malformedResponse.value
      retryable := false
      requestId := response.requestId
      postAttemptCount := 1 }
  else if response.authorLogin ≠ some input.approvedActor then
    failedResult input {
      outcomeDetail := .responseActorMismatch
      reasonCode := GitHubIssueCommentWriterReasonCode.responseActorMismatch.value
      retryable := false
      requestId := response.requestId
      postAttemptCount := 1 }
  else do
    let writerResult ← construct {
      status := .posted
      artifactKind := .issueComment
      targetHash := input.targetHash
      payloadHash := input.finalPayloadHash
      commentId := response.commentId
      error := none }
    let transportSummary ← summary input 1 0 false none response.requestId
    return {
      writerResult, transportSummary, outcomeDetail := .posted, markerReconciliation := none }

/-- The post of a writer input. -/
def request (input : FinalizedIssueCommentWriterInput) : IssueCommentPost where
  ownerRepo := input.finalPayload.val.reviewTarget.val.ownerRepo
  prNumber := input.finalPayload.val.reviewTarget.val.prNumber
  body := input.finalPayload.val.body
  timeoutSeconds := w.timeoutSeconds

/-- `GitHubIssueCommentWriter.post_issue_comment`. -/
def postIssueComment (input : FinalizedIssueCommentWriterInput) :
    Prog WriterCall WriterCall.Answer (Result GitHubIssueCommentWriterAttemptResult) :=
  match validateFinalIssueCommentPayload (some input.finalPayload) with
  | .error e => .ret (.error e)
  | .ok validation =>
    if validation.val.status ≠ .pass then
      .ret <| failedResult input {
        outcomeDetail := .validationFailed
        reasonCode := validation.val.reasonCode.elim "payload_validation_failed"
          PayloadValidationReasonCode.value
        retryable := false
        postAttemptCount := 0 }
    else .call (.checkKey input.retrySequenceKey) fun alreadyAttempted =>
      if alreadyAttempted then
        w.recoverAfterPotentialAcceptance input {
          postAttemptCount := 0
          safeToPostDetail := .forbiddenSecondPost
          safeToPostReason := .forbiddenSecondPost
          safeToPostRetryable := false }
      else .call (.post (w.request input)) fun outcome =>
        match outcome with
        | .failure exc =>
          if exc.ambiguousAccepted then
            w.recoverAfterPotentialAcceptance input {
              postAttemptCount := 1
              requestId := exc.requestId
              safeToPostDetail := .ambiguousUnresolved
              safeToPostReason := .ambiguousUnresolved
              safeToPostRetryable := true }
          else
            .ret <| failedResult input {
              outcomeDetail := .transportFailed
              reasonCode := exc.reasonCode.value
              retryable := exc.reasonCode ∈ retryableWriterReasons
              requestId := exc.requestId
              postAttemptCount := 1 }
        | .raised =>
          .ret <| failedResult input {
            outcomeDetail := .transportFailed
            reasonCode := GitHubIssueCommentWriterReasonCode.transportUnknown.value
            retryable := true
            postAttemptCount := 1 }
        | .otherResponse =>
          .ret <| failedResult input {
            outcomeDetail := .malformedResponse
            reasonCode := GitHubIssueCommentWriterReasonCode.malformedResponse.value
            retryable := false
            postAttemptCount := 1 }
        | .response response => .ret (respondedResult input response)

end GitHubIssueCommentWriter

end ReviewGraph
