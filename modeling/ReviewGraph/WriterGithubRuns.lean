import ReviewGraph.Foundation.Concurrency
import ReviewGraph.WriterGithub

/-!
# The GitHub writer posts at most once

First the runs of one call of `post_issue_comment`: `Attempt` lists the ways a call can go, and
`postIssueComment_runs` shows that every run is one of them and returns a result.  Then any number
of calls on one writer, whose only shared state is the set of attempted keys: the calls interleave
in any order, and for each key at most one of them reaches the transport.
-/

namespace ReviewGraph

open Interaction

/-! ## Results are always built -/

/-- A reason of the writer can be shown. -/
lemma GitHubIssueCommentWriterReasonCode.value_safe (code : GitHubIssueCommentWriterReasonCode) :
    code.value ≠ [] ∧ hasSecretFragment code.value = false := by
  cases code <;> decide +kernel

/-- So can one of the validation. -/
lemma PayloadValidationReasonCode.value_safe (code : PayloadValidationReasonCode) :
    code.value ≠ [] ∧ hasSecretFragment code.value = false := by
  cases code <;> decide +kernel

/-- So can one of the reconciliation. -/
lemma MarkerReconciliationReasonCode.value_safe (code : MarkerReconciliationReasonCode) :
    code.value ≠ [] ∧ hasSecretFragment code.value = false := by
  cases code <;> decide +kernel

/-- A request identifier that is kept is safe. -/
lemma safeRequestId_safe {requestId : Option Text} :
    ∀ v ∈ safeRequestId requestId, v ≠ [] ∧ hasSecretFragment v = false := by
  intro v hv
  obtain ⟨-, hsafe⟩ := Option.filter_eq_some_iff.1 hv
  simp only [Bool.and_eq_true, decide_eq_true_eq, Bool.not_eq_true'] at hsafe
  obtain ⟨⟨⟨⟨hne, -⟩, -⟩, hsecret⟩, -⟩ := hsafe
  exact ⟨hne, hsecret⟩

namespace GitHubIssueCommentWriter

/-- A summary with a safe reason is built. -/
lemma summary_ok (input : FinalizedIssueCommentWriterInput) (posts scans : ℕ) (retryable : Bool)
    (reasonCode : Option Text) (hreason : ∀ v ∈ reasonCode, v ≠ [] ∧ hasSecretFragment v = false)
    (requestId : Option Text) :
    ∃ s, summary input posts scans retryable reasonCode requestId = .ok s ∧
      s.val.postAttemptCount = posts ∧ s.val.recoveryScanCount = scans := by
  refine ⟨⟨_, ?checks⟩, construct_of_postInit ?checks, rfl, rfl⟩
  case checks =>
    simp only [Record.postInit, check_bind_eq_ok, require_eq_ok, requireOptionalSafeText_eq_ok]
    exact ⟨trivial, trivial, List.prefix_append _ _, hreason, safeRequestId_safe⟩

/-- The hashes of a writer input are hashes. -/
lemma hashes_prefix (input : Checked FinalizedIssueCommentWriterInput) :
    hashPrefix <+: input.val.targetHash ∧ hashPrefix <+: input.val.finalPayloadHash := by
  obtain ⟨hpayload, htarget, -⟩ := FinalizedIssueCommentWriterInput.postInit_eq_ok.1 input.property
  rw [hpayload, htarget]
  have hfinal := FinalIssueCommentPayload.postInit_eq_ok.1 input.val.finalPayload.property
  exact ⟨(ReviewTarget.isStrictSha256_targetHash _).hashPrefix_accepted, hfinal.2.2.2.2.2.2.2.1⟩

/-- A failed result with a safe reason is built, and is failed. -/
lemma failedResult_ok (input : Checked FinalizedIssueCommentWriterInput) (failed : FailedResult)
    (hreason : failed.reasonCode ≠ [] ∧ hasSecretFragment failed.reasonCode = false) :
    ∃ r, failedResult input.val failed = .ok r ∧ r.writerResult.val.status = .failed ∧
      r.transportSummary.val.postAttemptCount = failed.postAttemptCount ∧
      r.transportSummary.val.recoveryScanCount = failed.recoveryScanCount ∧
      r.outcomeDetail = failed.outcomeDetail ∧
      r.markerReconciliation = failed.markerReconciliation := by
  obtain ⟨htarget, hpayload⟩ := hashes_prefix input
  obtain ⟨s, hs, hposts, hscans⟩ := summary_ok input.val failed.postAttemptCount
    failed.recoveryScanCount failed.retryable (some failed.reasonCode)
    (by simpa using hreason) failed.requestId
  have hwriter : Record.postInit ({
      status := .failed
      artifactKind := .issueComment
      targetHash := input.val.targetHash
      payloadHash := input.val.finalPayloadHash
      commentId := none
      error := some failed.reasonCode } : GitHubWriterResult) = .ok () :=
    GitHubWriterResult.postInit_eq_ok.2 ⟨htarget, hpayload, by simp, by simpa using hreason.1,
      by simp, by simp⟩
  exact ⟨⟨⟨_, hwriter⟩, failed.outcomeDetail, s, failed.markerReconciliation⟩,
    bind_eq_ok.2 ⟨_, construct_of_postInit hwriter, bind_eq_ok.2 ⟨s, hs, rfl⟩⟩, rfl, hposts, hscans,
    rfl, rfl⟩

/-! ## One call -/

variable (w : GitHubIssueCommentWriter)

/-- The exchanges and the result of a recovery. -/
structure Recovered (input : FinalizedIssueCommentWriterInput) (recovery : Recovery)
    (tr : List (Event WriterCall WriterCall.Answer)) (r : GitHubIssueCommentWriterAttemptResult) :
    Prop where
  /-- The result reports the posts before the recovery. -/
  postAttemptCount : r.transportSummary.val.postAttemptCount = recovery.postAttemptCount
  /-- Without a transport there is no scan; with one, the result is that of its scan. -/
  scan : (w.recoveryMarkerTransport = false ∧ tr = [] ∧ r.writerResult.val.status = .failed ∧
      r.outcomeDetail = recovery.safeToPostDetail ∧ r.markerReconciliation = none) ∨
    ∃ (scanned : List (Event MarkerFetch fun _ => FetchOutcome))
      (marker : Checked MarkerReconciliationResult),
      tr = scanned.map (fun e => ⟨.fetch e.1, e.2⟩) ∧
      Runs (reconcilePaginatedTrustedMarkers (w.recoveryScan input)) scanned (.ok marker) ∧
      r.markerReconciliation = some marker ∧ r.transportSummary.val.recoveryScanCount = 1 ∧
      if marker.val.status = .reconciledExisting then
        r.writerResult.val.status = .reconciled ∧ r.outcomeDetail = .reconciledExisting ∧
          r.writerResult.val.commentId = marker.val.existingCommentId
      else r.writerResult.val.status = .failed

/-- The ways a call can go. -/
inductive Attempt (input : FinalizedIssueCommentWriterInput) :
    List (Event WriterCall WriterCall.Answer) → GitHubIssueCommentWriterAttemptResult → Prop
  /-- The payload fails validation. -/
  | invalid {r : GitHubIssueCommentWriterAttemptResult}
      (invalid : ¬ ValidFinalPayload input.finalPayload.val)
      (failed : r.writerResult.val.status = .failed)
      (count : r.transportSummary.val.postAttemptCount = 0) : Attempt input [] r
  /-- The key had been attempted. -/
  | repeated {tr : List (Event WriterCall WriterCall.Answer)} {recovery : Recovery}
      {r : GitHubIssueCommentWriterAttemptResult}
      (valid : ValidFinalPayload input.finalPayload.val)
      (count : recovery.postAttemptCount = 0) (recovered : w.Recovered input recovery tr r) :
      Attempt input (⟨.checkKey input.retrySequenceKey, true⟩ :: tr) r
  /-- The post may have been accepted. -/
  | ambiguous {tr : List (Event WriterCall WriterCall.Answer)} {recovery : Recovery}
      {exc : GitHubIssueCommentPostTransportFailure} {r : GitHubIssueCommentWriterAttemptResult}
      (valid : ValidFinalPayload input.finalPayload.val) (accepted : exc.ambiguousAccepted = true)
      (count : recovery.postAttemptCount = 1) (recovered : w.Recovered input recovery tr r) :
      Attempt input (⟨.checkKey input.retrySequenceKey, false⟩ ::
        ⟨.post (w.request input), .failure exc⟩ :: tr) r
  /-- The post failed, or its response is malformed or by another actor. -/
  | failed {outcome : PostOutcome} {r : GitHubIssueCommentWriterAttemptResult}
      (valid : ValidFinalPayload input.finalPayload.val)
      (failed : r.writerResult.val.status = .failed)
      (count : r.transportSummary.val.postAttemptCount = 1)
      (unscanned : r.transportSummary.val.recoveryScanCount = 0) :
      Attempt input [⟨.checkKey input.retrySequenceKey, false⟩,
        ⟨.post (w.request input), outcome⟩] r
  /-- The comment is posted by the approved actor. -/
  | posted {response : GitHubIssueCommentPostResponse} {r : GitHubIssueCommentWriterAttemptResult}
      (valid : ValidFinalPayload input.finalPayload.val)
      (posted : r.writerResult.val.status = .posted)
      (count : r.transportSummary.val.postAttemptCount = 1)
      (actor : response.authorLogin = some input.approvedActor)
      (comment : r.writerResult.val.commentId = response.commentId) :
      Attempt input [⟨.checkKey input.retrySequenceKey, false⟩,
        ⟨.post (w.request input), .response response⟩] r

/-- The recovery scan of a valid payload has valid arguments. -/
lemma recoveryScan_check {w : GitHubIssueCommentWriter} (hw : Record.postInit w = .ok ())
    (input : Checked FinalizedIssueCommentWriterInput)
    (hvalid : ValidFinalPayload input.val.finalPayload.val) :
    (w.recoveryScan input.val).check = .ok () := by
  obtain ⟨-, -, -, hactor, -⟩ := FinalizedIssueCommentWriterInput.postInit_eq_ok.1 input.property
  obtain ⟨hrepo, hnumber, -⟩ :=
    ReviewTarget.postInit_eq_ok.1 input.val.finalPayload.val.reviewTarget.property
  simp only [Record.postInit, check_bind_eq_ok, require_eq_ok] at hw
  obtain ⟨-, htarget, hpayload, hfindings⟩ := hvalid.wellFormed
  simp only [MarkerScanArguments.check, check_bind_eq_ok, require_eq_ok]
  exact ⟨List.ne_nil_of_mem hrepo, hnumber, hactor, htarget.ne_nil, htarget, hpayload.ne_nil,
    hpayload, hfindings.ne_nil, hfindings, hw.1⟩

/-- The result of a recovery is built from every result of its scan. -/
lemma recoveredResult_ok (input : Checked FinalizedIssueCommentWriterInput) (recovery : Recovery)
    (marker : Checked MarkerReconciliationResult) :
    ∃ r, recoveredResult input.val recovery marker = .ok r ∧
      r.transportSummary.val.postAttemptCount = recovery.postAttemptCount ∧
      r.transportSummary.val.recoveryScanCount = 1 ∧ r.markerReconciliation = some marker ∧
      if marker.val.status = .reconciledExisting then
        r.writerResult.val.status = .reconciled ∧ r.outcomeDetail = .reconciledExisting ∧
          r.writerResult.val.commentId = marker.val.existingCommentId
      else r.writerResult.val.status = .failed := by
  unfold recoveredResult
  cases hstatus : marker.val.status with
  | reconciledExisting =>
    obtain ⟨id, hid, hne⟩ := MarkerReconciliationResult.existingCommentId_of_reconciled hstatus
    obtain ⟨htarget, hpayload⟩ := hashes_prefix input
    obtain ⟨s, hs, hposts, hscans⟩ := summary_ok input.val recovery.postAttemptCount 1 false
      (some marker.val.reasonCode.value)
      (by simpa using marker.val.reasonCode.value_safe) marker.val.transportSummary.val.requestId
    have hwriter : Record.postInit ({
        status := .reconciled
        artifactKind := .issueComment
        targetHash := input.val.targetHash
        payloadHash := input.val.finalPayloadHash
        commentId := marker.val.existingCommentId
        error := none } : GitHubWriterResult) = .ok () :=
      GitHubWriterResult.postInit_eq_ok.2 ⟨htarget, hpayload, by simpa [hid] using hne, by simp,
        by simp [hid], by simp⟩
    refine ⟨⟨⟨_, hwriter⟩, .reconciledExisting, s, some marker⟩,
      bind_eq_ok.2 ⟨_, construct_of_postInit hwriter, bind_eq_ok.2 ⟨s, hs, rfl⟩⟩, hposts, hscans,
      rfl, ?_⟩
    rw [if_pos rfl]
    exact ⟨rfl, rfl, rfl⟩
  | safeToPost =>
    obtain ⟨r, hr, hfailed, hposts, hscans, -, hmarker⟩ := failedResult_ok input
      {
        outcomeDetail := recovery.safeToPostDetail
        reasonCode := recovery.safeToPostReason.value
        retryable := recovery.safeToPostRetryable
        requestId := marker.val.transportSummary.val.requestId
        postAttemptCount := recovery.postAttemptCount
        recoveryScanCount := 1
        markerReconciliation := some marker } recovery.safeToPostReason.value_safe
    exact ⟨r, hr, hposts, hscans, hmarker, by simpa using hfailed⟩
  | failedClosed =>
    obtain ⟨r, hr, hfailed, hposts, hscans, -, hmarker⟩ := failedResult_ok input
      {
        outcomeDetail :=
          if marker.val.reasonCode = .trustedMarkerConflict then .trustedMarkerConflict
          else if marker.val.transportSummary.val.retryable then .retryableUnknown
          else .transportFailed
        reasonCode := marker.val.reasonCode.value
        retryable := marker.val.transportSummary.val.retryable
        requestId := marker.val.transportSummary.val.requestId
        postAttemptCount := recovery.postAttemptCount
        recoveryScanCount := 1
        markerReconciliation := some marker } marker.val.reasonCode.value_safe
    exact ⟨r, hr, hposts, hscans, hmarker, by simpa using hfailed⟩

/-- A recovery returns a result. -/
lemma recover_runs {w : GitHubIssueCommentWriter} (hw : Record.postInit w = .ok ())
    (input : Checked FinalizedIssueCommentWriterInput)
    (hvalid : ValidFinalPayload input.val.finalPayload.val) {recovery : Recovery}
    {tr : List (Event WriterCall WriterCall.Answer)}
    {res : Result GitHubIssueCommentWriterAttemptResult}
    (hrun : Runs (w.recoverAfterPotentialAcceptance input.val recovery) tr res) :
    ∃ r, res = .ok r ∧ w.Recovered input.val recovery tr r := by
  unfold recoverAfterPotentialAcceptance at hrun
  split at hrun
  · obtain ⟨tr₁, tr₂, scanRes, rfl, hembed, hret⟩ := runs_bind_iff.1 hrun
    obtain ⟨scanned, hscan, rfl⟩ := runs_embed_iff.1 hembed
    obtain ⟨rfl, rfl⟩ := runs_pure_iff.1 hret
    obtain ⟨marker, rfl, -⟩ :=
      MarkerScanArguments.reconcile_runs (recoveryScan_check hw input hvalid) hscan
    obtain ⟨r, hr, hposts, hscans, hmarker, hresult⟩ := recoveredResult_ok input recovery marker
    exact ⟨r, hr, hposts, .inr ⟨scanned, marker, by simp, hscan, hmarker, hscans, hresult⟩⟩
  · rename_i hnone
    obtain ⟨rfl, rfl⟩ := runs_pure_iff.1 hrun
    obtain ⟨r, hr, hfailed, hposts, -, hdetail, hmarker⟩ := failedResult_ok input
      {
        outcomeDetail := recovery.safeToPostDetail
        reasonCode := recovery.safeToPostReason.value
        retryable := recovery.safeToPostRetryable
        requestId := recovery.requestId
        postAttemptCount := recovery.postAttemptCount } recovery.safeToPostReason.value_safe
    exact ⟨r, hr, hposts, .inl ⟨by simpa using hnone, rfl, hfailed, hdetail, hmarker⟩⟩

/-- A response gives a failed result, or a posted one when it is by the approved actor. -/
lemma respondedResult_ok (input : Checked FinalizedIssueCommentWriterInput)
    (response : GitHubIssueCommentPostResponse) :
    ∃ r, respondedResult input.val response = .ok r ∧
      r.transportSummary.val.postAttemptCount = 1 ∧
      r.transportSummary.val.recoveryScanCount = 0 ∧
      (r.writerResult.val.status = .failed ∨ r.writerResult.val.status = .posted ∧
        response.authorLogin = some input.val.approvedActor ∧
        r.writerResult.val.commentId = response.commentId) := by
  unfold respondedResult
  split
  · obtain ⟨r, hr, hfailed, hposts, hscans, -⟩ := failedResult_ok input
      {
        outcomeDetail := .malformedResponse
        reasonCode := GitHubIssueCommentWriterReasonCode.malformedResponse.value
        retryable := false
        requestId := response.requestId
        postAttemptCount := 1 }
      (GitHubIssueCommentWriterReasonCode.value_safe .malformedResponse)
    exact ⟨r, hr, hposts, hscans, .inl hfailed⟩
  rename_i hcomment
  split
  · obtain ⟨r, hr, hfailed, hposts, hscans, -⟩ := failedResult_ok input
      {
        outcomeDetail := .responseActorMismatch
        reasonCode := GitHubIssueCommentWriterReasonCode.responseActorMismatch.value
        retryable := false
        requestId := response.requestId
        postAttemptCount := 1 }
      (GitHubIssueCommentWriterReasonCode.value_safe .responseActorMismatch)
    exact ⟨r, hr, hposts, hscans, .inl hfailed⟩
  rename_i hactor
  obtain ⟨htarget, hpayload⟩ := hashes_prefix input
  obtain ⟨s, hs, hposts, hscans⟩ := summary_ok input.val 1 0 false none (by simp)
    response.requestId
  have hid : response.commentId ≠ some [] ∧ response.commentId ≠ none := by
    cases hc : response.commentId with
    | none => simp [hc] at hcomment
    | some id => simpa [hc] using hcomment
  have hwriter : Record.postInit ({
      status := .posted
      artifactKind := .issueComment
      targetHash := input.val.targetHash
      payloadHash := input.val.finalPayloadHash
      commentId := response.commentId
      error := none } : GitHubWriterResult) = .ok () :=
    GitHubWriterResult.postInit_eq_ok.2 ⟨htarget, hpayload, hid.1, by simp, fun _ => hid.2, by simp⟩
  exact ⟨⟨⟨_, hwriter⟩, .posted, s, none⟩,
    bind_eq_ok.2 ⟨_, construct_of_postInit hwriter, bind_eq_ok.2 ⟨s, hs, rfl⟩⟩, hposts, hscans,
    .inr ⟨rfl, not_not.1 hactor, rfl⟩⟩

/-- Every run of a call returns a result and goes one of the ways of `Attempt`. -/
theorem postIssueComment_runs {w : GitHubIssueCommentWriter} (hw : Record.postInit w = .ok ())
    (input : Checked FinalizedIssueCommentWriterInput)
    {tr : List (Event WriterCall WriterCall.Answer)}
    {res : Result GitHubIssueCommentWriterAttemptResult}
    (hrun : Runs (w.postIssueComment input.val) tr res) :
    ∃ r, res = .ok r ∧ w.Attempt input.val tr r := by
  obtain ⟨validation, hvalidation, hpass, hcode⟩ :=
    validateFinalIssueCommentPayload_ok input.val.finalPayload
  unfold postIssueComment at hrun
  rw [hvalidation] at hrun
  dsimp only at hrun
  split at hrun
  · rename_i hfail
    obtain ⟨code, hcode⟩ := hcode hfail
    obtain ⟨rfl, rfl⟩ := runs_ret_iff.1 hrun
    obtain ⟨r, hr, hfailed, hposts, -⟩ := failedResult_ok input
      {
        outcomeDetail := .validationFailed
        reasonCode := validation.val.reasonCode.elim "payload_validation_failed"
          PayloadValidationReasonCode.value
        retryable := false
        postAttemptCount := 0 } (by rw [hcode]; exact code.value_safe)
    exact ⟨r, hr, .invalid (mt hpass.2 hfail) hfailed hposts⟩
  rename_i hstatus
  have hvalid : ValidFinalPayload input.val.finalPayload.val := hpass.1 (not_not.1 hstatus)
  obtain ⟨already, tr, rfl, hrest⟩ := runs_call_iff.1 hrun
  cases already with
  | true =>
    obtain ⟨r, rfl, hrecovered⟩ := recover_runs hw input hvalid hrest
    exact ⟨r, rfl, .repeated hvalid rfl hrecovered⟩
  | false =>
    obtain ⟨outcome, tr, rfl, hanswer⟩ := runs_call_iff.1 hrest
    -- A failure without a recovery returns at once.
    have hends : ∀ {failed : FailedResult}, failed.postAttemptCount = 1 →
        failed.recoveryScanCount = 0 →
        failed.reasonCode ≠ [] ∧ hasSecretFragment failed.reasonCode = false →
        Runs (.ret (failedResult input.val failed)) tr res → ∃ r, res = .ok r ∧
          w.Attempt input.val (⟨.checkKey input.val.retrySequenceKey, false⟩ ::
            ⟨.post (w.request input.val), outcome⟩ :: tr) r := by
      intro failed hposts hscans hreason hret
      obtain ⟨rfl, rfl⟩ := runs_ret_iff.1 hret
      obtain ⟨r, hr, hfailed, hposts', hscans', -⟩ := failedResult_ok input _ hreason
      exact ⟨r, hr, .failed hvalid hfailed (hposts'.trans hposts) (hscans'.trans hscans)⟩
    cases outcome with
    | failure exc =>
      dsimp only at hanswer
      split at hanswer
      · rename_i haccepted
        obtain ⟨r, rfl, hrecovered⟩ := recover_runs hw input hvalid hanswer
        exact ⟨r, rfl, .ambiguous hvalid haccepted rfl hrecovered⟩
      · exact hends rfl rfl exc.reasonCode.value_safe hanswer
    | raised =>
      exact hends rfl rfl (GitHubIssueCommentWriterReasonCode.value_safe .transportUnknown) hanswer
    | otherResponse =>
      exact hends rfl rfl (GitHubIssueCommentWriterReasonCode.value_safe .malformedResponse) hanswer
    | response response =>
      obtain ⟨rfl, rfl⟩ := runs_ret_iff.1 hanswer
      obtain ⟨r, hr, hposts, hscans, hfailed | ⟨hposted, hactor, hcomment⟩⟩ :=
        respondedResult_ok input response
      · exact ⟨r, hr, .failed hvalid hfailed hposts hscans⟩
      · exact ⟨r, hr, .posted hvalid hposted hposts hactor hcomment⟩

/-! ## The exchanges of one call -/

/-- A post of the transport. -/
def isPost (e : Event WriterCall WriterCall.Answer) : Bool :=
  match e with
  | ⟨.post _, _⟩ => true
  | _ => false

/-- The first test of a key. -/
def isFirstCheck (key : RetrySequenceKey) (e : Event WriterCall WriterCall.Answer) : Bool :=
  match e with
  | ⟨.checkKey key', false⟩ => key' = key
  | _ => false

/-- The first check of a key finds it unused. -/
lemma isFirstCheck_iff {key : RetrySequenceKey} {e : Event WriterCall WriterCall.Answer} :
    isFirstCheck key e = true ↔ e = ⟨.checkKey key, false⟩ := by
  constructor
  · intro h
    unfold isFirstCheck at h
    split at h
    · rw [of_decide_eq_true h]
    · contradiction
  · rintro rfl
    simp [isFirstCheck]

variable {w} {input : FinalizedIssueCommentWriterInput}
  {tr : List (Event WriterCall WriterCall.Answer)} {r : GitHubIssueCommentWriterAttemptResult}

/-- A recovery only fetches pages. -/
lemma Recovered.fetches {recovery : Recovery} (h : w.Recovered input recovery tr r) :
    ∀ e ∈ tr, ∃ page outcome, e = ⟨.fetch page, outcome⟩ := by
  rcases h.scan with ⟨-, rfl, -⟩ | ⟨scanned, marker, rfl, -⟩
  · simp
  · intro e he
    obtain ⟨e', -, rfl⟩ := List.mem_map.1 he
    exact ⟨e'.1, e'.2, rfl⟩

/-- A recovery posts nothing. -/
lemma Recovered.not_isPost {recovery : Recovery} (h : w.Recovered input recovery tr r) :
    ∀ e ∈ tr, isPost e = false := by
  intro e he
  obtain ⟨page, outcome, rfl⟩ := h.fetches e he
  rfl

/-- A recovery does not report a post. -/
lemma Recovered.status_ne_posted {recovery : Recovery} (h : w.Recovered input recovery tr r) :
    r.writerResult.val.status ≠ .posted := by
  rcases h.scan with ⟨-, -, hfailed, -⟩ | ⟨-, marker, -, -, -, -, hresult⟩
  · simp [hfailed]
  · split at hresult
    · simp [hresult.1]
    · simp [hresult]

/-- A recovery reports an existing comment only if its scan found a trusted comment with the marker
of the payload. -/
lemma Recovered.reconciled (hw : Record.postInit w = .ok ())
    {input : Checked FinalizedIssueCommentWriterInput} {recovery : Recovery}
    (h : w.Recovered input.val recovery tr r)
    (hvalid : ValidFinalPayload input.val.finalPayload.val)
    (hstatus : r.writerResult.val.status = .reconciled) :
    ∃ scanned pages comment, tr = scanned.map (fun e => ⟨.fetch e.1, e.2⟩) ∧
      (w.recoveryScan input.val).Completes scanned pages ∧ comment ∈ chainComments pages ∧
      (w.recoveryScan input.val).trusts comment.val = true ∧
      (w.recoveryScan input.val).ExactMarker comment.val ∧
      r.writerResult.val.commentId = some comment.val.commentId := by
  rcases h.scan with ⟨-, -, hfailed, -⟩ | ⟨scanned, marker, htr, hscan, -, -, hresult⟩
  · simp [hfailed] at hstatus
  split at hresult
  · rename_i hmarker
    obtain ⟨marker', hok, -, hclass⟩ :=
      MarkerScanArguments.reconcile_runs (recoveryScan_check hw input hvalid) hscan
    obtain rfl := Except.ok.inj hok
    rcases hclass with ⟨pages, hcompletes, hverdict⟩ | ⟨hfailed, -⟩
    · obtain ⟨first, rest, hmatching, hexisting, -⟩ := hverdict.existing hmarker
      have hfirst : first ∈ (w.recoveryScan input.val).matching (chainComments pages) := by
        simp [hmatching]
      obtain ⟨hmem, hmatches⟩ := List.mem_filter.1 hfirst
      obtain ⟨htrust, hexact⟩ := of_decide_eq_true hmatches
      exact ⟨scanned, pages, first, htr, hcompletes, hmem, htrust, hexact,
        hresult.2.2.trans hexisting⟩
    · simp [hfailed] at hmarker
  · simp [hresult] at hstatus

/-- A call that posts is the first to test its key, posts a valid payload and posts it once; any
other call posts nothing, only fetches pages and reports no post. -/
lemma Attempt.cases_first (h : w.Attempt input tr r) :
    (∃ outcome rest, tr = ⟨.checkKey input.retrySequenceKey, false⟩ ::
        ⟨.post (w.request input), outcome⟩ :: rest ∧ ValidFinalPayload input.finalPayload.val ∧
        ∀ e ∈ rest, isPost e = false) ∨
      ((∀ e ∈ tr, e = ⟨.checkKey input.retrySequenceKey, true⟩ ∨
          ∃ page outcome, e = ⟨.fetch page, outcome⟩) ∧
        r.transportSummary.val.postAttemptCount = 0 ∧ r.writerResult.val.status ≠ .posted) := by
  cases h with
  | invalid hinvalid hfailed hcount => exact .inr ⟨by simp, hcount, by simp [hfailed]⟩
  | repeated hvalid hcount hrecovered =>
    refine .inr ⟨?_, hrecovered.postAttemptCount.trans hcount, hrecovered.status_ne_posted⟩
    intro e he
    rcases List.mem_cons.1 he with rfl | he
    · exact .inl rfl
    · exact .inr (hrecovered.fetches e he)
  | ambiguous hvalid _ _ hrecovered => exact .inl ⟨_, _, rfl, hvalid, hrecovered.not_isPost⟩
  | failed hvalid => exact .inl ⟨_, _, rfl, hvalid, by simp⟩
  | posted hvalid => exact .inl ⟨_, _, rfl, hvalid, by simp⟩

/-- A call posts at most once. -/
lemma Attempt.countP_isPost (h : w.Attempt input tr r) : tr.countP isPost ≤ 1 := by
  rcases h.cases_first with ⟨outcome, rest, rfl, -, hrest⟩ | ⟨hfetches, -⟩
  · have hzero : rest.countP isPost = 0 := List.countP_eq_zero.2 fun e he => by simp [hrest e he]
    simp [List.countP_cons, hzero, isPost]
  · have hzero : tr.countP isPost = 0 := by
      refine List.countP_eq_zero.2 fun e he => ?_
      rcases hfetches e he with rfl | ⟨page, outcome, rfl⟩ <;> simp [isPost]
    omega

/-- A post of a call, even of an interrupted one, follows its first test of the key. -/
lemma Attempt.of_isPost (h : w.Attempt input tr r)
    {part : List (Event WriterCall WriterCall.Answer)}
    (hpart : part <+: tr) {request : IssueCommentPost} {outcome : PostOutcome}
    (hpost : (⟨.post request, outcome⟩ : Event WriterCall WriterCall.Answer) ∈ part) :
    ValidFinalPayload input.finalPayload.val ∧ request = w.request input ∧
      ⟨.checkKey input.retrySequenceKey, false⟩ ∈ part := by
  have hmem := hpart.subset hpost
  rcases h.cases_first with ⟨outcome', rest, rfl, hvalid, hrest⟩ | ⟨hfetches, -⟩
  · refine ⟨hvalid, ?_, ?_⟩
    · rcases List.mem_cons.1 hmem with heq | hmem
      · cases heq
      · rcases List.mem_cons.1 hmem with heq | hmem
        · cases heq
          rfl
        · exact absurd (hrest _ hmem) (by simp [isPost])
    · cases part with
      | nil => cases hpost
      | cons e part =>
        obtain ⟨rfl, -⟩ := List.cons_prefix_cons.1 hpart
        exact List.mem_cons_self
  · rcases hfetches _ hmem with heq | ⟨page, outcome', heq⟩ <;> cases heq

/-- A call that is not the first to test its key, even an interrupted one, is a recovery only. -/
lemma Attempt.of_not_first (h : w.Attempt input tr r)
    {part : List (Event WriterCall WriterCall.Answer)} (hpart : part <+: tr)
    (hfirst : ⟨.checkKey input.retrySequenceKey, false⟩ ∉ part) :
    ∀ e ∈ part, e = ⟨.checkKey input.retrySequenceKey, true⟩ ∨
      ∃ page outcome, e = ⟨.fetch page, outcome⟩ := by
  rcases h.cases_first with ⟨outcome', rest, rfl, -⟩ | ⟨hfetches, -⟩
  · cases part with
    | nil => simp
    | cons e part =>
      obtain ⟨rfl, -⟩ := List.cons_prefix_cons.1 hpart
      exact absurd List.mem_cons_self hfirst
  · exact fun e he => hfetches e (hpart.subset he)

/-- What the status of a call says about its exchanges. -/
lemma Attempt.status (h : w.Attempt input tr r) :
    (r.writerResult.val.status = .posted → ∃ response,
      ⟨.post (w.request input), .response response⟩ ∈ tr ∧
        response.authorLogin = some input.approvedActor ∧
        r.writerResult.val.commentId = response.commentId) ∧
      (r.writerResult.val.status = .reconciled → ∃ (recovery : Recovery) (before after : _),
        tr = before ++ after ∧ w.Recovered input recovery after r ∧
          ValidFinalPayload input.finalPayload.val) := by
  cases h with
  | invalid _ hfailed => simp [hfailed]
  | @repeated tr recovery r hvalid _ hrecovered =>
    exact ⟨fun hposted => absurd hposted hrecovered.status_ne_posted,
      fun _ => ⟨recovery, [_], tr, rfl, hrecovered, hvalid⟩⟩
  | @ambiguous tr recovery exc r hvalid _ _ hrecovered =>
    exact ⟨fun hposted => absurd hposted hrecovered.status_ne_posted,
      fun _ => ⟨recovery, [_, _], tr, rfl, hrecovered, hvalid⟩⟩
  | failed _ hfailed => simp [hfailed]
  | posted _ hposted _ hactor hcomment =>
    exact ⟨fun _ => ⟨_, by simp, hactor, hcomment⟩, by simp [hposted]⟩

end GitHubIssueCommentWriter

end ReviewGraph
