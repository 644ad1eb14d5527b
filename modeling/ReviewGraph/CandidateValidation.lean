import ReviewGraph.PayloadValidation
import ReviewGraph.Posting

/-!
# Validation of candidate payloads

`validate_candidate_issue_comment_payload` of `payload_validation.py`: a candidate passes exactly if
it equals the payload that is built again from the same plan and findings.
-/

namespace ReviewGraph

/-- `_contains_marker_line`. -/
def containsMarkerLine (body : Text) : Bool :=
  (canonicalTextBody body).lines.any isExactReviewgraphV1MarkerLine

/-- The checks of a candidate payload against the one that is expected, in the order of the code. -/
def candidatePayloadFailure (payload expected : Checked CandidateIssueCommentPayload)
    (expectedReviewTarget : Checked ReviewTarget) : Result (Option PayloadFailure) :=
  if payload.val.artifactKind ≠ .issueComment then
    .ok (some (.wrongArtifactKind, "candidate payload must be issue_comment"))
  else if payload.val.redactionStatus.val.status ≠ .pass then
    .ok (some (.redactionNotPassed, "candidate payload redaction did not pass"))
  else if containsMarkerLine payload.val.body then
    .ok (some (.candidateContainsMarker, "candidate payload must not contain marker"))
  else if payload.val.reviewTarget ≠ expectedReviewTarget then
    .ok (some (.candidateBindingMismatch, "candidate target does not match expected target"))
  else if payload.val.visibleBodyHash ≠ visibleBodyHash payload.val.body then
    .ok (some (.bodyHashMismatch, "candidate visible body hash does not match body"))
  else if Text.sorted payload.val.itemFingerprints ≠ expected.val.itemFingerprints then
    .ok (some (.candidateBindingMismatch,
      "candidate fingerprints do not match expected fingerprints"))
  else if payload.val.itemFingerprints ≠ expected.val.itemFingerprints then
    .ok (some (.candidateBindingMismatch, "candidate fingerprints must be sorted"))
  else do
    let expectedFindingsHash ← findingsHash expected.val.itemFingerprints
    if payload.val.findingsHash ≠ expectedFindingsHash then
      .ok (some (.findingsHashMismatch, "candidate findings hash does not match fingerprints"))
    else if payload ≠ expected then
      .ok (some (.candidateBindingMismatch, "candidate payload does not match expected payload"))
    else .ok none

/-- `validate_candidate_issue_comment_payload`; `none` is an object of another type. -/
def validateCandidateIssueCommentPayload (payload : Option (Checked CandidateIssueCommentPayload))
    (expectedReviewTarget : Checked ReviewTarget) (expectedPostingPlan : Checked PostingPlan)
    (expectedFindings : List (Checked ClassifiedFinding))
    (expectedLocalVerdict : Option ReviewVerdict) (expectedIncludePublicVerdict : Bool) :
    Result (Checked PayloadValidationResult) :=
  match payload with
  | none => payloadFail (.candidateBindingMismatch, "payload is not a candidate issue comment")
  | some payload =>
    match buildCandidateIssueCommentPayload expectedReviewTarget expectedPostingPlan
      expectedFindings
        expectedLocalVerdict expectedIncludePublicVerdict ArtifactKind.issueComment.value with
    | .error (.postingPlanError message) => payloadFail (.candidateBindingMismatch, message)
    | .error e => .error e
    | .ok expected => do
      match ← candidatePayloadFailure payload expected expectedReviewTarget with
      | some failure => payloadFail failure
      | none => payloadPass payload.val.visibleBodyHash payload.val.reviewTarget.val.targetHash

/-! ## What validation establishes -/

/-- What is known of a candidate payload that has been built. -/
structure BuiltCandidate (p : CandidateIssueCommentPayload) (reviewTarget : Checked ReviewTarget) :
    Prop where
  /-- The payload names the target. -/
  reviewTarget : p.reviewTarget = reviewTarget
  /-- The redaction passed. -/
  redaction : p.redactionStatus.val.status = .pass
  /-- The hash of the body is right. -/
  visibleBody : p.visibleBodyHash = visibleBodyHash p.body
  /-- The fingerprints are sorted. -/
  sorted : Text.sorted p.itemFingerprints = p.itemFingerprints
  /-- The hash of the findings is right. -/
  findings : findingsHash p.itemFingerprints = .ok p.findingsHash

/-- The hash of the findings in `posting.py` differs in its exception only. -/
lemma postingFindingsHash_eq_ok {fingerprints : List Text} {hash : Text} :
    postingFindingsHash fingerprints = .ok hash ↔ findingsHash fingerprints = .ok hash := by
  unfold postingFindingsHash
  split
  · rename_i message h
    simp [h]
  · rfl

/-- The checks that a build passes, and what it builds. -/
lemma buildCandidateIssueCommentPayload_eq_ok {reviewTarget : Checked ReviewTarget}
    {postingPlan : Checked PostingPlan} {findings : List (Checked ClassifiedFinding)}
    {localVerdict : Option ReviewVerdict} {includePublicVerdict : Bool} {artifactKind : Text}
    {p : Checked CandidateIssueCommentPayload}
    (h : buildCandidateIssueCommentPayload reviewTarget postingPlan findings localVerdict
      includePublicVerdict artifactKind = .ok p) :
    (findings.map fun f => f.val.id).Nodup ∧ BuiltCandidate p.val reviewTarget := by
  unfold buildCandidateIssueCommentPayload at h
  obtain ⟨kind, -, h⟩ := bind_eq_ok.1 h
  split at h
  · contradiction
  rename_i hduplicate
  dsimp only at h
  obtain ⟨-, h⟩ := check_bind_eq_ok.1 h
  split at h
  · contradiction
  split at h
  · contradiction
  obtain ⟨lines, -, h⟩ := bind_eq_ok.1 h
  obtain ⟨hash, hhash, h⟩ := bind_eq_ok.1 h
  obtain ⟨status, hstatus, h⟩ := bind_eq_ok.1 h
  have hval := construct_eq_ok.1 h
  have hpass : status.val.status = .pass := by
    rw [construct_eq_ok.1 hstatus]
  refine ⟨(duplicateFindingId_eq_none.1 hduplicate).1, ?_⟩
  rw [hval]
  constructor
  · rfl
  · exact hpass
  · dsimp only
  · exact Text.sorted_sorted _
  · exact postingFindingsHash_eq_ok.1 hhash

section Validation

variable {reviewTarget : Checked ReviewTarget} {postingPlan : Checked PostingPlan}
  {findings : List (Checked ClassifiedFinding)} {localVerdict : Option ReviewVerdict}
  {includePublicVerdict : Bool} {payload : Checked CandidateIssueCommentPayload}
  {r : Checked PayloadValidationResult}

/-- A candidate that passes validation is the one that is built. -/
theorem validateCandidateIssueCommentPayload_pass
    (h : validateCandidateIssueCommentPayload (some payload) reviewTarget postingPlan findings
      localVerdict includePublicVerdict = .ok r) (hpass : r.val.status = .pass) :
    buildCandidateIssueCommentPayload reviewTarget postingPlan findings localVerdict
        includePublicVerdict ArtifactKind.issueComment.value = .ok payload ∧
      containsMarkerLine payload.val.body = false := by
  have hfail : ∀ failure, payloadFail failure = .ok r → False := by
    intro failure hr
    rw [construct_eq_ok.1 hr] at hpass
    contradiction
  unfold validateCandidateIssueCommentPayload at h
  dsimp only at h
  split at h
  · exact (hfail _ h).elim
  · contradiction
  rename_i expected hbuild
  obtain ⟨failure, hchecks, h⟩ := bind_eq_ok.1 h
  cases failure with
  | some failure => exact (hfail _ h).elim
  | none =>
    unfold candidatePayloadFailure at hchecks
    split at hchecks
    · simp at hchecks
    split at hchecks
    · simp at hchecks
    split at hchecks
    · simp at hchecks
    rename_i hmarker
    split at hchecks
    · simp at hchecks
    split at hchecks
    · simp at hchecks
    split at hchecks
    · simp at hchecks
    split at hchecks
    · simp at hchecks
    obtain ⟨hash, -, hchecks⟩ := bind_eq_ok.1 hchecks
    split at hchecks
    · simp at hchecks
    split at hchecks
    · simp at hchecks
    rename_i hsame
    rw [not_not] at hsame
    exact ⟨hsame ▸ hbuild, Bool.not_eq_true _ ▸ hmarker⟩

/-- The candidate that is built passes validation unless its body contains a marker. -/
theorem validateCandidateIssueCommentPayload_of_build
    (hbuild : buildCandidateIssueCommentPayload reviewTarget postingPlan findings localVerdict
      includePublicVerdict ArtifactKind.issueComment.value = .ok payload)
    (hmarker : containsMarkerLine payload.val.body = false) :
    ∃ r, validateCandidateIssueCommentPayload (some payload) reviewTarget postingPlan findings
      localVerdict includePublicVerdict = .ok r ∧ r.val.status = .pass := by
  obtain ⟨-, hbuilt⟩ := buildCandidateIssueCommentPayload_eq_ok hbuild
  have hkind : payload.val.artifactKind = .issueComment := by cases payload.val.artifactKind; rfl
  have hchecks : candidatePayloadFailure payload payload reviewTarget = .ok none := by
    unfold candidatePayloadFailure
    rw [if_neg (by simp [hkind]), if_neg (by simp [hbuilt.redaction]), if_neg (by simp [hmarker]),
      if_neg (by simp [hbuilt.reviewTarget]), if_neg (by simp [← hbuilt.visibleBody]),
      if_neg (by simp [hbuilt.sorted]), if_neg (by simp), hbuilt.findings, ok_bind,
      if_neg (by simp), if_neg (by simp)]
  have hbody : hashPrefix <+: payload.val.visibleBodyHash := by
    rw [hbuilt.visibleBody]
    exact (isStrictSha256_sha256Text _).hashPrefix_accepted
  have htarget := payload.val.reviewTarget.val.isStrictSha256_targetHash.hashPrefix_accepted
  unfold validateCandidateIssueCommentPayload
  dsimp only
  rw [hbuild]
  dsimp only
  rw [hchecks, ok_bind]
  refine ⟨⟨_, ?checks⟩, construct_of_postInit ?checks, rfl⟩
  case checks => simp [Record.postInit, hbody, htarget]

end Validation

end ReviewGraph
