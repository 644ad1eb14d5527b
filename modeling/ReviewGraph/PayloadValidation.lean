import ReviewGraph.Markers

/-!
# Payload validation

`validate_final_issue_comment_payload` of `payload_validation.py`, the last check of a payload
before it is posted.  `finalPayloadFailure` is the chain of its checks; a payload passes exactly if
it is a `ValidFinalPayload`, and then the last line of its body is the marker with its hashes.
-/

namespace ReviewGraph

/-- The reason of a failed validation and its text. -/
abbrev PayloadFailure : Type := PayloadValidationReasonCode × Text

/-- `_pass`. -/
def payloadPass (payloadHash targetHash : Text) : Result (Checked PayloadValidationResult) :=
  construct {
    status := .pass
    payloadHash := some payloadHash
    targetHash := some targetHash
    reasonCode := none
    reason := none }

/-- `_fail`. -/
def payloadFail (failure : PayloadFailure) : Result (Checked PayloadValidationResult) :=
  construct {
    status := .fail
    payloadHash := none
    targetHash := none
    reasonCode := some failure.1
    reason := some failure.2 }

/-- `_body_final_line` of `payload_validation.py`. -/
def payloadFinalLine (body : Text) : Text :=
  let normalized := body.normalizeLineEndings
  let normalized := if normalized.getLast? = some '\n' then normalized.dropLast else normalized
  if normalized = [] then [] else (Text.lines normalized).getLastD []

/-- The last line of a body that is not empty, as the marker scan sees it. -/
lemma bodyFinalLine_eq_some {body : Text} (h : body ≠ []) :
    bodyFinalLine body = some (payloadFinalLine body) := by
  unfold bodyFinalLine payloadFinalLine
  rw [if_neg h]
  dsimp only
  have hlast : ∀ t : Text, (Text.lines t).getLast? = some ((Text.lines t).getLastD []) := by
    intro t
    rw [List.getLastD_eq_getLast?, List.getLast?_eq_some_getLast (Text.lines_ne_nil t)]
    rfl
  split_ifs
  · rfl
  · exact hlast _
  · rfl
  · exact hlast _

/-- `_validate_marker`. -/
def validateMarker (payload : FinalIssueCommentPayload) : Option PayloadFailure :=
  let finalLine := payloadFinalLine payload.body
  let markerLines := payload.body.normalizeLineEndings.lines.filter isExactReviewgraphV1MarkerLine
  if finalLine ≠ payload.markerLine ∨ isExactReviewgraphV1MarkerLine payload.markerLine = false then
    some (.markerNotFinalLine, "marker must be the final body line")
  else if markerLines ≠ [payload.markerLine] then
    some (.markerNotFinalLine, "marker must appear exactly once as final line")
  else
    match parseReviewgraphV1MarkerLine payload.markerLine with
    | none => some (.markerFieldMismatch, "marker line does not match v1 grammar")
    | some marker =>
      if marker.runId ≠ payload.markerRunId then
        some (.markerFieldMismatch, "marker run_id does not match payload")
      else if marker.target ≠ payload.markerTargetHash then
        some (.markerFieldMismatch, "marker target hash does not match payload")
      else if marker.payload ≠ payload.markerPayloadHash then
        some (.markerFieldMismatch, "marker payload hash does not match payload")
      else if marker.findings ≠ payload.markerFindingsHash then
        some (.markerFieldMismatch, "marker findings hash does not match payload")
      else if payload.markerPayloadHash ≠ markerPayloadHash payload.body then
        some (.bodyHashMismatch, "marker payload hash does not match visible body")
      else if payload.visibleBodyHash ≠ payload.markerPayloadHash then
        some (.bodyHashMismatch, "visible body hash must match marker payload hash")
      else none

/-- The checks of a final payload, in the order of the code. -/
def finalPayloadFailure (payload : FinalIssueCommentPayload) : Option PayloadFailure :=
  if payload.artifactKind ≠ .issueComment then
    some (.wrongArtifactKind, "final payload must be issue_comment")
  else if payload.redactionStatus.val.status ≠ .pass then
    some (.redactionNotPassed, "final payload redaction did not pass")
  else
    (validateMarker payload).or <|
      if payload.visibleBodyHash ≠ visibleBodyHash payload.body then
        some (.bodyHashMismatch, "final visible body hash does not match body")
      else
        match findingsHash payload.itemFingerprints with
        | .error _ =>
          some (.duplicateFingerprints, "final payload fingerprints contain duplicates")
        | .ok computed =>
          if payload.findingsHash ≠ computed ∨ payload.markerFindingsHash ≠ computed then
            some (.findingsHashMismatch, "final findings hash does not match fingerprints")
          else if payload.finalPayloadHash ≠ finalPayloadHash payload.body then
            some (.finalPayloadHashMismatch, "final payload hash does not match body")
          else if payload.markerTargetHash ≠ payload.reviewTarget.val.targetHash then
            some (.targetHashMismatch, "marker target hash does not match review target")
          else none

/-- `validate_final_issue_comment_payload`; `none` is an object of another type. -/
def validateFinalIssueCommentPayload (payload : Option (Checked FinalIssueCommentPayload)) :
    Result (Checked PayloadValidationResult) :=
  match payload with
  | none => payloadFail (.notFinalPayload, "payload is not a final issue comment")
  | some payload =>
    match finalPayloadFailure payload.val with
    | some failure => payloadFail failure
    | none => payloadPass payload.val.finalPayloadHash payload.val.reviewTarget.val.targetHash

/-! ## What validation establishes -/

/-- A final payload that passes validation. -/
structure ValidFinalPayload (p : FinalIssueCommentPayload) : Prop where
  /-- The redaction of the body passed. -/
  redaction : p.redactionStatus.val.status = .pass
  /-- The marker of the payload is well formed. -/
  wellFormed : (⟨p.markerRunId, p.markerTargetHash, p.markerPayloadHash, p.markerFindingsHash⟩ :
    MarkerFields).WellFormed
  /-- The marker line is the marker of the payload. -/
  markerLine : p.markerLine = (⟨p.markerRunId, p.markerTargetHash, p.markerPayloadHash,
    p.markerFindingsHash⟩ : MarkerFields).render
  /-- The marker is the last line of the body. -/
  finalLine : payloadFinalLine p.body = p.markerLine
  /-- No other line of the body is a marker. -/
  onlyMarker : p.body.normalizeLineEndings.lines.filter isExactReviewgraphV1MarkerLine =
    [p.markerLine]
  /-- The hash of the visible body is right. -/
  visibleBody : p.visibleBodyHash = visibleBodyHash p.body
  /-- The marker carries the hash of the visible body. -/
  markerPayload : p.markerPayloadHash = p.visibleBodyHash
  /-- The fingerprints are distinct. -/
  fingerprints : p.itemFingerprints.Nodup
  /-- The hash of the findings is right. -/
  findings : findingsHash p.itemFingerprints = .ok p.findingsHash
  /-- The marker carries the hash of the findings. -/
  markerFindings : p.markerFindingsHash = p.findingsHash
  /-- The hash of the payload is right. -/
  finalPayload : p.finalPayloadHash = finalPayloadHash p.body
  /-- The marker carries the hash of the target. -/
  markerTarget : p.markerTargetHash = p.reviewTarget.val.targetHash

/-- The marker of a final payload. -/
def FinalIssueCommentPayload.marker (p : FinalIssueCommentPayload) : MarkerFields :=
  ⟨p.markerRunId, p.markerTargetHash, p.markerPayloadHash, p.markerFindingsHash⟩

/-- When the check of the marker passes. -/
lemma validateMarker_eq_none_iff {p : FinalIssueCommentPayload} :
    validateMarker p = none ↔ p.marker.WellFormed ∧ p.markerLine = p.marker.render ∧
      payloadFinalLine p.body = p.markerLine ∧
      p.body.normalizeLineEndings.lines.filter isExactReviewgraphV1MarkerLine = [p.markerLine] ∧
      p.markerPayloadHash = visibleBodyHash p.body ∧ p.visibleBodyHash = p.markerPayloadHash := by
  unfold validateMarker
  dsimp only
  constructor
  · intro h
    split at h
    · contradiction
    rename_i hfinal
    split at h
    · contradiction
    rename_i honly
    split at h
    · contradiction
    rename_i m hm
    split_ifs at h with hrun htarget hpayload hfindings hbody hvisible
    push Not at hfinal honly hrun htarget hpayload hfindings hbody hvisible
    obtain ⟨hline, hwf⟩ := parse_eq_some_iff.1 hm
    have heq : m = p.marker := by
      obtain ⟨runId, target, payload, findings⟩ := m
      simp only at hrun htarget hpayload hfindings
      rw [hrun, htarget, hpayload, hfindings]
      rfl
    rw [heq] at hline hwf
    exact ⟨hwf, hline, hfinal.1, honly, hbody, hvisible⟩
  · rintro ⟨hwf, hline, hfinal, honly, hbody, hvisible⟩
    have hexact : isExactReviewgraphV1MarkerLine p.markerLine = true :=
        isExact_iff.2 ⟨_, hline, hwf⟩
    rw [if_neg (by simp [hfinal, hexact]), if_neg (by simp [honly]),
      parse_eq_some_iff.2 ⟨hline, hwf⟩]
    simp [FinalIssueCommentPayload.marker, ← hbody, hvisible, markerPayloadHash]

/-- A payload has no failure exactly if it is valid. -/
theorem finalPayloadFailure_eq_none_iff {p : FinalIssueCommentPayload} :
    finalPayloadFailure p = none ↔ ValidFinalPayload p := by
  have hkind : p.artifactKind = .issueComment := by cases p.artifactKind; rfl
  unfold finalPayloadFailure
  rw [if_neg (by simp [hkind])]
  constructor
  · intro h
    split at h
    · contradiction
    rename_i hredaction
    rw [Option.or_eq_none_iff, validateMarker_eq_none_iff] at h
    obtain ⟨⟨hwf, hline, hfinal, honly, hbody, hvisible⟩, h⟩ := h
    split at h
    · contradiction
    split at h
    · contradiction
    rename_i computed hcomputed
    split_ifs at h with hfindings hpayload htarget
    push Not at hredaction hfindings hpayload htarget
    have hnodup : p.itemFingerprints.Nodup := (findingsHash_eq_ok.1 hcomputed).1
    rw [← hfindings.1] at hcomputed
    exact ⟨hredaction, hwf, hline, hfinal, honly, hvisible.trans hbody, hvisible.symm, hnodup,
      hcomputed, hfindings.2.trans hfindings.1.symm, hpayload, htarget⟩
  · intro h
    have hmarker : validateMarker p = none :=
      validateMarker_eq_none_iff.2 ⟨h.wellFormed, h.markerLine, h.finalLine, h.onlyMarker,
        h.markerPayload.trans h.visibleBody, h.markerPayload.symm⟩
    rw [if_neg (by simp [h.redaction]), hmarker, Option.none_or, if_neg (by simp [← h.visibleBody]),
      h.findings]
    simp [h.markerFindings, ← h.finalPayload, h.markerTarget]

/-- Every failure has a reason. -/
lemma finalPayloadFailure_reason {p : FinalIssueCommentPayload} {failure : PayloadFailure}
    (h : finalPayloadFailure p = some failure) : failure.2 ≠ [] := by
  have hmarker : ∀ f, validateMarker p = some f → f.2 ≠ [] := by
    intro f hf
    unfold validateMarker at hf
    dsimp only at hf
    split at hf
    · obtain rfl := Option.some.inj hf
      simp
    split at hf
    · obtain rfl := Option.some.inj hf
      simp
    split at hf
    · obtain rfl := Option.some.inj hf
      simp
    · split_ifs at hf <;>
      · obtain rfl := Option.some.inj hf
        simp
  unfold finalPayloadFailure at h
  split at h
  · obtain rfl := Option.some.inj h
    simp
  split at h
  · obtain rfl := Option.some.inj h
    simp
  rcases Option.or_eq_some_iff.1 h with h | ⟨-, h⟩
  · exact hmarker _ h
  split at h
  · obtain rfl := Option.some.inj h
    simp
  split at h
  · obtain rfl := Option.some.inj h
    simp
  · split_ifs at h <;>
    · obtain rfl := Option.some.inj h
      simp

/-- A failure with a reason is always built. -/
lemma payloadFail_ok {failure : PayloadFailure} (h : failure.2 ≠ []) :
    ∃ r, payloadFail failure = .ok r ∧ r.val.status = .fail ∧
      r.val.reasonCode = some failure.1 := by
  refine ⟨⟨_, ?checks⟩, construct_of_postInit ?checks, rfl, rfl⟩
  case checks => simp [Record.postInit, h]

/-- Validation never raises, and passes exactly the valid payloads. -/
lemma validateFinalIssueCommentPayload_ok (p : Checked FinalIssueCommentPayload) :
    ∃ r, validateFinalIssueCommentPayload (some p) = .ok r ∧
      (r.val.status = .pass ↔ ValidFinalPayload p.val) ∧
      (r.val.status ≠ .pass → ∃ code, r.val.reasonCode = some code) := by
  unfold validateFinalIssueCommentPayload
  dsimp only
  cases hf : finalPayloadFailure p.val with
  | some failure =>
    obtain ⟨r, hr, hstatus, hcode⟩ := payloadFail_ok (finalPayloadFailure_reason hf)
    have hinvalid : ¬ ValidFinalPayload p.val := by
      rw [← finalPayloadFailure_eq_none_iff, hf]
      simp
    refine ⟨r, hr, ?_, fun _ => ⟨_, hcode⟩⟩
    rw [hstatus]
    simp [hinvalid]
  | none =>
    have hvalid : ValidFinalPayload p.val := finalPayloadFailure_eq_none_iff.1 hf
    have hpayload : hashPrefix <+: p.val.finalPayloadHash := by
      rw [hvalid.finalPayload]
      exact (isStrictSha256_sha256Text _).hashPrefix_accepted
    have htarget := p.val.reviewTarget.val.isStrictSha256_targetHash.hashPrefix_accepted
    refine ⟨⟨_, ?checks⟩, construct_of_postInit ?checks, ?_, ?_⟩
    case checks => simp [Record.postInit, hpayload, htarget]
    · simp [hvalid]
    · simp

end ReviewGraph
