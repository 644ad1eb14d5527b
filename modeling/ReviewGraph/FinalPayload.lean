import ReviewGraph.PayloadValidation
import ReviewGraph.Posting

/-!
# Final payloads

The builders of a final comment in `markers.py` and `final_payload.py`.  A final body is the
canonical visible body with a marker on its last line.  Such a payload passes validation exactly if
no line of the visible body is itself a marker, `validFinalPayload_iff`.
-/

namespace ReviewGraph

/-! ## The marker of a payload -/

/-- Hashes in their places determine the rest of a marker line. -/
lemma MarkerFields.wellFormed_of_isExact {m : MarkerFields} (htarget : IsStrictSha256 m.target)
    (hpayload : IsStrictSha256 m.payload) (hfindings : IsStrictSha256 m.findings)
    (h : isExactReviewgraphV1MarkerLine m.render = true) : m.WellFormed := by
  obtain ⟨m', heq, hm'⟩ := isExact_iff.1 h
  -- The hashes have the same length, so the run identifiers have too.
  have hlength : m.runId.length = m'.runId.length := by
    have hlen := congrArg List.length heq
    simp only [render, List.length_append, htarget.length_eq, hpayload.length_eq,
      hfindings.length_eq, hm'.target.length_eq, hm'.payload.length_eq,
      hm'.findings.length_eq] at hlen
    omega
  unfold render at heq
  have hrest := List.append_cancel_left heq
  have hrun : m.runId = m'.runId := (List.append_inj hrest hlength).1
  exact ⟨hrun ▸ hm'.runId, htarget, hpayload, hfindings⟩

/-- `build_reviewgraph_marker_line`. -/
def buildReviewgraphMarkerLine (runId : Text) (reviewTarget : ReviewTarget) (visibleBody : Text)
    (findingFingerprints : List Text) : Result Text := do
  let body := canonicalTextBody visibleBody
  let findings ← findingsHash findingFingerprints
  let markerLine :=
    (⟨runId, reviewTarget.targetHash, markerPayloadHash body, findings⟩ : MarkerFields).render
  if isExactReviewgraphV1MarkerLine markerLine = false then
    .error (.valueError "generated marker line is invalid")
  else .ok markerLine

/-- The marker of a visible body and its findings. -/
structure IsMarkerOf (m : MarkerFields) (runId : Text) (reviewTarget : ReviewTarget)
    (visibleBody : Text) (fingerprints : List Text) : Prop where
  /-- The fields are well formed. -/
  wellFormed : m.WellFormed
  /-- The marker carries the run. -/
  runId : m.runId = runId
  /-- The marker carries the hash of the target. -/
  target : m.target = reviewTarget.targetHash
  /-- The marker carries the hash of the visible body. -/
  payload : m.payload = visibleBodyHash visibleBody
  /-- The marker carries the hash of the findings. -/
  findings : findingsHash fingerprints = .ok m.findings

/-- A marker line is built exactly if the run identifier and the fingerprints admit one. -/
lemma buildReviewgraphMarkerLine_eq_ok {runId : Text} {reviewTarget : ReviewTarget}
    {visibleBody line : Text} {fingerprints : List Text} :
    buildReviewgraphMarkerLine runId reviewTarget visibleBody fingerprints = .ok line ↔
      ∃ m, IsMarkerOf m runId reviewTarget visibleBody fingerprints ∧ line = m.render := by
  have hpayload : markerPayloadHash (canonicalTextBody visibleBody) = visibleBodyHash
      visibleBody := by
    simp [markerPayloadHash, visibleBodyHash]
  unfold buildReviewgraphMarkerLine
  dsimp only
  rw [hpayload, bind_eq_ok]
  constructor
  · rintro ⟨findings, hfindings, h⟩
    split at h
    · contradiction
    rename_i hexact
    obtain rfl := Except.ok.inj h
    have hstrict : IsStrictSha256 findings := by
      obtain ⟨-, rfl⟩ := findingsHash_eq_ok.1 hfindings
      exact isStrictSha256_sha256Text _
    have hwf := MarkerFields.wellFormed_of_isExact reviewTarget.isStrictSha256_targetHash
      (isStrictSha256_sha256Text _) hstrict (Bool.not_eq_false _ ▸ hexact)
    exact ⟨_, ⟨hwf, rfl, rfl, rfl, hfindings⟩, rfl⟩
  · rintro ⟨⟨_, _, _, findings⟩, ⟨hwf, rfl, rfl, rfl, hfindings⟩, rfl⟩
    refine ⟨findings, hfindings, ?_⟩
    rw [if_neg (by simpa using isExact_iff.2 ⟨_, rfl, hwf⟩)]

/-! ## Building a final payload -/

/-- `build_final_issue_comment_payload`. -/
def buildFinalIssueCommentPayload (runId : Text) (reviewTarget : Checked ReviewTarget)
    (visibleBody : Text) (itemFingerprints : List Text)
    (redactionStatus : Checked RedactionStatus) :
    Result (Checked FinalIssueCommentPayload) := do
  let bodyWithoutMarker := canonicalTextBody visibleBody
  let fingerprints := Text.sorted itemFingerprints
  let markerLine ←
    buildReviewgraphMarkerLine runId reviewTarget.val bodyWithoutMarker fingerprints
  let body := bodyWithoutMarker ++ (markerLine ++ ['\n'])
  let selectedFindingsHash ← findingsHash fingerprints
  let selectedMarkerPayloadHash := markerPayloadHash bodyWithoutMarker
  construct {
    artifactKind := .issueComment
    reviewTarget
    body
    markerLine
    markerRunId := runId
    markerTargetHash := reviewTarget.val.targetHash
    markerPayloadHash := selectedMarkerPayloadHash
    markerFindingsHash := selectedFindingsHash
    visibleBodyHash := visibleBodyHash body
    finalPayloadHash := finalPayloadHash body
    findingsHash := selectedFindingsHash
    itemFingerprints := fingerprints
    redactionStatus }

/-- The payload of a visible body with a marker. -/
def payloadWithMarker (m : MarkerFields) (reviewTarget : Checked ReviewTarget) (visibleBody : Text)
    (itemFingerprints : List Text) (redactionStatus : Checked RedactionStatus) :
    FinalIssueCommentPayload where
  artifactKind := .issueComment
  reviewTarget := reviewTarget
  body := bodyWithLine visibleBody m.render
  markerLine := m.render
  markerRunId := m.runId
  markerTargetHash := m.target
  markerPayloadHash := m.payload
  markerFindingsHash := m.findings
  visibleBodyHash := sha256Text (canonicalTextBody visibleBody)
  finalPayloadHash := sha256Text (bodyWithLine visibleBody m.render)
  findingsHash := m.findings
  itemFingerprints := Text.sorted itemFingerprints
  redactionStatus := redactionStatus

section Payload

variable {runId visibleBody : Text} {reviewTarget : Checked ReviewTarget} {fingerprints : List Text}
  {redactionStatus : Checked RedactionStatus} {p : Checked FinalIssueCommentPayload}

/-- The payload with the marker of its body is complete. -/
lemma payloadWithMarker_postInit {m : MarkerFields}
    (hm : IsMarkerOf m runId reviewTarget.val visibleBody fingerprints)
    (hne : ∀ fp ∈ fingerprints, fp ≠ []) :
    Record.postInit (payloadWithMarker m reviewTarget visibleBody fingerprints redactionStatus) =
      .ok () := by
  have hrun : m.runId ≠ [] := by
    intro h
    have hrun := hm.wellFormed.runId
    rw [h] at hrun
    exact absurd hrun (by decide)
  have hhash : ∀ t, hashPrefix <+: sha256Text t := fun t =>
    (isStrictSha256_sha256Text t).hashPrefix_accepted
  refine FinalIssueCommentPayload.postInit_eq_ok.2 ⟨?_, m.render_ne_nil, hrun,
    hm.wellFormed.target.hashPrefix_accepted, hm.wellFormed.payload.hashPrefix_accepted,
    hm.wellFormed.findings.hashPrefix_accepted, hhash _, hhash _,
    hm.wellFormed.findings.hashPrefix_accepted, ?_⟩
  · simp [payloadWithMarker, bodyWithLine]
  · intro fp hfp
    exact hne fp (Text.mem_sorted.1 hfp)

/-- A final payload is built exactly if the run identifier and the fingerprints admit a marker, and
it is then the payload with that marker. -/
theorem buildFinalIssueCommentPayload_eq_ok :
    buildFinalIssueCommentPayload runId reviewTarget visibleBody fingerprints redactionStatus =
        .ok p ↔
      ∃ m, IsMarkerOf m runId reviewTarget.val visibleBody fingerprints ∧
        (∀ fp ∈ fingerprints, fp ≠ []) ∧
        p.val = payloadWithMarker m reviewTarget visibleBody fingerprints redactionStatus := by
  have hsorted : findingsHash (Text.sorted fingerprints) = findingsHash fingerprints :=
    findingsHash_perm (Text.sorted_perm fingerprints)
  have hpayload : markerPayloadHash (canonicalTextBody visibleBody) = visibleBodyHash
      visibleBody := by
    simp [markerPayloadHash, visibleBodyHash]
  have hmarker : ∀ m, IsMarkerOf m runId reviewTarget.val (canonicalTextBody visibleBody)
      (Text.sorted fingerprints) ↔ IsMarkerOf m runId reviewTarget.val visibleBody
        fingerprints := by
    intro m
    constructor
    · rintro ⟨hwf, hrun, htarget, hbody, hfindings⟩
      exact ⟨hwf, hrun, htarget, by simpa [visibleBodyHash] using hbody, hsorted ▸ hfindings⟩
    · rintro ⟨hwf, hrun, htarget, hbody, hfindings⟩
      exact ⟨hwf, hrun, htarget, by simpa [visibleBodyHash] using hbody, hsorted ▸ hfindings⟩
  have hfields : ∀ m, IsMarkerOf m runId reviewTarget.val visibleBody fingerprints →
      payloadWithMarker m reviewTarget visibleBody fingerprints redactionStatus = {
        artifactKind := .issueComment
        reviewTarget
        body := canonicalTextBody visibleBody ++ (m.render ++ ['\n'])
        markerLine := m.render
        markerRunId := runId
        markerTargetHash := reviewTarget.val.targetHash
        markerPayloadHash := visibleBodyHash visibleBody
        markerFindingsHash := m.findings
        visibleBodyHash := visibleBodyHash (canonicalTextBody visibleBody ++ (m.render ++ ['\n']))
        finalPayloadHash := finalPayloadHash (canonicalTextBody visibleBody ++ (m.render ++ ['\n']))
        findingsHash := m.findings
        itemFingerprints := Text.sorted fingerprints
        redactionStatus } := by
    intro m hm
    have hvisible : canonicalVisibleBody (bodyWithLine visibleBody m.render) = _ :=
      canonicalVisibleBody_bodyWithLine hm.wellFormed
    have hcanonical : canonicalTextBody (bodyWithLine visibleBody m.render) = _ :=
      canonicalTextBody_bodyWithLine hm.wellFormed.isFinalLine
    have hbody : canonicalTextBody visibleBody ++ (m.render ++ ['\n']) =
      bodyWithLine visibleBody m.render := rfl
    rw [hbody]
    unfold payloadWithMarker visibleBodyHash finalPayloadHash
    rw [hvisible, hcanonical, ← hm.runId, ← hm.target]
    simp only [hm.payload, visibleBodyHash]
  unfold buildFinalIssueCommentPayload
  dsimp only
  simp only [bind_eq_ok, buildReviewgraphMarkerLine_eq_ok, hmarker, hsorted, hpayload,
    construct_eq_ok]
  constructor
  · rintro ⟨_, ⟨m, hm, rfl⟩, findings, hfindings, hp⟩
    obtain rfl : m.findings = findings := Except.ok.inj (hm.findings.symm.trans hfindings)
    have hval := hp.trans (hfields m hm).symm
    have hne := (FinalIssueCommentPayload.postInit_eq_ok.1 p.property).2.2.2.2.2.2.2.2.2
    rw [hval] at hne
    refine ⟨m, hm, fun fp hfp => hne fp ?_, hval⟩
    exact Text.mem_sorted.2 hfp
  · rintro ⟨m, hm, -, hp⟩
    exact ⟨_, ⟨m, hm, rfl⟩, _, hm.findings, hp.trans (hfields m hm)⟩

/-- A built payload passes validation exactly if its redaction passed and its visible body contains
no marker. -/
theorem validFinalPayload_iff {m : MarkerFields}
    (hm : IsMarkerOf m runId reviewTarget.val visibleBody fingerprints) :
    ValidFinalPayload (payloadWithMarker m reviewTarget visibleBody fingerprints redactionStatus) ↔
      redactionStatus.val.status = .pass ∧
        ∀ line ∈ (canonicalTextBody visibleBody).lines,
          isExactReviewgraphV1MarkerLine line = false := by
  have hline := hm.wellFormed.isFinalLine
  have hexact : isExactReviewgraphV1MarkerLine m.render = true :=
    isExact_iff.2 ⟨m, rfl, hm.wellFormed⟩
  have hempty : isExactReviewgraphV1MarkerLine [] = false := by
    rw [← Bool.not_eq_true, isExact_iff]
    rintro ⟨m', heq, -⟩
    exact m'.render_ne_nil heq.symm
  -- The lines of the body are those of the canonical visible body, with the marker before the last.
  have htext : (canonicalTextBody visibleBody).lines =
      visibleBody.normalizeLineEndings.rstripNewlines.lines ++ [[]] := by
    unfold canonicalTextBody
    rw [Text.lines_append_newline]
    rfl
  have hlines : (bodyWithLine visibleBody m.render).normalizeLineEndings.lines =
      visibleBody.normalizeLineEndings.rstripNewlines.lines ++ [m.render, []] := by
    rw [normalizeLineEndings_bodyWithLine hline, lines_bodyWithLine hline]
  have hfinal : payloadFinalLine (bodyWithLine visibleBody m.render) = m.render := by
    have hbody : bodyWithLine visibleBody m.render =
        visibleBody.normalizeLineEndings.rstripNewlines ++ '\n' :: m.render ++ ['\n'] := by
      simp [bodyWithLine, canonicalTextBody]
    have hlast : (bodyWithLine visibleBody m.render).getLast? = some '\n' := by
      rw [hbody, List.getLast?_concat]
    have hinit : (bodyWithLine visibleBody m.render).dropLast =
        visibleBody.normalizeLineEndings.rstripNewlines ++ '\n' :: m.render := by
      rw [hbody, List.dropLast_concat]
    unfold payloadFinalLine
    dsimp only
    rw [normalizeLineEndings_bodyWithLine hline, if_pos hlast, hinit, if_neg (by simp),
      Text.lines_append_newline, Text.lines_of_not_mem hline.newline]
    simp
  constructor
  · intro h
    refine ⟨h.redaction, fun line hmem => ?_⟩
    have honly := h.onlyMarker
    simp only [payloadWithMarker, hlines, List.filter_append, List.filter_cons, hexact, hempty,
      if_true, List.filter_nil, Bool.false_eq_true, if_false] at honly
    have hnone := List.append_left_eq_self.1 honly
    rw [htext] at hmem
    rcases List.mem_append.1 hmem with hmem | hmem
    · exact Bool.not_eq_true _ ▸ List.filter_eq_nil_iff.1 hnone line hmem
    · rw [List.mem_singleton.1 hmem]
      exact hempty
  · rintro ⟨hpass, hnone⟩
    have hvisible : canonicalVisibleBody visibleBody = canonicalTextBody visibleBody :=
      canonicalVisibleBody_of_no_marker hnone
    refine ⟨hpass, hm.wellFormed, rfl, hfinal, ?_, ?_, ?_, ?_, ?_, rfl, ?_, hm.target⟩
    · have habove : visibleBody.normalizeLineEndings.rstripNewlines.lines.filter
          isExactReviewgraphV1MarkerLine = [] := by
        rw [List.filter_eq_nil_iff]
        intro line hmem
        rw [hnone line (htext ▸ List.mem_append_left _ hmem)]
        simp
      simp only [payloadWithMarker, hlines, List.filter_append, habove, List.filter_cons, hexact,
        hempty, if_true, List.filter_nil, List.nil_append, Bool.false_eq_true, if_false]
    · simp only [payloadWithMarker, visibleBodyHash,
        canonicalVisibleBody_bodyWithLine hm.wellFormed]
    · simp only [payloadWithMarker, hm.payload, visibleBodyHash, hvisible]
    · exact Text.nodup_sorted.2 (findingsHash_eq_ok.1 hm.findings).1
    · exact (findingsHash_perm (Text.sorted_perm fingerprints)).trans hm.findings
    · simp only [payloadWithMarker, finalPayloadHash, canonicalTextBody_bodyWithLine hline]

end Payload

/-! ## The approved comment -/

/-- `ApprovedFinalIssueCommentBuild`. -/
structure ApprovedFinalIssueCommentBuild where
  visibleBody : Text
  visibleBodyHash : Text
  payload : Checked FinalIssueCommentPayload
  redactionStatus : Checked RedactionStatus
  deriving DecidableEq

/-- What is approved: the target, the findings of the approved items, and the verdict. -/
structure ApprovedContent where
  reviewTarget : Checked ReviewTarget
  findings : List (Checked ClassifiedFinding)
  localVerdict : Option ReviewVerdict
  includePublicVerdict : Bool
  deriving DecidableEq

namespace ApprovedContent

/-- `_approved_visible_body`. -/
def rawVisibleBody (content : ApprovedContent) : Text :=
  (Text.unlines (targetLines "ReviewGraph approved findings" content.reviewTarget.val ++
    verdictLines content.localVerdict content.includePublicVerdict ++
      ("Approved findings:" : Text) :: content.findings.map fun f =>
        findingLine f.val)).rstripNewlines
    ++ ['\n']

/-- The visible body after redaction. -/
def visibleBody (content : ApprovedContent) : Text :=
  (redactText content.rawVisibleBody).text.rstripNewlines ++ ['\n']

/-- The fingerprints of the approved findings. -/
def fingerprints (content : ApprovedContent) : List Text :=
  content.findings.map fun f => f.val.fingerprint

/-- The payload of approved content. -/
def build (content : ApprovedContent) (runId : Text) : Result ApprovedFinalIssueCommentBuild := do
  let redactionStatus ← redactionStatusOf (redactText content.rawVisibleBody)
  let payload ← buildFinalIssueCommentPayload runId content.reviewTarget content.visibleBody
    content.fingerprints redactionStatus
  return {
    visibleBody := content.visibleBody
    visibleBodyHash := ReviewGraph.visibleBodyHash content.visibleBody
    payload
    redactionStatus }

end ApprovedContent

/-- The findings of the selected items. -/
def selectedFindings (findingsById : Text → Option (Checked ClassifiedFinding))
    (selectedItems : List (Checked PostingPlanItem)) : Result (List (Checked ClassifiedFinding)) :=
  selectedItems.mapM fun item =>
    match findingsById item.val.id with
    | some finding => .ok finding
    | none => .error (.keyError item.val.id)

/-- `build_approved_final_issue_comment`. -/
def buildApprovedFinalIssueComment (runId : Text) (reviewTarget : Checked ReviewTarget)
    (findingsById : Text → Option (Checked ClassifiedFinding))
    (selectedItems : List (Checked PostingPlanItem)) (localVerdict : Option ReviewVerdict)
    (includePublicVerdict : Bool) : Result ApprovedFinalIssueCommentBuild := do
  let findings ← selectedFindings findingsById selectedItems
  ApprovedContent.build ⟨reviewTarget, findings, localVerdict, includePublicVerdict⟩ runId

/-- The redaction status of a redaction is complete and passes. -/
lemma redactionStatusOf_ok (redaction : RedactionResult) :
    ∃ status, redactionStatusOf redaction = .ok status ∧ status.val = {
      redacted := redaction.redacted
      replacementCount := redaction.replacementCount
      categories := redaction.categories.map RedactionCategory.value
      status := .pass } := by
  have hchecks : Record.postInit ({
      redacted := redaction.redacted
      replacementCount := redaction.replacementCount
      categories := redaction.categories.map RedactionCategory.value
      status := .pass } : RedactionStatus) = .ok () := by
    simp only [Record.postInit, check_bind_eq_ok, require_eq_ok, requireStringTuple_eq_ok, true_or,
      and_true]
    refine ⟨by positivity, ?_, fun h => ?_⟩
    · intro item hitem
      obtain ⟨category, -, rfl⟩ := List.mem_map.1 hitem
      cases category <;> simp [RedactionCategory.value]
    · have hpos := of_decide_eq_true h
      exact_mod_cast hpos
  exact ⟨⟨_, hchecks⟩, construct_of_postInit hchecks, rfl⟩

/-- What is built for approved content: the payload with a marker of the content. -/
theorem ApprovedContent.build_eq_ok {content : ApprovedContent} {runId : Text}
    {b : ApprovedFinalIssueCommentBuild} (h : content.build runId = .ok b) :
    b.visibleBody = content.visibleBody ∧
      b.visibleBodyHash = ReviewGraph.visibleBodyHash content.visibleBody ∧
      b.redactionStatus.val.status = .pass ∧
      ∃ m, IsMarkerOf m runId content.reviewTarget.val content.visibleBody content.fingerprints ∧
        b.payload.val = payloadWithMarker m content.reviewTarget content.visibleBody
          content.fingerprints b.redactionStatus := by
  obtain ⟨status, hstatus, h⟩ := bind_eq_ok.1 h
  obtain ⟨payload, hpayload, h⟩ := bind_eq_ok.1 h
  obtain rfl := pure_eq_ok.1 h
  obtain ⟨m, hm, -, hval⟩ := buildFinalIssueCommentPayload_eq_ok.1 hpayload
  obtain ⟨status', hok, hstatus'⟩ := redactionStatusOf_ok (redactText content.rawVisibleBody)
  obtain rfl : status = status' := Except.ok.inj (hstatus.symm.trans hok)
  exact ⟨rfl, rfl, by rw [hstatus'], m, hm, hval⟩

/-- Approved content is built if the run identifier is valid and no fingerprint occurs twice. -/
theorem ApprovedContent.exists_build {content : ApprovedContent} {runId : Text}
    (hrun : isRunId runId = true) (hnodup : content.fingerprints.Nodup) :
    ∃ b, content.build runId = .ok b := by
  obtain ⟨status, hstatus, -⟩ := redactionStatusOf_ok (redactText content.rawVisibleBody)
  obtain ⟨findings, hfindings, hstrict⟩ : ∃ findings,
      findingsHash content.fingerprints = .ok findings ∧ IsStrictSha256 findings :=
    ⟨_, findingsHash_eq_ok.2 ⟨hnodup, rfl⟩, isStrictSha256_sha256Text _⟩
  let m : MarkerFields := ⟨runId, content.reviewTarget.val.targetHash,
    ReviewGraph.visibleBodyHash content.visibleBody, findings⟩
  have hm : IsMarkerOf m runId content.reviewTarget.val content.visibleBody content.fingerprints :=
    ⟨⟨hrun, content.reviewTarget.val.isStrictSha256_targetHash, isStrictSha256_sha256Text _,
      hstrict⟩, rfl, rfl, rfl, hfindings⟩
  have hne : ∀ fp ∈ content.fingerprints, fp ≠ [] := by
    intro fp hfp
    obtain ⟨f, -, rfl⟩ := List.mem_map.1 hfp
    exact (ClassifiedFinding.postInit_eq_ok.1 f.property).2.2.2.2.2.2.2.2.2.1
  have hchecks : Record.postInit (payloadWithMarker m content.reviewTarget content.visibleBody
    content.fingerprints status) = .ok () := payloadWithMarker_postInit hm hne
  have hpayload := buildFinalIssueCommentPayload_eq_ok (p := ⟨_, hchecks⟩).2 ⟨m, hm, hne, rfl⟩
  exact ⟨_, bind_eq_ok.2 ⟨status, hstatus, bind_eq_ok.2 ⟨_, hpayload, rfl⟩⟩⟩

/-- Building depends on the dictionary of findings through the selected items only. -/
lemma buildApprovedFinalIssueComment_eq_build {runId : Text} {reviewTarget : Checked ReviewTarget}
    {findingsById : Text → Option (Checked ClassifiedFinding)}
    {selectedItems : List (Checked PostingPlanItem)} {findings : List (Checked ClassifiedFinding)}
    {localVerdict : Option ReviewVerdict} {includePublicVerdict : Bool}
    (h : selectedFindings findingsById selectedItems = .ok findings) :
    buildApprovedFinalIssueComment runId reviewTarget findingsById selectedItems localVerdict
        includePublicVerdict =
      ApprovedContent.build ⟨reviewTarget, findings, localVerdict, includePublicVerdict⟩ runId := by
  unfold buildApprovedFinalIssueComment
  rw [h, ok_bind]

end ReviewGraph
