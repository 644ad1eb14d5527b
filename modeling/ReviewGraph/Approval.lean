import ReviewGraph.CandidateValidation
import ReviewGraph.FinalPayload
import ReviewGraph.Foundation.Double
import ReviewGraph.Models.Gates

/-!
# Approval

`approval.py`: the proof that approved items form a definite final payload, and the decision that
binds such a proof to a permission of an actor.  `buildApprovalProof_pass_iff` says exactly when a
proof passes and what it then contains.
-/

namespace ReviewGraph

/-! ## The approval proof -/

/-- The reason of a failed approval proof and its text. -/
abbrev ApprovalFailure : Type := ApprovalProofReasonCode × Text

/-- `_fail` of `approval.py`. -/
def approvalFail (failure : ApprovalFailure) : Result (Checked ApprovalProofResult) :=
  construct {
    status := .fail
    approvedItemIds := []
    approvedReviewTarget := none
    approvedReviewTargetHash := none
    approvedFinalPayloadHash := none
    finalVisibleBodyHash := none
    markerPayloadHash := none
    findingsHash := none
    markerLine := none
    finalRedactionStatus := none
    includePublicVerdict := false
    approvedBy := none
    timestamp := none
    reasonCode := some failure.1
    reason := some failure.2 }

/-- A hash of zeros. -/
def zeroHash : Text := hashPrefix ++ List.replicate 64 '0'

/-- `_is_valid_run_id`. -/
def isValidRunId (runId : Text) : Bool :=
  isExactReviewgraphV1MarkerLine (⟨runId, zeroHash, zeroHash, zeroHash⟩ : MarkerFields).render

/-- The run identifiers that fit into a marker. -/
lemma isValidRunId_eq (runId : Text) : isValidRunId runId = isRunId runId := by
  have hzero : IsStrictSha256 zeroHash :=
    ⟨_, rfl, List.length_replicate, fun c hc => by
      rw [List.eq_of_mem_replicate hc]
      decide⟩
  rw [Bool.eq_iff_iff]
  constructor
  · intro h
    exact (MarkerFields.wellFormed_of_isExact hzero hzero hzero h).runId
  · intro h
    exact isExact_iff.2 ⟨_, rfl, h, hzero, hzero, hzero⟩

/-- The arguments of `build_approval_proof`. -/
structure ApprovalRequest where
  approvedItemIds : List Text
  reviewTarget : Checked ReviewTarget
  postingPlan : Checked PostingPlan
  findings : List (Checked ClassifiedFinding)
  candidatePayload : Checked CandidateIssueCommentPayload
  runId : Text
  approvedBy : Text
  timestamp : Text
  localVerdict : Option ReviewVerdict
  includePublicVerdict : Bool
  deriving DecidableEq

namespace ApprovalRequest

/-- The items of the plan that are approved, in the order of the plan. -/
def selectedItems (request : ApprovalRequest) : List (Checked PostingPlanItem) :=
  request.postingPlan.val.items.filter fun item => item.val.id ∈ request.approvedItemIds

/-- The finding of an approved item, or the reason why it cannot be approved. -/
def approvedFinding (request : ApprovalRequest) (item : PostingPlanItem) :
    Except ApprovalFailure (Checked ClassifiedFinding) :=
  if item.id ∉ request.postingPlan.val.publicPayloadItems.map fun i => i.val.id then
    .error (.nonPublicDestination, "approved item is not public: " ++ item.id)
  else if item.destination ≠ .reviewBodyItem then
    .error (.nonPublicDestination, "approved item is not review_body_item: " ++ item.id)
  else if item.sourceClassification ≠ OutputClassification.postableFinding.value then
    .error (.nonPublicDestination, "approved item is not a postable finding: " ++ item.id)
  else
    match findingById request.findings item.id with
    | none => .error (.unknownApprovedId, "approved item has no current finding: " ++ item.id)
    | some finding =>
      if item.fingerprint ≠ some finding.val.fingerprint then
        .error (.unknownApprovedId, "approved item has no current finding: " ++ item.id)
      else .ok finding

/-- The checks of the request up to the candidate payload; they yield the approved findings. -/
def approvedFindings (request : ApprovalRequest) :
    Except ApprovalFailure (List (Checked ClassifiedFinding)) :=
  if isValidRunId request.runId = false then
    .error (.invalidRunId, "approval proof run_id does not match marker grammar")
  else if request.includePublicVerdict = true ∧ request.localVerdict = some .requestChanges then
    .error (.requestChangesPublicTextDeferred, "public request_changes text is deferred")
  else if request.postingPlan.val.items.any (fun i => i.val.destination = .topLevelSummaryItem) then
    .error (.summaryItemDeferred, "summary item approval is deferred")
  else if request.approvedItemIds = [] then
    .error (.emptyApproval, "approved approval proof requires approved item ids")
  else if ¬ request.approvedItemIds.Nodup then
    .error (.duplicateApprovedFingerprint, "duplicate approved item ids")
  else
    match request.approvedItemIds.find? (· ∉ request.postingPlan.val.itemIds) with
    | some id => .error (.unknownApprovedId, "unknown approved item id: " ++ id)
    | none =>
      match request.selectedItems.mapM fun item => request.approvedFinding item.val with
      | .error failure => .error failure
      | .ok findings =>
        if ¬ (findings.map fun f => f.val.fingerprint).Nodup then
          .error (.duplicateApprovedFingerprint, "duplicate approved fingerprints")
        else .ok findings

/-- The proof of a request whose final payload is built. -/
def passedProof (request : ApprovalRequest) (b : ApprovedFinalIssueCommentBuild) :
    ApprovalProofResult where
  status := .pass
  approvedItemIds := request.selectedItems.map fun i => i.val.id
  approvedReviewTarget := some request.reviewTarget
  approvedReviewTargetHash := some request.reviewTarget.val.targetHash
  approvedFinalPayloadHash := some b.payload.val.finalPayloadHash
  finalVisibleBodyHash := some b.visibleBodyHash
  markerPayloadHash := some b.payload.val.markerPayloadHash
  findingsHash := some b.payload.val.findingsHash
  markerLine := some b.payload.val.markerLine
  finalRedactionStatus := some b.redactionStatus
  includePublicVerdict := request.includePublicVerdict
  approvedBy := some request.approvedBy
  timestamp := some request.timestamp
  reasonCode := none
  reason := none

end ApprovalRequest

/-- `build_approval_proof`. -/
def buildApprovalProof (request : ApprovalRequest) : Result (Checked ApprovalProofResult) :=
  match request.approvedFindings with
  | .error failure => approvalFail failure
  | .ok _ => do
    let candidateValidation ← validateCandidateIssueCommentPayload (some request.candidatePayload)
      request.reviewTarget request.postingPlan request.findings request.localVerdict
      request.includePublicVerdict
    if candidateValidation.val.status ≠ .pass then
      approvalFail (.candidateBindingMismatch,
        candidateValidation.val.reason.getD "candidate binding failed")
    else do
      let finalBuild ← buildApprovedFinalIssueComment request.runId request.reviewTarget
        (findingById request.findings) request.selectedItems request.localVerdict
        request.includePublicVerdict
      if finalBuild.redactionStatus.val.status ≠ .pass then
        approvalFail (.finalRedactionFailed, "final redaction did not pass")
      else if isExactReviewgraphV1MarkerLine finalBuild.payload.val.markerLine = false then
        approvalFail (.invalidRunId, "generated marker line is invalid")
      else
        construct (request.passedProof finalBuild)

/-! ## When a proof passes -/

namespace ApprovalRequest

/-- The content that is approved with some findings. -/
def content (request : ApprovalRequest) (findings : List (Checked ClassifiedFinding)) :
    ApprovedContent :=
  ⟨request.reviewTarget, findings, request.localVerdict, request.includePublicVerdict⟩

/-- What the checks of an approved item establish about it and its finding. -/
structure IsApproved (item : PostingPlanItem) (finding : ClassifiedFinding) : Prop where
  /-- The finding has the identifier of the item. -/
  id : finding.id = item.id
  /-- The item is published. -/
  destination : item.destination = .reviewBodyItem
  /-- The item is a finding. -/
  classification : item.sourceClassification = OutputClassification.postableFinding.value
  /-- The item carries the fingerprint of the finding. -/
  fingerprint : item.fingerprint = some finding.fingerprint

/-- The checks of the request, as far as the findings are concerned. -/
structure Selects (request : ApprovalRequest) (findings : List (Checked ClassifiedFinding)) :
    Prop where
  /-- The run identifier fits into a marker. -/
  runId : isRunId request.runId = true
  /-- Something is approved. -/
  approvedItemIds : request.approvedItemIds ≠ []
  /-- Nothing is approved twice. -/
  nodup : request.approvedItemIds.Nodup
  /-- Every approved item is in the plan. -/
  subset : ∀ id ∈ request.approvedItemIds, id ∈ request.postingPlan.val.itemIds
  /-- The selected items have findings. -/
  selected : selectedFindings (findingById request.findings) request.selectedItems = .ok findings
  /-- The selected items are approved with their findings. -/
  approved : List.Forall₂ (fun (i : Checked PostingPlanItem) (f : Checked ClassifiedFinding) =>
    IsApproved i.val f.val) request.selectedItems findings
  /-- The fingerprints are distinct. -/
  fingerprints : (findings.map fun f => f.val.fingerprint).Nodup

/-- The finding of an approved item. -/
lemma approvedFinding_eq_ok {request : ApprovalRequest} {item : PostingPlanItem}
    {finding : Checked ClassifiedFinding} (h : request.approvedFinding item = .ok finding) :
    findingById request.findings item.id = some finding ∧ IsApproved item finding.val := by
  unfold approvedFinding at h
  split at h
  · contradiction
  split at h
  · contradiction
  rename_i hdestination
  split at h
  · contradiction
  rename_i hclassification
  split at h
  · contradiction
  rename_i finding' hfinding
  split at h
  · contradiction
  rename_i hfingerprint
  rw [not_not] at hdestination hclassification hfingerprint
  obtain rfl := Except.ok.inj h
  exact ⟨hfinding, (findingById_eq_some hfinding).2, hdestination, hclassification, hfingerprint⟩

/-- What the checks of the request establish. -/
lemma approvedFindings_selects {request : ApprovalRequest}
    {findings : List (Checked ClassifiedFinding)} (h : request.approvedFindings = .ok findings) :
    request.Selects findings := by
  unfold approvedFindings at h
  split at h
  · contradiction
  rename_i hrun
  split at h
  · contradiction
  split at h
  · contradiction
  split at h
  · contradiction
  rename_i hids
  split at h
  · contradiction
  rename_i hnodup
  split at h
  · contradiction
  rename_i hknown
  split at h
  · contradiction
  rename_i findings' hmap
  split at h
  · contradiction
  rename_i hfingerprints
  rw [not_not] at hnodup hfingerprints
  obtain rfl := Except.ok.inj h
  have hall := mapM_eq_ok.1 hmap
  constructor
  · rw [← isValidRunId_eq]
    simpa using hrun
  · exact hids
  · exact hnodup
  · intro id hid
    have hmem := List.find?_eq_none.1 hknown id hid
    simpa using hmem
  · refine mapM_eq_ok.2 (hall.imp fun item finding hitem => ?_)
    rw [(approvedFinding_eq_ok hitem).1]
  · exact hall.imp fun item finding hitem => (approvedFinding_eq_ok hitem).2
  · exact hfingerprints

/-- A request that passes, with its findings and its final payload. -/
structure Passes (request : ApprovalRequest) (findings : List (Checked ClassifiedFinding))
    (b : ApprovedFinalIssueCommentBuild) : Prop where
  /-- The approved findings pass their checks. -/
  approvedFindings : request.approvedFindings = .ok findings
  /-- The candidate payload is the one of the plan. -/
  candidate : buildCandidateIssueCommentPayload request.reviewTarget request.postingPlan
    request.findings request.localVerdict request.includePublicVerdict
    ArtifactKind.issueComment.value = .ok request.candidatePayload
  /-- The candidate payload contains no marker. -/
  noMarker : containsMarkerLine request.candidatePayload.val.body = false
  /-- The final payload is built from the approved content. -/
  build : (request.content findings).build request.runId = .ok b
  /-- Somebody approves. -/
  approvedBy : request.approvedBy ≠ []
  /-- The approval has a time. -/
  timestamp : request.timestamp ≠ []

/-- The passed proof of a request is complete. -/
lemma Passes.postInit {request : ApprovalRequest} {findings : List (Checked ClassifiedFinding)}
    {b : ApprovedFinalIssueCommentBuild} (h : request.Passes findings b) :
    Record.postInit (request.passedProof b) = .ok () := by
  obtain ⟨-, hvisible, hstatus, m, hm, hpayload⟩ := ApprovedContent.build_eq_ok h.build
  have hselects := approvedFindings_selects h.approvedFindings
  have hids : request.selectedItems.map (fun i => i.val.id) ≠ [] := by
    obtain ⟨id, hid⟩ := List.exists_mem_of_ne_nil _ hselects.approvedItemIds
    obtain ⟨item, hitem, rfl⟩ := List.mem_map.1 (hselects.subset id hid)
    have hmem : item ∈ request.selectedItems := by
      simp [selectedItems, hitem, hid]
    exact List.ne_nil_of_mem (List.mem_map_of_mem hmem)
  have hne : ∀ id ∈ request.selectedItems.map (fun i => i.val.id), id ≠ [] := by
    intro id hid
    obtain ⟨item, -, rfl⟩ := List.mem_map.1 hid
    have hitem := item.property
    simp only [Record.postInit, check_bind_eq_ok, requireNonEmpty_eq_ok] at hitem
    exact hitem.1
  have htarget := request.reviewTarget.val.isStrictSha256_targetHash
  have hparse : parseReviewgraphV1MarkerLine m.render = some m :=
    parse_eq_some_iff.2 ⟨rfl, hm.wellFormed⟩
  have hhash : ∀ t, IsStrictSha256 (sha256Text t) := isStrictSha256_sha256Text
  have hmp := hm.wellFormed.payload
  have hmf := hm.wellFormed.findings
  have hmt : m.target = request.reviewTarget.val.targetHash := hm.target
  have hbody : b.visibleBodyHash = m.payload := hvisible.trans hm.payload.symm
  generalize hselected : request.selectedItems.map (fun i => i.val.id) = ids at hids hne
  simp only [Record.postInit, passedProof, hselected, hpayload, payloadWithMarker, hbody,
    ApprovalProofResult.validatePass, ApprovalProofResult.proofFields, Option.bind_some, hparse]
  simp [hids, h.approvedBy, h.timestamp, htarget, htarget.hashPrefix_accepted, hhash,
    (hhash _).hashPrefix_accepted, hmp, hmp.hashPrefix_accepted, hmf, hmf.hashPrefix_accepted,
    m.render_ne_nil, hstatus, hmt]
  exact hne

end ApprovalRequest

/-- A request that passes yields the proof of its final payload. -/
theorem buildApprovalProof_of_passes {request : ApprovalRequest}
    {findings : List (Checked ClassifiedFinding)} {b : ApprovedFinalIssueCommentBuild}
    (h : request.Passes findings b) :
    ∃ proof, buildApprovalProof request = .ok proof ∧ proof.val = request.passedProof b := by
  obtain ⟨r, hvalidate, hpass⟩ :=
    validateCandidateIssueCommentPayload_of_build h.candidate h.noMarker
  obtain ⟨-, -, hstatus, m, hm, hpayload⟩ := ApprovedContent.build_eq_ok h.build
  have hselects := ApprovalRequest.approvedFindings_selects h.approvedFindings
  have hbuild := (buildApprovedFinalIssueComment_eq_build hselects.selected).trans h.build
  have hexact : isExactReviewgraphV1MarkerLine b.payload.val.markerLine = true := by
    rw [hpayload]
    exact isExact_iff.2 ⟨m, rfl, hm.wellFormed⟩
  refine ⟨⟨_, h.postInit⟩, ?_, rfl⟩
  unfold buildApprovalProof
  rw [h.approvedFindings]
  dsimp only
  rw [hvalidate, ok_bind, if_neg (by simp [hpass]), hbuild, ok_bind, if_neg (by simp [hstatus]),
    if_neg (by simp [hexact])]
  exact construct_of_postInit h.postInit

/-- A proof that passes is the proof of a request that passes. -/
theorem buildApprovalProof_pass {request : ApprovalRequest} {proof : Checked ApprovalProofResult}
    (h : buildApprovalProof request = .ok proof) (hpass : proof.val.status = .pass) :
    ∃ findings b, request.Passes findings b ∧ proof.val = request.passedProof b := by
  have hfail : ∀ failure, approvalFail failure = .ok proof → False := by
    intro failure hr
    rw [construct_eq_ok.1 hr] at hpass
    contradiction
  unfold buildApprovalProof at h
  split at h
  · exact (hfail _ h).elim
  rename_i findings hfindings
  obtain ⟨r, hvalidate, h⟩ := bind_eq_ok.1 h
  split at h
  · exact (hfail _ h).elim
  rename_i hr
  rw [not_not] at hr
  obtain ⟨b, hbuild, h⟩ := bind_eq_ok.1 h
  split at h
  · exact (hfail _ h).elim
  split at h
  · exact (hfail _ h).elim
  have hval : proof.val = request.passedProof b := construct_eq_ok.1 h
  obtain ⟨hcandidate, hmarker⟩ := validateCandidateIssueCommentPayload_pass hvalidate hr
  have hselects := ApprovalRequest.approvedFindings_selects hfindings
  rw [buildApprovedFinalIssueComment_eq_build hselects.selected] at hbuild
  have hchecks := proof.property
  rw [hval] at hchecks
  simp only [Record.postInit, ApprovalRequest.passedProof, check_bind_eq_ok,
    requireOptionalNonEmpty_eq_ok, ne_eq, Option.some.injEq] at hchecks
  obtain ⟨-, -, -, -, -, -, -, hby, htime, -⟩ := hchecks
  exact ⟨findings, b, ⟨hfindings, hcandidate, hmarker, hbuild, hby, htime⟩, hval⟩

/-! ## Ages -/

/-- The number of days from the first of January 1970 to the first of January of a year; none for
earlier years. -/
def daysSince1970 (year : ℤ) : ℤ :=
  ((List.range (year - 1970).toNat).map fun i =>
    if DateTime.isLeapYear (1970 + i) then (366 : ℤ) else 365).sum

/-- The fraction of a second behind a time. -/
def fractionSeconds (fractional : Text) : Option ℚ :=
  if fractional = [] then some 0
  else if fractional.head? ≠ some '.' ∨ isDecimalText fractional.tail = false then none
  else some (Double.round (decimalNat fractional.tail / 10 ^ fractional.tail.length))

/-- `_utc_z_seconds`. -/
def utcZSeconds (value : Text) : Option ℚ := do
  let (date, time) := splitFirst 'T' value.dropLast
  if value.getLast? ≠ some 'Z' ∨ 'T' ∉ value.dropLast ∨ date.length ≠ 10 ∨ date[4]? ≠ some '-' ∨
      date[7]? ≠ some '-' ∨ time.length < 8 ∨ time[2]? ≠ some ':' ∨ time[5]? ≠ some ':' then none
  else
    let year ← DateTime.readInt (slice date 0 4)
    let month ← DateTime.readInt (slice date 5 7)
    let day ← DateTime.readInt (slice date 8 10)
    let hour ← DateTime.readInt (slice time 0 2)
    let minute ← DateTime.readInt (slice time 3 5)
    let second ← DateTime.readInt (slice time 6 8)
    if realisticFields year month day hour minute second = false then none
    else
      let fraction ← fractionSeconds (time.drop 8)
      let days := daysSince1970 year + DateTime.daysBeforeMonth year month.toNat + (day - 1)
      return Double.round
        ((days * 86400 + hour * 3600 + minute * 60 + second : ℤ) + fraction)

/-- `_utc_z_age_seconds`; a value that is no text has no age. -/
def utcZAgeSeconds (later earlier : Option Text) : Option ℚ := do
  let laterSeconds ← utcZSeconds (← later)
  let earlierSeconds ← utcZSeconds (← earlier)
  return Double.round (laterSeconds - earlierSeconds)

/-! ## The approval decision -/

/-- A failed approval decision. -/
def approvalDecisionFail (reasonCode : ApprovalDecisionBuildReasonCode)
    (approvalProofReasonCode : Option ApprovalProofReasonCode)
    (actorPermissionReasonCode : Option ActorPermissionReasonCode)
    (actorPermissionTransportSummary : Option (Checked ActorPermissionTransportSummary))
    (reason : Text) : Result (Checked ApprovalDecisionBuildResult) :=
  construct {
    status := .fail
    approval := none
    reasonCode := some reasonCode
    approvalProofReasonCode
    actorPermissionReasonCode
    actorPermissionTransportSummary
    reason := some reason }

/-- The decision of a passed proof and a passed gate.  The records of both contain all the fields
that are read here. -/
def approvalOf (proof : ApprovalProofResult) (gate : ActorPermissionGateResult)
    (target : Checked ReviewTarget) (transportSummary : Checked ActorPermissionTransportSummary) :
    ApprovalDecision where
  approved := true
  approvedItemIds := proof.approvedItemIds
  approvedFinalPayloadHash := proof.approvedFinalPayloadHash.getD []
  approvedReviewTargetHash := proof.approvedReviewTargetHash.getD []
  approvedReviewTarget := target
  approvedGithubActor := gate.actor.getD []
  approvedPermission := gate.permission.getD []
  approvedPermissionCheckedAt := gate.checkedAt.getD []
  approvedCredentialPrincipal := gate.credentialPrincipal.getD []
  approvedCredentialSource := gate.credentialSource.getD []
  approvedRepoPermission := gate.repoPermission
  approvedInstallationPermission := gate.installationPermission
  approvedEndpointPermission := gate.endpointPermission
  approvedIssueCommentWrite := gate.issueCommentWrite.getD false
  approvedPermissionCheckMethod := gate.checkMethod.getD []
  approvedPermissionEndpointMethod := gate.endpointMethod.getD []
  approvedPermissionCheckedTarget := gate.checkedTarget.getD []
  approvedPermissionCheckedTargetHash := gate.checkedTargetHash.getD []
  approvedPermissionEndpoint := gate.endpoint.getD []
  approvedPermissionEndpointKind := gate.endpointKind.getD []
  approvedPermissionTransportSummary := transportSummary
  includePublicVerdict := proof.includePublicVerdict
  approvedBy := proof.approvedBy.getD []
  timestamp := proof.timestamp.getD []

/-- `build_approval_decision`. -/
def buildApprovalDecision (proof : Checked ApprovalProofResult)
    (actorPermissionGate : Checked ActorPermissionGateResult)
    (maxActorPermissionProofAgeSeconds maxActorPermissionFutureSkewSeconds : ℤ) :
    Result (Checked ApprovalDecisionBuildResult) :=
  let gate := actorPermissionGate.val
  let gateAgeSeconds := utcZAgeSeconds proof.val.timestamp gate.checkedAt
  if proof.val.status ≠ .pass then
    approvalDecisionFail .approvalProofFailed proof.val.reasonCode none none
      "approval proof did not pass"
  else if gate.status ≠ .pass then
    approvalDecisionFail .actorPermissionGateFailed none gate.reasonCode gate.transportSummary
      "actor permission gate did not pass"
  else if ¬ ∃ age ∈ gateAgeSeconds, age ≤ maxActorPermissionProofAgeSeconds ∧
      -maxActorPermissionFutureSkewSeconds ≤ age then
    approvalDecisionFail .actorPermissionGateFailed none (some .staleCachedProof)
      gate.transportSummary "actor permission proof is stale at approval time"
  else
    match proof.val.approvedReviewTarget, gate.transportSummary with
    | some target, some transportSummary =>
      if ¬ (∃ checked ∈ gate.checkedTarget, SameMapping checked target.val.toOrderedDict) ∨
          gate.checkedTargetHash ≠ some target.val.targetHash ∨
          gate.endpoint ≠ some (issueCommentEndpoint target.val.ownerRepo target.val.prNumber) ∨
          gate.endpointKind ≠ some actorPermissionEndpointKind then
        approvalDecisionFail .actorPermissionTargetMismatch none none none
          "actor permission gate target did not match approval target"
      else do
        let approval ← construct (approvalOf proof.val gate target transportSummary)
        construct {
          status := .pass
          approval := some approval
          reasonCode := none
          approvalProofReasonCode := none
          actorPermissionReasonCode := none
          actorPermissionTransportSummary := none
          reason := none }
    | _, _ => .error (.valueError "approval approved_permission_transport_summary must be valid")

/-- `max_actor_permission_proof_age_seconds` when it is not given. -/
def defaultMaxActorPermissionProofAgeSeconds : ℤ := 300

/-- `max_actor_permission_future_skew_seconds` when it is not given. -/
def defaultMaxActorPermissionFutureSkewSeconds : ℤ := 60

/-- A decision that passes is that of a passed proof and a passed gate. -/
theorem buildApprovalDecision_pass {proof : Checked ApprovalProofResult}
    {gate : Checked ActorPermissionGateResult} {maxAge maxSkew : ℤ}
    {decision : Checked ApprovalDecisionBuildResult}
    (h : buildApprovalDecision proof gate maxAge maxSkew = .ok decision)
    (hpass : decision.val.status = .pass) :
    proof.val.status = .pass ∧ gate.val.status = .pass ∧ ∃ approval target transportSummary,
      decision.val.approval = some approval ∧ proof.val.approvedReviewTarget = some target ∧
        approval.val = approvalOf proof.val gate.val target transportSummary := by
  have hfail : ∀ code p a t reason, approvalDecisionFail code p a t reason = .ok decision →
      False := by
    intro code p a t reason hr
    rw [construct_eq_ok.1 hr] at hpass
    contradiction
  unfold buildApprovalDecision at h
  dsimp only at h
  split at h
  · exact (hfail _ _ _ _ _ h).elim
  rename_i hproof
  split at h
  · exact (hfail _ _ _ _ _ h).elim
  rename_i hgate
  split at h
  · exact (hfail _ _ _ _ _ h).elim
  split at h
  · rename_i target transportSummary htarget hsummary
    split at h
    · exact (hfail _ _ _ _ _ h).elim
    obtain ⟨approval, happroval, h⟩ := bind_eq_ok.1 h
    rw [not_not] at hproof hgate
    have hdecision := construct_eq_ok.1 h
    refine ⟨hproof, hgate, approval, target, transportSummary, ?_, htarget,
      construct_eq_ok.1 happroval⟩
    rw [hdecision]
  · contradiction

end ReviewGraph
