import ReviewGraph.ApprovalBinding
import ReviewGraph.TargetFreshness
import ReviewGraph.WriterRelease

/-!
# Finalization from probes

`finalize_github_payload` of `finalization.py` with the checks that it makes itself: the preflight
of the approval, the comparison of the actor's permission with the approved one, and the freshness
of the target. Whatever payload a builder returns and whatever a reconciler says, only what was
approved is released.
-/

namespace ReviewGraph

/-! ## The permission of the actor -/

/-- `_mismatched_fields`, all of which are fields that a result may name. -/
def mismatchedFields (approval : ApprovalDecision) (gate : ActorPermissionGateResult) : List Text :=
  ([("actor", some approval.approvedGithubActor ≠ gate.actor),
    ("credential_principal", some approval.approvedCredentialPrincipal ≠ gate.credentialPrincipal),
    ("credential_source", some approval.approvedCredentialSource ≠ gate.credentialSource),
    ("permission", some approval.approvedPermission ≠ gate.permission),
    ("repo_permission", approval.approvedRepoPermission ≠ gate.repoPermission),
    ("installation_permission",
    approval.approvedInstallationPermission ≠ gate.installationPermission),
    ("endpoint_permission", approval.approvedEndpointPermission ≠ gate.endpointPermission),
    ("issue_comment_write", some approval.approvedIssueCommentWrite ≠ gate.issueCommentWrite),
    ("check_method", some approval.approvedPermissionCheckMethod ≠ gate.checkMethod),
    ("endpoint_method", some approval.approvedPermissionEndpointMethod ≠ gate.endpointMethod),
    ("checked_target", ¬ ∃ checked ∈ gate.checkedTarget,
      SameMapping approval.approvedPermissionCheckedTarget checked),
    ("checked_target_hash",
    some approval.approvedPermissionCheckedTargetHash ≠ gate.checkedTargetHash),
    ("endpoint", some approval.approvedPermissionEndpoint ≠ gate.endpoint),
    ("endpoint_kind", some approval.approvedPermissionEndpointKind ≠ gate.endpointKind)] :
      List (Text × Bool)).filterMap fun comparison =>
        if comparison.2 ∧ comparison.1 ∈ actorPermissionFinalizationMismatchFields then some
          comparison.1
        else none

/-- `_snapshot_mismatch`. -/
def snapshotMismatch (fields : List Text)
    (transportSummary : Option (Checked ActorPermissionTransportSummary))
    (checkedAt : Option Text) :
    Result (Checked ActorPermissionFinalizationCheckResult) :=
  construct {
    status := .fail
    reasonCode := some .actorPermissionSnapshotMismatch
    actorPermissionReasonCode := none
    actorPermissionTransportSummary := transportSummary
    currentActorPermissionCheckedAt := checkedAt
    mismatchedFields := fields
    reason := some "current actor permission snapshot differs from approved snapshot" }

/-- `_parse_utc_z`, in microseconds. -/
def parseUtcZ (value : Text) : Result ℤ :=
  let digits := if value.getLast? = some 'Z' then value.dropLast else value
  match DateTime.fromIsoFormat (digits ++ "+00:00") with
  | some time => .ok time
  | none => .error (.valueError ("Invalid isoformat string: " ++ (digits ++ "+00:00")))

/-- `validate_actor_permission_snapshot_for_finalization`. -/
def validateActorPermissionSnapshotForFinalization (approval : ApprovalDecision)
    (currentProbe : ActorPermissionProbeResult) (expectedTarget : Checked ReviewTarget)
    (evaluatedAt : Text) (maxProofAgeSeconds : ℤ) :
    Result (Checked ActorPermissionFinalizationCheckResult) := do
  let currentGate ← evaluateActorPermissionGate currentProbe expectedTarget evaluatedAt
    maxProofAgeSeconds
  let gate := currentGate.val
  if gate.status ≠ .pass then
    construct {
      status := .fail
      reasonCode := some .actorPermissionGateFailed
      actorPermissionReasonCode := gate.reasonCode
      actorPermissionTransportSummary := gate.transportSummary
      currentActorPermissionCheckedAt := gate.checkedAt
      mismatchedFields := []
      reason := some "current actor permission gate failed" }
  else if expectedTarget ≠ approval.approvedReviewTarget then
    snapshotMismatch ["checked_target", "checked_target_hash"] gate.transportSummary gate.checkedAt
  else if mismatchedFields approval gate ≠ [] then
    snapshotMismatch (mismatchedFields approval gate) gate.transportSummary gate.checkedAt
  else
    let currentTime ← parseUtcZ (gate.checkedAt.getD [])
    let approvedTime ← parseUtcZ approval.approvedPermissionCheckedAt
    if currentTime < approvedTime then
      construct {
        status := .fail
        reasonCode := some .actorPermissionCheckedAtRegressed
        actorPermissionReasonCode := none
        actorPermissionTransportSummary := gate.transportSummary
        currentActorPermissionCheckedAt := gate.checkedAt
        mismatchedFields := ["checked_at"]
        reason := some "current actor permission proof predates approval proof" }
    else
      construct {
        status := .pass
        reasonCode := none
        actorPermissionReasonCode := none
        actorPermissionTransportSummary := gate.transportSummary
        currentActorPermissionCheckedAt := gate.checkedAt
        mismatchedFields := []
        reason := none }

/-! ## Finalization -/

/-- The arguments of `finalize_github_payload`, without the builder and the reconciler. -/
structure FinalizationArguments where
  approval : Checked ApprovalDecision
  postingPlan : Checked PostingPlan
  approvedFindingsById : Text → Option (Checked ClassifiedFinding)
  currentActorPermissionProbe : ActorPermissionProbeResult
  currentTargetProbe : TargetFreshnessProbeResult
  evaluatedAt : Text

/-- A builder of the final payload, if there is one, with what it returns or raises. -/
abbrev FinalPayloadBuilder : Type := Option (Result (Checked FinalIssueCommentPayload))

/-- A reconciler of the markers, if there is one. -/
abbrev MarkerReconciler : Type :=
  Option (Checked FinalIssueCommentPayload → Result (Checked BoundMarkerReconciliationResult))

namespace FinalizationArguments

variable (args : FinalizationArguments)

/-- The check of the actor's permission. -/
def actorCheck : Result (Checked ActorPermissionFinalizationCheckResult) :=
  validateActorPermissionSnapshotForFinalization args.approval.val args.currentActorPermissionProbe
    args.approval.val.approvedReviewTarget args.evaluatedAt defaultMaxProofAgeSeconds

/-- The check of the target, with `TARGET_DEFAULT_MAX_PROOF_AGE_SECONDS`. -/
def targetCheck : Result (Checked TargetFreshnessCheckResult) :=
  validateTargetFreshnessForFinalization args.approval args.currentTargetProbe args.evaluatedAt 300

/-- `finalize_github_payload`. -/
def finalizeGithubPayload (finalPayloadBuilder : FinalPayloadBuilder)
    (markerReconciler : MarkerReconciler) : Result FinalizeGithubPayloadResult :=
  match approvalPreflight args.approval.val args.postingPlan.val args.approvedFindingsById with
  | some approvedPreflight => do
    let status ← notFinalized args.approval.val .failedClosed .approvalPreflightFailed
      approvedPreflight
    return {
      actorPermissionFinalizationCheck := none
      targetFreshnessCheck := none
      finalizationStatus := status
      dryRunError := some ⟨"approval_preflight_failed", false, "approval", none, []⟩ }
  | none => do
    let actorCheck ← args.actorCheck
    if actorCheck.val.status ≠ .pass then
      let status ← notFinalized args.approval.val .failedClosed .actorPermissionFailed
        "actor permission finalization preflight failed"
      return {
        actorPermissionFinalizationCheck := some actorCheck
        targetFreshnessCheck := none
        finalizationStatus := status
        dryRunError := some ⟨"actor_permission_failed", false, "issue_comment_permission", none,
          []⟩ }
    else
      let targetCheck ← args.targetCheck
      ReviewGraph.finalizeGithubPayload args.approval.val ⟨none, actorCheck, targetCheck⟩
        finalPayloadBuilder markerReconciler

/-! ## What is released -/

/-- The finalization releases a payload: the approval passes its preflight, the permission and the
target are those of the approval still, the payload is valid and has the approved hash, and the
markers say that it is safe to post. -/
structure Releases (finalPayloadBuilder : FinalPayloadBuilder) (markerReconciler : MarkerReconciler)
    (payload : Checked FinalIssueCommentPayload)
    (marker : Checked BoundMarkerReconciliationResult) :
    Prop where
  preflight : approvalPreflight args.approval.val args.postingPlan.val args.approvedFindingsById =
    none
  actor : ∃ check, args.actorCheck = .ok check ∧ check.val.status = .pass
  target : ∃ check, args.targetCheck = .ok check ∧ check.val.status = .pass
  builder : finalPayloadBuilder = some (.ok payload)
  approved : payload.val.finalPayloadHash = args.approval.val.approvedFinalPayloadHash
  valid : ValidFinalPayload payload.val
  reconciler : ∃ reconcile, markerReconciler = some reconcile ∧ reconcile payload = .ok marker
  bound : marker.val.expectedTargetHash = payload.val.markerTargetHash ∧
    marker.val.expectedPayloadHash = payload.val.markerPayloadHash ∧
    marker.val.expectedFindingsHash = payload.val.markerFindingsHash
  safe : marker.val.result.val.status = .safeToPost

/-- The result of a finalization that releases a payload; all the checks that it carries have
passed. -/
structure ReleasedResult (f : FinalizeGithubPayloadResult)
    (payload : Checked FinalIssueCommentPayload)
    (marker : Checked BoundMarkerReconciliationResult) :
    Prop where
  released : f.writerInputReleased = true
  state : f.finalizationStatus.val.state = .finalized
  finalPayloadHash : f.finalizationStatus.val.finalPayloadHash = some payload.val.finalPayloadHash
  targetHash : f.finalizationStatus.val.targetHash = some payload.val.reviewTarget.val.targetHash
  finalPayload : f.finalPayload = some payload
  actor : f.approvedGithubActor = some args.approval.val.approvedGithubActor
  markerReconciliation : f.markerReconciliation = some marker.val.result
  actorCheck : f.actorPermissionFinalizationCheck.any (fun c => c.val.status = .pass) = true
  targetCheck : f.targetFreshnessCheck.any (fun c => c.val.status = .pass) = true
  validation : f.payloadValidation.any (fun v => v.val.status = .pass) = true

/-- The result of a finalization that releases nothing. -/
structure WithheldResult (f : FinalizeGithubPayloadResult) : Prop where
  released : f.writerInputReleased = false
  state : f.finalizationStatus.val.state ≠ .finalized
  finalPayload : f.finalPayload = none
  actor : f.approvedGithubActor = none

variable {args}

/-- A finalization that is refused reports the state. -/
lemma notFinalized_state {approval : ApprovalDecision} {state : FinalizationState}
    {reasonCode : FinalizationReasonCode} {reason : Text} {status : Checked FinalizationStatus}
    (h : notFinalized approval state reasonCode reason = .ok status) : status.val.state =
      state := by
  rw [construct_eq_ok.1 h]

section
variable {approval : ApprovalDecision} {checks : FinalizationChecks}
  {payload : Checked FinalIssueCommentPayload} {f : FinalizeGithubPayloadResult}
  {reconcile : Checked FinalIssueCommentPayload → Result (Checked BoundMarkerReconciliationResult)}

/-- After the checks, a valid payload is released if its markers are bound to it and safe. -/
lemma finalizeBuiltPayload_cases (h : finalizeBuiltPayload approval checks payload reconcile =
    .ok f) :
    WithheldResult f ∨ ∃ marker validation status, reconcile payload = .ok marker ∧
      ValidFinalPayload payload.val ∧ validation.val.status = .pass ∧
      (marker.val.expectedTargetHash = payload.val.markerTargetHash ∧
        marker.val.expectedPayloadHash = payload.val.markerPayloadHash ∧
        marker.val.expectedFindingsHash = payload.val.markerFindingsHash) ∧
      marker.val.result.val.status = .safeToPost ∧
      status.val = ⟨.finalized, some payload.val.finalPayloadHash,
        some payload.val.reviewTarget.val.targetHash, none, none⟩ ∧
      f = {
        actorPermissionFinalizationCheck := some checks.actorCheck
        targetFreshnessCheck := some checks.targetCheck
        finalizationStatus := status
        approvedGithubActor := some approval.approvedGithubActor
        payloadValidation := some validation
        markerReconciliation := some marker.val.result
        finalPayload := some payload
        finalPayloadBuilderCalls := 1
        writerInputReleased := true } := by
  unfold finalizeBuiltPayload at h
  obtain ⟨validation, hvalidation, h⟩ := bind_eq_ok.1 h
  have hwithheld : ∀ {state reasonCode reason} {g : Checked FinalizationStatus →
      FinalizeGithubPayloadResult}, state ≠ .finalized →
      (∀ status, (g status).finalizationStatus = status ∧ (g status).writerInputReleased = false ∧
        (g status).finalPayload = none ∧ (g status).approvedGithubActor = none) →
      (notFinalized approval state reasonCode reason >>= fun status => pure (g status)) = .ok f →
      WithheldResult f := by
    intro state reasonCode reason g hstate hg hresult
    obtain ⟨status, hstatus, hresult⟩ := bind_eq_ok.1 hresult
    obtain rfl := pure_eq_ok.1 hresult
    obtain ⟨hfinal, hreleased, hpayload, hactor⟩ := hg status
    refine ⟨hreleased, ?_, hpayload, hactor⟩
    rw [hfinal, notFinalized_state hstatus]
    exact hstate
  split at h
  · exact .inl (hwithheld (by simp) (fun _ => ⟨rfl, rfl, rfl, rfl⟩) h)
  rename_i hpass
  obtain ⟨marker, hmarker, h⟩ := bind_eq_ok.1 h
  dsimp only at h
  split at h
  · exact .inl (hwithheld (by simp) (fun _ => ⟨rfl, rfl, rfl, rfl⟩) h)
  rename_i hbound
  split at h
  · rename_i hsafe
    obtain ⟨status, hstatus, h⟩ := bind_eq_ok.1 h
    obtain rfl := pure_eq_ok.1 h
    obtain ⟨validation', hvalidation', hvalid, -⟩ := validateFinalIssueCommentPayload_ok payload
    obtain rfl := Except.ok.inj (hvalidation.symm.trans hvalidation')
    rw [not_not] at hpass
    simp only [ne_eq, not_or, not_not] at hbound
    exact .inr ⟨marker, validation, status, hmarker, hvalid.1 hpass, hpass, hbound, hsafe,
      construct_eq_ok.1 hstatus, rfl⟩
  · exact .inl (hwithheld (by simp) (fun _ => ⟨rfl, rfl, rfl, rfl⟩) h)
  · exact .inl (hwithheld (by simp) (fun _ => ⟨rfl, rfl, rfl, rfl⟩) h)

end

section
variable {finalPayloadBuilder : FinalPayloadBuilder} {markerReconciler : MarkerReconciler}
  {f : FinalizeGithubPayloadResult}

/-- A finalization withholds everything or releases a payload. -/
lemma finalizeGithubPayload_cases
    (h : args.finalizeGithubPayload finalPayloadBuilder markerReconciler = .ok f) :
    WithheldResult f ∨ ∃ payload marker, args.Releases finalPayloadBuilder markerReconciler payload
      marker ∧
      args.ReleasedResult f payload marker := by
  have hwithheld : ∀ {state reasonCode reason} {g : Checked FinalizationStatus →
      FinalizeGithubPayloadResult}, state ≠ .finalized →
      (∀ status, (g status).finalizationStatus = status ∧ (g status).writerInputReleased = false ∧
        (g status).finalPayload = none ∧ (g status).approvedGithubActor = none) →
      (notFinalized args.approval.val state reasonCode reason >>= fun status => pure (g status)) =
        .ok f →
      WithheldResult f := by
    intro state reasonCode reason g hstate hg hresult
    obtain ⟨status, hstatus, hresult⟩ := bind_eq_ok.1 hresult
    obtain rfl := pure_eq_ok.1 hresult
    obtain ⟨hfinal, hreleased, hpayload, hactor⟩ := hg status
    refine ⟨hreleased, ?_, hpayload, hactor⟩
    rw [hfinal, notFinalized_state hstatus]
    exact hstate
  unfold finalizeGithubPayload at h
  split at h
  · exact .inl (hwithheld (by simp) (fun _ => ⟨rfl, rfl, rfl, rfl⟩) h)
  rename_i hpreflight
  obtain ⟨actorCheck, hactor, h⟩ := bind_eq_ok.1 h
  split at h
  · exact .inl (hwithheld (by simp) (fun _ => ⟨rfl, rfl, rfl, rfl⟩) h)
  rename_i hactorPass
  rw [not_not] at hactorPass
  obtain ⟨targetCheck, htarget, h⟩ := bind_eq_ok.1 h
  unfold ReviewGraph.finalizeGithubPayload at h
  dsimp only at h
  rw [if_neg (not_not.2 hactorPass)] at h
  split at h
  · exact .inl (hwithheld (by simp) (fun _ => ⟨rfl, rfl, rfl, rfl⟩) h)
  rename_i htargetPass
  rw [not_not] at htargetPass
  split at h
  · exact .inl (hwithheld (by simp) (fun _ => ⟨rfl, rfl, rfl, rfl⟩) h)
  rename_i built
  obtain ⟨payload, hbuilt, h⟩ := bind_eq_ok.1 h
  split at h
  · exact .inl (hwithheld (by simp) (fun _ => ⟨rfl, rfl, rfl, rfl⟩) h)
  rename_i happroved
  rw [not_not] at happroved
  split at h
  · rcases finalizeBuiltPayload_cases h with hnone | ⟨marker, validation, status, hmarker, hvalid,
      hvalidation, hbound, hsafe, hstatus, rfl⟩
    · exact .inl hnone
    refine .inr ⟨payload, marker, ⟨hpreflight, ⟨actorCheck, hactor, hactorPass⟩,
      ⟨targetCheck, htarget, htargetPass⟩, by rw [hbuilt], happroved, hvalid, ⟨_, rfl, hmarker⟩,
      hbound, hsafe⟩, ?_⟩
    refine ⟨rfl, ?_, ?_, ?_, rfl, rfl, rfl, ?_, ?_, ?_⟩
    · rw [hstatus]
    · rw [hstatus]
    · rw [hstatus]
    · simpa using hactorPass
    · simpa using htargetPass
    · simpa using hvalidation
  · exact .inl (hwithheld (by simp) (fun _ => ⟨rfl, rfl, rfl, rfl⟩) h)

/-- A payload is released when all the checks pass. -/
lemma exists_released {payload : Checked FinalIssueCommentPayload}
    {marker : Checked BoundMarkerReconciliationResult}
    (h : args.Releases finalPayloadBuilder markerReconciler payload marker) :
    ∃ f, args.finalizeGithubPayload finalPayloadBuilder markerReconciler = .ok f ∧
      f.writerInputReleased = true := by
  obtain ⟨actorCheck, hactor, hactorPass⟩ := h.actor
  obtain ⟨targetCheck, htarget, htargetPass⟩ := h.target
  obtain ⟨reconcile, hreconciler, hmarker⟩ := h.reconciler
  obtain ⟨validation, hvalidation, hpass, -⟩ := validateFinalIssueCommentPayload_ok payload
  obtain ⟨status, hstatus, -⟩ := PostAttempt.finalized_ok payload
  have hbound := h.bound
  refine ⟨{
    actorPermissionFinalizationCheck := some actorCheck
    targetFreshnessCheck := some targetCheck
    finalizationStatus := status
    approvedGithubActor := some args.approval.val.approvedGithubActor
    payloadValidation := some validation
    markerReconciliation := some marker.val.result
    finalPayload := some payload
    finalPayloadBuilderCalls := 1
    writerInputReleased := true }, ?_, rfl⟩
  unfold finalizeGithubPayload
  rw [h.preflight]
  dsimp only
  rw [hactor, ok_bind, if_neg (not_not.2 hactorPass), htarget, ok_bind]
  unfold ReviewGraph.finalizeGithubPayload
  dsimp only
  rw [if_neg (not_not.2 hactorPass), if_neg (not_not.2 htargetPass), h.builder]
  dsimp only
  rw [ok_bind, if_neg (not_not.2 h.approved), hreconciler]
  dsimp only
  unfold finalizeBuiltPayload
  rw [hvalidation, ok_bind, if_neg (not_not.2 (hpass.2 h.valid)), hmarker, ok_bind]
  dsimp only
  rw [if_neg (by simp [hbound]), h.safe]
  dsimp only
  rw [hstatus, ok_bind]
  rfl

/-- A result of a finalization is released, finalized, and has a payload, or none of these. -/
lemma finalizeGithubPayload_state
    (h : args.finalizeGithubPayload finalPayloadBuilder markerReconciler = .ok f) :
    (f.writerInputReleased = true ↔ f.finalizationStatus.val.state = .finalized) ∧
      (f.writerInputReleased = true ↔ f.finalPayload ≠ none) := by
  rcases finalizeGithubPayload_cases h with hwithheld | ⟨payload, marker, -, hreleased⟩
  · have hfalse : ¬ f.writerInputReleased = true := by simp [hwithheld.released]
    exact ⟨iff_of_false hfalse hwithheld.state,
      iff_of_false hfalse (not_not.2 hwithheld.finalPayload)⟩
  · refine ⟨iff_of_true hreleased.released hreleased.state, iff_of_true hreleased.released ?_⟩
    rw [hreleased.finalPayload]
    exact Option.some_ne_none payload

/-- The writer input of a released payload is built for the run of its marker, if the payload is for
the approved target. -/
lemma exists_writerInput_iff {payload : Checked FinalIssueCommentPayload}
    {marker : Checked BoundMarkerReconciliationResult}
    (h : args.Releases finalPayloadBuilder markerReconciler payload marker)
    (hf : args.ReleasedResult f payload marker) (runId : Text) :
    (∃ input, buildFinalizedIssueCommentWriterInput f args.approval.val runId = .ok input) ↔
      runId = payload.val.markerRunId ∧
        args.approval.val.approvedReviewTargetHash = payload.val.reviewTarget.val.targetHash := by
  have happroved : args.approval.val.approved = true := by
    have hpreflight := h.preflight
    unfold approvalPreflight at hpreflight
    split at hpreflight
    · contradiction
    · rename_i hnot
      simpa using hnot
  have hactor : args.approval.val.approvedGithubActor ≠ [] := by
    have hchecks := args.approval.property
    simp only [Record.postInit, check_bind_eq_ok, requireNonEmpty_eq_ok] at hchecks
    exact hchecks.2.2.2.2.1
  have hrun : payload.val.markerRunId ≠ [] := by
    intro hnil
    have hwf : isRunId payload.val.markerRunId = true := h.valid.wellFormed.runId
    rw [hnil] at hwf
    exact absurd hwf (by decide)
  have hsteps : (∃ input, buildFinalizedIssueCommentWriterInput f args.approval.val runId =
      .ok input) ↔
      args.approval.val.approvedReviewTargetHash = payload.val.reviewTarget.val.targetHash ∧
        runId = payload.val.markerRunId ∧ ∃ input, construct ({
          finalPayload := payload
          finalPayloadHash := payload.val.finalPayloadHash
          targetHash := payload.val.reviewTarget.val.targetHash
          markerReconciliationStatus := marker.val.result.val.status
          approvedActor := args.approval.val.approvedGithubActor
          runId } : FinalizedIssueCommentWriterInput) = .ok input := by
    unfold buildFinalizedIssueCommentWriterInput
    rw [hf.finalPayload, hf.markerReconciliation]
    simp only [check_bind_eq_ok, require_eq_ok, happroved, hf.state, hf.released, hf.actorCheck,
      hf.targetCheck, hf.validation, h.safe, hf.finalPayloadHash, hf.targetHash, hf.actor,
      h.approved.symm, true_and, exists_and_left]
  rw [hsteps, exists_construct, FinalizedIssueCommentWriterInput.postInit_eq_ok]
  constructor
  · rintro ⟨htarget, hrunId, -⟩
    exact ⟨hrunId, htarget⟩
  · rintro ⟨hrunId, htarget⟩
    exact ⟨htarget, hrunId, rfl, rfl, h.safe, hactor, hrunId ▸ hrun⟩

end

/-- A finalization releases a payload exactly if all its checks pass; its result is then finalized
and has the payload, and otherwise it is not and has none; and the writer input is built exactly for
the run of the marker of a released payload, for the approved target. -/
theorem finalizeGithubPayload_releases_iff (args : FinalizationArguments)
    (finalPayloadBuilder : FinalPayloadBuilder) (markerReconciler : MarkerReconciler) :
    ((∃ f, args.finalizeGithubPayload finalPayloadBuilder markerReconciler = .ok f ∧
        f.writerInputReleased = true) ↔
      ∃ payload marker, args.Releases finalPayloadBuilder markerReconciler payload marker) ∧
    ∀ f, args.finalizeGithubPayload finalPayloadBuilder markerReconciler = .ok f →
      ((f.writerInputReleased = true ↔ f.finalizationStatus.val.state = .finalized) ∧
        (f.writerInputReleased = true ↔ f.finalPayload ≠ none)) ∧
      ∀ runId, (∃ input, buildFinalizedIssueCommentWriterInput f args.approval.val runId =
        .ok input) ↔
        ∃ payload, f.finalPayload = some payload ∧ runId = payload.val.markerRunId ∧
          args.approval.val.approvedReviewTargetHash = payload.val.reviewTarget.val.targetHash := by
  constructor
  · constructor
    · rintro ⟨f, hf, hreleased⟩
      rcases finalizeGithubPayload_cases hf with hwithheld | ⟨payload, marker, hreleases, -⟩
      · rw [hwithheld.released] at hreleased
        contradiction
      · exact ⟨payload, marker, hreleases⟩
    · rintro ⟨payload, marker, hreleases⟩
      exact exists_released hreleases
  · intro f hf
    refine ⟨finalizeGithubPayload_state hf, fun runId => ?_⟩
    rcases finalizeGithubPayload_cases hf with hwithheld | ⟨payload, marker, hreleases, hresult⟩
    · refine iff_of_false ?_ ?_
      · rintro ⟨input, hinput⟩
        have hpayload := (buildFinalizedIssueCommentWriterInput_ok hinput).1
        rw [hwithheld.finalPayload] at hpayload
        contradiction
      · rintro ⟨payload, hpayload, -⟩
        rw [hwithheld.finalPayload] at hpayload
        contradiction
    · rw [exists_writerInput_iff hreleases hresult, hresult.finalPayload]
      simp only [Option.some.injEq, exists_eq_left']

/-! ## What the probes show -/

/-- The gate of a probe shows the approved permission, and no earlier than the approval. -/
structure KeepsPermission (approval : ApprovalDecision) (gate : ActorPermissionGateResult) :
    Prop where
  passes : gate.status = .pass
  actor : gate.actor = some approval.approvedGithubActor
  credentialPrincipal : gate.credentialPrincipal = some approval.approvedCredentialPrincipal
  credentialSource : gate.credentialSource = some approval.approvedCredentialSource
  permission : gate.permission = some approval.approvedPermission
  checkedTargetHash : gate.checkedTargetHash = some approval.approvedPermissionCheckedTargetHash
  endpoint : gate.endpoint = some approval.approvedPermissionEndpoint
  times : ∃ currentTime approvedTime, parseUtcZ (gate.checkedAt.getD []) = .ok currentTime ∧
    parseUtcZ approval.approvedPermissionCheckedAt = .ok approvedTime ∧ approvedTime ≤ currentTime

/-- A permission without mismatched fields is the approved one. -/
lemma mismatchedFields_eq_nil {approval : ApprovalDecision} {gate : ActorPermissionGateResult}
    (h : mismatchedFields approval gate = []) : some approval.approvedGithubActor = gate.actor ∧
      some approval.approvedCredentialPrincipal = gate.credentialPrincipal ∧
      some approval.approvedCredentialSource = gate.credentialSource ∧
      some approval.approvedPermission = gate.permission ∧
      some approval.approvedPermissionCheckedTargetHash = gate.checkedTargetHash ∧
      some approval.approvedPermissionEndpoint = gate.endpoint := by
  rw [mismatchedFields, List.filterMap_eq_nil_iff] at h
  simp only [List.forall_mem_cons, ite_eq_right_iff, reduceCtorEq, imp_false, not_and_or,
    decide_eq_true_eq, not_not, ne_eq] at h
  have hfields : ∀ field ∈ (["actor", "credential_principal", "credential_source", "permission",
      "checked_target_hash", "endpoint"] : List Text),
      field ∈ actorPermissionFinalizationMismatchFields := by
    simp [actorPermissionFinalizationMismatchFields]
  simp only [List.forall_mem_cons] at hfields
  obtain ⟨hactor, hprincipal, hsource, hpermission, -, -, -, -, -, -, -, hhash, hendpoint, -⟩ := h
  refine ⟨?_, ?_, ?_, ?_, ?_, ?_⟩
  · exact hactor.resolve_right (not_not.2 hfields.1)
  · exact hprincipal.resolve_right (not_not.2 hfields.2.1)
  · exact hsource.resolve_right (not_not.2 hfields.2.2.1)
  · exact hpermission.resolve_right (not_not.2 hfields.2.2.2.1)
  · exact hhash.resolve_right (not_not.2 hfields.2.2.2.2.1)
  · exact hendpoint.resolve_right (not_not.2 hfields.2.2.2.2.2.1)

/-- A check of the permission that passes saw the approved permission. -/
lemma keepsPermission_of_pass {check : Checked ActorPermissionFinalizationCheckResult}
    (h : args.actorCheck = .ok check) (hpass : check.val.status = .pass) :
    ∃ gate, evaluateActorPermissionGate args.currentActorPermissionProbe
        args.approval.val.approvedReviewTarget args.evaluatedAt defaultMaxProofAgeSeconds =
          .ok gate ∧
      KeepsPermission args.approval.val gate.val := by
  have hfail : ∀ {r : ActorPermissionFinalizationCheckResult}, r.status = .fail →
      construct r = .ok check → False := by
    intro r hr hresult
    rw [construct_eq_ok.1 hresult, hr] at hpass
    contradiction
  unfold actorCheck validateActorPermissionSnapshotForFinalization at h
  obtain ⟨gate, hgate, h⟩ := bind_eq_ok.1 h
  dsimp only at h
  split at h
  · exact (hfail rfl h).elim
  rename_i hgatePass
  rw [not_not] at hgatePass
  rw [if_neg (by simp)] at h
  split at h
  · exact (hfail rfl h).elim
  rename_i hfields
  rw [not_not] at hfields
  obtain ⟨currentTime, hcurrent, h⟩ := bind_eq_ok.1 h
  obtain ⟨approvedTime, happroved, h⟩ := bind_eq_ok.1 h
  split at h
  · exact (hfail rfl h).elim
  rename_i htimes
  obtain ⟨hactor, hprincipal, hsource, hpermission, hhash, hendpoint⟩ :=
      mismatchedFields_eq_nil hfields
  exact ⟨gate, hgate, hgatePass, hactor.symm, hprincipal.symm, hsource.symm, hpermission.symm,
    hhash.symm, hendpoint.symm, currentTime, approvedTime, hcurrent, happroved, not_lt.1 htimes⟩

/-- A check of the target that passes saw the approved target. -/
lemma showsFreshTarget_of_targetCheck {check : Checked TargetFreshnessCheckResult}
    (h : args.targetCheck = .ok check) (hpass : check.val.status = .pass) :
    ∃ evaluatedTime, parseOptionalUtcZ args.evaluatedAt = some evaluatedTime ∧
      ShowsFreshTarget args.approval.val args.currentTargetProbe evaluatedTime 300 := by
  cases hevaluated : parseOptionalUtcZ args.evaluatedAt with
  | none =>
    unfold targetCheck validateTargetFreshnessForFinalization at h
    rw [hevaluated] at h
    contradiction
  | some evaluatedTime =>
    exact ⟨evaluatedTime, rfl, showsFreshTarget_of_pass hevaluated h hpass⟩

end FinalizationArguments

/-! ## What was approved is released -/

/-- The marker of a valid payload is the last line of its canonical body. -/
lemma ValidFinalPayload.marker_eq {p : FinalIssueCommentPayload} (h : ValidFinalPayload p)
    {text : Text}
    {m : MarkerFields} (hm : m.WellFormed) (hbody : canonicalTextBody p.body = bodyWithLine text
      m.render) :
    p.marker = m := by
  have hwf : p.marker.WellFormed := h.wellFormed
  have hmarker : p.markerLine = p.marker.render := h.markerLine
  have hline : IsFinalLine p.markerLine := hmarker ▸ hwf.isFinalLine
  obtain ⟨shown, ending, hending, hnormalized, hshown⟩ := exists_above_marker hline h.finalLine
  have hstripped : shown.rstripNewlines = shown := by
    refine Text.rstripNewlines_of_last fun hne hnewline => hline.newline ?_
    rcases hshown with rfl | ⟨above, rfl⟩
    · exact hnewline ▸ List.getLast_mem hne
    · rw [List.getLast_append_of_ne_nil _ (List.cons_ne_nil _ _), List.getLast_cons hline.ne_nil]
        at hnewline
      exact hnewline ▸ List.getLast_mem hline.ne_nil
  have hcanonical : canonicalTextBody p.body = shown ++ ['\n'] := by
    unfold canonicalTextBody
    rw [hnormalized]
    rcases hending with rfl | rfl
    · rw [List.append_nil, hstripped]
    · rw [Text.rstripNewlines_append_newline, hstripped]
  -- Both texts end with their marker.
  have hlines := congrArg Text.lines (hcanonical.symm.trans hbody)
  rw [lines_bodyWithLine hm.isFinalLine, Text.lines_append_newline] at hlines
  have hlast : ∃ above, shown.lines = above ++ [p.markerLine] := by
    rcases hshown with rfl | ⟨above, rfl⟩
    · exact ⟨[], by rw [Text.lines_of_not_mem hline.newline, List.nil_append]⟩
    · exact ⟨above.lines, by rw [Text.lines_append_newline, Text.lines_of_not_mem hline.newline]⟩
  obtain ⟨above, habove⟩ := hlast
  rw [habove, List.append_assoc] at hlines
  obtain ⟨-, htail⟩ := List.append_inj' hlines rfl
  rw [hmarker] at htail
  exact MarkerFields.render_injOn hwf hm (List.cons.inj htail).1

/-- A gate that passes has the actor that an approval takes from it. -/
lemma gate_actor_of_pass {gate : Checked ActorPermissionGateResult}
    (hpass : gate.val.status = .pass) :
    gate.val.actor = some (gate.val.actor.getD []) := by
  have hchecks := gate.property
  simp only [Record.postInit, check_bind_eq_ok, hpass, ActorPermissionGateResult.validatePassFields,
    requireEach_eq_ok] at hchecks
  obtain ⟨actor, hactor⟩ := Option.isSome_iff_exists.1 (hchecks.2.1.1 _ List.mem_cons_self)
  rw [hactor, Option.getD_some]

/-- A writer input is for the run of the marker of its payload. -/
lemma writerInput_runId {f : FinalizeGithubPayloadResult} {approval : ApprovalDecision}
    {runId : Text}
    {input : Checked FinalizedIssueCommentWriterInput}
    (h : buildFinalizedIssueCommentWriterInput f approval runId = .ok input) :
    input.val.runId = input.val.finalPayload.val.markerRunId := by
  unfold buildFinalizedIssueCommentWriterInput at h
  simp only [check_bind_eq_ok, require_eq_ok] at h
  obtain ⟨-, -, -, h⟩ := h
  split at h
  · contradiction
  simp only [check_bind_eq_ok, require_eq_ok] at h
  obtain ⟨-, -, -, h⟩ := h
  split at h
  · contradiction
  simp only [check_bind_eq_ok, require_eq_ok] at h
  obtain ⟨-, -, -, -, -, -, hrunId, h⟩ := h
  rw [construct_eq_ok.1 h]
  exact hrunId

namespace FinalizationArguments

/-- Whatever the builder returns and whatever the reconciler says, a payload that is released with
the approval of a passed proof has the approved body, run, target and fingerprints, and goes out for
the approved actor, whose permission and whose target the probes of the finalization show; and only
such a payload gets into a writer input. -/
theorem released_isApproved (request : ApprovalRequest) (proof : Checked ApprovalProofResult)
    (b : ApprovedFinalIssueCommentBuild) (gate : Checked ActorPermissionGateResult)
    (maxAge maxSkew : ℤ)
    (decision : Checked ApprovalDecisionBuildResult) (hproof : buildApprovalProof request =
      .ok proof)
    (hb : request.finalBuild = .ok b)
    (hdecision : buildApprovalDecision proof gate maxAge maxSkew = .ok decision)
    (hpass : decision.val.status = .pass) (args : FinalizationArguments)
    (happroval : decision.val.approval = some args.approval)
    (finalPayloadBuilder : FinalPayloadBuilder)
    (markerReconciler : MarkerReconciler) (f : FinalizeGithubPayloadResult)
    (hf : args.finalizeGithubPayload finalPayloadBuilder markerReconciler = .ok f)
    (payload : Checked FinalIssueCommentPayload) (hpayload : f.finalPayload = some payload)
    (hbodies : NoCollision (canonicalTextBody payload.val.body)
      (canonicalTextBody b.payload.val.body))
    (hfingerprints : NoCollision (fingerprintsText (Text.sorted payload.val.itemFingerprints))
      (fingerprintsText b.payload.val.itemFingerprints)) :
    (canonicalTextBody payload.val.body = canonicalTextBody b.payload.val.body ∧
      payload.val.markerRunId = request.runId ∧
      payload.val.reviewTarget.val.targetHash = request.reviewTarget.val.targetHash ∧
      Text.sorted payload.val.itemFingerprints = b.payload.val.itemFingerprints) ∧
    (f.approvedGithubActor = gate.val.actor ∧
      (∃ current, evaluateActorPermissionGate args.currentActorPermissionProbe request.reviewTarget
          args.evaluatedAt defaultMaxProofAgeSeconds = .ok current ∧
        KeepsPermission args.approval.val current.val) ∧
      (∃ evaluatedTime, parseOptionalUtcZ args.evaluatedAt = some evaluatedTime ∧
        ShowsFreshTarget args.approval.val args.currentTargetProbe evaluatedTime 300)) ∧
    (f.actorPermissionFinalizationCheck.any (fun c => c.val.status = .pass) = true ∧
      f.targetFreshnessCheck.any (fun c => c.val.status = .pass) = true ∧
      f.payloadValidation.any (fun v => v.val.status = .pass) = true ∧
      f.markerReconciliation.any (fun m => m.val.status = .safeToPost) = true) ∧
    ∀ runId input, buildFinalizedIssueCommentWriterInput f args.approval.val runId = .ok input →
      input.val.finalPayload = payload ∧ input.val.runId = request.runId ∧
        some input.val.approvedActor = gate.val.actor := by
  obtain ⟨hproofPass, hgatePass, approval, target, summary, happroval', htarget, hval⟩ :=
    buildApprovalDecision_pass hdecision hpass
  obtain rfl : args.approval = approval := Option.some.inj (happroval.symm.trans happroval')
  obtain ⟨hproofVal, m, visibleBody, fingerprints, hm, hbVal⟩ :=
    ApprovalRequest.finalBuild_of_pass hproof hproofPass hb
  obtain rfl : request.reviewTarget = target := by
    rw [hproofVal] at htarget
    exact Option.some.inj htarget
  have hgateActor : gate.val.actor = some args.approval.val.approvedGithubActor := by
    rw [hval]
    exact gate_actor_of_pass hgatePass
  rcases finalizeGithubPayload_cases hf with hwithheld | ⟨payload', marker, hreleases, hresult⟩
  · rw [hwithheld.finalPayload] at hpayload
    contradiction
  obtain rfl : payload = payload' := Option.some.inj (hpayload.symm.trans hresult.finalPayload)
  have hvalid := hreleases.valid
  -- The hash of the approval is that of the approved body.
  have hbody : canonicalTextBody b.payload.val.body = bodyWithLine visibleBody m.render := by
    rw [hbVal]
    exact canonicalTextBody_bodyWithLine hm.wellFormed.isFinalLine
  have hsame : canonicalTextBody payload.val.body = canonicalTextBody b.payload.val.body := by
    refine hbodies ?_
    have happroved := hreleases.approved
    have hhash : args.approval.val.approvedFinalPayloadHash = b.payload.val.finalPayloadHash := by
      rw [hval, approvalOf, hproofVal]
      rfl
    rw [hhash, hvalid.finalPayload, hbVal] at happroved
    rw [hbody]
    exact happroved
  -- The marker is read back from the body, and it carries the run, the target and the findings.
  have hmarker : payload.val.marker = m := hvalid.marker_eq hm.wellFormed (hsame.trans hbody)
  obtain ⟨text, blank, ending, hfinal⟩ := hvalid.finalBody
  have hmarkerOf := hvalid.isMarkerOf hfinal
  have hitems : b.payload.val.itemFingerprints = Text.sorted fingerprints := by rw [hbVal]; rfl
  have hwriter : ∀ runId input, buildFinalizedIssueCommentWriterInput f args.approval.val runId =
      .ok input → input.val.finalPayload = payload ∧ input.val.runId = payload.val.markerRunId ∧
        some input.val.approvedActor = gate.val.actor := by
    intro runId input hinput
    obtain ⟨hinputPayload, hinputActor⟩ := buildFinalizedIssueCommentWriterInput_ok hinput
    obtain rfl : payload = input.val.finalPayload :=
        Option.some.inj (hpayload.symm.trans hinputPayload)
    refine ⟨rfl, writerInput_runId hinput, ?_⟩
    rw [hinputActor, hgateActor]
  have hrunId : payload.val.markerRunId = request.runId :=
    (congrArg MarkerFields.runId hmarker).trans hm.runId
  refine ⟨⟨hsame, hrunId, ?_, ?_⟩, ⟨?_, ?_, ?_⟩, ⟨hresult.actorCheck, hresult.targetCheck,
    hresult.validation, ?_⟩, ?_⟩
  · exact hmarkerOf.target.symm.trans ((congrArg MarkerFields.target hmarker).trans hm.target)
  · rw [hitems] at hfingerprints ⊢
    exact sorted_eq_of_isMarkerOf hmarkerOf hm hfingerprints
      (congrArg MarkerFields.findings hmarker)
  · rw [hresult.actor, hgateActor]
  · obtain ⟨check, hcheck, hcheckPass⟩ := hreleases.actor
    have htargetEq : args.approval.val.approvedReviewTarget = request.reviewTarget := by
        rw [hval]; rfl
    rw [← htargetEq]
    exact keepsPermission_of_pass hcheck hcheckPass
  · obtain ⟨check, hcheck, hcheckPass⟩ := hreleases.target
    exact showsFreshTarget_of_targetCheck hcheck hcheckPass
  · rw [hresult.markerReconciliation]
    simpa using hreleases.safe
  · intro runId input hinput
    rw [← hrunId]
    exact hwriter runId input hinput

/-! ## A payload that is released -/

/-- A pull request with its merge base. -/
def mergedTarget : Checked ReviewTarget :=
  ⟨⟨['o', '/', 'r'], 1, ['b'], ['h'], some "merge", "merge_base"⟩, by decide +kernel⟩

/-- A probe of a token that may write. -/
def writerProbe : ActorPermissionProbeResult :=
  { namelessProbe with
    actor := .value "alice"
    credentialPrincipal := .value "gh-user:alice"
    checkedTarget := .value mergedTarget }

/-- The summary of the reads is valid. -/
lemma readSummary_postInit : Record.postInit
    (⟨actorPermissionTransportEndpointKind, false, none, none⟩ : ActorPermissionTransportSummary) =
      .ok () := by
  simp [Record.postInit, requireRequestId, actorPermissionTransportEndpointKind]

/-- A summary of a permission that was read. -/
def readSummary : Checked ActorPermissionTransportSummary :=
  ⟨⟨actorPermissionTransportEndpointKind, false, none, none⟩, readSummary_postInit⟩

/-- The gate that the probe passes. -/
def writerGate : Checked ActorPermissionGateResult :=
  ⟨passedGate writerProbe mergedTarget "alice" "gh-user:alice" "pat" "write" readSummary,
    by decide +kernel⟩

/-- The request to approve the first finding, for the target with its merge base. -/
def mergedRequest (p : Checked CandidateIssueCommentPayload) : ApprovalRequest :=
  { keyRequest "opening" p with reviewTarget := mergedTarget }

/-- The proof of the request with some hash of its payload. -/
def mergedProof (finalPayloadHash : Text) : ApprovalProofResult where
  status := .pass
  approvedItemIds := ["opening"]
  approvedReviewTarget := some mergedTarget
  approvedReviewTargetHash := some mergedTarget.val.targetHash
  approvedFinalPayloadHash := some finalPayloadHash
  finalVisibleBodyHash := none
  markerPayloadHash := none
  findingsHash := none
  markerLine := none
  finalRedactionStatus := none
  includePublicVerdict := false
  approvedBy := some "alice"
  timestamp := some "2026-05-07T00:00:00Z"
  reasonCode := none
  reason := none

/-- The approval of the request, up to the hash of its payload. -/
def mergedApproval : Checked ApprovalDecision :=
  ⟨approvalOf (mergedProof hashPrefix) writerGate.val mergedTarget readSummary, by decide +kernel⟩

/-- The arguments to finalize an approval of the request right after it. -/
def mergedArguments (approval : Checked ApprovalDecision) : FinalizationArguments where
  approval := approval
  postingPlan := keyPlan
  approvedFindingsById := findingById [openingFinding, closingFinding]
  currentActorPermissionProbe := writerProbe
  currentTargetProbe := {
    compactProbe with
    currentTarget := .value mergedTarget
    checkedAt := .value "2026-05-07T00:00:00Z" }
  evaluatedAt := "2026-05-07T00:00:00Z"

/-- The preflight and both probes pass. -/
lemma mergedArguments_checks :
    approvalPreflight mergedApproval.val keyPlan.val
      (findingById [openingFinding, closingFinding]) = none ∧
      (mergedArguments mergedApproval).actorCheck.toOption.any (fun c => c.val.status = .pass) =
        true ∧
      (mergedArguments mergedApproval).targetCheck.toOption.any (fun c => c.val.status = .pass) =
        true := by
  decide +kernel

/-- A scan that found no marker. -/
def safeMarker : Checked MarkerReconciliationResult :=
  ⟨{ status := .safeToPost
     reasonCode := .safeToPost
     transportSummary := ⟨⟨markerScanEndpointKind, 1, 0, 0, false, none, none⟩, by decide +kernel⟩
     trustedActor := none
     existingCommentId := none
     duplicateCommentIds := []
     writerInputReleased := false
     finalizationPassed := false
     reason := none }, by decide +kernel⟩

/-- A result with some property is returned. -/
lemma exists_ok_of_any {α : Type} {x : Result α} {P : α → Prop} [DecidablePred P]
    (h : x.toOption.any (fun a => P a) = true) : ∃ a, x = .ok a ∧ P a := by
  cases x with
  | error e => contradiction
  | ok a => exact ⟨a, rfl, of_decide_eq_true h⟩

/-- The candidate of the two findings shows no marker; it does not depend on the merge base. -/
lemma keyCandidate_noMarker : containsMarkerLine (canonicalVisibleBody (redactText (Text.unlines
    (candidateBodyParts mergedTarget.val none false
      [findingLine openingFinding.val, findingLine closingFinding.val]))).text) = false := by
  obtain ⟨p, proof, hproof, hpass⟩ := keyRequest_pass
      (keyRequest_approvedFindings openingFinding_approved)
  obtain ⟨findings, b, hpasses, -⟩ := buildApprovalProof_pass hproof hpass
  obtain ⟨p', hp', hbody, -⟩ := exists_buildCandidateIssueCommentPayload firstPullRequest keyPlan
    [openingFinding, closingFinding]
    [(findingLine openingFinding.val, some openingFinding.val.fingerprint),
      (findingLine closingFinding.val, some closingFinding.val.fingerprint)]
    (by decide +kernel) (by decide +kernel) (by decide +kernel) (by decide +kernel)
    (by decide +kernel) (by decide +kernel)
  obtain rfl : p = p' := Except.ok.inj (hpasses.candidate.symm.trans hp')
  have hmarker := hpasses.noMarker
  change containsMarkerLine p.val.body = false at hmarker
  rw [hbody] at hmarker
  exact hmarker

/-- The request passes, and so does the decision on its proof. -/
lemma mergedRequest_pass :
    ∃ (p : Checked CandidateIssueCommentPayload) (proof : Checked ApprovalProofResult)
    (b : ApprovedFinalIssueCommentBuild) (decision : Checked ApprovalDecisionBuildResult)
    (approval : Checked ApprovalDecision),
      buildApprovalProof (mergedRequest p) = .ok proof ∧ (mergedRequest p).finalBuild = .ok b ∧
      buildApprovalDecision proof writerGate 300 60 = .ok decision ∧ decision.val.status = .pass ∧
      decision.val.approval = some approval ∧
      approval.val =
        { mergedApproval.val with approvedFinalPayloadHash := b.payload.val.finalPayloadHash } ∧
      ValidFinalPayload b.payload.val := by
  obtain ⟨p, hp, hbody, -⟩ := exists_buildCandidateIssueCommentPayload mergedTarget keyPlan
    [openingFinding, closingFinding]
    [(findingLine openingFinding.val, some openingFinding.val.fingerprint),
      (findingLine closingFinding.val, some closingFinding.val.fingerprint)]
    (by decide +kernel) (by decide +kernel) (by decide +kernel) (by decide +kernel)
    (by decide +kernel) (by decide +kernel)
  have hmarker : containsMarkerLine p.val.body = false := by
    rw [hbody]
    exact keyCandidate_noMarker
  obtain ⟨b, hb⟩ : ∃ b, ((mergedRequest p).content [openingFinding]).build ['1'] = .ok b :=
    ApprovedContent.exists_build (by decide +kernel) (by simp [ApprovedContent.fingerprints,
      ApprovalRequest.content])
  have hpasses : (mergedRequest p).Passes [openingFinding] b :=
    ⟨openingFinding_approved, hp, hmarker, hb, by simp [mergedRequest, keyRequest],
      by simp [mergedRequest, keyRequest]⟩
  obtain ⟨proof, hproof, hval⟩ := buildApprovalProof_of_passes hpasses
  have hselects := ApprovalRequest.approvedFindings_selects hpasses.approvedFindings
  have hbuild := (buildApprovedFinalIssueComment_eq_build hselects.selected).trans hpasses.build
  obtain ⟨-, -, hredaction, m, hm, hbVal⟩ := ApprovedContent.build_eq_ok hpasses.build
  have hvalid : ValidFinalPayload b.payload.val := by
    rw [hbVal, validFinalPayload_iff hm, ← containsMarkerLine_eq_false]
    have hshown : containsMarkerLine ((mergedRequest someCandidate).content
        [openingFinding]).visibleBody =
        false := by
      decide +kernel
    exact ⟨hredaction, hshown⟩
  obtain ⟨-, -, -, -, -, -, -, hhash, -⟩ := FinalIssueCommentPayload.postInit_eq_ok.1
      b.payload.property
  have hids : (mergedRequest someCandidate).selectedItems.map (fun i => i.val.id) =
      [("opening" : Text)] := by
    decide +kernel
  have hids' : (mergedRequest p).selectedItems.map (fun i => i.val.id) =
      [("opening" : Text)] := hids
  have happroval : approvalOf proof.val writerGate.val mergedTarget readSummary =
      { mergedApproval.val with approvedFinalPayloadHash := b.payload.val.finalPayloadHash } := by
    rw [hval, approvalOf, ApprovalRequest.passedProof, hids']
    rfl
  have hdecision : Record.postInit ({
      status := .pass
      approval := some ⟨_, approval_withHash mergedApproval hhash⟩
      reasonCode := none
      approvalProofReasonCode := none
      actorPermissionReasonCode := none
      actorPermissionTransportSummary := none
      reason := none } : ApprovalDecisionBuildResult) = .ok () := by
    simp [Record.postInit, requireOptional]
  refine ⟨p, proof, b, ⟨_, hdecision⟩, _, hproof, hbuild, ?_, rfl, rfl, rfl, hvalid⟩
  have hproofStatus : proof.val.status = .pass := by rw [hval]; rfl
  have hproofTarget : proof.val.approvedReviewTarget = some mergedTarget := by rw [hval]; rfl
  have hproofTime : proof.val.timestamp = some "2026-05-07T00:00:00Z" := by rw [hval]; rfl
  have hgateStatus : writerGate.val.status = .pass := rfl
  have hgateSummary : writerGate.val.transportSummary = some readSummary := rfl
  unfold buildApprovalDecision
  dsimp only
  rw [if_neg (not_not.2 hproofStatus), if_neg (not_not.2 hgateStatus), hproofTime,
    if_neg (by decide +kernel), hproofTarget, hgateSummary]
  dsimp only
  rw [if_neg (by decide +kernel), happroval, construct_of_postInit
    (approval_withHash mergedApproval hhash),
    ok_bind]
  exact construct_of_postInit hdecision

/-- An approved payload is released, with the approved body. -/
theorem released_isApproved_merged :
    ∃ (request : ApprovalRequest) (b : ApprovedFinalIssueCommentBuild)
    (args : FinalizationArguments) (finalPayloadBuilder : FinalPayloadBuilder)
    (markerReconciler : MarkerReconciler) (f : FinalizeGithubPayloadResult)
    (payload : Checked FinalIssueCommentPayload),
      args.finalizeGithubPayload finalPayloadBuilder markerReconciler = .ok f ∧
      f.finalPayload = some payload ∧
      canonicalTextBody payload.val.body = canonicalTextBody b.payload.val.body ∧
      payload.val.markerRunId = request.runId := by
  obtain ⟨p, proof, b, decision, approval, hproof, hb, hdecision, hpass, happroval, hval, hvalid⟩ :=
    mergedRequest_pass
  obtain ⟨-, -, -, htargetHash, hpayloadHash, hfindingsHash, -⟩ :=
    FinalIssueCommentPayload.postInit_eq_ok.1 b.payload.property
  have hbound : Record.postInit (⟨safeMarker, b.payload.val.markerTargetHash,
      b.payload.val.markerPayloadHash, b.payload.val.markerFindingsHash⟩ :
      BoundMarkerReconciliationResult) = .ok () := by
    simp only [Record.postInit, check_bind_eq_ok, require_eq_ok, Text.startsWith_iff]
    exact ⟨htargetHash, hpayloadHash, hfindingsHash⟩
  obtain ⟨hpreflight, hactor, htarget⟩ := mergedArguments_checks
  obtain ⟨approval, hchecks⟩ := approval
  obtain rfl := hval
  have hreleases : (mergedArguments ⟨_, hchecks⟩).Releases (some (.ok b.payload))
      (some fun _ => .ok ⟨_, hbound⟩) b.payload ⟨_, hbound⟩ := by
    refine ⟨hpreflight, ?_, ?_, rfl, rfl, hvalid, ⟨_, rfl, rfl⟩, ⟨rfl, rfl, rfl⟩, rfl⟩
    · exact exists_ok_of_any hactor
    · exact exists_ok_of_any htarget
  obtain ⟨f, hf, hreleased⟩ := exists_released hreleases
  have hpayload : f.finalPayload = some b.payload := by
    rcases finalizeGithubPayload_cases hf with hwithheld | ⟨payload, marker, hreleases', hresult⟩
    · rw [hwithheld.released] at hreleased
      contradiction
    · rw [hresult.finalPayload]
      exact congrArg some (Except.ok.inj (Option.some.inj hreleases'.builder)).symm
  have hsorted : Text.sorted b.payload.val.itemFingerprints = b.payload.val.itemFingerprints := by
    obtain ⟨-, m, visibleBody, fingerprints, -, hbVal⟩ :=
      ApprovalRequest.finalBuild_of_pass hproof (buildApprovalDecision_pass hdecision hpass).1 hb
    rw [hbVal]
    exact Text.sorted_sorted _
  have happroved := released_isApproved (mergedRequest p) proof b writerGate 300 60 decision hproof
      hb
    hdecision hpass (mergedArguments ⟨_, hchecks⟩) happroval _ _ f hf b.payload hpayload (fun _ =>
      rfl)
    (by rw [hsorted]; exact fun _ => rfl)
  exact ⟨_, b, _, _, _, f, b.payload, hf, hpayload, happroved.1.1, happroved.1.2.1⟩

end FinalizationArguments

end ReviewGraph
