import ReviewGraph.FakePosts
import ReviewGraph.PermissionGate

/-!
# Target freshness

`validate_target_freshness_for_finalization` of `finalization.py`: a probe reports the target of the
pull request before it is posted to.  The timestamp of the probe is read by the standard library,
which accepts more formats than the result of the check does.
-/

namespace ReviewGraph

/-! ## Probes -/

/-- `TargetFreshnessProbeResult`. -/
structure TargetFreshnessProbeResult where
  currentTarget : ProbeField (Checked ReviewTarget)
  checkedAt : ProbeField Text
  checkMethod : ProbeField Text
  transportReasonCode : ProbeField TargetFreshnessReasonCode
  requestId : ProbeField Text
  unknownRetryable : ProbeField Bool
  reason : ProbeField Text
  deriving DecidableEq

/-- `TARGET_MAX_FUTURE_SKEW_SECONDS`. -/
def targetMaxFutureSkewSeconds : ℤ := 60

/-- `_parse_optional_utc_z` of `finalization.py`, in microseconds. -/
def parseOptionalUtcZ (value : Text) : Option ℤ :=
  if value.getLast? = some 'Z' ∧ 'T' ∈ value then readUtc value else none

/-- `_target_mismatched_fields`. -/
def targetMismatchedFields (approved current : ReviewTarget) : List Text :=
  ([("owner_repo", approved.ownerRepo ≠ current.ownerRepo),
    ("pr_number", approved.prNumber ≠ current.prNumber),
    ("base_sha", approved.baseSha ≠ current.baseSha),
    ("head_sha", approved.headSha ≠ current.headSha),
    ("merge_base_sha", approved.mergeBaseSha ≠ current.mergeBaseSha),
    ("diff_basis", approved.diffBasis ≠ current.diffBasis)] : List (Text × Bool)).filterMap
      fun comparison => if comparison.2 then some comparison.1 else none

/-! ## The check -/

/-- The arguments of `_target_fail`, with those of its transport summary. -/
structure TargetFailure where
  reasonCode : TargetFreshnessReasonCode
  requestId : ProbeField Text
  transportReasonCode : Option TargetFreshnessReasonCode := none
  retryable : Bool := false
  currentTarget : Option (Checked ReviewTarget) := none
  checkedAt : Option Text := none
  mismatchedFields : List Text := []
  reason : Text

/-- `_target_transport_summary`. -/
def targetTransportSummary (requestId : ProbeField Text)
    (reasonCode : Option TargetFreshnessReasonCode) (retryable : Bool) :
    Result (Checked TargetFreshnessTransportSummary) :=
  construct {
    endpointKind := targetFreshnessTransportEndpointKind
    retryable
    reasonCode
    requestId := safeProbeRequestId requestId }

/-- `_target_fail`. -/
def targetFail (failure : TargetFailure) : Result (Checked TargetFreshnessCheckResult) := do
  let transportSummary ← targetTransportSummary failure.requestId failure.transportReasonCode
    failure.retryable
  construct {
    status := .fail
    reasonCode := some failure.reasonCode
    transportSummary := some transportSummary
    currentTarget := failure.currentTarget
    currentTargetHash := failure.currentTarget.map fun target => target.val.targetHash
    currentCheckedAt := failure.checkedAt
    checkMethod := some targetFreshnessCheckMethod
    mismatchedFields := failure.mismatchedFields
    reason := some failure.reason }

/-- The checks of a probe, in the order of the code; they yield the current target and the time of
the check as it was written. -/
def checkTarget (approval : ApprovalDecision) (probe : TargetFreshnessProbeResult)
    (evaluatedTime maxProofAgeSeconds : ℤ) : Except TargetFailure (Checked ReviewTarget × Text) :=
  match parseOptionalUtcZ approval.timestamp with
  | none => .error {
      reasonCode := .malformedResponse, requestId := .absent
      reason := "approval timestamp is malformed" }
  | some approvedTime =>
  match probe.unknownRetryable.get? with
  | none => .error {
      reasonCode := .malformedResponse, requestId := probe.requestId
      reason := "target freshness retryability is malformed" }
  | some unknownRetryable =>
  match probe.transportReasonCode with
  | .malformed => .error {
      reasonCode := .malformedResponse, requestId := probe.requestId
      transportReasonCode := some .malformedResponse
      reason := "target freshness transport reason is malformed" }
  | .value code =>
    if code ∉ targetFreshnessTransportReasonCodes then .error {
      reasonCode := .malformedResponse, requestId := probe.requestId
      transportReasonCode := some .malformedResponse
      reason := "target freshness transport reason is unsupported" }
    else .error {
      reasonCode := code, requestId := probe.requestId
      transportReasonCode := some code
      retryable := code ∈ targetFreshnessRetryableReasonCodes
      reason := "target freshness transport failed: " ++ code.value }
  | .absent =>
  match probe.currentTarget with
  | .absent => .error {
      reasonCode := .unknownFreshness, requestId := probe.requestId
      transportReasonCode := some .unknownFreshness
      retryable := unknownRetryable
      reason := "target freshness is unknown" }
  | .malformed => .error {
      reasonCode := .malformedResponse, requestId := probe.requestId
      reason := "target freshness current target is malformed" }
  | .value currentTarget =>
  if probe.checkMethod ≠ .value targetFreshnessCheckMethod then .error {
      reasonCode := .malformedResponse, requestId := probe.requestId
      currentTarget := some currentTarget
      reason := "target freshness check method is malformed" }
  else if currentTarget.val.mergeBaseSha = none ∨
      approval.approvedReviewTarget.val.mergeBaseSha = none then .error {
      reasonCode := .missingMergeBase, requestId := probe.requestId
      currentTarget := some currentTarget
      checkedAt := probe.checkedAt.get?.filter fun value => (parseOptionalUtcZ value).isSome
      reason := "target freshness requires merge base" }
  else
  match probe.checkedAt with
  | .absent => .error {
      reasonCode := .missingCheckedAt, requestId := probe.requestId
      currentTarget := some currentTarget
      reason := "target freshness checked_at is missing" }
  | .malformed => .error {
      reasonCode := .malformedResponse, requestId := probe.requestId
      currentTarget := some currentTarget
      reason := "target freshness checked_at is malformed" }
  | .value checkedAt =>
  match parseOptionalUtcZ checkedAt with
  | none => .error {
      reasonCode := .malformedResponse, requestId := probe.requestId
      currentTarget := some currentTarget
      reason := "target freshness checked_at is malformed" }
  | some checkedTime =>
  if maxProofAgeSeconds < totalSeconds evaluatedTime checkedTime then .error {
      reasonCode := .staleCachedTarget, requestId := probe.requestId
      currentTarget := some currentTarget, checkedAt := some checkedAt
      reason := "target freshness proof is stale" }
  else if totalSeconds evaluatedTime checkedTime < -targetMaxFutureSkewSeconds then .error {
      reasonCode := .futureCheckedAt, requestId := probe.requestId
      currentTarget := some currentTarget, checkedAt := some checkedAt
      reason := "target freshness proof is from the future" }
  else if checkedTime < approvedTime then .error {
      reasonCode := .checkedAtBeforeApproval, requestId := probe.requestId
      currentTarget := some currentTarget, checkedAt := some checkedAt
      mismatchedFields := ["checked_at"]
      reason := "target freshness proof predates approval" }
  else
    let mismatchedFields :=
      targetMismatchedFields approval.approvedReviewTarget.val currentTarget.val
    if mismatchedFields ≠ [] then .error {
      reasonCode := .targetMismatch, requestId := probe.requestId
      currentTarget := some currentTarget, checkedAt := some checkedAt
      mismatchedFields
      reason := "current target differs from approved target" }
    else .ok (currentTarget, checkedAt)

/-- `validate_target_freshness_for_finalization`. -/
def validateTargetFreshnessForFinalization (approval : Checked ApprovalDecision)
    (currentProbe : TargetFreshnessProbeResult) (evaluatedAt : Text) (maxProofAgeSeconds : ℤ) :
    Result (Checked TargetFreshnessCheckResult) :=
  match parseOptionalUtcZ evaluatedAt with
  | none => .error (.valueError "timestamp must be UTC RFC3339 with trailing Z")
  | some evaluatedTime =>
    match checkTarget approval.val currentProbe evaluatedTime maxProofAgeSeconds with
    | .error failure => targetFail failure
    | .ok (currentTarget, checkedAt) => do
      let transportSummary ← targetTransportSummary currentProbe.requestId none false
      construct {
        status := .pass
        reasonCode := none
        transportSummary := some transportSummary
        currentTarget := some currentTarget
        currentTargetHash := some currentTarget.val.targetHash
        currentCheckedAt := some checkedAt
        checkMethod := some targetFreshnessCheckMethod
        mismatchedFields := []
        reason := none }

/-! ## Failures -/

/-- The fields of a failure, up to the time of the check, are the ones that a result accepts. -/
structure TargetFailure.WellFormed (f : TargetFailure) : Prop where
  reason : isSafeActorPermissionReason f.reason = true
  transport : ∀ code ∈ f.transportReasonCode, code ∈ targetFreshnessTransportReasonCodes ∨
    code = .unknownFreshness
  retryable : f.transportReasonCode = some .unknownFreshness ∨
    f.retryable = f.transportReasonCode.any (· ∈ targetFreshnessRetryableReasonCodes)
  mismatchedFields : ∀ field ∈ f.mismatchedFields, field ∈ targetFreshnessMismatchFields
  mismatch : f.reasonCode = .targetMismatch → f.mismatchedFields ≠ []
  regression : f.reasonCode = .checkedAtBeforeApproval → f.mismatchedFields = ["checked_at"]

/-- A value can be built exactly if its checks pass. -/
lemma exists_construct {α : Type} [Record α] {a : α} :
    (∃ r, construct a = .ok r) ↔ Record.postInit a = .ok () := by
  constructor
  · rintro ⟨r, hr⟩
    rw [← construct_eq_ok.1 hr]
    exact r.property
  · exact fun h => ⟨_, construct_of_postInit h⟩

/-- The summary of a transport whose reason and retryability fit is complete. -/
lemma targetTransportSummary_ok {requestId : ProbeField Text}
    {reasonCode : Option TargetFreshnessReasonCode} {retryable : Bool}
    (htransport : ∀ code ∈ reasonCode, code ∈ targetFreshnessTransportReasonCodes ∨
      code = .unknownFreshness)
    (hretryable : reasonCode = some .unknownFreshness ∨
      retryable = reasonCode.any (· ∈ targetFreshnessRetryableReasonCodes)) :
    ∃ summary, targetTransportSummary requestId reasonCode retryable = .ok summary ∧
      summary.val.reasonCode = reasonCode ∧ summary.val.retryable = retryable := by
  have hkind : targetFreshnessTransportEndpointKind ≠ [] := by
    simp [targetFreshnessTransportEndpointKind, Text.ofString_eq]
  have hpost : Record.postInit ({
      endpointKind := targetFreshnessTransportEndpointKind
      retryable
      reasonCode
      requestId := safeProbeRequestId requestId } : TargetFreshnessTransportSummary) = .ok () := by
    simp only [Record.postInit, check_bind_eq_ok, requireNonEmpty_eq_ok, require_eq_ok, true_and]
    exact ⟨hkind, htransport, hretryable, requireRequestId_safeProbe _ _⟩
  exact ⟨⟨_, hpost⟩, construct_of_postInit hpost, rfl, rfl⟩

/-- The texts of the check are not empty. -/
lemma targetFreshnessTexts : targetFreshnessCheckMethod ≠ [] ∧
    ∀ field ∈ targetFreshnessMismatchFields, field ≠ [] := by
  simp [targetFreshnessCheckMethod, targetFreshnessMismatchFields, Text.ofString_eq]

/-- A well-formed failure is reported exactly if the time of its check, if it has one, is
realistic. -/
lemma targetFail_ok_iff {f : TargetFailure} (h : f.WellFormed) :
    (∃ r, targetFail f = .ok r ∧ r.val.status = .fail) ↔
      ∀ checkedAt ∈ f.checkedAt, isRealisticRfc3339UtcZ checkedAt = true := by
  obtain ⟨summary, hsummary, -⟩ := @targetTransportSummary_ok f.requestId f.transportReasonCode
      f.retryable
    h.transport h.retryable
  have hreason : f.reason ≠ [] := by
    intro hnil
    have hsafe := h.reason
    rw [hnil] at hsafe
    simp [isSafeActorPermissionReason] at hsafe
  have hnotNil : isRealisticRfc3339UtcZ [] = false := by decide
  unfold targetFail
  rw [hsummary, ok_bind]
  have hstatus : ∀ a : TargetFreshnessCheckResult, a.status = .fail →
      ((∃ r, construct a = .ok r ∧ r.val.status = .fail) ↔ ∃ r, construct a = .ok r) := by
    intro a ha
    constructor
    · rintro ⟨r, hr, -⟩
      exact ⟨r, hr⟩
    · rintro ⟨r, hr⟩
      exact ⟨r, hr, by rw [construct_eq_ok.1 hr, ha]⟩
  rw [hstatus _ rfl, exists_construct]
  simp only [Record.postInit, check_bind_eq_ok, require_eq_ok, requireOptionalNonEmpty_eq_ok,
    requireOptionalHashLike_eq_ok, requireAllowedStrTuple_eq_ok, requireOptional, reduceCtorEq,
    if_false]
  constructor
  · rintro ⟨-, -, -, hrealistic, -⟩
    exact hrealistic
  · intro hrealistic
    refine ⟨by
      simp, ?_, ?_, hrealistic, by simp [targetFreshnessTexts.1], by simp, ⟨?_, h.mismatchedFields⟩,
      by simp [hreason], by simp [h.reason], by simp, by simp, ?_, ?_, ?_⟩
    · intro hash hhash
      obtain ⟨target, -, rfl⟩ := Option.map_eq_some_iff.1 hhash
      exact (ReviewTarget.isStrictSha256_targetHash _).hashPrefix_accepted
    · intro hnil
      have hsome := hrealistic [] (by rw [hnil]; rfl)
      rw [hnotNil] at hsome
      contradiction
    · exact fun field hfield => targetFreshnessTexts.2 field (h.mismatchedFields field hfield)
    · exact fun hcode => h.mismatch (Option.some.inj hcode)
    · exact fun hcode => h.regression (Option.some.inj hcode)
    · intro target htarget
      rw [Option.mem_def.1 htarget, Option.map_some]

/-! ## What a probe shows -/

/-- The check reads the time of a probe: no earlier check fails. -/
structure ReadsCheckedAt (approval : ApprovalDecision) (probe : TargetFreshnessProbeResult)
    (checkedAt : Text) : Prop where
  timestamp : (parseOptionalUtcZ approval.timestamp).isSome = true
  unknownRetryable : probe.unknownRetryable.get?.isSome = true
  transportReasonCode : probe.transportReasonCode = .absent
  currentTarget : probe.currentTarget.get?.isSome = true
  checkMethod : probe.checkMethod = .value targetFreshnessCheckMethod
  isCheckedAt : probe.checkedAt = .value checkedAt
  checkedTime : (parseOptionalUtcZ checkedAt).isSome = true

/-- The probe shows the approved target, with its merge base, at a time that is neither before the
approval nor too old nor in the future. -/
structure ShowsFreshTarget (approval : ApprovalDecision) (probe : TargetFreshnessProbeResult)
    (evaluatedTime maxProofAgeSeconds : ℤ) : Prop where
  currentTarget : probe.currentTarget = .value approval.approvedReviewTarget
  mergeBase : approval.approvedReviewTarget.val.mergeBaseSha ≠ none
  times : ∃ checkedAt checkedTime approvedTime, probe.checkedAt = .value checkedAt ∧
    parseOptionalUtcZ checkedAt = some checkedTime ∧
    parseOptionalUtcZ approval.timestamp = some approvedTime ∧ approvedTime ≤ checkedTime ∧
    -(targetMaxFutureSkewSeconds : ℚ) ≤ totalSeconds evaluatedTime checkedTime ∧
    totalSeconds evaluatedTime checkedTime ≤ maxProofAgeSeconds

/-- Targets without mismatched fields are the same. -/
lemma targetMismatchedFields_eq_nil {approved current : ReviewTarget} :
    targetMismatchedFields approved current = [] ↔ current = approved := by
  have hfields : targetMismatchedFields approved current = [] ↔
      approved.ownerRepo = current.ownerRepo ∧ approved.prNumber = current.prNumber ∧
        approved.baseSha = current.baseSha ∧ approved.headSha = current.headSha ∧
        approved.mergeBaseSha = current.mergeBaseSha ∧ approved.diffBasis = current.diffBasis := by
    rw [targetMismatchedFields, List.filterMap_eq_nil_iff]
    simp
  rw [hfields]
  constructor
  · rintro ⟨h₁, h₂, h₃, h₄, h₅, h₆⟩
    obtain ⟨_, _, _, _, _, _⟩ := approved
    obtain ⟨_, _, _, _, _, _⟩ := current
    simp_all
  · rintro rfl
    exact ⟨rfl, rfl, rfl, rfl, rfl, rfl⟩

/-- Mismatched fields are fields that a result may name. -/
lemma mem_targetMismatchedFields {approved current : ReviewTarget} {field : Text}
    (h : field ∈ targetMismatchedFields approved current) :
      field ∈ targetFreshnessMismatchFields := by
  obtain ⟨comparison, hmem, hsome⟩ := List.mem_filterMap.1 h
  split at hsome
  · obtain rfl := Option.some.inj hsome
    have hname := @List.mem_map_of_mem _ _ _ _ Prod.fst hmem
    simp only [List.map_cons, List.map_nil] at hname
    unfold targetFreshnessMismatchFields
    exact List.mem_append_left (["checked_at"] : List Text) hname
  · contradiction

/-- The reasons of the check are safe. -/
lemma targetReasons_safe : ([
    "approval timestamp is malformed", "target freshness retryability is malformed",
    "target freshness transport reason is malformed",
    "target freshness transport reason is unsupported", "target freshness is unknown",
    "target freshness current target is malformed", "target freshness check method is malformed",
    "target freshness requires merge base", "target freshness checked_at is missing",
    "target freshness checked_at is malformed", "target freshness proof is stale",
    "target freshness proof is from the future", "target freshness proof predates approval",
    "current target differs from approved target"] : List Text).all isSafeActorPermissionReason =
      true := by
  decide +kernel

section Branches

variable {approval : ApprovalDecision} {probe : TargetFreshnessProbeResult}
  {evaluatedTime maxProofAgeSeconds approvedTime : ℤ} {unknownRetryable : Bool}

/-- A code of the transport is passed on if it is one of its codes. -/
lemma checkTarget_transportCode {code : TargetFreshnessReasonCode}
    (htimestamp : parseOptionalUtcZ approval.timestamp = some approvedTime)
    (hretryable : probe.unknownRetryable.get? = some unknownRetryable)
    (htransport : probe.transportReasonCode = .value code) :
    match checkTarget approval probe evaluatedTime maxProofAgeSeconds with
    | .error f => f.WellFormed ∧
        ∀ checkedAt, f.checkedAt = some checkedAt ↔ ReadsCheckedAt approval probe checkedAt
    | .ok (_, checkedAt) => ReadsCheckedAt approval probe checkedAt ∧
        ShowsFreshTarget approval probe evaluatedTime maxProofAgeSeconds := by
  have hsafe := targetReasons_safe
  simp only [List.all_cons, List.all_nil, Bool.and_true, Bool.and_eq_true] at hsafe
  have hnot : ∀ checkedAt, ¬ ReadsCheckedAt approval probe checkedAt := by
    intro checkedAt h
    rw [h.transportReasonCode] at htransport
    contradiction
  unfold checkTarget
  rw [htimestamp]
  dsimp only
  rw [hretryable]
  dsimp only
  rw [htransport]
  dsimp only
  by_cases hcode : code ∉ targetFreshnessTransportReasonCodes
  · have hmalformed :
        TargetFreshnessReasonCode.malformedResponse ∈ targetFreshnessTransportReasonCodes := by
      decide
    rw [if_pos hcode]
    exact ⟨⟨hsafe.2.2.2.1, by simp [hmalformed], Or.inr rfl, by simp, by simp, by simp⟩,
      fun checkedAt => iff_of_false (by simp) (hnot checkedAt)⟩
  · rw [if_neg hcode]
    have hcode := not_not.1 hcode
    have hreasons : targetFreshnessTransportReasonCodes.all (fun code =>
        isSafeActorPermissionReason ("target freshness transport failed: " ++ code.value)) =
          true := by
      decide +kernel
    have hcodes : ∀ code ∈ targetFreshnessTransportReasonCodes, code ≠ .targetMismatch ∧
        code ≠ .checkedAtBeforeApproval := by
      decide
    exact ⟨⟨List.all_eq_true.1 hreasons _ hcode, by simp [hcode], Or.inr (by simp), by simp,
      fun h => absurd h (hcodes code hcode).1, fun h => absurd h (hcodes code hcode).2⟩,
      fun checkedAt => iff_of_false (by simp) (hnot checkedAt)⟩

/-- Once the time of the check is read, it is in the failure, or the target is fresh. -/
lemma checkTarget_checkedAt {currentTarget : Checked ReviewTarget} {checkedAt : Text}
    {checkedTime : ℤ} (htimestamp : parseOptionalUtcZ approval.timestamp = some approvedTime)
    (hretryable : probe.unknownRetryable.get? = some unknownRetryable)
    (htransport : probe.transportReasonCode = .absent)
    (htarget : probe.currentTarget = .value currentTarget)
    (hmethod : probe.checkMethod = .value targetFreshnessCheckMethod)
    (hmerge : ¬ (currentTarget.val.mergeBaseSha = none ∨
      approval.approvedReviewTarget.val.mergeBaseSha = none))
    (hvalue : probe.checkedAt = .value checkedAt)
    (hparse : parseOptionalUtcZ checkedAt = some checkedTime) :
    match checkTarget approval probe evaluatedTime maxProofAgeSeconds with
    | .error f => f.WellFormed ∧
        ∀ checkedAt, f.checkedAt = some checkedAt ↔ ReadsCheckedAt approval probe checkedAt
    | .ok (_, checkedAt) => ReadsCheckedAt approval probe checkedAt ∧
        ShowsFreshTarget approval probe evaluatedTime maxProofAgeSeconds := by
  have hsafe := targetReasons_safe
  simp only [List.all_cons, List.all_nil, Bool.and_true, Bool.and_eq_true] at hsafe
  obtain ⟨-, -, -, -, -, -, -, -, -, -, hstaleSafe, hfutureSafe, hbeforeSafe, hmismatchSafe⟩ :=
      hsafe
  have hread : ReadsCheckedAt approval probe checkedAt :=
    ⟨by simp [htimestamp], by simp [hretryable], htransport, by simp [htarget, ProbeField.get?],
      hmethod, hvalue, by rw [hparse]; rfl⟩
  have hsame : ∀ checkedAt', some checkedAt = some checkedAt' ↔
      ReadsCheckedAt approval probe checkedAt' := by
    intro checkedAt'
    constructor
    · intro h
      rw [← Option.some.inj h]
      exact hread
    · intro h
      rw [ProbeField.value.inj (hvalue.symm.trans h.isCheckedAt)]
  unfold checkTarget
  rw [htimestamp]
  dsimp only
  rw [hretryable]
  dsimp only
  rw [htransport]
  dsimp only
  rw [htarget]
  dsimp only
  rw [if_neg (not_not.2 hmethod), if_neg hmerge, hvalue]
  dsimp only
  rw [hparse]
  dsimp only
  by_cases hstale : maxProofAgeSeconds < totalSeconds evaluatedTime checkedTime
  · rw [if_pos hstale]
    exact ⟨⟨hstaleSafe, by simp, Or.inr rfl, by simp, by simp, by simp⟩, hsame⟩
  rw [if_neg hstale]
  by_cases hfuture : totalSeconds evaluatedTime checkedTime < -targetMaxFutureSkewSeconds
  · rw [if_pos hfuture]
    exact ⟨⟨hfutureSafe, by simp, Or.inr rfl, by simp, by simp, by simp⟩, hsame⟩
  rw [if_neg hfuture]
  by_cases hbefore : checkedTime < approvedTime
  · rw [if_pos hbefore]
    refine ⟨⟨hbeforeSafe, by simp, Or.inr rfl, ?_, by simp, by simp⟩, hsame⟩
    simp [targetFreshnessMismatchFields]
  rw [if_neg hbefore]
  by_cases hmismatch :
      targetMismatchedFields approval.approvedReviewTarget.val currentTarget.val ≠ []
  · rw [if_pos hmismatch]
    exact ⟨⟨hmismatchSafe, by simp, Or.inr rfl, fun _ => mem_targetMismatchedFields,
      fun _ => hmismatch, by simp⟩, hsame⟩
  rw [if_neg hmismatch]
  obtain rfl : currentTarget = approval.approvedReviewTarget :=
    Subtype.ext (targetMismatchedFields_eq_nil.1 (not_not.1 hmismatch))
  rw [not_or] at hmerge
  exact ⟨hread, htarget, hmerge.2, checkedAt, checkedTime, approvedTime, hvalue, hparse, htimestamp,
    not_lt.1 hbefore, not_lt.1 hfuture, not_lt.1 hstale⟩

end Branches

/-- The checks of a probe fail with a well-formed failure, which has the time of the check exactly
if that is read, or the probe shows a fresh target. -/
lemma checkTarget_spec (approval : ApprovalDecision) (probe : TargetFreshnessProbeResult)
    (evaluatedTime maxProofAgeSeconds : ℤ) :
    match checkTarget approval probe evaluatedTime maxProofAgeSeconds with
    | .error f => f.WellFormed ∧
        ∀ checkedAt, f.checkedAt = some checkedAt ↔ ReadsCheckedAt approval probe checkedAt
    | .ok (_, checkedAt) => ReadsCheckedAt approval probe checkedAt ∧
        ShowsFreshTarget approval probe evaluatedTime maxProofAgeSeconds := by
  have hsafe := targetReasons_safe
  simp only [List.all_cons, List.all_nil, Bool.and_true, Bool.and_eq_true] at hsafe
  obtain ⟨hsafe₁, hsafe₂, hsafe₃, -, hsafe₅, hsafe₆, hsafe₇, hsafe₈, hsafe₉, hsafe₁₀, -⟩ := hsafe
  cases htimestamp : parseOptionalUtcZ approval.timestamp with
  | none =>
    simp only [checkTarget, htimestamp]
    refine ⟨⟨hsafe₁, by simp, Or.inr rfl, by simp, by simp, by simp⟩, fun checkedAt => ?_⟩
    refine iff_of_false (by simp) fun h => ?_
    have hread := h.timestamp
    rw [htimestamp] at hread
    contradiction
  | some approvedTime =>
  cases hretryable : probe.unknownRetryable.get? with
  | none =>
    simp only [checkTarget, htimestamp, hretryable]
    refine ⟨⟨hsafe₂, by simp, Or.inr rfl, by simp, by simp, by simp⟩, fun checkedAt => ?_⟩
    refine iff_of_false (by simp) fun h => ?_
    have hread := h.unknownRetryable
    rw [hretryable] at hread
    contradiction
  | some unknownRetryable =>
  cases htransport : probe.transportReasonCode with
  | malformed =>
    have hmalformed :
        TargetFreshnessReasonCode.malformedResponse ∈ targetFreshnessTransportReasonCodes := by
      decide
    simp only [checkTarget, htimestamp, hretryable, htransport]
    refine ⟨⟨hsafe₃, by simp [hmalformed], Or.inr rfl, by simp, by simp, by simp⟩,
      fun checkedAt => ?_⟩
    refine iff_of_false (by simp) fun h => ?_
    rw [h.transportReasonCode] at htransport
    contradiction
  | value code => exact checkTarget_transportCode htimestamp hretryable htransport
  | absent =>
  cases htarget : probe.currentTarget with
  | absent =>
    simp only [checkTarget, htimestamp, hretryable, htransport, htarget]
    refine ⟨⟨hsafe₅, by simp, Or.inl rfl, by simp, by simp, by simp⟩, fun checkedAt => ?_⟩
    refine iff_of_false (by simp) fun h => ?_
    have hread := h.currentTarget
    rw [htarget] at hread
    contradiction
  | malformed =>
    simp only [checkTarget, htimestamp, hretryable, htransport, htarget]
    refine ⟨⟨hsafe₆, by simp, Or.inr rfl, by simp, by simp, by simp⟩, fun checkedAt => ?_⟩
    refine iff_of_false (by simp) fun h => ?_
    have hread := h.currentTarget
    rw [htarget] at hread
    contradiction
  | value currentTarget =>
  by_cases hmethod : probe.checkMethod ≠ .value targetFreshnessCheckMethod
  · simp only [checkTarget, htimestamp, hretryable, htransport, htarget]
    rw [if_pos hmethod]
    exact ⟨⟨hsafe₇, by simp, Or.inr rfl, by simp, by simp, by simp⟩,
      fun checkedAt => iff_of_false (by simp) fun h => hmethod h.checkMethod⟩
  have hmethod := not_not.1 hmethod
  by_cases hmerge : currentTarget.val.mergeBaseSha = none ∨
      approval.approvedReviewTarget.val.mergeBaseSha = none
  · simp only [checkTarget, htimestamp, hretryable, htransport, htarget]
    rw [if_neg (not_not.2 hmethod), if_pos hmerge]
    refine ⟨⟨hsafe₈, by simp, Or.inr rfl, by simp, by simp, by simp⟩, fun checkedAt => ?_⟩
    rw [Option.filter_eq_some_iff]
    constructor
    · rintro ⟨hget, hsome⟩
      cases hvalue : probe.checkedAt with
      | value a =>
        rw [hvalue] at hget
        rw [← Option.some.inj hget] at hsome ⊢
        exact ⟨by simp [htimestamp], by simp [hretryable], htransport,
          by simp [htarget, ProbeField.get?], hmethod, hvalue, hsome⟩
      | absent => rw [hvalue] at hget; contradiction
      | malformed => rw [hvalue] at hget; contradiction
    · intro h
      exact ⟨by rw [h.isCheckedAt]; rfl, h.checkedTime⟩
  cases hvalue : probe.checkedAt with
  | absent =>
    simp only [checkTarget, htimestamp, hretryable, htransport, htarget, hvalue]
    rw [if_neg (not_not.2 hmethod), if_neg hmerge]
    refine ⟨⟨hsafe₉, by simp, Or.inr rfl, by simp, by simp, by simp⟩, fun checkedAt => ?_⟩
    refine iff_of_false (by simp) fun h => ?_
    rw [h.isCheckedAt] at hvalue
    contradiction
  | malformed =>
    simp only [checkTarget, htimestamp, hretryable, htransport, htarget, hvalue]
    rw [if_neg (not_not.2 hmethod), if_neg hmerge]
    refine ⟨⟨hsafe₁₀, by simp, Or.inr rfl, by simp, by simp, by simp⟩, fun checkedAt => ?_⟩
    refine iff_of_false (by simp) fun h => ?_
    rw [h.isCheckedAt] at hvalue
    contradiction
  | value checkedAt =>
  cases hparse : parseOptionalUtcZ checkedAt with
  | none =>
    simp only [checkTarget, htimestamp, hretryable, htransport, htarget, hvalue, hparse]
    rw [if_neg (not_not.2 hmethod), if_neg hmerge]
    refine ⟨⟨hsafe₁₀, by simp, Or.inr rfl, by simp, by simp, by simp⟩, fun checkedAt' => ?_⟩
    refine iff_of_false (by simp) fun h => ?_
    obtain rfl := ProbeField.value.inj (hvalue.symm.trans h.isCheckedAt)
    have hread := h.checkedTime
    rw [hparse] at hread
    contradiction
  | some checkedTime =>
    exact checkTarget_checkedAt htimestamp hretryable htransport htarget hmethod hmerge hvalue
      hparse

/-! ## Results of the check -/

section Results

variable {approval : Checked ApprovalDecision} {probe : TargetFreshnessProbeResult}
  {evaluatedAt : Text}
  {evaluatedTime maxProofAgeSeconds : ℤ}

/-- A result of the check that passes shows a fresh target. -/
lemma showsFreshTarget_of_pass (hevaluated : parseOptionalUtcZ evaluatedAt = some evaluatedTime)
    {r : Checked TargetFreshnessCheckResult}
    (hr : validateTargetFreshnessForFinalization approval probe evaluatedAt maxProofAgeSeconds =
      .ok r)
    (hpass : r.val.status = .pass) :
    ShowsFreshTarget approval.val probe evaluatedTime maxProofAgeSeconds := by
  have hspec := checkTarget_spec approval.val probe evaluatedTime maxProofAgeSeconds
  unfold validateTargetFreshnessForFinalization at hr
  rw [hevaluated] at hr
  dsimp only at hr
  cases hcheck : checkTarget approval.val probe evaluatedTime maxProofAgeSeconds with
  | error f =>
    rw [hcheck] at hr
    obtain ⟨summary, -, hconstruct⟩ := bind_eq_ok.1 hr
    rw [construct_eq_ok.1 hconstruct] at hpass
    contradiction
  | ok values =>
    rw [hcheck] at hspec
    exact hspec.2

/-- The check returns a result exactly if the time of the check, when it is read, has the format of
a result. -/
lemma exists_targetFreshness_iff (hevaluated : parseOptionalUtcZ evaluatedAt = some evaluatedTime) :
    (∃ r, validateTargetFreshnessForFinalization approval probe evaluatedAt maxProofAgeSeconds =
      .ok r) ↔
      ∀ checkedAt, ReadsCheckedAt approval.val probe checkedAt →
        isRealisticRfc3339UtcZ checkedAt = true := by
  have hspec := checkTarget_spec approval.val probe evaluatedTime maxProofAgeSeconds
  unfold validateTargetFreshnessForFinalization
  rw [hevaluated]
  dsimp only
  cases hcheck : checkTarget approval.val probe evaluatedTime maxProofAgeSeconds with
  | error f =>
    rw [hcheck] at hspec
    obtain ⟨hwell, hreads⟩ := hspec
    have hiff := targetFail_ok_iff hwell
    dsimp only
    constructor
    · rintro ⟨r, hr⟩ checkedAt hread
      have hfails : ∃ r, targetFail f = .ok r ∧ r.val.status = .fail := by
        refine ⟨r, hr, ?_⟩
        obtain ⟨summary, -, hconstruct⟩ := bind_eq_ok.1 hr
        rw [construct_eq_ok.1 hconstruct]
      exact hiff.1 hfails checkedAt ((hreads checkedAt).2 hread)
    · intro hrealistic
      obtain ⟨r, hr, -⟩ := hiff.2 fun checkedAt hmem =>
        hrealistic checkedAt ((hreads checkedAt).1 hmem)
      exact ⟨r, hr⟩
  | ok values =>
    rw [hcheck] at hspec
    obtain ⟨currentTarget, checkedAt⟩ := values
    obtain ⟨hread, -⟩ := hspec
    obtain ⟨summary, hsummary, hcode, hretryable⟩ := @targetTransportSummary_ok probe.requestId none
        false
      (by simp) (Or.inr rfl)
    dsimp only
    rw [hsummary, ok_bind, exists_construct]
    have hnotNil : isRealisticRfc3339UtcZ [] = false := by decide
    simp only [Record.postInit, check_bind_eq_ok, require_eq_ok, requireOptionalNonEmpty_eq_ok,
      requireOptionalHashLike_eq_ok, requireAllowedStrTuple_eq_ok, requireOptional,
      requireEach_eq_ok, if_true]
    constructor
    · rintro ⟨-, -, -, hrealistic, -⟩ checkedAt' hread'
      obtain rfl := ProbeField.value.inj (hread.isCheckedAt.symm.trans hread'.isCheckedAt)
      exact hrealistic checkedAt rfl
    · intro hrealistic
      have hvalid := hrealistic checkedAt hread
      have hne : checkedAt ≠ [] := by
        rintro rfl
        rw [hnotNil] at hvalid
        contradiction
      have hhash := (ReviewTarget.isStrictSha256_targetHash currentTarget.val).hashPrefix_accepted
      refine ⟨by simp, by simp [hhash], by simp [hne], by simp [hvalid],
        by simp [targetFreshnessTexts.1], by simp, by simp, by simp, by simp, by simp, trivial,
        trivial, trivial, ?_, rfl⟩
      intro s hs
      rw [← Option.some.inj hs]
      exact ⟨hcode, hretryable⟩

end Results

/-- The check returns a result, which passes only for a fresh target, exactly if the time of the
check, when it is read, has the format of a result. -/
theorem targetFreshness_iff (approval : Checked ApprovalDecision)
    (probe : TargetFreshnessProbeResult)
    {evaluatedAt : Text} {evaluatedTime : ℤ} (maxProofAgeSeconds : ℤ)
    (hevaluated : parseOptionalUtcZ evaluatedAt = some evaluatedTime) :
    (∃ r, validateTargetFreshnessForFinalization approval probe evaluatedAt maxProofAgeSeconds =
      .ok r ∧
        (r.val.status = .pass →
          ShowsFreshTarget approval.val probe evaluatedTime maxProofAgeSeconds)) ↔
      ∀ checkedAt, ReadsCheckedAt approval.val probe checkedAt →
        isRealisticRfc3339UtcZ checkedAt = true := by
  rw [← exists_targetFreshness_iff hevaluated]
  constructor
  · rintro ⟨r, hr, -⟩
    exact ⟨r, hr⟩
  · rintro ⟨r, hr⟩
    exact ⟨r, hr, showsFreshTarget_of_pass hevaluated hr⟩

/-- A probe of the first pull request with a time in the compact format of the standard. -/
def compactProbe : TargetFreshnessProbeResult where
  currentTarget := .value firstPullRequest
  checkedAt := .value "20260101T000000Z"
  checkMethod := .value targetFreshnessCheckMethod
  transportReasonCode := .absent
  requestId := .absent
  unknownRetryable := .value false
  reason := .absent

/-- The compact form is the same time. -/
lemma parseOptionalUtcZ_compact :
    parseOptionalUtcZ "2026-01-01T00:00:00Z" = parseOptionalUtcZ "20260101T000000Z" ∧
      (parseOptionalUtcZ "20260101T000000Z").isSome = true ∧
      isRealisticRfc3339UtcZ "20260101T000000Z" = false := by
  decide +kernel

/-- A result for the compact time is returned exactly if the time has the format of a result. -/
theorem targetFreshness_iff_compact : ∃ evaluatedTime,
    (∃ r, validateTargetFreshnessForFinalization firstApproval compactProbe "2026-01-01T00:00:00Z"
      300 =
        .ok r ∧ (r.val.status = .pass →
          ShowsFreshTarget firstApproval.val compactProbe evaluatedTime 300)) ↔
      ∀ checkedAt, ReadsCheckedAt firstApproval.val compactProbe checkedAt →
        isRealisticRfc3339UtcZ checkedAt = true := by
  obtain ⟨hsame, hsome, -⟩ := parseOptionalUtcZ_compact
  obtain ⟨evaluatedTime, htime⟩ := Option.isSome_iff_exists.1 hsome
  exact ⟨evaluatedTime, targetFreshness_iff firstApproval compactProbe 300 (hsame.trans htime)⟩

/-- The check of the compact time raises. -/
theorem targetFreshness_raises_compact :
    (∃ evaluatedTime, parseOptionalUtcZ "2026-01-01T00:00:00Z" = some evaluatedTime) ∧
      ¬ ∃ r, validateTargetFreshnessForFinalization firstApproval compactProbe
        "2026-01-01T00:00:00Z" 300 = .ok r := by
  obtain ⟨hsame, hsome, hcompact⟩ := parseOptionalUtcZ_compact
  obtain ⟨evaluatedTime, htime⟩ := Option.isSome_iff_exists.1 hsome
  refine ⟨⟨evaluatedTime, hsame.trans htime⟩, ?_⟩
  rw [exists_targetFreshness_iff (hsame.trans htime)]
  intro hrealistic
  have hread : ReadsCheckedAt firstApproval.val compactProbe "20260101T000000Z" := by
    refine ⟨?_, rfl, rfl, rfl, rfl, rfl, hsome⟩
    show (parseOptionalUtcZ "2026-01-01T00:00:00Z").isSome = true
    rw [hsame]
    exact hsome
  rw [hrealistic _ hread] at hcompact
  contradiction

end ReviewGraph
