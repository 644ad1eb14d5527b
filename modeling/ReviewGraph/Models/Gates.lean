import ReviewGraph.Foundation.DateTime
import ReviewGraph.Models.Posting

/-!
# Gate records

The records of `models.py` that carry the evidence from an approval to a release: actor permissions,
the approval proof and decision, target freshness and the finalization status.  A record with the
status pass contains everything that its gate has checked.
-/

namespace ReviewGraph

/-! ## Checks of several fields -/

/-- Raise a `ValueError` for the first field that is missing; the text before its name is given. -/
def requireEach (message : Text) (fields : List (Text × Bool)) : Result Unit :=
  match fields.find? fun f => !f.2 with
  | some f => .error (.valueError (message ++ f.1))
  | none => .ok ()

/-- All fields are required to hold. -/
@[simp] lemma requireEach_eq_ok {message : Text} {fields : List (Text × Bool)} :
    requireEach message fields = .ok () ↔ ∀ f ∈ fields, f.2 = true := by
  unfold requireEach
  split
  · rename_i f hf
    simp only [reduceCtorEq, false_iff, not_forall]
    exact ⟨f, List.mem_of_find?_eq_some hf, by simpa using List.find?_some hf⟩
  · rename_i hnone
    simpa using hnone

/-- Raise a `ValueError` unless an optional text is absent or passes a check. -/
def requireOptional (value : Option Text) (check : Text → Bool) (message : Text) : Result Unit :=
  require (∀ v ∈ value, check v = true) message

/-! ## Timestamps -/

/-- The parts of a text before and behind the first occurrence of a character. -/
def splitFirst (c : Char) (t : Text) : Text × Text :=
  (t.takeWhile (· ≠ c), (t.dropWhile (· ≠ c)).tail)

/-- The characters from one position up to another. -/
def slice (t : Text) (first last : ℕ) : Text := (t.take last).drop first

/-- A text of decimal digits. -/
def isDecimalText (t : Text) : Bool := t ≠ [] && t.all Unicode.isDecimal

/-- The number that decimal digits stand for. -/
def decimalNat (t : Text) : ℕ :=
  t.foldl (fun n c => n * 10 + (Unicode.decimalValue? c).getD 0) 0

/-- `_is_rfc3339_utc_z`. -/
def isRfc3339UtcZ (value : Text) : Bool :=
  let (date, time) := splitFirst 'T' value.dropLast
  let remainder := time.drop 8
  20 ≤ value.length && value.getLast? = some 'Z' && 'T' ∈ value.dropLast &&
    date.length = 10 && date[4]? = some '-' && date[7]? = some '-' &&
    8 ≤ time.length && time[2]? = some ':' && time[5]? = some ':' &&
    [slice date 0 4, slice date 5 7, slice date 8 10, slice time 0 2, slice time 3 5,
      slice time 6 8].all isDecimalText &&
    (remainder = [] || (remainder.head? = some '.' && isDecimalText remainder.tail))

/-- The ranges of the fields of a date and a clock. -/
def realisticFields (year month day hour minute second : ℤ) : Bool :=
  1 ≤ month && month ≤ 12 && 1 ≤ day && day ≤ 31 && hour ≤ 23 && minute ≤ 59 && second ≤ 59 &&
    day ≤ (DateTime.daysByMonth year).getD (month.toNat - 1) 0

/-- `_is_realistic_rfc3339_utc_z`. -/
def isRealisticRfc3339UtcZ (value : Text) : Bool :=
  let (date, time) := splitFirst 'T' value.dropLast
  isRfc3339UtcZ value &&
    realisticFields (decimalNat (slice date 0 4)) (decimalNat (slice date 5 7))
      (decimalNat (slice date 8 10)) (decimalNat (slice time 0 2)) (decimalNat (slice time 3 5))
      (decimalNat (slice time 6 8))

/-! ## Constants -/

/-- `ALLOWED_ACTOR_PERMISSION_CREDENTIAL_SOURCES`. -/
def allowedCredentialSources : List Text :=
  ["pat", "fine_grained_pat", "github_app_installation", "github_app_user"]

/-- `ALLOWED_ACTOR_PERMISSION_REPO_PERMISSIONS`. -/
def allowedRepoPermissions : List Text := ["read", "triage", "write", "maintain", "admin"]

/-- `WRITE_ACTOR_PERMISSION_REPO_PERMISSIONS`. -/
def writeRepoPermissions : List Text := ["write", "maintain", "admin"]

/-- `ALLOWED_ACTOR_PERMISSION_ENDPOINT_PERMISSIONS`. -/
def allowedEndpointPermissions : List Text :=
  ["issues:read", "issues:write", "pull_requests:read", "pull_requests:write"]

/-- `WRITE_ACTOR_PERMISSION_ENDPOINT_PERMISSIONS`. -/
def writeEndpointPermissions : List Text := ["issues:write", "pull_requests:write"]

/-- `ACTOR_PERMISSION_CHECK_METHOD`. -/
def actorPermissionCheckMethod : Text := "fake_issue_comment_permission_probe"

/-- `ACTOR_PERMISSION_ENDPOINT_KIND`. -/
def actorPermissionEndpointKind : Text := "issue_comment"

/-- `ACTOR_PERMISSION_ENDPOINT_METHOD`. -/
def actorPermissionEndpointMethod : Text := "POST"

/-- `ACTOR_PERMISSION_TRANSPORT_ENDPOINT_KIND`. -/
def actorPermissionTransportEndpointKind : Text := "issue_comment_permission"

/-- `TARGET_FRESHNESS_TRANSPORT_ENDPOINT_KIND`. -/
def targetFreshnessTransportEndpointKind : Text := "pull_request_target"

/-- `TARGET_FRESHNESS_CHECK_METHOD`. -/
def targetFreshnessCheckMethod : Text := "fake_pull_request_target_probe"

/-! ## Actor permissions -/

/-- `ActorPermissionReasonCode`. -/
inductive ActorPermissionReasonCode
  | unknownActor
  | unknownCredentialSource
  | unknownPermission
  | insufficientEndpointPermission
  | missingCredentialPrincipal
  | missingCheckMethod
  | missingCheckedTarget
  | missingCheckedAt
  | targetMismatch
  | timeout
  | rateLimited
  | forbidden
  | notFound
  | unavailable
  | malformedResponse
  | staleCachedProof
  deriving DecidableEq, Repr

/-- The string value of a reason. -/
def ActorPermissionReasonCode.value : ActorPermissionReasonCode → Text
  | unknownActor => "unknown_actor"
  | unknownCredentialSource => "unknown_credential_source"
  | unknownPermission => "unknown_permission"
  | insufficientEndpointPermission => "insufficient_endpoint_permission"
  | missingCredentialPrincipal => "missing_credential_principal"
  | missingCheckMethod => "missing_check_method"
  | missingCheckedTarget => "missing_checked_target"
  | missingCheckedAt => "missing_checked_at"
  | targetMismatch => "target_mismatch"
  | timeout => "timeout"
  | rateLimited => "rate_limited"
  | forbidden => "forbidden"
  | notFound => "not_found"
  | unavailable => "unavailable"
  | malformedResponse => "malformed_response"
  | staleCachedProof => "stale_cached_proof"

/-- `TRANSPORT_ACTOR_PERMISSION_REASON_CODES`. -/
def transportActorPermissionReasonCodes : List ActorPermissionReasonCode :=
  [.timeout, .rateLimited, .forbidden, .notFound, .unavailable, .malformedResponse]

/-- `RETRYABLE_ACTOR_PERMISSION_REASON_CODES`. -/
def retryableActorPermissionReasonCodes : List ActorPermissionReasonCode :=
  [.timeout, .rateLimited, .unavailable]

/-- `ActorPermissionTransportSummary`. -/
structure ActorPermissionTransportSummary where
  endpointKind : Text
  retryable : Bool
  reasonCode : Option ActorPermissionReasonCode
  requestId : Option Text
  deriving DecidableEq

instance : Record ActorPermissionTransportSummary where
  postInit s := do
    requireNonEmpty s.endpointKind "actor permission transport summary endpoint_kind"
    require (s.endpointKind = actorPermissionTransportEndpointKind)
      "actor permission transport summary endpoint_kind must be issue_comment_permission"
    requireRequestId "actor permission transport summary" s.requestId

/-- A mapping with texts as keys, in its insertion order. -/
abbrev Mapping : Type := List (Text × Json)

/-- Equality of mappings, which does not depend on the order of the keys. -/
def SameMapping (a b : Mapping) : Prop := (Json.obj a).canonical = (Json.obj b).canonical

instance (a b : Mapping) : Decidable (SameMapping a b) :=
  inferInstanceAs (Decidable ((Json.obj a).canonical = (Json.obj b).canonical))

/-- The endpoint of the comments of a pull request; the owner and the name of the repository, split
at the first slash, are joined by a slash again. -/
def issueCommentEndpoint (ownerRepo : Text) (prNumber : ℤ) : Text :=
  "/repos/" ++ (ownerRepo ++ ("/issues/" ++ (Text.ofInt prNumber ++ "/comments")))

/-- `_actor_permission_expected_endpoint`. -/
def actorPermissionExpectedEndpoint (checkedTarget : Mapping) : Option Text :=
  match checkedTarget with
  | [(k₁, .str ownerRepo), (k₂, .int prNumber), (k₃, .str baseSha), (k₄, .str headSha),
      (k₅, mergeBaseSha), (k₆, .str diffBasis)] =>
    let isOptionalText : Bool := match mergeBaseSha with
      | .null => true
      | .str _ => true
      | _ => false
    if [k₁, k₂, k₃, k₄, k₅, k₆] = ["owner_repo", "pr_number", "base_sha", "head_sha",
          "merge_base_sha", "diff_basis"] ∧ '/' ∈ ownerRepo ∧ 0 < prNumber ∧ baseSha ≠ [] ∧
        headSha ≠ [] ∧ isOptionalText = true ∧ diffBasis ≠ [] then
      some (issueCommentEndpoint ownerRepo prNumber)
    else none
  | _ => none

/-- The permission that a credential of a source derives from its three permissions, before the
check that it is a permission to write. -/
def sourcePermission (credentialSource : Text)
    (repoPermission installationPermission endpointPermission : Option Text) : Option Text :=
  if credentialSource = "pat" then
    if installationPermission ≠ none ∨ endpointPermission ≠ none then none else repoPermission
  else if credentialSource = "fine_grained_pat" then
    if repoPermission ≠ none ∨ installationPermission ≠ none then none else endpointPermission
  else if credentialSource = "github_app_installation" then
    if repoPermission ≠ none ∨ installationPermission = none ∨
        (endpointPermission ≠ none ∧ endpointPermission ≠ installationPermission) then none
    else installationPermission
  else if credentialSource = "github_app_user" then
    if repoPermission ≠ none ∨ installationPermission ≠ none then none else endpointPermission
  else none

/-- `_actor_permission_derived_permission`. -/
def actorPermissionDerivedPermission
    (credentialSource repoPermission installationPermission endpointPermission : Option Text) :
    Option Text := do
  let source ← credentialSource
  if source ∉ allowedCredentialSources ∨ (∃ p ∈ repoPermission, p ∉ allowedRepoPermissions) ∨
      (∃ p ∈ installationPermission, p ∉ allowedEndpointPermissions) ∨
      (∃ p ∈ endpointPermission, p ∉ allowedEndpointPermissions) then none
  else
    (sourcePermission source repoPermission installationPermission endpointPermission).filter
      fun p => p ∈ writeRepoPermissions || p ∈ writeEndpointPermissions

/-- `_actor_permission_failure_permission`. -/
def actorPermissionFailurePermission
    (repoPermission installationPermission endpointPermission : Option Text) : Option Text :=
  (repoPermission.filter (· ∈ allowedRepoPermissions)).or <|
    (installationPermission.filter (· ∈ allowedEndpointPermissions)).or <|
      endpointPermission.filter (· ∈ allowedEndpointPermissions)

/-- `ActorPermissionGateResult`. -/
structure ActorPermissionGateResult where
  status : GateStatus
  actor : Option Text
  permission : Option Text
  checkedAt : Option Text
  reason : Option Text
  reasonCode : Option ActorPermissionReasonCode
  credentialPrincipal : Option Text
  credentialSource : Option Text
  repoPermission : Option Text
  installationPermission : Option Text
  endpointPermission : Option Text
  issueCommentWrite : Option Bool
  checkMethod : Option Text
  endpointMethod : Option Text
  checkedTarget : Option Mapping
  checkedTargetHash : Option Text
  endpoint : Option Text
  endpointKind : Option Text
  transportSummary : Option (Checked ActorPermissionTransportSummary)
  deriving DecidableEq

namespace ActorPermissionGateResult

/-- `_validate_actor_permission_gate_common`. -/
def validateCommon (r : ActorPermissionGateResult) : Result Unit := do
  require (r.status ≠ .unknown) "actor permission gate status must be pass or fail"
  requireOptionalNonEmpty r.actor "actor permission gate actor"
  requireOptionalNonEmpty r.permission "actor permission gate permission"
  requireOptionalNonEmpty r.checkedAt "actor permission gate checked_at"
  requireOptionalNonEmpty r.reason "actor permission gate reason"
  requireOptional r.actor isSafeActorPermissionIdentity
    "actor permission gate actor must be allowlisted"
  requireOptional r.credentialPrincipal isSafeActorPermissionIdentity
    "actor permission gate credential_principal must be allowlisted"
  requireOptional r.reason isSafeActorPermissionReason
    "actor permission gate reason must be allowlisted"
  requireOptionalNonEmpty r.credentialPrincipal "actor permission gate credential_principal"
  requireOptionalNonEmpty r.credentialSource "actor permission gate credential_source"
  requireOptionalNonEmpty r.repoPermission "actor permission gate repo_permission"
  requireOptionalNonEmpty r.installationPermission "actor permission gate installation_permission"
  requireOptionalNonEmpty r.endpointPermission "actor permission gate endpoint_permission"
  requireOptionalNonEmpty r.checkMethod "actor permission gate check_method"
  requireOptionalNonEmpty r.endpointMethod "actor permission gate endpoint_method"
  requireOptionalHashLike r.checkedTargetHash "actor permission gate checked_target_hash"
  requireOptionalNonEmpty r.endpoint "actor permission gate endpoint"
  requireOptionalNonEmpty r.endpointKind "actor permission gate endpoint_kind"

/-- `_validate_actor_permission_gate_pass` up to the proof, the target and the transport. -/
def validatePassFields (r : ActorPermissionGateResult) : Result Unit := do
  requireEach "actor permission gate pass requires " [("actor", r.actor.isSome),
    ("permission", r.permission.isSome), ("checked_at", r.checkedAt.isSome),
    ("credential_principal", r.credentialPrincipal.isSome),
    ("credential_source", r.credentialSource.isSome), ("check_method", r.checkMethod.isSome),
    ("endpoint_method", r.endpointMethod.isSome), ("checked_target", r.checkedTarget.isSome),
    ("checked_target_hash", r.checkedTargetHash.isSome), ("endpoint", r.endpoint.isSome),
    ("endpoint_kind", r.endpointKind.isSome), ("transport_summary", r.transportSummary.isSome)]
  require (r.issueCommentWrite = some true)
    "actor permission gate pass requires issue_comment_write"
  require (r.reasonCode = none) "actor permission gate pass must not include reason_code"
  require (r.reason = none) "actor permission gate pass must not include reason"
  require (∀ p ∈ r.permission, p ∉ (["read", "triage", "issues:read", "pull_requests:read"] : List
    Text))
    "actor permission gate pass requires write permission"

/-- `_validate_actor_permission_pass_proof`. -/
def validatePassProof (r : ActorPermissionGateResult) : Result Unit := do
  let derivedPermission := actorPermissionDerivedPermission r.credentialSource r.repoPermission
    r.installationPermission r.endpointPermission
  require (derivedPermission ≠ none ∧ r.permission = derivedPermission)
    "actor permission gate pass permission proof is inconsistent"
  require (r.checkMethod = some actorPermissionCheckMethod)
    "actor permission gate pass requires permission check_method"
  require (r.endpointMethod = some actorPermissionEndpointMethod)
    "actor permission gate pass requires POST endpoint_method"
  require (r.endpointKind = some actorPermissionEndpointKind)
    "actor permission gate pass requires issue_comment endpoint_kind"
  requireOptional r.checkedAt isRealisticRfc3339UtcZ
    "actor permission gate pass requires UTC RFC3339 checked_at"

/-- `_validate_actor_permission_pass_target`. -/
def validatePassTarget (r : ActorPermissionGateResult) : Result Unit :=
  r.checkedTarget.elim (.ok ()) fun checkedTarget => do
    let expectedEndpoint := actorPermissionExpectedEndpoint checkedTarget
    require (expectedEndpoint ≠ none ∧ r.endpoint = expectedEndpoint)
      "actor permission gate pass endpoint does not match checked_target"
    require (r.checkedTargetHash =
        some (domainJsonHash "reviewgraph.review_target.v1" (.obj checkedTarget)))
      "actor permission gate pass checked_target_hash mismatch"

/-- `_validate_actor_permission_pass_transport`. -/
def validatePassTransport (r : ActorPermissionGateResult) : Result Unit :=
  r.transportSummary.elim (.ok ()) fun summary => do
    require (summary.val.endpointKind = actorPermissionTransportEndpointKind)
      "actor permission gate pass transport summary endpoint_kind mismatch"
    require (summary.val.reasonCode = none)
      "actor permission gate pass transport summary must not include reason_code"
    require (summary.val.retryable = false)
      "actor permission gate pass transport summary must not be retryable"

/-- `_validate_actor_permission_failure_metadata` with
`_validate_actor_permission_failure_methods`. -/
def validateFailureMetadata (r : ActorPermissionGateResult) : Result Unit := do
  require (r.permission = none ∨ r.permission =
      actorPermissionFailurePermission r.repoPermission r.installationPermission
        r.endpointPermission)
    "actor permission gate failure permission proof is unsafe"
  requireOptional r.checkedAt isRealisticRfc3339UtcZ
    "actor permission gate failure checked_at must be validated"
  requireOptional r.credentialSource (· ∈ allowedCredentialSources)
    "actor permission gate failure credential_source is unsafe"
  requireOptional r.repoPermission (· ∈ allowedRepoPermissions)
    "actor permission gate failure repo_permission is unsafe"
  requireOptional r.installationPermission (· ∈ allowedEndpointPermissions)
    "actor permission gate failure installation_permission is unsafe"
  requireOptional r.endpointPermission (· ∈ allowedEndpointPermissions)
    "actor permission gate failure endpoint_permission is unsafe"
  requireOptional r.checkMethod (· = actorPermissionCheckMethod)
    "actor permission gate failure check_method is unsafe"
  requireOptional r.endpointMethod (· = actorPermissionEndpointMethod)
    "actor permission gate failure endpoint_method is unsafe"
  requireOptional r.endpointKind (· = actorPermissionEndpointKind)
    "actor permission gate failure endpoint_kind is unsafe"
  require (r.endpoint ≠ none → r.checkedTarget ≠ none)
    "actor permission gate failure endpoint requires checked_target"
  require (r.endpoint = none ∨
      r.endpoint = r.checkedTarget.bind actorPermissionExpectedEndpoint)
    "actor permission gate failure endpoint is unsafe"

/-- `_validate_actor_permission_failure_transport`. -/
def validateFailureTransport (r : ActorPermissionGateResult) : Result Unit :=
  match r.transportSummary, r.reasonCode with
  | some summary, some reasonCode => do
    match summary.val.reasonCode with
    | some transportReasonCode => do
      require (transportReasonCode ∈ transportActorPermissionReasonCodes)
        "actor permission gate transport summary reason_code must be transport failure"
      require (transportReasonCode = reasonCode)
        "actor permission gate transport summary reason_code mismatch"
    | none =>
      require (reasonCode ∉ transportActorPermissionReasonCodes ∨ reasonCode = .malformedResponse)
        "actor permission gate transport summary reason_code mismatch"
    require (summary.val.retryable =
        summary.val.reasonCode.any (· ∈ retryableActorPermissionReasonCodes))
      "actor permission gate transport summary retryable mismatch"
  | _, _ => .ok ()

end ActorPermissionGateResult

instance : Record ActorPermissionGateResult where
  postInit r := do
    r.validateCommon
    match r.status with
    | .pass => do
      r.validatePassFields
      r.validatePassProof
      r.validatePassTarget
      r.validatePassTransport
    | .fail => do
      require (r.reasonCode ≠ none) "actor permission gate failure requires reason_code"
      require (r.transportSummary ≠ none) "actor permission gate failure requires transport_summary"
      r.validateFailureMetadata
      r.validateFailureTransport
    | .unknown => .ok ()

/-! ## The approval proof -/

/-- `ApprovalProofReasonCode`. -/
inductive ApprovalProofReasonCode
  | emptyApproval
  | unknownApprovedId
  | nonPublicDestination
  | summaryItemDeferred
  | candidateBindingMismatch
  | duplicateApprovedFingerprint
  | finalRedactionFailed
  | invalidRunId
  | requestChangesPublicTextDeferred
  deriving DecidableEq, Repr

/-- `ApprovalProofResult`. -/
structure ApprovalProofResult where
  status : GateStatus
  approvedItemIds : List Text
  approvedReviewTarget : Option (Checked ReviewTarget)
  approvedReviewTargetHash : Option Text
  approvedFinalPayloadHash : Option Text
  finalVisibleBodyHash : Option Text
  markerPayloadHash : Option Text
  findingsHash : Option Text
  markerLine : Option Text
  finalRedactionStatus : Option (Checked RedactionStatus)
  includePublicVerdict : Bool
  approvedBy : Option Text
  timestamp : Option Text
  reasonCode : Option ApprovalProofReasonCode
  reason : Option Text
  deriving DecidableEq

namespace ApprovalProofResult

/-- The names of the proof fields with their presence. -/
def proofFields (r : ApprovalProofResult) : List (Text × Bool) :=
  [("approved_item_ids", r.approvedItemIds ≠ []),
    ("approved_review_target", r.approvedReviewTarget.isSome),
    ("approved_review_target_hash", r.approvedReviewTargetHash.isSome),
    ("approved_final_payload_hash", r.approvedFinalPayloadHash.isSome),
    ("final_visible_body_hash", r.finalVisibleBodyHash.isSome),
    ("marker_payload_hash", r.markerPayloadHash.isSome), ("findings_hash", r.findingsHash.isSome),
    ("marker_line", r.markerLine.isSome),
    ("final_redaction_status", r.finalRedactionStatus.isSome),
    ("approved_by", r.approvedBy.isSome), ("timestamp", r.timestamp.isSome)]

/-- The checks of a passed proof. -/
def validatePass (r : ApprovalProofResult) : Result Unit := do
  requireEach "approval proof pass requires " r.proofFields
  require (r.reasonCode = none) "approval proof pass must not include reason_code"
  require (r.approvedReviewTargetHash = r.approvedReviewTarget.map fun t => t.val.targetHash)
    "approval proof approved_review_target_hash must match approved_review_target"
  require (∀ status ∈ r.finalRedactionStatus, status.val.status = .pass)
    "approval proof pass requires passing final_redaction_status"
  -- `models._parse_reviewgraph_marker` reads the grammar that `hashing.py` matches.
  match r.markerLine.bind parseReviewgraphV1MarkerLine with
  | none =>
    .error (.valueError "approval proof marker_line must match ReviewGraph v1 marker grammar")
  | some marker => do
    requireStrictSha256 (r.approvedReviewTargetHash.getD [])
      "approval proof approved_review_target_hash"
    requireStrictSha256 (r.approvedFinalPayloadHash.getD [])
      "approval proof approved_final_payload_hash"
    requireStrictSha256 (r.finalVisibleBodyHash.getD []) "approval proof final_visible_body_hash"
    requireStrictSha256 (r.markerPayloadHash.getD []) "approval proof marker_payload_hash"
    requireStrictSha256 (r.findingsHash.getD []) "approval proof findings_hash"
    require (r.finalVisibleBodyHash = r.markerPayloadHash)
      "approval proof final_visible_body_hash must match marker_payload_hash"
    require (some marker.target = r.approvedReviewTargetHash)
      "approval proof marker target must match approved_review_target_hash"
    require (some marker.payload = r.markerPayloadHash)
      "approval proof marker payload must match marker_payload_hash"
    require (some marker.findings = r.findingsHash)
      "approval proof marker findings must match findings_hash"

end ApprovalProofResult

instance : Record ApprovalProofResult where
  postInit r := do
    requireStringTuple r.approvedItemIds "approval proof approved_item_ids" true
    requireOptionalHashLike r.approvedReviewTargetHash "approval proof approved_review_target_hash"
    requireOptionalHashLike r.approvedFinalPayloadHash "approval proof approved_final_payload_hash"
    requireOptionalHashLike r.finalVisibleBodyHash "approval proof final_visible_body_hash"
    requireOptionalHashLike r.markerPayloadHash "approval proof marker_payload_hash"
    requireOptionalHashLike r.findingsHash "approval proof findings_hash"
    requireOptionalNonEmpty r.markerLine "approval proof marker_line"
    requireOptionalNonEmpty r.approvedBy "approval proof approved_by"
    requireOptionalNonEmpty r.timestamp "approval proof timestamp"
    requireOptionalNonEmpty r.reason "approval proof reason"
    if r.status = .pass then r.validatePass
    else do
      require (r.reasonCode ≠ none) "approval proof failure requires reason_code"
      requireEach "approval proof failure must not include "
        (r.proofFields.map fun f => (f.1, !f.2))

/-! ## The approval decision -/

/-- `ApprovalDecision`. -/
structure ApprovalDecision where
  approved : Bool
  approvedItemIds : List Text
  approvedFinalPayloadHash : Text
  approvedReviewTargetHash : Text
  approvedReviewTarget : Checked ReviewTarget
  approvedGithubActor : Text
  approvedPermission : Text
  approvedPermissionCheckedAt : Text
  approvedCredentialPrincipal : Text
  approvedCredentialSource : Text
  approvedRepoPermission : Option Text
  approvedInstallationPermission : Option Text
  approvedEndpointPermission : Option Text
  approvedIssueCommentWrite : Bool
  approvedPermissionCheckMethod : Text
  approvedPermissionEndpointMethod : Text
  approvedPermissionCheckedTarget : Mapping
  approvedPermissionCheckedTargetHash : Text
  approvedPermissionEndpoint : Text
  approvedPermissionEndpointKind : Text
  approvedPermissionTransportSummary : Checked ActorPermissionTransportSummary
  includePublicVerdict : Bool
  approvedBy : Text
  timestamp : Text
  deriving DecidableEq

namespace ApprovalDecision

/-- `_validate_approval_permission_target_and_transport`. -/
def validatePermissionTargetAndTransport (a : ApprovalDecision) : Result Unit := do
  requireHashLike a.approvedPermissionCheckedTargetHash
    "approval approved_permission_checked_target_hash"
  require (SameMapping a.approvedPermissionCheckedTarget a.approvedReviewTarget.val.toOrderedDict)
    "approval permission checked_target must match approved_review_target"
  require (a.approvedPermissionCheckedTargetHash = a.approvedReviewTargetHash)
    "approval permission checked_target_hash must match approved_review_target_hash"
  require (some a.approvedPermissionEndpoint =
      actorPermissionExpectedEndpoint a.approvedPermissionCheckedTarget)
    "approval permission endpoint must match approved_review_target"
  require (isRealisticRfc3339UtcZ a.approvedPermissionCheckedAt = true)
    "approval approved_permission_checked_at must be UTC RFC3339"
  require (some a.approvedPermission = actorPermissionDerivedPermission
      (some a.approvedCredentialSource) a.approvedRepoPermission a.approvedInstallationPermission
      a.approvedEndpointPermission)
    "approval permission proof is inconsistent"
  require (a.approvedPermissionTransportSummary.val.reasonCode = none)
    "approval passing permission transport summary must not include reason_code"
  require (a.approvedPermissionTransportSummary.val.retryable = false)
    "approval passing permission transport summary must not be retryable"

end ApprovalDecision

instance : Record ApprovalDecision where
  postInit a := do
    requireStringTuple a.approvedItemIds "approval approved_item_ids" true
    requireHashLike a.approvedFinalPayloadHash "approval approved_final_payload_hash"
    requireHashLike a.approvedReviewTargetHash "approval approved_review_target_hash"
    require (a.approvedReviewTargetHash = a.approvedReviewTarget.val.targetHash)
      "approval approved_review_target_hash must match approved_review_target"
    requireNonEmpty a.approvedGithubActor "approval approved_github_actor"
    requireNonEmpty a.approvedPermission "approval approved_permission"
    requireNonEmpty a.approvedPermissionCheckedAt "approval approved_permission_checked_at"
    requireNonEmpty a.approvedCredentialPrincipal "approval approved_credential_principal"
    requireNonEmpty a.approvedCredentialSource "approval approved_credential_source"
    requireNonEmpty a.approvedPermissionCheckMethod "approval approved_permission_check_method"
    requireNonEmpty a.approvedPermissionEndpointMethod
      "approval approved_permission_endpoint_method"
    requireNonEmpty a.approvedPermissionEndpoint "approval approved_permission_endpoint"
    requireNonEmpty a.approvedPermissionEndpointKind "approval approved_permission_endpoint_kind"
    requireNonEmpty a.approvedBy "approval approved_by"
    requireNonEmpty a.timestamp "approval timestamp"
    require (isSafeActorPermissionIdentity a.approvedGithubActor = true)
      "approval approved_github_actor must be allowlisted"
    require (isSafeActorPermissionIdentity a.approvedCredentialPrincipal = true)
      "approval approved_credential_principal must be allowlisted"
    require (a.approvedCredentialSource ∈ allowedCredentialSources)
      "approval approved_credential_source is unsupported"
    requireOptionalNonEmpty a.approvedRepoPermission "approval approved_repo_permission"
    requireOptional a.approvedRepoPermission (· ∈ allowedRepoPermissions)
      "approval approved_repo_permission is unsupported"
    requireOptionalNonEmpty a.approvedInstallationPermission
      "approval approved_installation_permission"
    requireOptional a.approvedInstallationPermission (· ∈ allowedEndpointPermissions)
      "approval approved_installation_permission is unsupported"
    requireOptionalNonEmpty a.approvedEndpointPermission "approval approved_endpoint_permission"
    requireOptional a.approvedEndpointPermission (· ∈ allowedEndpointPermissions)
      "approval approved_endpoint_permission is unsupported"
    require (a.approvedIssueCommentWrite = true) "approval requires issue-comment write proof"
    require (a.approvedPermissionCheckMethod = actorPermissionCheckMethod)
      "approval approved_permission_check_method is unsupported"
    require (a.approvedPermissionEndpointMethod = actorPermissionEndpointMethod)
      "approval approved_permission_endpoint_method is unsupported"
    require (a.approvedPermissionEndpointKind = actorPermissionEndpointKind)
      "approval approved_permission_endpoint_kind is unsupported"
    a.validatePermissionTargetAndTransport
    require (a.approved = true → a.approvedItemIds ≠ [])
      "approved decision requires approved_item_ids"

/-- An approval carries the hash of its target. -/
lemma ApprovalDecision.approvedReviewTargetHash_eq (a : Checked ApprovalDecision) :
    a.val.approvedReviewTargetHash = a.val.approvedReviewTarget.val.targetHash := by
  have h := a.property
  simp only [Record.postInit, check_bind_eq_ok, require_eq_ok] at h
  exact h.2.2.2.1

/-- `ApprovalDecisionBuildReasonCode`. -/
inductive ApprovalDecisionBuildReasonCode
  | approvalProofFailed
  | actorPermissionGateFailed
  | actorPermissionTargetMismatch
  deriving DecidableEq, Repr

/-- `ApprovalDecisionBuildResult`. -/
structure ApprovalDecisionBuildResult where
  status : GateStatus
  approval : Option (Checked ApprovalDecision)
  reasonCode : Option ApprovalDecisionBuildReasonCode
  approvalProofReasonCode : Option ApprovalProofReasonCode
  actorPermissionReasonCode : Option ActorPermissionReasonCode
  actorPermissionTransportSummary : Option (Checked ActorPermissionTransportSummary)
  reason : Option Text
  deriving DecidableEq

instance : Record ApprovalDecisionBuildResult where
  postInit r := do
    require (r.status ≠ .unknown) "approval decision build status must be pass or fail"
    requireOptionalNonEmpty r.reason "approval decision build reason"
    requireOptional r.reason isSafeActorPermissionReason
      "approval decision build reason must be allowlisted"
    if r.status = .pass then do
      require (r.approval ≠ none) "approval decision build pass requires approval"
      require (r.reasonCode = none ∧ r.approvalProofReasonCode = none ∧
          r.actorPermissionReasonCode = none)
        "approval decision build pass must not include reason codes"
      require (r.actorPermissionTransportSummary = none ∧ r.reason = none)
        "approval decision build pass must not include failure diagnostics"
    else do
      require (r.approval = none) "approval decision build failure must not include approval"
      require (r.reasonCode ≠ none) "approval decision build failure requires reason_code"
      require (r.reasonCode = some .actorPermissionGateFailed → r.actorPermissionReasonCode ≠ none)
        "approval decision build actor gate failure requires actor reason code"
      require (r.reasonCode = some .approvalProofFailed → r.approvalProofReasonCode ≠ none)
        "approval decision build approval proof failure requires proof reason code"

/-! ## Actor permissions at finalization -/

/-- `ActorPermissionFinalizationReasonCode`. -/
inductive ActorPermissionFinalizationReasonCode
  | actorPermissionGateFailed
  | actorPermissionSnapshotMismatch
  | actorPermissionCheckedAtRegressed
  deriving DecidableEq, Repr

/-- `ACTOR_PERMISSION_FINALIZATION_MISMATCH_FIELDS`. -/
def actorPermissionFinalizationMismatchFields : List Text :=
  ["actor", "credential_principal", "credential_source", "permission", "repo_permission",
    "installation_permission", "endpoint_permission", "issue_comment_write", "check_method",
    "endpoint_method", "checked_target", "checked_target_hash", "endpoint", "endpoint_kind",
    "checked_at"]

/-- `ActorPermissionFinalizationCheckResult`. -/
structure ActorPermissionFinalizationCheckResult where
  status : GateStatus
  reasonCode : Option ActorPermissionFinalizationReasonCode
  actorPermissionReasonCode : Option ActorPermissionReasonCode
  actorPermissionTransportSummary : Option (Checked ActorPermissionTransportSummary)
  currentActorPermissionCheckedAt : Option Text
  mismatchedFields : List Text
  reason : Option Text
  deriving DecidableEq

instance : Record ActorPermissionFinalizationCheckResult where
  postInit r := do
    require (r.status ≠ .unknown)
      "actor permission finalization check status must be pass or fail"
    requireOptionalNonEmpty r.currentActorPermissionCheckedAt
      "actor permission finalization check current_checked_at"
    requireOptional r.currentActorPermissionCheckedAt isRealisticRfc3339UtcZ
      "actor permission finalization check current_checked_at must be UTC RFC3339"
    requireAllowedStrTuple r.mismatchedFields
      "actor permission finalization check mismatched_fields"
      actorPermissionFinalizationMismatchFields
    requireOptionalNonEmpty r.reason "actor permission finalization check reason"
    requireOptional r.reason isSafeActorPermissionReason
      "actor permission finalization check reason must be allowlisted"
    if r.status = .pass then do
      require (r.actorPermissionTransportSummary ≠ none)
        "actor permission finalization check pass requires transport summary"
      require (r.reasonCode = none)
        "actor permission finalization check pass must not include reason_code"
      require (r.actorPermissionReasonCode = none)
        "actor permission finalization check pass must not include actor reason"
      require (r.currentActorPermissionCheckedAt ≠ none)
        "actor permission finalization check pass requires current_checked_at"
      require (r.mismatchedFields = [])
        "actor permission finalization check pass must not include mismatches"
      require (r.reason = none) "actor permission finalization check pass must not include reason"
    else do
      require (r.actorPermissionTransportSummary ≠ none)
        "actor permission finalization check failure requires transport summary"
      require (r.reasonCode ≠ none)
        "actor permission finalization check failure requires reason_code"
      require (r.reasonCode = some .actorPermissionGateFailed → r.actorPermissionReasonCode ≠ none)
        "actor permission gate failure requires actor_permission_reason_code"
      require (r.reasonCode = some .actorPermissionSnapshotMismatch → r.mismatchedFields ≠ [])
        "actor permission snapshot mismatch requires mismatched_fields"
      require (r.reasonCode = some .actorPermissionCheckedAtRegressed →
          r.mismatchedFields = ["checked_at"])
        "actor permission checked_at regression requires checked_at mismatch"

/-! ## Target freshness -/

/-- `TargetFreshnessReasonCode`. -/
inductive TargetFreshnessReasonCode
  | targetMismatch
  | missingMergeBase
  | missingCheckedAt
  | staleCachedTarget
  | futureCheckedAt
  | checkedAtBeforeApproval
  | unknownFreshness
  | timeout
  | rateLimited
  | forbidden
  | notFound
  | unavailable
  | malformedResponse
  deriving DecidableEq, Repr

/-- The string value of a reason. -/
def TargetFreshnessReasonCode.value : TargetFreshnessReasonCode → Text
  | targetMismatch => "target_mismatch"
  | missingMergeBase => "missing_merge_base"
  | missingCheckedAt => "missing_checked_at"
  | staleCachedTarget => "stale_cached_target"
  | futureCheckedAt => "future_checked_at"
  | checkedAtBeforeApproval => "checked_at_before_approval"
  | unknownFreshness => "unknown_freshness"
  | timeout => "timeout"
  | rateLimited => "rate_limited"
  | forbidden => "forbidden"
  | notFound => "not_found"
  | unavailable => "unavailable"
  | malformedResponse => "malformed_response"

/-- `TARGET_FRESHNESS_TRANSPORT_REASON_CODES`. -/
def targetFreshnessTransportReasonCodes : List TargetFreshnessReasonCode :=
  [.timeout, .rateLimited, .forbidden, .notFound, .unavailable, .malformedResponse]

/-- `TARGET_FRESHNESS_RETRYABLE_REASON_CODES`. -/
def targetFreshnessRetryableReasonCodes : List TargetFreshnessReasonCode :=
  [.timeout, .rateLimited, .unavailable]

/-- `TARGET_FRESHNESS_MISMATCH_FIELDS`. -/
def targetFreshnessMismatchFields : List Text :=
  ["owner_repo", "pr_number", "base_sha", "head_sha", "merge_base_sha", "diff_basis", "checked_at"]

/-- `TargetFreshnessTransportSummary`. -/
structure TargetFreshnessTransportSummary where
  endpointKind : Text
  retryable : Bool
  reasonCode : Option TargetFreshnessReasonCode
  requestId : Option Text
  deriving DecidableEq

instance : Record TargetFreshnessTransportSummary where
  postInit s := do
    requireNonEmpty s.endpointKind "target freshness transport summary endpoint_kind"
    require (s.endpointKind = targetFreshnessTransportEndpointKind)
      "target freshness transport summary endpoint_kind must be pull_request_target"
    require (∀ code ∈ s.reasonCode, code ∈ targetFreshnessTransportReasonCodes ∨
        code = .unknownFreshness)
      "target freshness transport summary reason_code must be transport failure"
    require (s.reasonCode = some .unknownFreshness ∨
        s.retryable = s.reasonCode.any (· ∈ targetFreshnessRetryableReasonCodes))
      "target freshness transport summary retryable mismatch"
    requireRequestId "target freshness transport summary" s.requestId

/-- `TargetFreshnessCheckResult`. -/
structure TargetFreshnessCheckResult where
  status : GateStatus
  reasonCode : Option TargetFreshnessReasonCode
  transportSummary : Option (Checked TargetFreshnessTransportSummary)
  currentTarget : Option (Checked ReviewTarget)
  currentTargetHash : Option Text
  currentCheckedAt : Option Text
  checkMethod : Option Text
  mismatchedFields : List Text
  reason : Option Text
  deriving DecidableEq

instance : Record TargetFreshnessCheckResult where
  postInit r := do
    require (r.status ≠ .unknown) "target freshness status must be pass or fail"
    requireOptionalHashLike r.currentTargetHash "target freshness current_target_hash"
    requireOptionalNonEmpty r.currentCheckedAt "target freshness current_checked_at"
    requireOptional r.currentCheckedAt isRealisticRfc3339UtcZ
      "target freshness current_checked_at must be UTC RFC3339"
    requireOptionalNonEmpty r.checkMethod "target freshness check_method"
    requireOptional r.checkMethod (· = targetFreshnessCheckMethod)
      "target freshness check_method is unsupported"
    requireAllowedStrTuple r.mismatchedFields "target freshness mismatched_fields"
      targetFreshnessMismatchFields
    requireOptionalNonEmpty r.reason "target freshness reason"
    requireOptional r.reason isSafeActorPermissionReason
      "target freshness reason must be allowlisted"
    if r.status = .pass then do
      requireEach "target freshness pass requires "
        [("transport_summary", r.transportSummary.isSome),
          ("current_target", r.currentTarget.isSome),
          ("current_target_hash", r.currentTargetHash.isSome),
          ("current_checked_at", r.currentCheckedAt.isSome), ("check_method", r.checkMethod.isSome)]
      require (r.reasonCode = none) "target freshness pass must not include reason_code"
      require (r.mismatchedFields = []) "target freshness pass must not include mismatched_fields"
      require (r.reason = none) "target freshness pass must not include reason"
      require (∀ s ∈ r.transportSummary, s.val.reasonCode = none ∧ s.val.retryable = false)
        "target freshness pass transport summary must not include failure"
      require (r.currentTargetHash = r.currentTarget.map fun t => t.val.targetHash)
        "target freshness current_target_hash mismatch"
    else do
      require (r.reasonCode ≠ none) "target freshness failure requires reason_code"
      require (r.transportSummary ≠ none) "target freshness failure requires transport_summary"
      require (r.reasonCode = some .targetMismatch → r.mismatchedFields ≠ [])
        "target freshness mismatch requires mismatched_fields"
      require (r.reasonCode = some .checkedAtBeforeApproval → r.mismatchedFields = ["checked_at"])
        "target freshness checked-at regression requires checked_at mismatch"
      require (∀ t ∈ r.currentTarget, r.currentTargetHash = some t.val.targetHash)
        "target freshness failure current_target_hash mismatch"

/-! ## The finalization status -/

/-- `FinalizationReasonCode`. -/
inductive FinalizationReasonCode
  | approvalPreflightFailed
  | actorPermissionFailed
  | targetFreshnessFailed
  | payloadValidationFailed
  | markerReconciliationDeferred
  | markerReconciledExisting
  | markerReconciliationFailed
  deriving DecidableEq, Repr

/-- `FinalizationState`. -/
inductive FinalizationState
  | notReady
  | finalized
  | failedClosed
  deriving DecidableEq, Repr

/-- `FinalizationStatus`. -/
structure FinalizationStatus where
  state : FinalizationState
  finalPayloadHash : Option Text
  targetHash : Option Text
  reasonCode : Option FinalizationReasonCode
  reason : Option Text
  deriving DecidableEq

instance : Record FinalizationStatus where
  postInit s := do
    requireOptionalHashLike s.finalPayloadHash "finalization final_payload_hash"
    requireOptionalHashLike s.targetHash "finalization target_hash"
    requireOptionalNonEmpty s.reason "finalization reason"
    if s.state = .finalized then do
      requireEach "finalized status requires " [("final_payload_hash", s.finalPayloadHash.isSome),
        ("target_hash", s.targetHash.isSome)]
      require (s.reasonCode = none) "finalized status must not include reason_code"
    else do
      require (s.reasonCode ≠ none) "non-finalized status requires reason_code"
      require (s.finalPayloadHash = none)
        "non-finalized status must not include final_payload_hash"

end ReviewGraph
