import ReviewGraph.Foundation.Double
import ReviewGraph.Models.Gates

/-!
# Actor permissions

`permissions.py`: a probe reports what GitHub says about the authenticated actor, and the gate
decides whether this actor may comment on the pull request.  A field of a probe may be absent or an
object of another type, because nothing checks a probe before the gate does.
-/

namespace ReviewGraph

/-! ## Probes -/

/-- A field of a probe. -/
inductive ProbeField (α : Type)
  | absent
  | value (a : α)
  | malformed
  deriving DecidableEq

namespace ProbeField

/-- The value of a field, if it has the right type. -/
def get? {α : Type} : ProbeField α → Option α
  | value a => some a
  | _ => none

/-- The field is an object of another type. -/
def isMalformed {α : Type} : ProbeField α → Bool
  | malformed => true
  | _ => false

/-- `_clean`. -/
def clean (field : ProbeField Text) : Option Text := field.get?.filter (· ≠ [])

end ProbeField

/-- `ActorPermissionProbeResult`. -/
structure ActorPermissionProbeResult where
  actor : ProbeField Text
  credentialPrincipal : ProbeField Text
  credentialSource : ProbeField Text
  repoPermission : ProbeField Text
  installationPermission : ProbeField Text
  endpointPermission : ProbeField Text
  issueCommentWrite : ProbeField Bool
  checkMethod : ProbeField Text
  endpointMethod : ProbeField Text
  checkedTarget : ProbeField (Checked ReviewTarget)
  checkedAt : ProbeField Text
  endpoint : ProbeField Text
  endpointKind : ProbeField Text
  transportReasonCode : ProbeField ActorPermissionReasonCode
  requestId : ProbeField Text
  reason : ProbeField Text
  deriving DecidableEq

namespace ActorPermissionProbeResult

/-- The fields that must be texts or absent, with their names. -/
def textFields (probe : ActorPermissionProbeResult) : List (Text × ProbeField Text) :=
  [("actor", probe.actor), ("credential_principal", probe.credentialPrincipal),
    ("credential_source", probe.credentialSource), ("repo_permission", probe.repoPermission),
    ("installation_permission", probe.installationPermission),
    ("endpoint_permission", probe.endpointPermission), ("check_method", probe.checkMethod),
    ("endpoint_method", probe.endpointMethod), ("checked_at", probe.checkedAt),
    ("endpoint", probe.endpoint), ("endpoint_kind", probe.endpointKind),
    ("request_id", probe.requestId), ("reason", probe.reason)]

/-- `_first_malformed_field`. -/
def firstMalformedField (probe : ActorPermissionProbeResult) : Option Text :=
  (probe.textFields.find? fun f => f.2.isMalformed).map Prod.fst

end ActorPermissionProbeResult

/-! ## Safe values -/

/-- `_safe_identity`. -/
def safeIdentity (field : ProbeField Text) : Option Text :=
  field.clean.filter isSafeActorPermissionIdentity

/-- `_safe_request_id` of `permissions.py`. -/
def safeProbeRequestId (field : ProbeField Text) : Option Text :=
  field.clean.filter fun v =>
    v.length ≤ 128 && v.all isAllowedRequestIdChar && !hasSecretFragment v

/-- A cleaned value, if it is one of the allowed ones. -/
def safeOneOf (allowed : List Text) (field : ProbeField Text) : Option Text :=
  field.clean.filter (· ∈ allowed)

/-! ## Timestamps -/

/-- `RFC3339_UTC_Z_PATTERN`. -/
def matchesRfc3339UtcZ (value : Text) : Bool :=
  let digits (first last : ℕ) : Bool :=
    (slice value first last).length = last - first && (slice value first last).all Unicode.isDecimal
  let rest := value.drop 19
  digits 0 4 && value[4]? = some '-' && digits 5 7 && value[7]? = some '-' && digits 8 10 &&
    value[10]? = some 'T' && digits 11 13 && value[13]? = some ':' && digits 14 16 &&
    value[16]? = some ':' && digits 17 19 &&
    (rest = ['Z'] ||
      (rest.head? = some '.' && rest.getLast? = some 'Z' && isDecimalText rest.tail.dropLast))

/-- The time of a text that ends with `Z` in microseconds, read as a time in UTC. -/
def readUtc (value : Text) : Option ℤ := DateTime.fromIsoFormat (value.dropLast ++ "+00:00")

/-- `_parse_optional_utc_z` of `permissions.py`, in microseconds. -/
def parseProbeTime (value : Text) : Option ℤ :=
  let (date, time) := splitFirst 'T' value.dropLast
  if matchesRfc3339UtcZ value &&
      realisticFields (decimalNat (slice date 0 4)) (decimalNat (slice date 5 7))
        (decimalNat (slice date 8 10)) (decimalNat (slice time 0 2)) (decimalNat (slice time 3 5))
        (decimalNat (slice time 6 8)) then readUtc value
  else none

/-- The seconds between two times in microseconds. -/
def totalSeconds (later earlier : ℤ) : ℚ := Double.round ((later - earlier : ℤ) / 1000000)

/-! ## Gate results -/

/-- `_transport_summary`. -/
def permissionTransportSummary (probe : ActorPermissionProbeResult)
    (reasonCode : Option ActorPermissionReasonCode) :
    Result (Checked ActorPermissionTransportSummary) :=
  construct {
    endpointKind := actorPermissionTransportEndpointKind
    retryable := reasonCode.any (· ∈ retryableActorPermissionReasonCodes)
    reasonCode
    requestId := safeProbeRequestId probe.requestId }

/-- `_safe_endpoint`; the expected endpoint is that of the checked target. -/
def safeEndpoint (probe : ActorPermissionProbeResult) : Option Text := do
  let target ← probe.checkedTarget.get?
  probe.endpoint.clean.filter (· = issueCommentEndpoint target.val.ownerRepo target.val.prNumber)

/-- `_fail` of `permissions.py`. -/
def permissionFail (probe : ActorPermissionProbeResult) (reasonCode : ActorPermissionReasonCode)
    (reason : Text) (transportReasonCode : Option ActorPermissionReasonCode) :
    Result (Checked ActorPermissionGateResult) := do
  let repoPermission := safeOneOf allowedRepoPermissions probe.repoPermission
  let installationPermission := safeOneOf allowedEndpointPermissions probe.installationPermission
  let endpointPermission := safeOneOf allowedEndpointPermissions probe.endpointPermission
  let checkedTarget := probe.checkedTarget.get?
  let transportSummary ← permissionTransportSummary probe transportReasonCode
  construct {
    status := .fail
    actor := safeIdentity probe.actor
    permission := (repoPermission.or installationPermission).or endpointPermission
    checkedAt := probe.checkedAt.get?.filter fun v => (parseProbeTime v).isSome
    reason := some reason
    reasonCode := some reasonCode
    credentialPrincipal := safeIdentity probe.credentialPrincipal
    credentialSource := safeOneOf allowedCredentialSources probe.credentialSource
    repoPermission
    installationPermission
    endpointPermission
    issueCommentWrite := probe.issueCommentWrite.get?
    checkMethod := safeOneOf [actorPermissionCheckMethod] probe.checkMethod
    endpointMethod := safeOneOf [actorPermissionEndpointMethod] probe.endpointMethod
    checkedTarget := checkedTarget.map fun t => t.val.toOrderedDict
    checkedTargetHash := checkedTarget.map fun t => t.val.targetHash
    endpoint := safeEndpoint probe
    endpointKind := safeOneOf [actorPermissionEndpointKind] probe.endpointKind
    transportSummary := some transportSummary }

/-! ## The permission of a credential -/

/-- `_derive_permission`. -/
def derivePermission (probe : ActorPermissionProbeResult) (credentialSource : Text) :
    Except (ActorPermissionReasonCode × Text) Text :=
  let repoPermission := probe.repoPermission.clean
  let installationPermission := probe.installationPermission.clean
  let endpointPermission := probe.endpointPermission.clean
  if ∃ p ∈ repoPermission, p ∉ allowedRepoPermissions then
    .error (.unknownPermission, "unknown repo permission")
  else if ∃ p ∈ installationPermission, p ∉ allowedEndpointPermissions then
    .error (.unknownPermission, "unknown installation permission")
  else if ∃ p ∈ endpointPermission, p ∉ allowedEndpointPermissions then
    .error (.unknownPermission, "unknown endpoint permission")
  else if credentialSource = "pat" ∧ (installationPermission ≠ none ∨
    endpointPermission ≠ none) then
    .error (.malformedResponse, "classic PAT proof must use broad repo permission only")
  else if credentialSource = "fine_grained_pat" ∧
      (repoPermission ≠ none ∨ installationPermission ≠ none) then
    .error (.malformedResponse, "fine-grained PAT proof must use endpoint permission")
  else if credentialSource = "github_app_installation" ∧ repoPermission ≠ none then
    .error (.malformedResponse, "GitHub App installation proof must not use repo permission")
  else if credentialSource = "github_app_installation" ∧ installationPermission = none then
    .error (.unknownPermission, "GitHub App installation permission is missing")
  else if credentialSource = "github_app_installation" ∧ endpointPermission ≠ none ∧
      endpointPermission ≠ installationPermission then
    .error (.malformedResponse,
      "GitHub App endpoint permission must mirror installation permission")
  else if credentialSource = "github_app_user" ∧
      (repoPermission ≠ none ∨ installationPermission ≠ none) then
    .error (.malformedResponse, "GitHub App user proof must use endpoint permission")
  else
    match (repoPermission.or installationPermission).or endpointPermission with
    | none => .error (.unknownPermission, "permission is missing")
    | some permission =>
      if repoPermission.any (· ∈ writeRepoPermissions) = true ∨
          installationPermission.any (· ∈ writeEndpointPermissions) = true ∨
          endpointPermission.any (· ∈ writeEndpointPermissions) = true then .ok permission
      else .error (.insufficientEndpointPermission,
        "credential does not have write permission for issue comments")

/-! ## The gate -/

/-- `DEFAULT_MAX_PROOF_AGE_SECONDS`. -/
def defaultMaxProofAgeSeconds : ℤ := 300

/-- `MAX_FUTURE_SKEW_SECONDS`. -/
def maxFutureSkewSeconds : ℤ := 60

/-- The result of a probe that passes. -/
def passedGate (probe : ActorPermissionProbeResult) (expectedTarget : Checked ReviewTarget)
    (actor credentialPrincipal credentialSource permission : Text)
    (transportSummary : Checked ActorPermissionTransportSummary) : ActorPermissionGateResult where
  status := .pass
  actor := some actor
  permission := some permission
  checkedAt := probe.checkedAt.get?
  reason := none
  reasonCode := none
  credentialPrincipal := some credentialPrincipal
  credentialSource := some credentialSource
  repoPermission := probe.repoPermission.clean
  installationPermission := probe.installationPermission.clean
  endpointPermission := probe.endpointPermission.clean
  issueCommentWrite := some true
  checkMethod := probe.checkMethod.get?
  endpointMethod := probe.endpointMethod.get?
  checkedTarget := some expectedTarget.val.toOrderedDict
  checkedTargetHash := some expectedTarget.val.targetHash
  endpoint := some (issueCommentEndpoint expectedTarget.val.ownerRepo expectedTarget.val.prNumber)
  endpointKind := some actorPermissionEndpointKind
  transportSummary := some transportSummary

/-- A failed probe: the reason, its text, and the reason of the transport. -/
abbrev PermissionFailure : Type :=
  ActorPermissionReasonCode × Text × Option ActorPermissionReasonCode

/-- The checks of a probe, in the order of the code; they yield the actor, the principal, the source
of the credential and the permission. -/
def checkProbe (probe : ActorPermissionProbeResult) (expectedTarget : Checked ReviewTarget)
    (evaluatedTime maxProofAgeSeconds : ℤ) :
    Except PermissionFailure (Text × Text × Text × Text) :=
  match probe.firstMalformedField with
  | some field =>
    .error (.malformedResponse, "permission probe field is malformed: " ++ field, none)
  | none =>
  if probe.issueCommentWrite.isMalformed then
    .error (.malformedResponse, "permission probe issue_comment_write is malformed", none)
  else
  match probe.transportReasonCode with
  | .malformed => .error (.malformedResponse,
      "permission probe returned a malformed transport reason", some .malformedResponse)
  | .value code =>
    if code ∉ transportActorPermissionReasonCodes then
      .error (.malformedResponse, "permission probe returned an invalid transport reason",
        some .malformedResponse)
    else .error (code, "permission probe failed: " ++ code.value, some code)
  | .absent =>
  match safeIdentity probe.actor with
  | none => .error (.unknownActor, "authenticated GitHub actor is unknown", none)
  | some actor =>
  match safeOneOf allowedCredentialSources probe.credentialSource with
  | none => .error (.unknownCredentialSource, "credential source is unknown", none)
  | some credentialSource =>
  match safeIdentity probe.credentialPrincipal with
  | none => .error (.missingCredentialPrincipal, "credential principal is missing", none)
  | some credentialPrincipal =>
  if probe.checkMethod.clean = none then
    .error (.missingCheckMethod, "permission check method is missing", none)
  else
  match probe.checkedTarget with
  | .absent => .error (.missingCheckedTarget, "permission check target is missing", none)
  | .malformed => .error (.malformedResponse, "permission check target is malformed", none)
  | .value checkedTarget =>
  match probe.checkedAt.clean with
  | none => .error (.missingCheckedAt, "permission check timestamp is missing", none)
  | some checkedAt =>
  if probe.checkMethod ≠ .value actorPermissionCheckMethod ∨
      probe.endpointMethod ≠ .value actorPermissionEndpointMethod ∨
      probe.endpointKind ≠ .value actorPermissionEndpointKind ∨
      probe.endpoint ≠ .value
        (issueCommentEndpoint expectedTarget.val.ownerRepo expectedTarget.val.prNumber) ∨
      checkedTarget ≠ expectedTarget then
    .error (.targetMismatch, "permission check target or endpoint did not match", none)
  else
  match parseProbeTime checkedAt with
  | none => .error (.malformedResponse, "permission check timestamp is malformed", none)
  | some checkedTime =>
  if maxProofAgeSeconds < totalSeconds evaluatedTime checkedTime ∨
      totalSeconds evaluatedTime checkedTime < -maxFutureSkewSeconds then
    .error (.staleCachedProof, "permission proof timestamp is stale", none)
  else
  match derivePermission probe credentialSource with
  | .error (code, reason) => .error (code, reason, none)
  | .ok permission =>
  if probe.issueCommentWrite ≠ .value true then
    .error (.insufficientEndpointPermission, "credential cannot write issue comments", none)
  else .ok (actor, credentialPrincipal, credentialSource, permission)

/-- `evaluate_actor_permission_gate`. -/
def evaluateActorPermissionGate (probe : ActorPermissionProbeResult)
    (expectedTarget : Checked ReviewTarget) (evaluatedAt : Text) (maxProofAgeSeconds : ℤ) :
    Result (Checked ActorPermissionGateResult) := do
  require (0 < maxProofAgeSeconds) "max proof age seconds must be a positive integer"
  match parseProbeTime evaluatedAt with
  | none => .error (.valueError "evaluated_at must be UTC RFC3339 with trailing Z")
  | some evaluatedTime =>
    match checkProbe probe expectedTarget evaluatedTime maxProofAgeSeconds with
    | .error (code, reason, transportReasonCode) =>
      permissionFail probe code reason transportReasonCode
    | .ok (actor, credentialPrincipal, credentialSource, permission) => do
      let transportSummary ← permissionTransportSummary probe none
      construct (passedGate probe expectedTarget actor credentialPrincipal credentialSource
        permission transportSummary)

end ReviewGraph
