import ReviewGraph.ApprovedArtifact
import ReviewGraph.FinalizationProbes
import ReviewGraph.Foundation.RaisingPrograms
import ReviewGraph.LiveMarkerScan
import ReviewGraph.LivePostTransport
import ReviewGraph.PullRequestRefs

/-!
# The flow of a live post

`_run_live_post_flow` of `github_live_post.py` as a program that runs commands, reads the clock and
files, asks for a typed hash, posts a comment and writes its artifact.  Everything that is outside
of the program is a call: the commands, the clock, the person at the terminal and the file system
answer as they please.
-/

namespace ReviewGraph

open Interaction

/-! ## The environment of the flow -/

/-- Environment variables. -/
abbrev Environment : Type := List (Text × Text)

/-- `env.get(name)`. -/
def Environment.get (env : Environment) (name : Text) : Option Text := env.lookup name

/-- `env.get(name) or ""`. -/
def Environment.text (env : Environment) (name : Text) : Text := (env.get name).getD []

/-- `_gh_env`. -/
def ghEnv (env : Environment) : Environment :=
  env.filter (fun entry => entry.1 ∈ (["PATH", "HOME", "GITHUB_TOKEN", "GH_TOKEN"] : List Text)) ++
    ([("GH_PROMPT_DISABLED", "1")] : Environment)

/-- The parts of the language and its library that the flow uses. -/
structure PythonRuntime where
  decode : Text → JsonDecoding
  str : Json → Text
  lower : Text → Text
  repr : Text → Text
  nfkc : Text → Text
  isBracketedNetloc : Text → Bool

/-- `LivePostSmokeArtifact`, with the results that its summaries describe. -/
structure LivePostSmokeArtifact where
  status : Text
  reason : Text
  prRef : Option (Text × ℤ) := none
  sourceDryRunArtifactHash : Option Text := none
  approvedPostArtifactHash : Option Text := none
  finalPayloadHash : Option Text := none
  finalization : Option FinalizeGithubPayloadResult := none
  writer : Option GitHubIssueCommentWriterAttemptResult := none
  commentId : Option Text := none

/-- The calls of the flow: look for the `gh` command, run a command that reads, read a file, read
the clock, ask for a hash, run a command that posts, and write the artifact. -/
inductive LivePostCall
  | which
  | run (args : List Text) (timeoutSeconds : ℤ) (env : Environment)
  | readFile (path : Text)
  | now
  | confirmHash (prompt expectedHash : Text)
  | post (args : List Text) (body : Text) (timeoutSeconds : ℤ) (env : Environment)
  | write (destination : Text) (artifact : LivePostSmokeArtifact)

/-- The answers to the calls of the flow; a file, the clock or the person may raise, and for an
artifact the answer says whether it was written. -/
abbrev LivePostCall.Answer : LivePostCall → Type
  | which => Option Text
  | run .. => GhReadRun
  | readFile _ => Option Text
  | now => Option Text
  | confirmHash .. => Option Text
  | post .. => GhPostRun
  | write .. => Bool

/-- The ways the flow is left: an artifact is returned early, a `LivePostCommandError` is raised, or
another exception. -/
inductive LivePostExit
  | finished (artifact : LivePostSmokeArtifact)
  | commandError (reasonCode : Text)
  | raised

/-- Programs of the flow. -/
abbrev LivePost (α : Type) : Type := ExceptT LivePostExit (Prog LivePostCall LivePostCall.Answer) α

namespace LivePost

/-- A call of the flow. -/
def perform (c : LivePostCall) : LivePost c.Answer := ExceptT.mk (.call c fun r => .ret (.ok r))

/-- A call that may raise. -/
def performSome {α : Type} (c : LivePostCall) (h : c.Answer = Option α) : LivePost α :=
  ExceptT.mk (.call c fun r => .ret ((h ▸ r : Option α).elim (.error .raised) .ok))

/-- A computation that may raise. -/
def ofResult {α : Type} (x : Result α) : LivePost α :=
  match x with
  | .ok a => pure a
  | .error _ => throw .raised

end LivePost

/-- `_now`; a time that is empty raises. -/
def livePostNow : LivePost Text := do
  let value ← LivePost.performSome .now rfl
  if value = [] then throw .raised else pure value

/-- `DEFAULT_TIMEOUT_SECONDS`. -/
def livePostTimeoutSeconds : ℤ := 20

/-- `DEFAULT_MAX_PAGES`. -/
def livePostMaxPages : ℕ := 5

/-- `MarkerScanLimits` of a live post. -/
def livePostLimits : Checked MarkerScanLimits := ⟨⟨livePostMaxPages, 500, 10⟩, by decide +kernel⟩

/-- `DISPOSABLE_MARKER`. -/
def disposableMarker : Text := "reviewgraph-disposable-live-post-ok"

/-- `SOURCE_DRY_RUN_SOURCE`. -/
def sourceDryRunSource : Text := "reviewgraph-dry-run-artifact"

/-- `LIVE_POST_PR_ENV`. -/
def livePostPrEnv : Text := "REVIEWGRAPH_LIVE_POST_PR"

/-- `LIVE_POST_APPROVED_ARTIFACT_ENV`. -/
def livePostApprovedArtifactEnv : Text := "REVIEWGRAPH_LIVE_POST_APPROVED_ARTIFACT"

/-- `LIVE_POST_SOURCE_DRY_RUN_ARTIFACT_ENV`. -/
def livePostSourceDryRunArtifactEnv : Text := "REVIEWGRAPH_LIVE_POST_SOURCE_DRY_RUN_ARTIFACT"

/-- `_blocked`. -/
def blockedArtifact (reason : Text) (prRef : Option (Text × ℤ)) : LivePostSmokeArtifact where
  status := "blocked"
  reason := reason
  prRef := prRef

/-- `owner_repo` of a reference. -/
def GitHubPRRef.ownerRepo (ref : GitHubPRRef) : Text := ref.owner ++ ("/" ++ ref.repo)

/-- `_pr_ref_dict` of a reference. -/
def GitHubPRRef.dict (ref : GitHubPRRef) : Text × ℤ := (ref.ownerRepo, ref.prNumber)

/-! ## Payloads -/

/-- `_dict_payload`. -/
def dictPayload : Option Json → Result Mapping
  | some (.obj fields) => .ok fields
  | _ => .error (.valueError "live post expected object JSON payload")

/-- `_text`. -/
def livePostText : Option Json → Result Text
  | some (.str t) =>
    if t = [] then .error (.valueError "live post payload expected a non-empty string") else .ok t
  | _ => .error (.valueError "live post payload expected a non-empty string")

/-- `_target_from_live_payload`. -/
def targetFromLivePayload (target : ReviewTarget) (prPayload comparePayload : Mapping) :
    Result (Checked ReviewTarget) := do
  let base ← dictPayload (Json.lookup prPayload "base")
  let head ← dictPayload (Json.lookup prPayload "head")
  let mergeBase ← dictPayload (Json.lookup comparePayload "merge_base_commit")
  let baseSha ← livePostText (Json.lookup base "sha")
  let headSha ← livePostText (Json.lookup head "sha")
  let mergeBaseSha ← livePostText (Json.lookup mergeBase "sha")
  construct ⟨target.ownerRepo, target.prNumber, baseSha, headSha, some mergeBaseSha,
    target.diffBasis⟩

/-- `_repo_permission_from_payload`. -/
def repoPermissionFromPayload (payload : Mapping) : Result Text := do
  let permissions ← dictPayload (Json.lookup payload "permissions")
  let grants (name : Text) : Bool := Json.lookup permissions name = some (.bool true)
  return if grants "admin" then "admin"
    else if grants "maintain" then "maintain"
    else if grants "push" then "write"
    else if grants "triage" then "triage"
    else "read"

/-- `_has_disposable_marker`. -/
def hasDisposableMarker (str : Json → Text) (payload : Mapping) : Result Bool := do
  let head ← dictPayload (Json.lookup payload "head")
  return ([strOrEmpty str (Json.lookup payload "title"),
    strOrEmpty str (Json.lookup payload "body"),
    strOrEmpty str (Json.lookup head "ref")] : List Text).any fun text =>
    text.contains disposableMarker

/-- The name of the repository of an end of a pull request, if it is a text that is not empty. -/
def repoFullName (side : Mapping) : Result (Option Text) := do
  let repo ← dictPayload (Json.lookup side "repo")
  return match Json.lookup repo "full_name" with
    | some (.str name) => if name = [] then none else some name
    | _ => none

/-- `_is_fork_pr`. -/
def isForkPr (payload : Mapping) : Result Bool := do
  let head ← dictPayload (Json.lookup payload "head")
  let base ← dictPayload (Json.lookup payload "base")
  let headRepo ← repoFullName head
  let baseRepo ← repoFullName base
  return headRepo = none || baseRepo = none || headRepo ≠ baseRepo

/-- `tuple(fingerprints) == expected` for a decoded value; any exception of it blocks the flow. -/
def sameFingerprints (fingerprints : Json) (expected : List Text) : Result Bool :=
  match fingerprints with
  | .arr items => .ok (items = expected.map .str)
  | .str text => .ok (text.map (fun c => [c]) = expected)
  | .obj fields => .ok (fields.map Prod.fst = expected)
  | _ => .error (.valueError "object is not iterable")

/-- The fields of a dry-run artifact that must have the values of the approved artifact. -/
def sourceChecks (approved : ApprovedPostArtifact) : List (Text × Text) :=
  [("target_hash", approved.request.reviewTarget.val.targetHash),
    ("run_id", approved.request.runId),
    ("candidate_visible_body_hash", approved.request.candidatePayload.val.visibleBodyHash),
    ("candidate_findings_hash", approved.request.candidatePayload.val.findingsHash),
    ("final_payload_hash", approved.finalPayloadHash)]

/-- The check of the fingerprints of a dry-run artifact, which may be missing. -/
def verifyFingerprints (fingerprints : Json) (expected : List Text) : Result Unit :=
  if fingerprints = .null then .ok ()
  else do
    let same ← sameFingerprints fingerprints expected
    require (same = true) "source dry-run artifact candidate item fingerprints mismatch"

/-- `_verify_source_dry_run_artifact`. -/
def verifySourceDryRunArtifact (data : Mapping) (approved : ApprovedPostArtifact) : Result Unit :=
  do
  require (Json.lookup data "source" = some (.str sourceDryRunSource))
    "source dry-run artifact source mismatch"
  let artifactHash ← ApprovedPost.requiredStr data "artifact_hash"
  ApprovedPost.requireHash artifactHash "source dry-run artifact_hash"
  require (artifactHash = canonicalJsonHash (.obj (withoutArtifactHash data)))
    "source dry-run artifact hash mismatch"
  require (artifactHash = approved.sourceDryRunArtifactHash)
    "approved artifact is not bound to source dry-run artifact"
  let targetFields ← ApprovedPost.requiredMapping data "target"
  let target ← ApprovedPost.reviewTargetFromDict targetFields
  require (target = approved.request.reviewTarget) "source dry-run artifact target mismatch"
  (sourceChecks approved).forM fun field =>
    require (Json.lookup data field.1 = some (.str field.2))
      ("source dry-run artifact " ++ (field.1 ++ " mismatch"))
  verifyFingerprints (ApprovedPost.get data "candidate_item_fingerprints")
    approved.request.candidatePayload.val.itemFingerprints

/-! ## Texts that are shown -/

/-- The string value of a status. -/
def MarkerReconciliationStatus.value : MarkerReconciliationStatus → Text
  | safeToPost => "safe_to_post"
  | reconciledExisting => "reconciled_existing"
  | failedClosed => "failed_closed"

/-- The string value of a status. -/
def WriterStatus.value : WriterStatus → Text
  | notCalled => "not_called"
  | posted => "posted"
  | reconciled => "reconciled"
  | failed => "failed"

/-- `_EvaluatedLiveProof`, without the number of its commands. -/
structure EvaluatedLiveProof where
  actorProbe : ActorPermissionProbeResult
  targetProbe : TargetFreshnessProbeResult
  markerResult : Checked MarkerReconciliationResult
  actor : Text
  permission : Text
  credentialSource : Text
  disposableMarkerPresent : Bool
  forkPr : Bool

/-- `_marker_prompt_summary`. -/
def markerPromptSummary (marker : MarkerReconciliationResult) : Text :=
  let summary := marker.transportSummary.val
  "status=" ++ (marker.status.value ++ ("; reason_code=" ++ (marker.reasonCode.value ++
    ("; pages=" ++ (Text.ofNat summary.pageCount ++
      ("; comments=" ++ (Text.ofNat summary.commentCount ++
      ("; markers=" ++ Text.ofNat summary.markerCount))))))))

/-- `_approval_prompt`. -/
def approvalPrompt (approved : ApprovedPostArtifact) (proof : EvaluatedLiveProof)
    (checkedAt : Text) :
    Text :=
  let target := approved.request.reviewTarget.val
  let lines : List (Text × Text) :=
    [("Target: ", target.ownerRepo ++ ("#" ++ Text.ofInt target.prNumber)),
    ("Actor: ", proof.actor), ("Credential source: ", proof.credentialSource),
    ("Endpoint permission: ", proof.permission),
    ("Marker scan: ", markerPromptSummary proof.markerResult.val),
    ("Source dry-run artifact hash: ", approved.sourceDryRunArtifactHash),
    ("Approved-post artifact hash: ", approved.artifactHash),
    ("Final payload hash: ", approved.finalPayloadHash), ("Pre-approval proof checked at: ",
    checkedAt)]
  "\nReviewGraph manual live post approval\n" ++
    ((lines.flatMap fun line => line.1 ++ (line.2 ++ ['\n'])) ++
      ("Exact final issue-comment payload:\n" ++ (approved.finalPayloadBody ++
        "\nType the exact final payload hash to post: ")))

/-! ## The flow -/

/-- The arguments of `_run_live_post_flow` besides its runners, its prompter and its clock. -/
structure LivePostArguments where
  env : Environment
  ghPath : Option Text
  approvedArtifact : Option Mapping
  sourceDryRunArtifact : Option Mapping
  inputIsTty : Bool
  outputPath : Option Text

namespace LivePostArguments

variable (rt : PythonRuntime) (args : LivePostArguments)

/-- The checks of `blocked_live_post_artifact` up to the search for the `gh` command. -/
def preflight : Except LivePostSmokeArtifact GitHubPRRef :=
  let prRefText := args.env.text livePostPrEnv
  if args.env.get "REVIEWGRAPH_LIVE_POST" ≠ some "1" then .error
    (blockedArtifact "missing_opt_in" none)
  else if prRefText = [] then .error (blockedArtifact "missing_pr_ref" none)
  else
    match parseGithubPrRef rt.nfkc rt.isBracketedNetloc prRefText with
    | .error _ => .error (blockedArtifact "invalid_pr_ref" none)
    | .ok ref =>
      if args.env.get "REVIEWGRAPH_LIVE_POST_ALLOWED_TARGET" ≠ some prRefText then
        .error (blockedArtifact "target_not_allowlisted" (some ref.dict))
      else if args.env.get "REVIEWGRAPH_LIVE_POST_DISPOSABLE_MARKER" ≠ some disposableMarker then
        .error (blockedArtifact "missing_disposable_marker" (some ref.dict))
      else if args.env.get "REVIEWGRAPH_LIVE_POST_CREDENTIAL_SOURCE" ≠ some "pat" then
        .error (blockedArtifact "unsupported_credential_source" (some ref.dict))
      else if args.approvedArtifact = none ∧ args.env.text livePostApprovedArtifactEnv = [] then
        .error (blockedArtifact "missing_approved_post_artifact" (some ref.dict))
      else if args.sourceDryRunArtifact = none ∧ args.env.text livePostSourceDryRunArtifactEnv =
        [] then
        .error (blockedArtifact "missing_source_dry_run_artifact" (some ref.dict))
      else if args.inputIsTty = false then .error (blockedArtifact "missing_tty" (some ref.dict))
      else .ok ref

/-- `gh_path if gh_path is not None else shutil.which("gh")`. -/
def resolveGh (ghPath : Option Text) : LivePost (Option Text) :=
  match ghPath with
  | some path => pure (some path)
  | none => LivePost.perform .which

/-- The variables of a token are empty. -/
def lacksToken : Bool := args.env.text "GITHUB_TOKEN" = [] && args.env.text "GH_TOKEN" = []

/-- The outcome of `gh auth token` gives no token. -/
def isMissingToken (completed : GhCommandResult) : Bool :=
  completed.returncode ≠ 0 || completed.timedOut || completed.stdout.all Unicode.isSpace

/-- The check of the token, which runs `gh auth token` if the environment has no token. -/
def checkToken (gh : Text) (ref : GitHubPRRef) : LivePost Unit :=
  if args.lacksToken then do
    let run ← LivePost.perform (.run [gh, "auth", "token"] livePostTimeoutSeconds (ghEnv args.env))
    match run with
    | .raised _ => throw .raised
    | .completed completed =>
      if isMissingToken completed then throw (.finished (blockedArtifact "missing_token"
        (some ref.dict)))
      else pure ()
  else pure ()

/-- `blocked_live_post_artifact`, with the reference that it parses. -/
def blockedLivePostArtifact (resolvedGhPath : Option Text) : LivePost GitHubPRRef :=
  match args.preflight rt with
  | .error artifact => throw (.finished artifact)
  | .ok ref => do
    let ghPath ← resolveGh resolvedGhPath
    let gh := ghPath.getD []
    if gh = [] then throw (.finished (blockedArtifact "missing_gh" (some ref.dict)))
    else do
      args.checkToken gh ref
      pure ref

/-- `_load_artifact_from_env`, behind the check that there is a path. -/
def loadArtifact (given : Option Mapping) (pathEnv : Text) : LivePost Mapping :=
  match given with
  | some data => pure data
  | none => do
    let content ← LivePost.performSome (.readFile (args.env.text pathEnv)) rfl
    match rt.decode content with
    | .value (.obj fields) => pure fields
    | _ => throw .raised

/-- What the flow has when it starts to read: the approved artifact, the reference and the
command. -/
structure Opened where
  approved : ApprovedPostArtifact
  ref : GitHubPRRef
  gh : Text

/-- The artifacts that the flow loads and compares with the reference. -/
def openArtifacts (artifactData sourceData : Mapping) (ref : GitHubPRRef) (gh : Text) :
    Except LivePostSmokeArtifact Opened :=
  match loadApprovedPostArtifact rt.repr artifactData with
  | .error _ => .error (blockedArtifact "invalid_approved_post_artifact" (some ref.dict))
  | .ok approved =>
    match verifySourceDryRunArtifact sourceData approved with
    | .error _ => .error (blockedArtifact "invalid_source_dry_run_artifact" (some ref.dict))
    | .ok () =>
      let target := approved.request.reviewTarget.val
      if target.ownerRepo ≠ ref.ownerRepo ∨ target.prNumber ≠ ref.prNumber then
        .error (blockedArtifact "approved_artifact_target_mismatch" (some ref.dict))
      else .ok ⟨approved, ref, gh⟩

/-- The artifacts of a live post, which are loaded and checked. -/
def openLoaded (ghPath : Option Text) (ref : GitHubPRRef) : LivePost Opened := do
  let artifactData ← args.loadArtifact rt args.approvedArtifact livePostApprovedArtifactEnv
  let sourceData ← args.loadArtifact rt args.sourceDryRunArtifact livePostSourceDryRunArtifactEnv
  match openArtifacts rt artifactData sourceData ref (textOr (ghPath.getD []) "gh") with
  | .error artifact => throw (.finished artifact)
  | .ok opened => pure opened

/-- `_run_live_post_flow` up to its first read. -/
def opening : LivePost Opened := do
  let resolvedGhPath ← resolveGh args.ghPath
  let ref ← args.blockedLivePostArtifact rt resolvedGhPath
  args.openLoaded rt resolvedGhPath ref

/-! ### Reads -/

/-- `_get_json`. -/
def getJson (gh resource : Text) : LivePost Json :=
  if isLivePostReadResource resource then do
    let run ← LivePost.perform (.run [gh, "api", resource] livePostTimeoutSeconds (ghEnv args.env))
    match livePostGetJson rt.decode run with
    | .json payload => pure payload
    | .commandError reasonCode => throw (.commandError reasonCode)
    | .raised => throw .raised
  else throw .raised

/-- `_dict_payload(self._get_json(resource))`. -/
def getDict (gh resource : Text) : LivePost Mapping := do
  let payload ← args.getJson rt gh resource
  LivePost.ofResult (dictPayload (some payload))

/-- The resource of a pull request. -/
def pullResource (ownerRepo : Text) (prNumber : ℤ) : Text :=
  "repos/" ++ (ownerRepo ++ ("/pulls/" ++ Text.ofInt prNumber))

/-- The resource of the comparison of a target. -/
def compareResource (target : ReviewTarget) : Text :=
  "repos/" ++ (target.ownerRepo ++ ("/compare/" ++ (target.baseSha ++ ("..." ++ target.headSha))))

/-- `get_issue_comments_page`. -/
def getIssueCommentsPage (gh : Text) (fetch : MarkerFetch) :
    Prog LivePostCall LivePostCall.Answer FetchOutcome :=
  match cursorPage fetch.cursor with
  | none => .ret .raised
  | some page =>
    if (livePostMaxPages : ℤ) < page then .ret (raiseScanFailure .pageCapExceeded)
    else
      let resource := commentsResource fetch.ownerRepo fetch.prNumber page
      if isLivePostReadResource resource then
        .call (.run [gh, "api", resource] livePostTimeoutSeconds (ghEnv args.env)) fun run =>
          .ret (commentsPage rt.str rt.lower page (livePostGetJson rt.decode run))
      else .ret .raised

/-- A field of an artifact that is a text. -/
def artifactText (data : Mapping) (name : Text) : Result Text :=
  match Json.lookup data name with
  | some (.str t) => .ok t
  | _ => .error (.keyError name)

/-- The marker scan of a proof. -/
def proofScan (approved : ApprovedPostArtifact) (actor payloadHash findingsHash : Text) :
    MarkerScanArguments where
  ownerRepo := approved.request.reviewTarget.val.ownerRepo
  prNumber := approved.request.reviewTarget.val.prNumber
  approvedActor := actor
  trustedBotAuthors := []
  expectedTargetHash := approved.request.reviewTarget.val.targetHash
  expectedPayloadHash := payloadHash
  expectedFindingsHash := findingsHash
  limits := some livePostLimits

/-- The probe of the actor. -/
def actorProbeOf (target : Checked ReviewTarget) (actor repoPermission checkedAt : Text)
    (requestId : Option Text) : ActorPermissionProbeResult where
  actor := .value actor
  credentialPrincipal := .value ("gh-user:" ++ actor)
  credentialSource := .value "pat"
  repoPermission := .value repoPermission
  installationPermission := .absent
  endpointPermission := .absent
  issueCommentWrite := .value (repoPermission ∈ (["write", "maintain", "admin"] : List Text))
  checkMethod := .value "fake_issue_comment_permission_probe"
  endpointMethod := .value "POST"
  checkedTarget := .value target
  checkedAt := .value checkedAt
  endpoint := .value (issueCommentEndpoint target.val.ownerRepo target.val.prNumber)
  endpointKind := .value "issue_comment"
  transportReasonCode := .absent
  requestId := requestId.elim .absent .value
  reason := .absent

/-- The probe of the target. -/
def targetProbeOf (currentTarget : Checked ReviewTarget) (checkedAt : Text)
    (requestId : Option Text) :
    TargetFreshnessProbeResult where
  currentTarget := .value currentTarget
  checkedAt := .value checkedAt
  checkMethod := .value "fake_pull_request_target_probe"
  transportReasonCode := .absent
  requestId := requestId.elim .absent .value
  unknownRetryable := .value false
  reason := .absent

/-- The marker scan with the pages that the commands return. -/
def scanMarkers (gh : Text) (scan : MarkerScanArguments) :
    LivePost (Checked MarkerReconciliationResult) := do
  let marker ← ExceptT.lift ((reconcilePaginatedTrustedMarkers scan).handle
    (args.getIssueCommentsPage rt gh))
  LivePost.ofResult marker

/-- `live_proof`. -/
def liveProof (gh : Text) (approved : ApprovedPostArtifact) (checkedAt : Text) :
    LivePost EvaluatedLiveProof := do
  let target := approved.request.reviewTarget
  let actorPayload ← args.getDict rt gh "user"
  let repoPayload ← args.getDict rt gh ("repos/" ++ target.val.ownerRepo)
  let prPayload ← args.getDict rt gh (pullResource target.val.ownerRepo target.val.prNumber)
  let comparePayload ← args.getDict rt gh (compareResource target.val)
  let currentTarget ← LivePost.ofResult (targetFromLivePayload target.val prPayload comparePayload)
  let repoPermission ← LivePost.ofResult (repoPermissionFromPayload repoPayload)
  let actor ← LivePost.ofResult (livePostText (Json.lookup actorPayload "login"))
  let payloadHash ← LivePost.ofResult (artifactText approved.data "marker_payload_hash")
  let findingsHash ← LivePost.ofResult (artifactText approved.data "findings_hash")
  let markerResult ← args.scanMarkers rt gh (proofScan approved actor payloadHash findingsHash)
  let disposableMarkerPresent ← LivePost.ofResult (hasDisposableMarker rt.str prPayload)
  let forkPr ← LivePost.ofResult (isForkPr prPayload)
  pure {
    actorProbe := actorProbeOf target actor repoPermission checkedAt (liveRequestId repoPayload)
    targetProbe := targetProbeOf currentTarget checkedAt
      ((liveRequestId prPayload).or (liveRequestId comparePayload))
    markerResult
    actor
    permission := repoPermission
    credentialSource := "pat"
    disposableMarkerPresent
    forkPr }

/-! ### Confirmation -/

/-- An artifact about an approved artifact. -/
def Opened.artifact (o : Opened) (status reason : Text) : LivePostSmokeArtifact where
  status := status
  reason := reason
  prRef := some o.ref.dict
  sourceDryRunArtifactHash := some o.approved.sourceDryRunArtifactHash
  approvedPostArtifactHash := some o.approved.artifactHash
  finalPayloadHash := some o.approved.finalPayloadHash

/-- A condition that blocks the flow. -/
def Opened.blockIf (o : Opened) (condition : Bool) (reason : Text) : LivePost Unit :=
  if condition then throw (.finished (blockedArtifact reason (some o.ref.dict))) else pure ()

/-- The check of the pull request before the first proof. -/
def checkPullRequest (o : Opened) : LivePost Unit := do
  let payload ← args.getDict rt o.gh (pullResource o.ref.ownerRepo o.ref.prNumber)
  let marked ← LivePost.ofResult (hasDisposableMarker rt.str payload)
  o.blockIf (!marked) "not_disposable_pr"
  let fork ← LivePost.ofResult (isForkPr payload)
  o.blockIf fork "fork_pr_not_supported"

/-- The comparison of the typed hash with the approved one. -/
def confirmHash (o : Opened) (proof : EvaluatedLiveProof) (checkedAt : Text) : LivePost Unit := do
  let typed ← LivePost.performSome
    (.confirmHash (approvalPrompt o.approved proof checkedAt) o.approved.finalPayloadHash) rfl
  if typed ≠ o.approved.finalPayloadHash then
    throw (.finished (o.artifact "blocked" "typed_hash_mismatch"))
  else pure ()

/-- The request of an approved artifact at the time of its confirmation. -/
def Opened.confirmedRequest (o : Opened) (confirmedAt : Text) : ApprovalRequest :=
  { o.approved.request with timestamp := confirmedAt }

/-- The decision that is built from the proof that was shown. -/
def approvalDecisionOf (o : Opened) (preProof : EvaluatedLiveProof) (confirmedAt : Text) :
    Result (Checked ApprovalDecisionBuildResult) := do
  let gate ← evaluateActorPermissionGate preProof.actorProbe o.approved.request.reviewTarget
    confirmedAt
    defaultMaxProofAgeSeconds
  let proof ← buildApprovalProof (o.confirmedRequest confirmedAt)
  buildApprovalDecision proof gate defaultMaxActorPermissionProofAgeSeconds
    defaultMaxActorPermissionFutureSkewSeconds

/-- The approval of a confirmed hash. -/
def approve (o : Opened) (preProof : EvaluatedLiveProof) : LivePost (Checked ApprovalDecision) := do
  let confirmedAt ← livePostNow
  let decision ← LivePost.ofResult (approvalDecisionOf o preProof confirmedAt)
  match decision.val.status, decision.val.approval with
  | .pass, some approval => pure approval
  | _, _ => throw (.finished (blockedArtifact "approval_build_failed" (some o.ref.dict)))

/-- The proof after the approval. -/
def proveAgain (o : Opened) : LivePost EvaluatedLiveProof := do
  let checkedAt ← livePostNow
  let proof ← args.liveProof rt o.gh o.approved checkedAt
  o.blockIf (!proof.disposableMarkerPresent) "post_approval_not_disposable_pr"
  o.blockIf proof.forkPr "post_approval_fork_pr_not_supported"
  pure proof

/-! ### Release -/

/-- The arguments of the finalization. -/
def finalizationOf (o : Opened) (approval : Checked ApprovalDecision)
    (postProof : EvaluatedLiveProof)
    (evaluatedAt : Text) : FinalizationArguments where
  approval := approval
  postingPlan := o.approved.request.postingPlan
  approvedFindingsById := findingById o.approved.request.findings
  currentActorPermissionProbe := postProof.actorProbe
  currentTargetProbe := postProof.targetProbe
  evaluatedAt := evaluatedAt

/-- The reconciler of the finalization. -/
def boundMarker (marker : Checked MarkerReconciliationResult)
    (payload : Checked FinalIssueCommentPayload) :
    Result (Checked BoundMarkerReconciliationResult) :=
  construct ⟨marker, payload.val.markerTargetHash, payload.val.markerPayloadHash,
    payload.val.markerFindingsHash⟩

/-- The finalization. -/
def finalize (o : Opened) (approval : Checked ApprovalDecision) (postProof : EvaluatedLiveProof) :
    LivePost FinalizeGithubPayloadResult := do
  let finalBuild ← LivePost.ofResult o.approved.request.finalBuild
  let evaluatedAt ← livePostNow
  LivePost.ofResult ((finalizationOf o approval postProof evaluatedAt).finalizeGithubPayload
    (some (.ok finalBuild.payload)) (some (boundMarker postProof.markerResult)))

/-- The arguments of the command that posts. -/
def postArgs (gh : Text) (request : IssueCommentPost) : List Text :=
  [gh, "api", "--method", "POST",
    "repos/" ++ (request.ownerRepo ++ ("/issues/" ++ (Text.ofInt request.prNumber ++ "/comments"))),
    "--input", "-"]

/-- The writer of a live post, whose set of attempted keys is empty. -/
def livePostWriter : Checked GitHubIssueCommentWriter := ⟨⟨true, [], 10, none⟩, by decide +kernel⟩

/-- The transports of the writer; a writer that is new has attempted no key. -/
def writerTransport (gh : Text) :
    (c : WriterCall) → Prog LivePostCall LivePostCall.Answer (WriterCall.Answer c)
  | .checkKey _ => .ret false
  | .post request =>
    .call (.post (postArgs gh request) request.body request.timeoutSeconds (ghEnv args.env))
      fun run =>
      .ret (ghPostIssueComment rt.str request run)
  | .fetch page => args.getIssueCommentsPage rt gh page

/-- The artifact of a call of the writer. -/
def Opened.writerArtifact (o : Opened) (finalization : FinalizeGithubPayloadResult)
    (attempt : GitHubIssueCommentWriterAttemptResult) : LivePostSmokeArtifact :=
  let status := attempt.writerResult.val.status
  { o.artifact (if status = .posted ∨ status = .reconciled then "succeeded" else "fail_closed")
      status.value with
    finalization := some finalization
    writer := some attempt
    commentId := attempt.writerResult.val.commentId }

/-- The end of the flow, from the result of the finalization on. -/
def conclude (o : Opened) (approval : Checked ApprovalDecision)
    (finalization : FinalizeGithubPayloadResult) : LivePost LivePostSmokeArtifact :=
  if finalization.markerReconciliation.any (fun m => m.val.status = .reconciledExisting) then
    pure { o.artifact "succeeded" "reconciled_existing" with
      finalization := some finalization
      commentId := finalization.markerReconciliation.bind fun m => m.val.existingCommentId }
  else if finalization.writerInputReleased = false then
    pure { o.artifact "fail_closed" "finalization_failed" with finalization := some finalization }
  else do
    let input ← LivePost.ofResult
      (buildFinalizedIssueCommentWriterInput finalization approval.val o.approved.request.runId)
    let attempt ← ExceptT.lift
      ((livePostWriter.val.postIssueComment input.val).handle (args.writerTransport rt o.gh))
    let attempt ← LivePost.ofResult attempt
    pure (o.writerArtifact finalization attempt)

/-- The part of the flow that reads and posts. -/
def flow (o : Opened) : LivePost LivePostSmokeArtifact := do
  args.checkPullRequest rt o
  let preCheckedAt ← livePostNow
  let preProof ← args.liveProof rt o.gh o.approved preCheckedAt
  confirmHash o preProof preCheckedAt
  let approval ← approve o preProof
  let postProof ← args.proveAgain rt o
  let finalization ← finalize o approval postProof
  args.conclude rt o approval finalization

/-! ### The whole run -/

/-- The path of the artifact, if there is one. -/
def destination : Option Text :=
  match args.outputPath with
  | some (c :: path) => some (c :: path)
  | _ => args.env.get "REVIEWGRAPH_LIVE_POST_OUT"

/-- `_write_artifact_if_requested`; the answer says whether it has not raised. -/
def writeArtifact (artifact : LivePostSmokeArtifact) : Prog LivePostCall LivePostCall.Answer Bool :=
  match args.destination with
  | none => .ret true
  | some destination => .call (.write destination artifact) .ret

/-- `_finish`, outside of the handlers of the flow: an exception escapes. -/
def finish (artifact : LivePostSmokeArtifact) :
    Prog LivePostCall LivePostCall.Answer (Option LivePostSmokeArtifact) := do
  let written ← args.writeArtifact artifact
  return if written then some artifact else none

/-- The handlers of the flow.  An artifact that cannot be written is an exception as well. -/
def handleFlow (o : Opened) (outcome : Except LivePostExit LivePostSmokeArtifact) :
    Prog LivePostCall LivePostCall.Answer (Option LivePostSmokeArtifact) :=
  let failed := blockedArtifact "live_post_failed" (some o.ref.dict)
  let finishInside (artifact : LivePostSmokeArtifact) := do
    let written ← args.writeArtifact artifact
    if written then return some artifact else args.finish failed
  match outcome with
  | .ok artifact => finishInside artifact
  | .error (.finished artifact) => finishInside artifact
  | .error (.commandError reasonCode) => args.finish (o.artifact "fail_closed" reasonCode)
  | .error .raised => args.finish failed

/-- `_run_live_post_flow`; `none` is an exception that escapes. -/
def runLivePostFlow : Prog LivePostCall LivePostCall.Answer (Option LivePostSmokeArtifact) := do
  match ← (args.opening rt).run with
  | .error (.finished artifact) => args.finish artifact
  | .error _ => return none
  | .ok o => do
    let outcome ← (args.flow rt o).run
    args.handleFlow o outcome

end LivePostArguments

end ReviewGraph
