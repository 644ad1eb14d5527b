import ReviewGraph.LivePostCalls

/-!
# The runs of a live post

Whatever the commands, the clock and the person at the terminal answer, the flow of a live post
makes only calls that are allowed, posts at most once, and posts only the approved payload after its
hash was typed and the live state was read again; and its artifact says what has happened.
-/

namespace ReviewGraph

open Interaction

namespace LivePostArguments

/-! ## A run that posts -/

section
variable {rt : PythonRuntime} {args : LivePostArguments}

/-- A result may be what it is. -/
lemma mayReturn_ofResult {α : Type} {x : Result α} {a : α} (h : x = .ok a) :
    MayReturn (LivePost.ofResult x) a := by
  rw [h]
  exact mayReturn_pure a

/-- The clock may show any time. -/
lemma mayReturn_now {value : Text} (h : value ≠ []) : MayReturn livePostNow value := by
  refine MayReturn.bind (a := value) (mayReturn_call (some value) rfl) ?_
  rw [if_neg h]
  exact mayReturn_pure value

/-- A command may return an object. -/
lemma mayReturn_getDict (gh : Text) {resource : Text} (stdout : Text) (fields : Mapping)
    (hresource : isLivePostReadResource resource = true) (hdecode : rt.decode stdout = .value
      (.obj fields)) :
    MayReturn (args.getDict rt gh resource) fields := by
  have hget : livePostGetJson rt.decode (.completed ⟨0, stdout, [], false⟩) = .json
      (.obj fields) := by
    simp [livePostGetJson, hdecode]
  refine MayReturn.bind (a := .obj fields) ?_ (mayReturn_ofResult rfl)
  unfold getJson
  rw [if_pos hresource]
  refine MayReturn.bind (mayReturn_call (GhReadRun.completed ⟨0, stdout, [], false⟩) rfl) ?_
  rw [hget]
  exact mayReturn_pure _

/-- A page without comments. -/
def emptyPage : MarkerCommentPage := ⟨[], .absent, true, none⟩

/-- The state of a scan after it. -/
def afterEmptyPage : MarkerScanState := { MarkerScanState.initial with pageCount := 1 }

/-- The scan of a pull request without comments finds that posting is safe. -/
lemma scan_emptyPage {scan : MarkerScanArguments} (hlimits : scan.limits = some livePostLimits)
    (hcheck : scan.check = .ok ()) :
    Runs (reconcilePaginatedTrustedMarkers scan) [⟨scan.fetch .initial, .page emptyPage⟩]
      (.ok FinalizationArguments.safeMarker) := by
  have hmax : scan.scanLimits = livePostLimits.val := by
    unfold MarkerScanArguments.scanLimits
    rw [hlimits]
    rfl
  have hpage : scan.acceptPage .initial emptyPage = .ok afterEmptyPage := by
    unfold MarkerScanArguments.acceptPage
    dsimp only
    rw [if_neg (by decide), if_neg (by decide), if_neg (by decide), hmax, if_neg (by decide)]
    rfl
  have hfinish : afterEmptyPage.finish.toOption.any
      (fun marker => marker = FinalizationArguments.safeMarker) = true := by
    decide +kernel
  obtain ⟨marker, hfinish, rfl⟩ := FinalizationArguments.exists_ok_of_any hfinish
  rw [MarkerScanArguments.reconcile_eq_scan hcheck, hmax]
  refine .call (R := fun _ => FetchOutcome) (.page emptyPage) ?_
  have hcompleted : emptyPage.completed = true := rfl
  dsimp only
  rw [hpage]
  dsimp only
  rw [if_pos hcompleted, hfinish]
  exact .ret _

/-- The scan may find that posting is safe. -/
lemma mayReturn_scanMarkers (gh : Text) {stdout : Text} {scan : MarkerScanArguments}
    (hlimits : scan.limits = some livePostLimits) (hcheck : scan.check = .ok ())
    (hresource : isLivePostReadResource (commentsResource scan.ownerRepo scan.prNumber 1) = true)
    (hdecode : rt.decode stdout = .value (.arr [])) :
    MayReturn (args.scanMarkers rt gh scan) FinalizationArguments.safeMarker := by
  have hfetch : ∃ t, Runs (args.getIssueCommentsPage rt gh (scan.fetch .initial)) t
      (.page emptyPage) := by
    have hget : livePostGetJson rt.decode (.completed ⟨0, stdout, [], false⟩) = .json
        (.arr []) := by
      simp [livePostGetJson, hdecode]
    have hpage : commentsPage rt.str rt.lower 1 (.json (.arr [])) = .page emptyPage := rfl
    have hcursor : cursorPage (scan.fetch .initial).cursor = some 1 := rfl
    have hread : isLivePostReadResource (commentsResource (scan.fetch .initial).ownerRepo
        (scan.fetch .initial).prNumber 1) = true := hresource
    unfold getIssueCommentsPage
    rw [hcursor]
    dsimp only
    rw [if_neg (by decide), if_pos hread]
    have hreturn : Runs (Prog.ret (commentsPage rt.str rt.lower 1 (livePostGetJson rt.decode
        (.completed ⟨0, stdout, [], false⟩))) : Prog LivePostCall LivePostCall.Answer FetchOutcome)
          []
        (.page emptyPage) := by
      rw [hget, hpage]
      exact .ret _
    exact ⟨_, .call (GhReadRun.completed ⟨0, stdout, [], false⟩) hreturn⟩
  obtain ⟨t, hfetch⟩ := hfetch
  refine MayReturn.bind (a := .ok FinalizationArguments.safeMarker) ⟨t ++ [], ?_⟩
    (mayReturn_ofResult rfl)
  refine runs_run_lift_iff.2 ⟨_, runs_handle_iff.2 ⟨_, scan_emptyPage hlimits hcheck, ?_⟩, rfl⟩
  exact .cons hfetch .nil

end

/-- The pull request of the sample. -/
def samplePull : Mapping :=
  [("title", .str disposableMarker),
    ("base", .obj [("sha", .str "b"), ("repo", .obj [("full_name", .str "o/r")])]),
    ("head", .obj [("sha", .str "h"), ("repo", .obj [("full_name", .str "o/r")])])]

/-- The permissions of the sample. -/
def sampleRepo : Mapping := [("permissions", .obj [("push", .bool true)])]

/-- The comparison of the sample. -/
def sampleCompare : Mapping := [("merge_base_commit", .obj [("sha", .str "merge")])]

/-- The actor of the sample. -/
def sampleUser : Mapping := [("login", .str "alice")]

/-- The values that the commands of the sample return. -/
def sampleValues : List (Text × Json) :=
  [("user", .obj sampleUser), ("repo", .obj sampleRepo), ("pull", .obj samplePull),
    ("compare", .obj sampleCompare), ("comments", .arr [])]

/-- A runtime that decodes the values of the sample. -/
def sampleRuntime : PythonRuntime where
  decode := fun t => (Json.lookup sampleValues t).elim (.invalid "Expecting value") .value
  str := strOf Json.dumps
  lower := Text.casefold
  repr := quotedRepr
  nfkc := id
  isBracketedNetloc := fun _ => true

/-- The environment of the sample. -/
def sampleEnvironment : Environment :=
  [("REVIEWGRAPH_LIVE_POST", "1"), (livePostPrEnv, "o/r#1"),
    ("REVIEWGRAPH_LIVE_POST_ALLOWED_TARGET", "o/r#1"),
    ("REVIEWGRAPH_LIVE_POST_DISPOSABLE_MARKER", disposableMarker),
    ("REVIEWGRAPH_LIVE_POST_CREDENTIAL_SOURCE", "pat"), ("GH_TOKEN", "token")]

/-- The arguments of the sample. -/
def sample (approvedData sourceData : Mapping) : LivePostArguments where
  env := sampleEnvironment
  ghPath := some "gh"
  approvedArtifact := some approvedData
  sourceDryRunArtifact := some sourceData
  inputIsTty := true
  outputPath := none

/-- The time of the sample. -/
def sampleTime : Text := "2026-05-07T00:00:00Z"

/-- What the proof of the sample shows. -/
def sampleProof : EvaluatedLiveProof where
  actorProbe := FinalizationArguments.writerProbe
  targetProbe := targetProbeOf FinalizationArguments.mergedTarget sampleTime none
  markerResult := FinalizationArguments.safeMarker
  actor := "alice"
  permission := "write"
  credentialSource := "pat"
  disposableMarkerPresent := true
  forkPr := false

/-- The environment of the sample lets its live post start. -/
lemma sampleEnvironment_allows :
    sampleEnvironment.get "REVIEWGRAPH_LIVE_POST" = some "1" ∧
      sampleEnvironment.text livePostPrEnv ≠ [] ∧
      parseGithubPrRef sampleRuntime.nfkc sampleRuntime.isBracketedNetloc
        (sampleEnvironment.text livePostPrEnv) = .ok ⟨"o", "r", 1⟩ ∧
      sampleEnvironment.get "REVIEWGRAPH_LIVE_POST_ALLOWED_TARGET" =
        some (sampleEnvironment.text livePostPrEnv) ∧
      sampleEnvironment.get "REVIEWGRAPH_LIVE_POST_DISPOSABLE_MARKER" = some disposableMarker ∧
      sampleEnvironment.get "REVIEWGRAPH_LIVE_POST_CREDENTIAL_SOURCE" = some "pat" ∧
      sampleEnvironment.text "GH_TOKEN" ≠ [] ∧
      sampleEnvironment.get "REVIEWGRAPH_LIVE_POST_OUT" = none := by
  decide +kernel

/-- The sample passes the preflight. -/
lemma sample_preflight (approvedData sourceData : Mapping) :
    (sample approvedData sourceData).preflight sampleRuntime = .ok ⟨"o", "r", 1⟩ := by
  obtain ⟨hopt, href, hparse, hallowed, hmarker, hsource, -⟩ := sampleEnvironment_allows
  have henv : (sample approvedData sourceData).env = sampleEnvironment := rfl
  unfold preflight
  rw [henv]
  dsimp only
  rw [if_neg (not_not.2 hopt), if_neg href, hparse]
  dsimp only
  rw [if_neg (not_not.2 hallowed), if_neg (not_not.2 hmarker), if_neg (not_not.2 hsource),
    if_neg (by simp [sample]), if_neg (by simp [sample]), if_neg (by simp [sample])]

/-- The runtime decodes the sample values. -/
lemma sampleRuntime_decode :
    ∀ entry ∈ sampleValues, sampleRuntime.decode entry.1 = .value entry.2 := by
  simp [sampleValues, sampleRuntime, Json.lookup_cons, Text.ofString_inj]

/-- A result with a value succeeds. -/
lemma eq_ok_of_toOption {α : Type} {x : Result α} {a : α} (h : x.toOption = some a) :
    x = .ok a := by
  cases x with
  | error e => contradiction
  | ok b => rw [Option.some.inj h]

/-- What the payloads of the sample say about its target, its actor and its permission. -/
lemma sample_payloads :
    (targetFromLivePayload FinalizationArguments.mergedTarget.val samplePull
      sampleCompare).toOption.any
        (fun target => target = FinalizationArguments.mergedTarget) = true ∧
      (repoPermissionFromPayload sampleRepo).toOption = some "write" ∧
      (livePostText (Json.lookup sampleUser "login")).toOption = some "alice" ∧
      (hasDisposableMarker sampleRuntime.str samplePull).toOption = some true ∧
      (isForkPr samplePull).toOption = some false ∧
      (liveRequestId samplePull).or (liveRequestId sampleCompare) = none ∧
      actorProbeOf FinalizationArguments.mergedTarget "alice" "write" sampleTime
        (liveRequestId sampleRepo) = FinalizationArguments.writerProbe := by
  decide +kernel

/-- The resources that the sample reads may be read. -/
lemma sample_resources : isLivePostReadResource "user" = true ∧
    isLivePostReadResource ("repos/" ++ FinalizationArguments.mergedTarget.val.ownerRepo) = true ∧
    isLivePostReadResource (pullResource FinalizationArguments.mergedTarget.val.ownerRepo
      FinalizationArguments.mergedTarget.val.prNumber) = true ∧
    isLivePostReadResource (compareResource FinalizationArguments.mergedTarget.val) = true ∧
    isLivePostReadResource (commentsResource FinalizationArguments.mergedTarget.val.ownerRepo
      FinalizationArguments.mergedTarget.val.prNumber 1) = true := by
  decide +kernel

/-- The resources of the sample pass their checks. -/
lemma sample_checks : repoPermissionFromPayload sampleRepo = .ok "write" ∧
    livePostText (Json.lookup sampleUser "login") = .ok "alice" ∧
    hasDisposableMarker sampleRuntime.str samplePull = .ok true ∧
      isForkPr samplePull = .ok false := by
  obtain ⟨-, hpermission, hactor, hmarked, hfork, -⟩ := sample_payloads
  exact ⟨eq_ok_of_toOption hpermission, eq_ok_of_toOption hactor, eq_ok_of_toOption hmarked,
    eq_ok_of_toOption hfork⟩

/-- The commands of the sample may return its proof. -/
lemma mayReturn_sampleProof {args : LivePostArguments} {approved : ApprovedPostArtifact}
    {payloadHash findingsHash : Text}
    (htarget : approved.request.reviewTarget = FinalizationArguments.mergedTarget)
    (hpayload : Json.lookup approved.data "marker_payload_hash" = some (.str payloadHash))
    (hfindings : Json.lookup approved.data "findings_hash" = some (.str findingsHash))
    (hpayloadStrict : IsStrictSha256 payloadHash) (hfindingsStrict : IsStrictSha256 findingsHash) :
    MayReturn (args.liveProof sampleRuntime "gh" approved sampleTime) sampleProof := by
  have hdecode := sampleRuntime_decode
  simp only [sampleValues, List.forall_mem_cons] at hdecode
  obtain ⟨huser, hrepo, hpull, hcompare, hcomments, -⟩ := hdecode
  obtain ⟨hcurrent, -, -, -, -, hrequest, hprobe⟩ := sample_payloads
  obtain ⟨target, hcurrent, rfl⟩ := FinalizationArguments.exists_ok_of_any hcurrent
  obtain ⟨huserRead, hrepoRead, hpullRead, hcompareRead, hcommentsRead⟩ := sample_resources
  obtain ⟨hpermission, hactor, hmarked, hfork⟩ := sample_checks
  have hscan : (proofScan approved "alice" payloadHash findingsHash).check = .ok () := by
    simp only [MarkerScanArguments.check, proofScan, check_bind_eq_ok, require_eq_ok, htarget]
    have hstrict := ReviewTarget.isStrictSha256_targetHash FinalizationArguments.mergedTarget.val
    exact ⟨by
      simp [FinalizationArguments.mergedTarget], by
      decide, by simp, hstrict.ne_nil, hstrict, hpayloadStrict.ne_nil,
      hpayloadStrict, hfindingsStrict.ne_nil, hfindingsStrict, by simp⟩
  unfold liveProof
  rw [htarget]
  refine (mayReturn_getDict "gh" "user" sampleUser huserRead huser).bind ?_
  refine (mayReturn_getDict "gh" "repo" sampleRepo hrepoRead hrepo).bind ?_
  refine (mayReturn_getDict "gh" "pull" samplePull hpullRead hpull).bind ?_
  refine (mayReturn_getDict "gh" "compare" sampleCompare hcompareRead hcompare).bind ?_
  refine (mayReturn_ofResult hcurrent).bind ?_
  refine (mayReturn_ofResult hpermission).bind ?_
  refine (mayReturn_ofResult hactor).bind ?_
  refine (mayReturn_ofResult (a := payloadHash) ?_).bind ?_
  · simp [artifactText, hpayload]
  refine (mayReturn_ofResult (a := findingsHash) ?_).bind ?_
  · simp [artifactText, hfindings]
  refine (mayReturn_scanMarkers "gh" rfl hscan ?_ hcomments).bind ?_
  · simpa only [proofScan, htarget] using hcommentsRead
  refine (mayReturn_ofResult hmarked).bind ?_
  refine (mayReturn_ofResult hfork).bind ?_
  rw [hprobe, hrequest]
  exact mayReturn_pure sampleProof

/-- The fields of a dry-run artifact that is bound to a request and its final payload. -/
def sourceFields (request : ApprovalRequest) (finalPayloadHash : Text) : Mapping :=
  [("source", .str sourceDryRunSource), ("target", .obj request.reviewTarget.val.toOrderedDict),
    ("target_hash", .str request.reviewTarget.val.targetHash), ("run_id", .str request.runId),
    ("candidate_visible_body_hash", .str request.candidatePayload.val.visibleBodyHash),
    ("candidate_findings_hash", .str request.candidatePayload.val.findingsHash),
    ("final_payload_hash", .str finalPayloadHash)]

/-- A dry-run artifact. -/
def sourceArtifact (request : ApprovalRequest) (finalPayloadHash : Text) : Mapping :=
  sourceFields request finalPayloadHash ++
    ([("artifact_hash", .str (canonicalJsonHash (.obj (sourceFields request finalPayloadHash))))] :
      Mapping)

/-- A hash passes the check of the artifact. -/
lemma requireHash_of_isStrictSha256 {value name : Text} (h : IsStrictSha256 value) :
    ApprovedPost.requireHash value name = .ok () := by
  refine requireHash_eq_ok.2 ⟨h.hashPrefix_accepted, ?_⟩
  obtain ⟨digest, rfl, hlength, -⟩ := h
  rw [List.length_append, hashPrefix_eq, hlength]
  rfl

/-- A dry-run artifact is verified for the approved artifact that names its hash. -/
lemma verify_sourceArtifact {approved : ApprovedPostArtifact}
    (hsource : approved.sourceDryRunArtifactHash =
      canonicalJsonHash (.obj (sourceFields approved.request approved.finalPayloadHash))) :
    verifySourceDryRunArtifact (sourceArtifact approved.request approved.finalPayloadHash)
      approved =
      .ok () := by
  have hstrict : IsStrictSha256 approved.sourceDryRunArtifactHash := by
    rw [hsource]
    exact isStrictSha256_sha256Text _
  have hwithout : withoutArtifactHash (sourceArtifact approved.request approved.finalPayloadHash) =
      sourceFields approved.request approved.finalPayloadHash := by
    simp [withoutArtifactHash, sourceArtifact, sourceFields, Text.ofString_inj]
  have hlookup : ∀ name, Json.lookup (sourceArtifact approved.request approved.finalPayloadHash)
      name =
      Json.lookup (sourceFields approved.request approved.finalPayloadHash ++
        [(("artifact_hash" : Text), .str approved.sourceDryRunArtifactHash)]) name := by
    intro name
    rw [hsource]
    rfl
  have hhash : Json.lookup (sourceArtifact approved.request approved.finalPayloadHash)
      "artifact_hash" =
      some (.str approved.sourceDryRunArtifactHash) := by
    rw [hlookup]
    simp [sourceFields, Json.lookup_cons, Text.ofString_inj]
  have htarget : Json.lookup (sourceArtifact approved.request approved.finalPayloadHash) "target" =
      some (.obj approved.request.reviewTarget.val.toOrderedDict) := by
    simp [sourceArtifact, sourceFields, Json.lookup_cons, Text.ofString_inj]
  have hnone : ApprovedPost.get (sourceArtifact approved.request approved.finalPayloadHash)
      "candidate_item_fingerprints" = .null := by
    simp [ApprovedPost.get, sourceArtifact, sourceFields, Json.lookup, Text.ofString_inj]
  unfold verifySourceDryRunArtifact
  rw [hwithout, ApprovedPost.requiredStr_of_lookup hhash hstrict.ne_nil,
    ApprovedPost.requiredMapping_of_lookup htarget, ok_bind, ok_bind,
    ApprovedPost.reviewTargetFromDict_toOrderedDict, ok_bind, hnone]
  simp only [check_bind_eq_ok, require_eq_ok, forM_eq_ok]
  refine ⟨?_, requireHash_of_isStrictSha256 hstrict, hsource, trivial, trivial, ?_, rfl⟩
  · simp [sourceArtifact, sourceFields, Json.lookup_cons]
  · intro field hfield
    simp only [sourceChecks, List.mem_cons, List.not_mem_nil, or_false] at hfield
    rcases hfield with rfl | rfl | rfl | rfl | rfl <;>
      simp [sourceArtifact, sourceFields, Json.lookup_cons, Text.ofString_inj]

/-- The pull request of the sample. -/
def sampleRef : GitHubPRRef := ⟨"o", "r", 1⟩

/-- The reference is that of the target. -/
lemma sampleRef_eq : sampleRef.ownerRepo = FinalizationArguments.mergedTarget.val.ownerRepo ∧
    sampleRef.prNumber = FinalizationArguments.mergedTarget.val.prNumber := by
  simp [sampleRef, FinalizationArguments.mergedTarget, GitHubPRRef.ownerRepo, Text.ofString_eq]

/-- The sample is opened. -/
lemma mayReturn_opening {approved : ApprovedPostArtifact} {sourceData : Mapping}
    (hload : loadApprovedPostArtifact sampleRuntime.repr approved.data = .ok approved)
    (hsource : verifySourceDryRunArtifact sourceData approved = .ok ())
    (htarget : approved.request.reviewTarget = FinalizationArguments.mergedTarget) :
    MayReturn ((sample approved.data sourceData).opening sampleRuntime) ⟨approved, sampleRef,
      "gh"⟩ := by
  have hopen : openArtifacts sampleRuntime approved.data sourceData sampleRef
      (textOr ((some "gh" : Option Text).getD []) "gh") = .ok ⟨approved, sampleRef, "gh"⟩ := by
    have hsame : ¬ (FinalizationArguments.mergedTarget.val.ownerRepo ≠ sampleRef.ownerRepo ∨
        FinalizationArguments.mergedTarget.val.prNumber ≠ sampleRef.prNumber) := by
      simp [sampleRef_eq]
    have hgh : textOr ((some "gh" : Option Text).getD []) "gh" = "gh" := by simp [textOr]
    unfold openArtifacts
    rw [hload]
    dsimp only
    rw [hsource]
    dsimp only
    rw [htarget, if_neg hsame, hgh]
  have hblocked : MayReturn ((sample approved.data sourceData).blockedLivePostArtifact sampleRuntime
      (some "gh")) sampleRef := by
    have htoken : (sample approved.data sourceData).lacksToken = false := by
      have htext := sampleEnvironment_allows.2.2.2.2.2.2.1
      have henv : (sample approved.data sourceData).env = sampleEnvironment := rfl
      unfold lacksToken
      rw [henv, decide_eq_false htext, Bool.and_false]
    unfold blockedLivePostArtifact
    rw [sample_preflight]
    refine (mayReturn_pure (some ("gh" : Text))).bind ?_
    have hgh : ¬ (some ("gh" : Text)).getD [] = [] := by simp
    dsimp only
    rw [if_neg hgh]
    refine MayReturn.bind (a := ()) ?_ (mayReturn_pure _)
    unfold checkToken
    rw [htoken]
    exact mayReturn_pure ()
  unfold opening openLoaded
  refine (mayReturn_pure (some ("gh" : Text))).bind ?_
  refine hblocked.bind ?_
  refine (mayReturn_pure approved.data).bind ?_
  refine (mayReturn_pure sourceData).bind ?_
  rw [hopen]
  exact mayReturn_pure _

/-- What the command that posts prints in the sample. -/
def postedOutput : Text := "\x7b\"id\": 7, \"user\": \x7b\"login\": \"alice\"\x7d\x7d"

/-- The run of the command that posts in the sample. -/
def sampleRun : GhPostRun := .completed ⟨0, postedOutput, [], false⟩

/-- The response to the post of the sample. -/
def sampleResponse : GitHubIssueCommentPostResponse := ⟨some ['7'], some "alice", none⟩

/-- The output of the command is read as the response. -/
lemma ghPostIssueComment_sampleRun (request : IssueCommentPost) :
    ghPostIssueComment sampleRuntime.str request sampleRun = .response sampleResponse := by
  have hloads : Json.loads postedOutput =
      .ok (.obj [("id", .int 7), ("user", .obj [("login", .str "alice")])]) := by
    decide +kernel
  have hid : sampleRuntime.str (.int 7) = ['7'] := by decide +kernel
  have hresponse : ghPostResponse sampleRuntime.str request postedOutput =
      .response sampleResponse := by
    unfold ghPostResponse
    rw [hloads]
    simp [returnsOtherBody, userLogin, liveRequestId, isFalsy, Json.lookup, Text.ofString_eq, hid,
      sampleResponse]
  exact hresponse

/-- A response by the approved actor, with the identifier of the comment, is a success. -/
lemma respondedResult_sampleResponse {input : Checked FinalizedIssueCommentWriterInput}
    (hactor : input.val.approvedActor = "alice") :
    ∃ attempt, GitHubIssueCommentWriter.respondedResult input.val sampleResponse = .ok attempt ∧
      attempt.writerResult.val.status = .posted := by
  obtain ⟨attempt, hattempt, -⟩ :=
    GitHubIssueCommentWriter.respondedResult_ok input sampleResponse
  refine ⟨attempt, hattempt, ?_⟩
  have hsame : ¬ sampleResponse.authorLogin ≠ some input.val.approvedActor := by
    rw [hactor]
    exact not_not.2 rfl
  unfold GitHubIssueCommentWriter.respondedResult at hattempt
  rw [if_neg (by decide), if_neg hsame] at hattempt
  obtain ⟨result, hresult, hattempt⟩ := bind_eq_ok.1 hattempt
  obtain ⟨summary, -, hattempt⟩ := bind_eq_ok.1 hattempt
  obtain rfl := pure_eq_ok.1 hattempt
  rw [construct_eq_ok.1 hresult]

/-- The writer posts a payload that is valid, and returns what it makes of the response. -/
lemma mayCall_writer {rt : PythonRuntime} {args : LivePostArguments} {gh : Text}
    {input : Checked FinalizedIssueCommentWriterInput}
    (hvalid : ValidFinalPayload input.val.finalPayload.val) {run : GhPostRun}
    {response : GitHubIssueCommentPostResponse}
    (hrun : ghPostIssueComment rt.str (livePostWriter.val.request input.val) run =
      .response response) :
    MayCall (fun c => isPost c = true) (ExceptT.lift
      ((livePostWriter.val.postIssueComment input.val).handle (args.writerTransport rt gh)) :
        LivePost (Result GitHubIssueCommentWriterAttemptResult))
      (GitHubIssueCommentWriter.respondedResult input.val response) := by
  obtain ⟨validation, hvalidate, hpass, -⟩ :=
    validateFinalIssueCommentPayload_ok input.val.finalPayload
  obtain ⟨k, k', hcheck, hpost, -, hresponse⟩ :=
    GitHubIssueCommentWriter.postIssueComment_of_pass livePostWriter.val hvalidate (hpass.2 hvalid)
  have hwriter : Runs ((livePostWriter.val.postIssueComment input.val).handle
      (args.writerTransport rt gh))
      [⟨postCall args gh (livePostWriter.val.request input.val), run⟩]
      (GitHubIssueCommentWriter.respondedResult input.val response) := by
    rw [hcheck]
    change Runs ((k false).handle (args.writerTransport rt gh)) _ _
    rw [hpost]
    refine .call (c := postCall args gh (livePostWriter.val.request input.val)) _ ?_
    change Runs ((k' (ghPostIssueComment rt.str (livePostWriter.val.request input.val)
      run)).handle (args.writerTransport rt gh)) _ _
    rw [hrun, hresponse]
    exact .ret _
  exact ⟨_, runs_run_lift_iff.2 ⟨_, hwriter, rfl⟩, _, List.mem_cons_self, rfl⟩

/-- The gate lets the actor of the sample through. -/
lemma sample_gate : (evaluateActorPermissionGate FinalizationArguments.writerProbe
    FinalizationArguments.mergedTarget sampleTime 300).toOption.any
    (fun gate => gate = FinalizationArguments.writerGate) = true := by
  decide +kernel

/-- A run that writes no artifact returns the one of its flow. -/
lemma runs_handleFlow_ok {args : LivePostArguments} (h : args.destination = none) (o : Opened)
    (artifact : LivePostSmokeArtifact) :
    Runs (args.handleFlow o (.ok artifact)) [] (some artifact) := by
  have hwrite : args.writeArtifact artifact = .ret true := by
    unfold writeArtifact
    rw [h]
  simp only [handleFlow, hwrite, Prog.ret_bind]
  exact .ret _

/-! ### The steps of the sample -/

/-- The approved artifact of the sample, bound to its dry run. -/
def sampleApproved (p : Checked CandidateIssueCommentPayload) (fingerprints : List Text)
    (b : ApprovedFinalIssueCommentBuild) : ApprovedPostArtifact :=
  (FinalizationArguments.mergedRequest p).artifact (canonicalJsonHash (.obj (sourceFields
    (FinalizationArguments.mergedRequest p) b.payload.val.finalPayloadHash))) fingerprints b

/-- What the sample opens. -/
def sampleOpened (p : Checked CandidateIssueCommentPayload) (fingerprints : List Text)
    (b : ApprovedFinalIssueCommentBuild) : Opened :=
  ⟨sampleApproved p fingerprints b, sampleRef, "gh"⟩

section Steps

variable {p : Checked CandidateIssueCommentPayload} {fingerprints : List Text}
  {b : ApprovedFinalIssueCommentBuild} {proof : Checked ApprovalProofResult}
  {decision : Checked ApprovalDecisionBuildResult} {approval : Checked ApprovalDecision}

lemma sampleTime_ne_nil : sampleTime ≠ [] := by simp [sampleTime]

/-- The pull request of the sample may be posted to. -/
lemma mayReturn_sampleCheck (args : LivePostArguments) :
    MayReturn (args.checkPullRequest sampleRuntime (sampleOpened p fingerprints b)) () := by
  obtain ⟨-, -, hmarked, hfork⟩ := sample_checks
  have hread : isLivePostReadResource (pullResource sampleRef.ownerRepo sampleRef.prNumber) =
      true := by
    rw [sampleRef_eq.1, sampleRef_eq.2]
    exact sample_resources.2.2.1
  have hdecode := sampleRuntime_decode ("pull", .obj samplePull) (by simp [sampleValues])
  refine (mayReturn_getDict "gh" "pull" samplePull hread hdecode).bind ?_
  refine (mayReturn_ofResult hmarked).bind ?_
  refine (mayReturn_pure ()).bind ?_
  exact (mayReturn_ofResult hfork).bind (mayReturn_pure ())

/-- The hash of the sample is typed. -/
lemma mayReturn_sampleConfirm :
    MayReturn (confirmHash (sampleOpened p fingerprints b) sampleProof sampleTime) () := by
  refine MayReturn.bind (a := (sampleApproved p fingerprints b).finalPayloadHash)
    (mayReturn_call (some (sampleApproved p fingerprints b).finalPayloadHash) rfl) ?_
  have hsame : ¬ (sampleApproved p fingerprints b).finalPayloadHash ≠
      (sampleOpened p fingerprints b).approved.finalPayloadHash := not_not.2 rfl
  rw [if_neg hsame]
  exact mayReturn_pure ()

/-- The sample is approved. -/
lemma mayReturn_sampleApprove
    (hproof : buildApprovalProof (FinalizationArguments.mergedRequest p) = .ok proof)
    (hdecision : buildApprovalDecision proof FinalizationArguments.writerGate 300 60 =
      .ok decision)
    (hpass : decision.val.status = .pass) (happroval : decision.val.approval = some approval) :
    MayReturn (approve (sampleOpened p fingerprints b) sampleProof) approval := by
  obtain ⟨gate, hgate, rfl⟩ := FinalizationArguments.exists_ok_of_any sample_gate
  have hdecided : approvalDecisionOf (sampleOpened p fingerprints b) sampleProof sampleTime =
      .ok decision := by
    unfold approvalDecisionOf
    change (evaluateActorPermissionGate FinalizationArguments.writerProbe
      FinalizationArguments.mergedTarget sampleTime 300 >>= _) = _
    rw [hgate, ok_bind]
    change (buildApprovalProof (FinalizationArguments.mergedRequest p) >>= _) = _
    rw [hproof, ok_bind]
    exact hdecision
  refine (mayReturn_now sampleTime_ne_nil).bind ?_
  refine (mayReturn_ofResult hdecided).bind ?_
  rw [hpass, happroval]
  exact mayReturn_pure approval

/-- The second proof of the sample shows the same. -/
lemma mayReturn_sampleAgain {args : LivePostArguments}
    (hproves : MayReturn (args.liveProof sampleRuntime "gh" (sampleApproved p fingerprints b)
      sampleTime) sampleProof) :
    MayReturn (args.proveAgain sampleRuntime (sampleOpened p fingerprints b)) sampleProof := by
  refine (mayReturn_now sampleTime_ne_nil).bind ?_
  refine hproves.bind ?_
  refine (mayReturn_pure ()).bind ?_
  exact (mayReturn_pure ()).bind (mayReturn_pure sampleProof)

/-- The finalization releases the payload of the sample. -/
lemma exists_sampleFinalization
    (hb : (FinalizationArguments.mergedRequest p).finalBuild = .ok b)
    (hval : approval.val = { FinalizationArguments.mergedApproval.val with
      approvedFinalPayloadHash := b.payload.val.finalPayloadHash })
    (hvalid : ValidFinalPayload b.payload.val) :
    ∃ f, MayReturn (finalize (sampleOpened p fingerprints b) approval sampleProof) f ∧
      f.writerInputReleased = true ∧
      (finalizationOf (sampleOpened p fingerprints b) approval sampleProof
        sampleTime).finalizeGithubPayload (some (.ok b.payload))
        (some (boundMarker FinalizationArguments.safeMarker)) = .ok f := by
  obtain ⟨-, -, -, htargetHash, hpayloadHash, hfindingsHash, -⟩ :=
    FinalIssueCommentPayload.postInit_eq_ok.1 b.payload.property
  have hbound : Record.postInit (⟨FinalizationArguments.safeMarker, b.payload.val.markerTargetHash,
      b.payload.val.markerPayloadHash, b.payload.val.markerFindingsHash⟩ :
      BoundMarkerReconciliationResult) = .ok () := by
    simp only [Record.postInit, check_bind_eq_ok, require_eq_ok, Text.startsWith_iff]
    exact ⟨htargetHash, hpayloadHash, hfindingsHash⟩
  obtain ⟨hpreflight, hactor, htarget⟩ := FinalizationArguments.mergedArguments_checks
  have hreleases : (finalizationOf (sampleOpened p fingerprints b) approval sampleProof
      sampleTime).Releases (some (.ok b.payload))
      (some (boundMarker FinalizationArguments.safeMarker)) b.payload ⟨_, hbound⟩ := by
    obtain ⟨approval, hchecks⟩ := approval
    obtain rfl := hval
    refine ⟨hpreflight, ?_, ?_, rfl, rfl, hvalid, ⟨_, rfl, construct_of_postInit hbound⟩,
      ⟨rfl, rfl, rfl⟩, rfl⟩
    · exact FinalizationArguments.exists_ok_of_any hactor
    · exact FinalizationArguments.exists_ok_of_any htarget
  obtain ⟨f, hf, hreleased⟩ := FinalizationArguments.exists_released hreleases
  refine ⟨f, ?_, hreleased, hf⟩
  refine (mayReturn_ofResult hb).bind ?_
  exact (mayReturn_now sampleTime_ne_nil).bind (mayReturn_ofResult hf)

/-- The released payload of the sample is posted. -/
lemma exists_sampleConclusion (args : LivePostArguments) {f : FinalizeGithubPayloadResult}
    (hproof : buildApprovalProof (FinalizationArguments.mergedRequest p) = .ok proof)
    (hproofPass : proof.val.status = .pass)
    (hb : (FinalizationArguments.mergedRequest p).finalBuild = .ok b)
    (hval : approval.val = { FinalizationArguments.mergedApproval.val with
      approvedFinalPayloadHash := b.payload.val.finalPayloadHash })
    (hvalid : ValidFinalPayload b.payload.val) (hreleased : f.writerInputReleased = true)
    (hf : (finalizationOf (sampleOpened p fingerprints b) approval sampleProof
      sampleTime).finalizeGithubPayload (some (.ok b.payload))
      (some (boundMarker FinalizationArguments.safeMarker)) = .ok f) :
    ∃ artifact : LivePostSmokeArtifact, artifact.status = "succeeded" ∧
      MayCall (fun c => isPost c = true) (args.conclude sampleRuntime
        (sampleOpened p fingerprints b) approval f) artifact := by
  rcases FinalizationArguments.finalizeGithubPayload_cases hf with hwithheld |
    ⟨payload, marker, hreleases, hresult⟩
  · rw [hwithheld.released] at hreleased
    contradiction
  obtain rfl : b.payload = payload := Except.ok.inj (Option.some.inj hreleases.builder)
  obtain ⟨-, m, visibleBody, itemFingerprints, hm, hbVal⟩ :=
    ApprovalRequest.finalBuild_of_pass hproof hproofPass hb
  obtain ⟨input, hinput⟩ := (FinalizationArguments.exists_writerInput_iff hreleases hresult
    (sampleApproved p fingerprints b).request.runId).2 (by
      constructor
      · rw [hbVal]
        exact hm.runId.symm
      · change approval.val.approvedReviewTargetHash = _
        rw [hval, hbVal]
        rfl)
  have hsafe : ¬ (f.markerReconciliation.any fun m => m.val.status = .reconciledExisting) =
      true := by
    rw [hresult.markerReconciliation, Option.any_some, hreleases.safe]
    decide
  obtain ⟨hinputPayload, hinputActor⟩ := buildFinalizedIssueCommentWriterInput_ok hinput
  have hpayload : b.payload = input.val.finalPayload :=
    Option.some.inj (hresult.finalPayload.symm.trans hinputPayload)
  have hactor : approval.val.approvedGithubActor = "alice" := by
    rw [hval]
    rfl
  obtain ⟨attempt, hattempt, hposted⟩ := respondedResult_sampleResponse (hinputActor.trans hactor)
  refine ⟨(sampleOpened p fingerprints b).writerArtifact f attempt, ?_, ?_⟩
  · unfold Opened.writerArtifact
    rw [hposted]
    rfl
  unfold conclude
  rw [if_neg hsafe, if_neg (by simp [hreleased])]
  refine (mayReturn_ofResult hinput).mayCall ?_
  refine (mayCall_writer (hpayload ▸ hvalid) (ghPostIssueComment_sampleRun _)).bind ?_
  rw [hattempt]
  exact (mayReturn_ofResult rfl).bind (mayReturn_pure _)

end Steps

/-- A sample posts, and succeeds. -/
lemma exists_sample_post : ∃ (approvedData sourceData : Mapping) (tr : LivePostTrace)
    (artifact : LivePostSmokeArtifact),
    Runs ((sample approvedData sourceData).runLivePostFlow sampleRuntime) tr (some artifact) ∧
      artifact.status = "succeeded" ∧ ∃ e ∈ tr, isPost e.1 = true := by
  obtain ⟨p, proof, b, decision, approval, hproof, hb, hdecision, hpass, happroval, hval, hvalid⟩ :=
    FinalizationArguments.mergedRequest_pass
  obtain ⟨hproofPass, -⟩ := buildApprovalDecision_pass hdecision hpass
  obtain ⟨findings, b', hpasses, -⟩ := buildApprovalProof_pass hproof hproofPass
  obtain rfl : b = b' := Except.ok.inj (hb.symm.trans
    (ApprovalRequest.finalBuild_of_passes hpasses))
  obtain ⟨fingerprints, hfingerprints⟩ :=
    (ApprovalRequest.approvedFindings_selects hpasses.approvedFindings).exists_fingerprints
  -- The artifact, bound to a dry run.
  have hload : loadApprovedPostArtifact sampleRuntime.repr (sampleApproved p fingerprints b).data =
      .ok (sampleApproved p fingerprints b) :=
    ApprovalRequest.load_artifactFields sampleRuntime.repr hpasses
      (requireHash_of_isStrictSha256 (isStrictSha256_sha256Text _)) hfingerprints
  have hverify := @verify_sourceArtifact (sampleApproved p fingerprints b) rfl
  -- Both proofs show the sample.
  obtain ⟨b', fingerprints', hloaded⟩ := loadApprovedPostArtifact_loaded _ hload
  obtain ⟨findings', hpasses'⟩ := hloaded.passes
  obtain rfl : b = b' := Except.ok.inj (hb.symm.trans
    (ApprovalRequest.finalBuild_of_passes hpasses'))
  have hpayload := hloaded.fields ("marker_payload_hash", .str b.payload.val.markerPayloadHash)
    (by simp [ApprovalRequest.payloadFields])
  have hfindings := hloaded.fields ("findings_hash", .str b.payload.val.findingsHash)
    (by simp [ApprovalRequest.payloadFields])
  obtain ⟨-, -, hpayloadStrict, hfindingsStrict⟩ := hvalid.wellFormed
  rw [hvalid.markerFindings] at hfindingsStrict
  let args := sample (sampleApproved p fingerprints b).data
    (sourceArtifact (sampleApproved p fingerprints b).request
      (sampleApproved p fingerprints b).finalPayloadHash)
  have hproves : MayReturn (args.liveProof sampleRuntime "gh" (sampleApproved p fingerprints b)
      sampleTime) sampleProof :=
    mayReturn_sampleProof rfl hpayload hfindings hpayloadStrict hfindingsStrict
  -- The flow posts once the payload is released.
  obtain ⟨f, hfinalize, hreleased, hf⟩ := @exists_sampleFinalization p fingerprints b approval hb
    hval hvalid
  obtain ⟨artifact, hstatus, hconclude⟩ := exists_sampleConclusion args hproof hproofPass hb hval
    hvalid hreleased hf
  have hflow : MayCall (fun c => isPost c = true)
      (args.flow sampleRuntime (sampleOpened p fingerprints b)) artifact :=
    (mayReturn_sampleCheck args).mayCall <| (mayReturn_now sampleTime_ne_nil).mayCall <|
      hproves.mayCall <| mayReturn_sampleConfirm.mayCall <|
      (mayReturn_sampleApprove hproof hdecision hpass happroval).mayCall <|
      (mayReturn_sampleAgain hproves).mayCall <| hfinalize.mayCall hconclude
  obtain ⟨t₁, hopened⟩ := mayReturn_opening hload hverify rfl
  obtain ⟨t₂, hflow, e, he, hpost⟩ := hflow
  have hdestination : args.destination = none := by
    have henv : sampleEnvironment.get "REVIEWGRAPH_LIVE_POST_OUT" = none :=
      sampleEnvironment_allows.2.2.2.2.2.2.2
    exact henv
  have hhandle := runs_handleFlow_ok hdestination (sampleOpened p fingerprints b) artifact
  refine ⟨_, _, t₁ ++ (t₂ ++ []), artifact, runs_bind_iff.2 ⟨t₁, _, _, rfl, hopened,
    runs_bind_iff.2 ⟨t₂, [], _, rfl, hflow, hhandle⟩⟩, hstatus, e, ?_, hpost⟩
  exact List.mem_append_right _ (List.mem_append_left _ he)

/-! ## What every run does -/

variable {rt : PythonRuntime} {args : LivePostArguments}

/-- A run that ends early posts nothing. -/
lemma EndsEarly.not_isPost {tr : LivePostTrace} {r : Option LivePostSmokeArtifact}
    (h : EndsEarly rt args tr r) : ∀ e ∈ tr, isPost e.1 = false := by
  intro e he
  rcases h.calls with hcalls | ⟨-, hcalls⟩
  · rcases hcalls e he with hwhich | hwrite
    · rw [hwhich]
      rfl
    · exact hwrite.isPost
  · rcases hcalls e he with hreads | hwrite
    · exact hreads.isPost
    · exact hwrite.isPost

/-- A run posts nothing, or it makes one post: of the approved body, to the allowed pull request,
with exactly the approved arguments, after the hash was typed for the proof that was shown, and
after a second proof has shown the same actor, the approved target and no earlier comment. -/
theorem runLivePostFlow_posts (rt : PythonRuntime) (args : LivePostArguments) (tr : LivePostTrace)
    (r : Option LivePostSmokeArtifact) (hrun : Runs (args.runLivePostFlow rt) tr r) :
    (∀ e ∈ tr, isPost e.1 = false) ∨
    ∃ (o : Opened) (preProof postProof : EvaluatedLiveProof) (before after : LivePostTrace)
      (run : GhPostRun),
      tr = before ++ ⟨approvedPost args o, run⟩ :: after ∧
      (∀ e ∈ before ++ after, isPost e.1 = false) ∧ Permitted rt args o.ref ∧
      Opens rt args before o ∧ ConfirmedBetween rt args o before preProof postProof ∧
      StillApproved o preProof postProof := by
  rcases runLivePostFlow_cases hrun with
    hearly | ⟨o, outcome, t₁, t₂, t₃, rfl, hpermitted, hopens, hreads₁, hflow, hhandle⟩
  · exact .inl hearly.not_isPost
  have hopening : ∀ e ∈ t₁, isPost e.1 = false := fun e he => (hreads₁ e he).isPost
  have hending : ∀ e ∈ t₃, isPost e.1 = false := fun e he =>
      ((handleFlow_runs hhandle).1 e he).isPost
  rcases flow_runs hopens hopens.gh hflow with ⟨hreads₂, -, -⟩ |
    ⟨before, run, artifact, preProof, postProof, rfl, hreads₂, hconfirmed, hstill, -, -⟩
  · refine .inl (List.forall_mem_append.2 ⟨hopening, List.forall_mem_append.2 ⟨?_, hending⟩⟩)
    exact fun e he => (hreads₂ e he).isPost
  · refine .inr ⟨o, preProof, postProof, t₁ ++ before, t₃, run, by simp, ?_, hpermitted,
      hopens.mono (List.subset_append_left _ _), ?_, hstill⟩
    · refine List.forall_mem_append.2 ⟨List.forall_mem_append.2 ⟨hopening, ?_⟩, hending⟩
      exact fun e he => (hreads₂ e he).isPost
    · simpa using hconfirmed.append t₁ []

/-- A sample posts its approved comment, after its hash was typed. -/
theorem runLivePostFlow_posts_sample : ∃ (approvedData sourceData : Mapping) (o : Opened)
    (preProof postProof : EvaluatedLiveProof) (before after : LivePostTrace) (run : GhPostRun)
    (artifact : LivePostSmokeArtifact),
    Runs ((sample approvedData sourceData).runLivePostFlow sampleRuntime)
      (before ++ ⟨approvedPost (sample approvedData sourceData) o, run⟩ :: after) (some artifact) ∧
    ConfirmedBetween sampleRuntime (sample approvedData sourceData) o before preProof postProof ∧
    StillApproved o preProof postProof := by
  obtain ⟨approvedData, sourceData, tr, artifact, hrun, -, e, he, hpost⟩ := exists_sample_post
  rcases runLivePostFlow_posts sampleRuntime (sample approvedData sourceData) tr (some artifact)
      hrun with
    hnone | ⟨o, preProof, postProof, before, after, run, rfl, -, -, -, hconfirmed, hstill⟩
  · rw [hnone e he] at hpost
    contradiction
  · exact ⟨approvedData, sourceData, o, preProof, postProof, before, after, run, artifact, hrun,
      hconfirmed,
      hstill⟩

/-- What an artifact says about a run.  Success means that the second scan has found the comment of
an earlier run and nothing was posted, or that a response of the actor that was shown has answered
the one post; and after a post the artifact says that the run was blocked only if an artifact could
not be written. -/
structure Reports (rt : PythonRuntime) (args : LivePostArguments) (tr : LivePostTrace)
    (artifact : LivePostSmokeArtifact) : Prop where
  status : artifact.status ∈ (["blocked", "fail_closed", "succeeded"] : List Text)
  succeeded : artifact.status = "succeeded" →
    ∃ (o : Opened) (preProof postProof : EvaluatedLiveProof),
    ConfirmedBetween rt args o tr preProof postProof ∧
    ((∀ e ∈ tr, isPost e.1 = false) ∧ ReportsExisting postProof artifact ∨
      ∃ run : GhPostRun, (⟨approvedPost args o, run⟩ : Event LivePostCall
        LivePostCall.Answer) ∈ tr ∧
        ReportsPosted rt preProof.actor run artifact)
  blocked : artifact.status = "blocked" → (∃ e ∈ tr, isPost e.1 = true) → FailsToWrite tr

/-- A blocked run reports as it should. -/
lemma reports_of_blocked {tr : LivePostTrace} {artifact : LivePostSmokeArtifact}
    (hstatus : artifact.status = "blocked") (h : (∃ e ∈ tr, isPost e.1 = true) → FailsToWrite tr) :
    Reports rt args tr artifact := by
  have hne : ("blocked" : Text) ≠ "succeeded" := by simp [Text.ofString_inj]
  refine ⟨?_, fun hsucceeded => absurd (hstatus.symm.trans hsucceeded) hne, fun _ => h⟩
  rw [hstatus]
  exact List.mem_cons_self

/-- So does one that fails closed. -/
lemma reports_of_failClosed {tr : LivePostTrace} {artifact : LivePostSmokeArtifact}
    (hstatus : artifact.status = "fail_closed") : Reports rt args tr artifact := by
  have hne : ("fail_closed" : Text) ≠ "succeeded" ∧ ("fail_closed" : Text) ≠ "blocked" := by
    simp [Text.ofString_inj]
  refine ⟨?_, fun hsucceeded => absurd (hstatus.symm.trans hsucceeded) hne.1,
    fun hblocked => absurd (hstatus.symm.trans hblocked) hne.2⟩
  rw [hstatus]
  exact List.mem_cons_of_mem _ List.mem_cons_self

/-- So does one that succeeds. -/
lemma reports_of_succeeded {o : Opened} {tr : LivePostTrace} {artifact : LivePostSmokeArtifact}
    {preProof postProof : EvaluatedLiveProof} (hstatus : artifact.status = "succeeded")
    (hconfirmed : ConfirmedBetween rt args o tr preProof postProof)
    (h : (∀ e ∈ tr, isPost e.1 = false) ∧ ReportsExisting postProof artifact ∨
      ∃ run : GhPostRun, (⟨approvedPost args o, run⟩ : Event LivePostCall
        LivePostCall.Answer) ∈ tr ∧
        ReportsPosted rt preProof.actor run artifact) : Reports rt args tr artifact := by
  have hne : ("succeeded" : Text) ≠ "blocked" := by simp [Text.ofString_inj]
  refine ⟨?_, fun _ => ⟨o, preProof, postProof, hconfirmed, h⟩,
    fun hblocked => absurd (hstatus.symm.trans hblocked) hne⟩
  rw [hstatus]
  exact List.mem_cons_of_mem _ (List.mem_cons_of_mem _ List.mem_cons_self)

/-- The artifact of a run says what has happened in it. -/
theorem runLivePostFlow_reports (rt : PythonRuntime) (args : LivePostArguments) (tr : LivePostTrace)
    (artifact : LivePostSmokeArtifact) (hrun : Runs (args.runLivePostFlow rt) tr (some artifact)) :
    Reports rt args tr artifact := by
  rcases runLivePostFlow_cases hrun with
    hearly | ⟨o, outcome, t₁, t₂, t₃, rfl, -, hopens, hreads₁, hflow, hhandle⟩
  · refine reports_of_blocked (hearly.blocked artifact rfl) ?_
    rintro ⟨e, he, hpost⟩
    rw [hearly.not_isPost e he] at hpost
    contradiction
  obtain ⟨hwrites, hresult⟩ := handleFlow_runs hhandle
  have hfails : FailsToWrite t₃ → FailsToWrite (t₁ ++ (t₂ ++ t₃)) := by
    rintro ⟨destination, a, hmem⟩
    exact ⟨destination, a, List.mem_append_right _ (List.mem_append_right _ hmem)⟩
  rcases flow_runs hopens hopens.gh hflow with ⟨hreads₂, hraises, hreports⟩ |
    ⟨before, run, a, preProof, postProof, rfl, -, hconfirmed, -, rfl, hreports⟩
  · have hnone : ∀ e ∈ t₁ ++ (t₂ ++ t₃), isPost e.1 = false := by
      refine List.forall_mem_append.2 ⟨fun e he => (hreads₁ e he).isPost,
        List.forall_mem_append.2 ⟨fun e he => (hreads₂ e he).isPost, fun e he =>
        (hwrites e he).isPost⟩⟩
    have hquiet : (∃ e ∈ t₁ ++ (t₂ ++ t₃), isPost e.1 = true) →
        FailsToWrite (t₁ ++ (t₂ ++ t₃)) := by
      rintro ⟨e, he, hpost⟩
      rw [hnone e he] at hpost
      contradiction
    rcases hresult artifact rfl with hok | hfinished | ⟨hclosed, -⟩ | ⟨hblocked, -⟩
    · rcases hreports artifact hok with hclosed | ⟨preProof, postProof, hconfirmed, hexisting⟩
      · exact reports_of_failClosed hclosed
      · exact reports_of_succeeded hexisting.1 (hconfirmed.append t₁ t₃) (.inl ⟨hnone, hexisting⟩)
    · exact reports_of_blocked (hraises _ hfinished) hquiet
    · exact reports_of_failClosed hclosed
    · exact reports_of_blocked hblocked hquiet
  · rcases hresult artifact rfl with hok | hfinished | ⟨-, reasonCode, hcode⟩ | ⟨hblocked,
        hraised | hwrite⟩
    · obtain rfl : a = artifact := Except.ok.inj hok
      rcases hreports with hclosed | hposted
      · exact reports_of_failClosed hclosed
      · have hall : ConfirmedBetween rt args o
            (t₁ ++ (before ++ [⟨approvedPost args o, run⟩] ++ t₃))
            preProof postProof := by
          rw [List.append_assoc before]
          exact hconfirmed.append t₁ _
        exact reports_of_succeeded hposted.1 hall (.inr ⟨run, by simp, hposted⟩)
    · contradiction
    · contradiction
    · contradiction
    · exact reports_of_blocked hblocked fun _ => hfails hwrite

/-- The artifact of a sample that posts and succeeds reports the comment of the response. -/
theorem runLivePostFlow_reports_sample : ∃ (approvedData sourceData : Mapping) (tr : LivePostTrace)
    (artifact : LivePostSmokeArtifact),
    Runs ((sample approvedData sourceData).runLivePostFlow sampleRuntime) tr (some artifact) ∧
      artifact.status = "succeeded" ∧ (∃ e ∈ tr, isPost e.1 = true) ∧
      Reports sampleRuntime (sample approvedData sourceData) tr artifact := by
  obtain ⟨approvedData, sourceData, tr, artifact, hrun, hstatus, hpost⟩ := exists_sample_post
  exact ⟨approvedData, sourceData, tr, artifact, hrun, hstatus, hpost,
    runLivePostFlow_reports sampleRuntime (sample approvedData sourceData) tr artifact hrun⟩

/-- Every call of every run is allowed: besides the search for the command and the artifact, which
is written to where it was asked for, there are only reads of allowed resources and files and the
one approved post, all by the command that was given or found, with prompts disabled and no more of
the environment than its search path, its home and its tokens, and none unless the environment
permits a live post; a run that is not permitted is blocked. -/
theorem runLivePostFlow_calls (rt : PythonRuntime) (args : LivePostArguments) (tr : LivePostTrace)
    (r : Option LivePostSmokeArtifact) (hrun : Runs (args.runLivePostFlow rt) tr r) :
    (∀ e ∈ tr, e.1 = .which ∨ IsWrite args e.1 ∨ ((∃ ref, Permitted rt args ref) ∧
      (Reads args (FindsGh args tr) e.1 ∨
        ∃ o, Opens rt args tr o ∧ Permitted rt args o.ref ∧ e.1 = approvedPost args o))) ∧
    (("GH_PROMPT_DISABLED" : Text), ("1" : Text)) ∈ ghEnv args.env ∧
    (∀ entry ∈ ghEnv args.env, entry = (("GH_PROMPT_DISABLED" : Text), ("1" : Text)) ∨
      (entry ∈ args.env ∧
      entry.1 ∈ (["PATH", "HOME", "GITHUB_TOKEN", "GH_TOKEN"] : List Text))) ∧
    ((∀ ref, ¬ Permitted rt args ref) → ∀ artifact, r = some artifact →
      artifact.status = "blocked") := by
  refine ⟨?_, List.mem_append_right _ (List.mem_singleton_self _), ?_, ?_⟩
  · rcases runLivePostFlow_cases hrun with
      hearly | ⟨o, outcome, t₁, t₂, t₃, rfl, hpermitted, hopens, hreads₁, hflow, hhandle⟩
    · intro e he
      rcases hearly.calls with hcalls | ⟨hpermitted, hcalls⟩
      · exact (hcalls e he).imp_right .inl
      · rcases hcalls e he with hreads | hwrite
        · exact .inr (.inr ⟨hpermitted, .inl hreads⟩)
        · exact .inr (.inl hwrite)
    have hsub : t₁ ⊆ t₁ ++ (t₂ ++ t₃) := List.subset_append_left _ _
    have hread : ∀ {c : LivePostCall}, Reads args (FindsGh args t₁) c → c = .which ∨
        IsWrite args c ∨
        ((∃ ref, Permitted rt args ref) ∧ (Reads args (FindsGh args (t₁ ++ (t₂ ++ t₃))) c ∨
          ∃ o, Opens rt args (t₁ ++ (t₂ ++ t₃)) o ∧ Permitted rt args o.ref ∧
            c = approvedPost args o)) :=
      fun hreads => .inr (.inr ⟨⟨o.ref, hpermitted⟩, .inl (hreads.mono fun _ => FindsGh.mono hsub)⟩)
    refine List.forall_mem_append.2 ⟨fun e he => hread (hreads₁ e he),
      List.forall_mem_append.2 ⟨?_, ?_⟩⟩
    · rcases flow_runs hopens hopens.gh hflow with ⟨hreads₂, -, -⟩ |
        ⟨before, run, artifact, preProof, postProof, rfl, hreads₂, -, -, -, -⟩
      · exact fun e he => hread (hreads₂ e he)
      · refine List.forall_mem_append.2 ⟨fun e he => hread (hreads₂ e he), ?_⟩
        intro e he
        rw [List.mem_singleton.1 he]
        exact .inr (.inr ⟨⟨o.ref, hpermitted⟩, .inr ⟨o, hopens.mono hsub, hpermitted, rfl⟩⟩)
    · exact fun e he => .inr (.inl ((handleFlow_runs hhandle).1 e he))
  · intro entry hentry
    rcases List.mem_append.1 hentry with hkept | hprompt
    · obtain ⟨hmem, hname⟩ := List.mem_filter.1 hkept
      exact .inr ⟨hmem, by simpa using hname⟩
    · exact .inl (List.mem_singleton.1 hprompt)
  · intro hnot artifact hartifact
    rcases runLivePostFlow_cases hrun with hearly | ⟨o, outcome, t₁, t₂, t₃, -, hpermitted, -⟩
    · exact hearly.blocked artifact hartifact
    · exact absurd hpermitted (hnot o.ref)

/-- The post of a sample is the approved one. -/
theorem runLivePostFlow_calls_sample : ∃ (approvedData sourceData : Mapping) (tr : LivePostTrace)
    (artifact : LivePostSmokeArtifact) (o : Opened),
    Runs ((sample approvedData sourceData).runLivePostFlow sampleRuntime) tr (some artifact) ∧
      Opens sampleRuntime (sample approvedData sourceData) tr o ∧
      ∃ e ∈ tr, e.1 = approvedPost (sample approvedData sourceData) o := by
  obtain ⟨approvedData, sourceData, tr, artifact, hrun, -, e, he, hpost⟩ := exists_sample_post
  rcases (runLivePostFlow_calls sampleRuntime (sample approvedData sourceData) tr (some artifact)
      hrun).1 e he
    with hwhich | hwrite | ⟨-, hreads | ⟨o, hopens, -, hcall⟩⟩
  · rw [hwhich] at hpost
    contradiction
  · rw [hwrite.isPost] at hpost
    contradiction
  · rw [hreads.isPost] at hpost
    contradiction
  · exact ⟨approvedData, sourceData, tr, artifact, o, hrun, hopens, e, he, hcall⟩

end LivePostArguments

end ReviewGraph
