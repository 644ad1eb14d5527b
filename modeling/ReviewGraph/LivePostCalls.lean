import ReviewGraph.LivePostFlow
import ReviewGraph.WriterGithubRuns

/-!
# The calls of a live post

What each part of the flow of a live post calls and raises, whatever the commands, the clock and the
person at the terminal answer, and what has been seen when the flow comes to its post.
-/

namespace ReviewGraph

open Interaction

/-- A trace of the flow. -/
abbrev LivePostTrace : Type := List (Event LivePostCall LivePostCall.Answer)

namespace LivePostArguments

variable {rt : PythonRuntime} {args : LivePostArguments}

/-! ## The preflight -/

/-- The environment permits a live post to the pull request. -/
structure Permitted (rt : PythonRuntime) (args : LivePostArguments) (ref : GitHubPRRef) : Prop where
  optedIn : args.env.get "REVIEWGRAPH_LIVE_POST" = some "1"
  parsed : parseGithubPrRef rt.nfkc rt.isBracketedNetloc (args.env.text livePostPrEnv) = .ok ref
  allowlisted : args.env.get "REVIEWGRAPH_LIVE_POST_ALLOWED_TARGET" = some
    (args.env.text livePostPrEnv)
  disposable : args.env.get "REVIEWGRAPH_LIVE_POST_DISPOSABLE_MARKER" = some disposableMarker
  credential : args.env.get "REVIEWGRAPH_LIVE_POST_CREDENTIAL_SOURCE" = some "pat"
  approvedArtifact : args.approvedArtifact ≠ none ∨ args.env.text livePostApprovedArtifactEnv ≠ []
  sourceArtifact : args.sourceDryRunArtifact ≠ none ∨
    args.env.text livePostSourceDryRunArtifactEnv ≠ []
  tty : args.inputIsTty = true

/-- An environment that passes the preflight permits a live post. -/
lemma permitted_of_preflight {ref : GitHubPRRef} (h : args.preflight rt = .ok ref) :
    Permitted rt args ref := by
  unfold preflight at h
  dsimp only at h
  split at h
  · contradiction
  rename_i hoptedIn
  split at h
  · contradiction
  split at h
  · contradiction
  rename_i ref' hparsed
  split at h
  · contradiction
  rename_i hallowlisted
  split at h
  · contradiction
  rename_i hdisposable
  split at h
  · contradiction
  rename_i hcredential
  split at h
  · contradiction
  rename_i happroved
  split at h
  · contradiction
  rename_i hsource
  split at h
  · contradiction
  rename_i htty
  obtain rfl := Except.ok.inj h
  exact ⟨not_not.1 hoptedIn, hparsed, not_not.1 hallowlisted, not_not.1 hdisposable,
    not_not.1 hcredential, not_and_or.1 happroved, not_and_or.1 hsource, by simpa using htty⟩

/-! ## Calls -/

/-- A call that posts nothing and writes nothing; a command is one of the reads that are allowed, by
a `gh` command, with no more of the environment than it needs, and a file is that of an artifact
which was not given. -/
def Reads (args : LivePostArguments) (isGh : Text → Prop) : LivePostCall → Prop
  | .run command timeoutSeconds env =>
    env = ghEnv args.env ∧ timeoutSeconds = livePostTimeoutSeconds ∧
      ∃ gh : Text, isGh gh ∧ (command = [gh, "auth", "token"] ∨
        ∃ resource, command = [gh, "api", resource] ∧ isLivePostReadResource resource = true)
  | .readFile path =>
    args.approvedArtifact = none ∧ path = args.env.text livePostApprovedArtifactEnv ∨
      args.sourceDryRunArtifact = none ∧ path = args.env.text livePostSourceDryRunArtifactEnv
  | .post .. => False
  | .write .. => False
  | _ => True

/-- The `gh` command: the path that was given, the one that the search has found, or the bare name
where the first search has found none. -/
def FindsGh (args : LivePostArguments) (tr : LivePostTrace) (gh : Text) : Prop :=
  args.ghPath = some gh ∨ args.ghPath = none ∧
    ((⟨.which, some gh⟩ : Event LivePostCall LivePostCall.Answer) ∈ tr ∨
      gh = "gh" ∧ (⟨.which, none⟩ : Event LivePostCall LivePostCall.Answer) ∈ tr)

variable {isGh : Text → Prop}

/-- The reads by a command are reads by a command of a larger kind. -/
lemma Reads.mono {isGh' : Text → Prop} (h : ∀ gh, isGh gh → isGh' gh) {c : LivePostCall}
    (hc : Reads args isGh c) : Reads args isGh' c := by
  cases c with
  | run command timeoutSeconds env =>
    obtain ⟨henv, htimeout, gh, hgh, hcommand⟩ := hc
    exact ⟨henv, htimeout, gh, h gh hgh, hcommand⟩
  | _ => exact hc

/-- What was found is found in a longer trace. -/
lemma FindsGh.mono {tr tr' : LivePostTrace} (h : tr ⊆ tr') {gh : Text} (hgh : FindsGh args tr gh) :
    FindsGh args tr' gh :=
  hgh.imp_right fun ⟨hnone, hwhich⟩ => ⟨hnone, hwhich.imp (fun hmem => h hmem) fun ⟨heq, hmem⟩ =>
    ⟨heq, h hmem⟩⟩

/-- An artifact that is returned early is blocked. -/
def Blocks : LivePostExit → Prop
  | .finished artifact => artifact.status = "blocked"
  | _ => True

/-- A call keeps within the limits that allow it. -/
lemma within_perform {P : LivePostCall → Prop} {Q : LivePostExit → Prop} {c : LivePostCall}
    (h : P c) :
    Within P Q (LivePost.perform c) := by
  refine ⟨⟨h, fun _ => trivial⟩, fun tr e hrun => ?_⟩
  obtain ⟨r, tr', -, hret⟩ := runs_call_iff.1 hrun
  obtain ⟨-, hresult⟩ := runs_ret_iff.1 hret
  contradiction

/-- So does one whose answer may be missing. -/
lemma within_performSome {P : LivePostCall → Prop} {α : Type} {c : LivePostCall}
    {hc : c.Answer = Option α} (h : P c) : Within P Blocks (LivePost.performSome c hc) := by
  refine ⟨⟨h, fun _ => trivial⟩, fun tr e hrun => ?_⟩
  obtain ⟨r, tr', -, hret⟩ := runs_call_iff.1 hrun
  obtain ⟨-, hresult⟩ := runs_ret_iff.1 hret
  cases hvalue : (hc ▸ r : Option α) with
  | none =>
    rw [hvalue] at hresult
    rw [Except.error.inj hresult]
    trivial
  | some a =>
    rw [hvalue] at hresult
    contradiction

/-- A result calls nothing, and its error blocks. -/
lemma within_ofResult {P : LivePostCall → Prop} {α : Type} (x : Result α) :
    Within P Blocks (LivePost.ofResult x) := by
  cases x with
  | error e => exact within_throw trivial
  | ok a => exact within_pure a

/-- Reading the clock. -/
lemma within_now {P : LivePostCall → Prop} (h : P .now) : Within P Blocks livePostNow := by
  refine (within_performSome h).bind fun value => ?_
  split
  · exact within_throw trivial
  · exact within_pure value

/-- Finding `gh`. -/
lemma within_resolveGh {P : LivePostCall → Prop} (h : P .which) (ghPath : Option Text) :
    Within P Blocks (resolveGh ghPath) := by
  cases ghPath with
  | none => exact within_perform h
  | some path => exact within_pure _

/-- Checking the token. -/
lemma within_checkToken {gh : Text} (hgh : isGh gh) (ref : GitHubPRRef) :
    Within (Reads args isGh) Blocks (args.checkToken gh ref) := by
  unfold checkToken
  split
  · refine (within_perform ⟨rfl, rfl, gh, hgh, .inl rfl⟩).bind fun run => ?_
    cases run with
    | raised message => exact within_throw trivial
    | completed completed =>
      dsimp only
      split
      · exact within_throw rfl
      · exact within_pure _
  · exact within_pure _

/-- Loading an artifact. -/
lemma within_loadArtifact {given : Option Mapping} {pathEnv : Text}
    (h : given = none → Reads args isGh (.readFile (args.env.text pathEnv))) :
    Within (Reads args isGh) Blocks (args.loadArtifact rt given pathEnv) := by
  cases given with
  | some data => exact within_pure data
  | none =>
    refine (within_performSome (h rfl)).bind fun content => ?_
    split
    · exact within_pure _
    · exact within_throw trivial

/-- Reading a resource. -/
lemma within_getJson {gh : Text} (hgh : isGh gh) (resource : Text) :
    Within (Reads args isGh) Blocks (args.getJson rt gh resource) := by
  unfold getJson
  split
  · rename_i hresource
    refine (within_perform ⟨rfl, rfl, gh, hgh, .inr ⟨resource, rfl, hresource⟩⟩).bind fun run => ?_
    split
    · exact within_pure _
    · exact within_throw trivial
    · exact within_throw trivial
  · exact within_throw trivial

/-- Reading an object. -/
lemma within_getDict {gh : Text} (hgh : isGh gh) (resource : Text) :
    Within (Reads args isGh) Blocks (args.getDict rt gh resource) :=
  (within_getJson hgh resource).bind fun _ => within_ofResult _

/-- Reading a page of comments. -/
lemma onlyCalls_getIssueCommentsPage {gh : Text} (hgh : isGh gh) (fetch : MarkerFetch) :
    OnlyCalls (Reads args isGh) (args.getIssueCommentsPage rt gh fetch) := by
  unfold getIssueCommentsPage
  split
  · trivial
  split
  · trivial
  dsimp only
  split
  · rename_i hresource
    exact ⟨⟨rfl, rfl, gh, hgh, .inr ⟨_, rfl, hresource⟩⟩, fun _ => trivial⟩
  · trivial

/-- Scanning the markers. -/
lemma within_scanMarkers {gh : Text} (hgh : isGh gh) (scan : MarkerScanArguments) :
    Within (Reads args isGh) Blocks (args.scanMarkers rt gh scan) := by
  refine (within_lift ?_).bind fun marker => within_ofResult marker
  exact (onlyCalls_true _).handle fun fetch _ => onlyCalls_getIssueCommentsPage hgh fetch

/-- Making a live proof. -/
lemma within_liveProof {gh : Text} (hgh : isGh gh) (approved : ApprovedPostArtifact)
    (checkedAt : Text) :
    Within (Reads args isGh) Blocks (args.liveProof rt gh approved checkedAt) := by
  unfold liveProof
  refine (within_getDict hgh _).bind fun actorPayload => ?_
  refine (within_getDict hgh _).bind fun repoPayload => ?_
  refine (within_getDict hgh _).bind fun prPayload => ?_
  refine (within_getDict hgh _).bind fun comparePayload => ?_
  refine (within_ofResult _).bind fun currentTarget => ?_
  refine (within_ofResult _).bind fun repoPermission => ?_
  refine (within_ofResult _).bind fun actor => ?_
  refine (within_ofResult _).bind fun payloadHash => ?_
  refine (within_ofResult _).bind fun findingsHash => ?_
  refine (within_scanMarkers hgh _).bind fun markerResult => ?_
  refine (within_ofResult _).bind fun disposableMarkerPresent => ?_
  refine (within_ofResult _).bind fun forkPr => ?_
  exact within_pure _

/-- Blocking on a condition calls nothing. -/
lemma within_blockIf {P : LivePostCall → Prop} (o : Opened) (condition : Bool) (reason : Text) :
    Within P Blocks (o.blockIf condition reason) := by
  unfold Opened.blockIf
  split
  · exact within_throw rfl
  · exact within_pure _

/-- Checking the pull request. -/
lemma within_checkPullRequest {o : Opened} (hgh : isGh o.gh) :
    Within (Reads args isGh) Blocks (args.checkPullRequest rt o) := by
  refine (within_getDict hgh _).bind fun payload => ?_
  refine (within_ofResult _).bind fun marked => ?_
  refine (within_blockIf o _ _).bind fun _ => ?_
  refine (within_ofResult _).bind fun fork => ?_
  exact within_blockIf o _ _

/-- Asking for the hash. -/
lemma within_confirmHash (o : Opened) (proof : EvaluatedLiveProof) (checkedAt : Text) :
    Within (Reads args isGh) Blocks (confirmHash o proof checkedAt) := by
  refine (within_performSome trivial).bind fun typed => ?_
  split
  · exact within_throw rfl
  · exact within_pure _

/-- Building the approval. -/
lemma within_approve (o : Opened) (preProof : EvaluatedLiveProof) :
    Within (Reads args isGh) Blocks (approve o preProof) := by
  refine (within_now trivial).bind fun confirmedAt => ?_
  refine (within_ofResult _).bind fun decision => ?_
  split
  · exact within_pure _
  · exact within_throw rfl

/-- Making the second proof. -/
lemma within_proveAgain {o : Opened} (hgh : isGh o.gh) :
    Within (Reads args isGh) Blocks (args.proveAgain rt o) := by
  refine (within_now trivial).bind fun checkedAt => ?_
  refine (within_liveProof hgh _ _).bind fun proof => ?_
  refine (within_blockIf o _ _).bind fun _ => ?_
  exact (within_blockIf o _ _).bind fun _ => within_pure _

/-- Finalizing the payload. -/
lemma within_finalize (o : Opened) (approval : Checked ApprovalDecision)
    (postProof : EvaluatedLiveProof) :
    Within (Reads args isGh) Blocks (finalize o approval postProof) := by
  refine (within_ofResult _).bind fun finalBuild => ?_
  refine (within_now trivial).bind fun evaluatedAt => ?_
  exact within_ofResult _

/-! ## The artifacts -/

/-- The data of an artifact: what was given, or what the file has that was read at the path of the
environment. -/
def IsData (rt : PythonRuntime) (args : LivePostArguments) (tr : LivePostTrace)
    (given : Option Mapping)
    (pathEnv : Text) (data : Mapping) : Prop :=
  given = some data ∨ given = none ∧ ∃ content : Text,
    (⟨.readFile (args.env.text pathEnv), some content⟩ : Event LivePostCall
      LivePostCall.Answer) ∈ tr ∧
      rt.decode content = .value (.obj data)

/-- Data that was read was read in a longer trace. -/
lemma IsData.mono {tr tr' : LivePostTrace} (h : tr ⊆ tr') {given : Option Mapping} {pathEnv : Text}
    {data : Mapping} (hdata : IsData rt args tr given pathEnv data) :
    IsData rt args tr' given pathEnv data :=
  hdata.imp_right fun ⟨hnone, content, hread, hdecode⟩ => ⟨hnone, content, h hread, hdecode⟩

/-- The approved artifact is loaded from its data, it is bound to the dry run of the other data, its
target is the pull request, and the command is a `gh` command. -/
structure Opens (rt : PythonRuntime) (args : LivePostArguments) (tr : LivePostTrace) (o : Opened) :
    Prop where
  loaded : ∃ data, IsData rt args tr args.approvedArtifact livePostApprovedArtifactEnv data ∧
    loadApprovedPostArtifact rt.repr data = .ok o.approved
  source : ∃ data, IsData rt args tr args.sourceDryRunArtifact livePostSourceDryRunArtifactEnv
    data ∧
    verifySourceDryRunArtifact data o.approved = .ok ()
  ownerRepo : o.approved.request.reviewTarget.val.ownerRepo = o.ref.ownerRepo
  prNumber : o.approved.request.reviewTarget.val.prNumber = o.ref.prNumber
  gh : FindsGh args tr o.gh

/-- What was opened was opened in a longer trace. -/
lemma Opens.mono {tr tr' : LivePostTrace} (h : tr ⊆ tr') {o : Opened} (ho : Opens rt args tr o) :
    Opens rt args tr' o where
  loaded := ho.loaded.imp fun _ hdata => hdata.imp_left (IsData.mono h)
  source := ho.source.imp fun _ hdata => hdata.imp_left (IsData.mono h)
  ownerRepo := ho.ownerRepo
  prNumber := ho.prNumber
  gh := ho.gh.mono h

/-- What is opened is loaded from one artifact and bound to the other. -/
lemma openArtifacts_eq_ok {artifactData sourceData : Mapping} {ref : GitHubPRRef} {gh : Text}
    {o : Opened}
    (h : openArtifacts rt artifactData sourceData ref gh = .ok o) : o.ref = ref ∧ o.gh = gh ∧
      loadApprovedPostArtifact rt.repr artifactData = .ok o.approved ∧
      verifySourceDryRunArtifact sourceData o.approved = .ok () ∧
      o.approved.request.reviewTarget.val.ownerRepo = o.ref.ownerRepo ∧
      o.approved.request.reviewTarget.val.prNumber = o.ref.prNumber := by
  unfold openArtifacts at h
  split at h
  · contradiction
  rename_i approved hloaded
  split at h
  · contradiction
  rename_i hsource
  dsimp only at h
  split at h
  · contradiction
  rename_i htarget
  obtain rfl := Except.ok.inj h
  rw [not_or, not_not, not_not] at htarget
  exact ⟨rfl, rfl, hloaded, hsource, htarget.1, htarget.2⟩

/-- Artifacts that are not opened are blocked. -/
lemma openArtifacts_eq_error {artifactData sourceData : Mapping} {ref : GitHubPRRef} {gh : Text}
    {artifact : LivePostSmokeArtifact}
    (h : openArtifacts rt artifactData sourceData ref gh = .error artifact) :
    artifact.status = "blocked" := by
  unfold openArtifacts at h
  split at h
  · rw [← Except.error.inj h]
    rfl
  split at h
  · rw [← Except.error.inj h]
    rfl
  dsimp only at h
  split at h
  · rw [← Except.error.inj h]
    rfl
  · contradiction

/-- An environment that fails the preflight is blocked. -/
lemma preflight_eq_error {artifact : LivePostSmokeArtifact}
    (h : args.preflight rt = .error artifact) :
    artifact.status = "blocked" := by
  unfold preflight at h
  dsimp only at h
  repeat' split at h
  all_goals first
    | rw [← Except.error.inj h]; rfl
    | contradiction

/-- The data that is loaded was given, or read from its file. -/
lemma loadArtifact_runs {given : Option Mapping} {pathEnv : Text} {tr : LivePostTrace}
    {data : Mapping}
    (h : Runs (args.loadArtifact rt given pathEnv).run tr (.ok data)) :
    IsData rt args tr given pathEnv data := by
  cases given with
  | some data' =>
    obtain ⟨-, hresult⟩ := runs_run_pure_iff.1 h
    exact .inl (congrArg some (Except.ok.inj hresult).symm)
  | none =>
    obtain ⟨tr₁, tr₂, content, rfl, hperform, hrest⟩ := runs_run_bind_ok_iff.1 h
    obtain ⟨answer, tr', rfl, hret⟩ := runs_call_iff.1 hperform
    obtain ⟨rfl, hanswer⟩ := runs_ret_iff.1 hret
    cases answer with
    | none => contradiction
    | some answer =>
      obtain rfl : content = answer := Except.ok.inj hanswer
      split at hrest
      · rename_i fields hdecode
        obtain ⟨-, hresult⟩ := runs_run_pure_iff.1 hrest
        rw [Except.ok.inj hresult]
        exact .inr ⟨rfl, content, List.mem_append_left _ (List.mem_singleton.2 rfl), hdecode⟩
      · obtain ⟨-, hresult⟩ := runs_run_throw_iff.1 hrest
        contradiction

/-! ## The opening -/

/-- The command is the path that is given, or what the search finds. -/
lemma resolveGh_runs {ghPath : Option Text} {tr : LivePostTrace}
    {r : Except LivePostExit (Option Text)}
    (h : Runs (resolveGh ghPath).run tr r) : ∃ found, r = .ok found ∧
      ((∃ path, ghPath = some path ∧ found = some path ∧ tr = []) ∨
        ghPath = none ∧ tr = [⟨.which, found⟩]) := by
  cases ghPath with
  | some path =>
    obtain ⟨rfl, rfl⟩ := runs_run_pure_iff.1 h
    exact ⟨some path, rfl, .inl ⟨path, rfl, rfl, rfl⟩⟩
  | none =>
    obtain ⟨answer, tr', rfl, hret⟩ := runs_call_iff.1 h
    obtain ⟨rfl, rfl⟩ := runs_ret_iff.1 hret
    exact ⟨answer, rfl, .inr ⟨rfl, rfl⟩⟩

/-- The checks after the preflight raise nothing but what blocks. -/
lemma within_blockedLivePostArtifact (resolvedGhPath : Option Text) :
    Within (Reads args fun _ => True) Blocks (args.blockedLivePostArtifact rt resolvedGhPath) := by
  unfold blockedLivePostArtifact
  split
  · rename_i hpreflight
    exact within_throw (preflight_eq_error hpreflight)
  · refine (within_resolveGh trivial _).bind fun ghPath => ?_
    dsimp only
    split
    · exact within_throw rfl
    · exact (within_checkToken trivial _).bind fun _ => within_pure _

/-- The checks after the preflight run the command that is resolved, or the one that they find. -/
lemma blockedLivePostArtifact_reads {resolvedGhPath : Option Text} {tr : LivePostTrace}
    {r : Except LivePostExit GitHubPRRef}
    (h : Runs (args.blockedLivePostArtifact rt resolvedGhPath).run tr r) :
    ∀ e ∈ tr, Reads args (fun gh => resolvedGhPath = some gh ∨ resolvedGhPath = none ∧
      (⟨.which, some gh⟩ : Event LivePostCall LivePostCall.Answer) ∈ tr) e.1 := by
  unfold blockedLivePostArtifact at h
  split at h
  · obtain ⟨rfl, -⟩ := runs_run_throw_iff.1 h
    simp
  rename_i ref _
  rcases runs_run_bind_iff.1 h with ⟨e, hresolve, -⟩ | ⟨tr₁, tr₂, ghPath, rfl, hresolve, hrest⟩
  · obtain ⟨found, hfound, -⟩ := resolveGh_runs hresolve
    contradiction
  obtain ⟨found, hfound, hcases⟩ := resolveGh_runs hresolve
  obtain rfl := Except.ok.inj hfound
  have hwhich : ∀ e ∈ tr₁, e.1 = .which := by
    rcases hcases with ⟨-, -, -, rfl⟩ | ⟨-, rfl⟩
    · simp
    · simp
  have htoken : ∀ e ∈ tr₂, Reads args (fun gh => ghPath = some gh) e.1 := by
    dsimp only at hrest
    split at hrest
    · obtain ⟨rfl, -⟩ := runs_run_throw_iff.1 hrest
      simp
    · rename_i hne
      have hgh : ghPath = some (ghPath.getD []) := by
        cases ghPath with
        | none => exact absurd rfl hne
        | some path => rfl
      have hwithin : Within (Reads args fun gh => ghPath = some gh) Blocks (do
          args.checkToken (ghPath.getD []) ref
          pure ref) := (within_checkToken hgh ref).bind fun _ => within_pure ref
      exact hwithin.onlyCalls.of_runs hrest
  refine List.forall_mem_append.2 ⟨fun e he => ?_, fun e he => (htoken e he).mono ?_⟩
  · rw [hwhich e he]
    trivial
  · rintro gh rfl
    rcases hcases with ⟨path, rfl, hpath, rfl⟩ | ⟨rfl, rfl⟩
    · exact .inl hpath.symm
    · exact .inr ⟨rfl, List.mem_append_left _ (List.mem_singleton.2 rfl)⟩

/-- The reference that passes the checks is the one of the preflight, and an empty path does not
pass. -/
lemma preflight_of_runs {resolvedGhPath : Option Text} {tr : LivePostTrace} {ref : GitHubPRRef}
    (hrun : Runs (args.blockedLivePostArtifact rt resolvedGhPath).run tr (.ok ref)) :
    args.preflight rt = .ok ref ∧ resolvedGhPath ≠ some [] := by
  unfold blockedLivePostArtifact at hrun
  split at hrun
  · obtain ⟨-, hresult⟩ := runs_run_throw_iff.1 hrun
    contradiction
  · rename_i ref' hpreflight
    obtain ⟨tr₁, tr₂, ghPath, -, hresolve, hrun⟩ := runs_run_bind_ok_iff.1 hrun
    dsimp only at hrun
    split at hrun
    · obtain ⟨-, hresult⟩ := runs_run_throw_iff.1 hrun
      contradiction
    · rename_i hne
      obtain ⟨tr₁, tr₂, a, -, -, hrun⟩ := runs_run_bind_ok_iff.1 hrun
      obtain ⟨-, hresult⟩ := runs_run_pure_iff.1 hrun
      rw [Except.ok.inj hresult]
      refine ⟨hpreflight, ?_⟩
      rintro rfl
      obtain ⟨found, hfound, ⟨path, hpath, rfl, -⟩ | ⟨hnone, -⟩⟩ := resolveGh_runs hresolve
      · rw [Except.ok.inj hfound, ← hpath] at hne
        exact hne rfl
      · contradiction

/-- The artifacts are read from their files. -/
lemma within_artifacts (given : LivePostArguments) (rt : PythonRuntime) :
    Within (Reads given isGh) Blocks
        (given.loadArtifact rt given.approvedArtifact livePostApprovedArtifactEnv) ∧
      Within (Reads given isGh) Blocks
        (given.loadArtifact rt given.sourceDryRunArtifact livePostSourceDryRunArtifactEnv) :=
  ⟨within_loadArtifact fun hnone => .inl ⟨hnone, rfl⟩, within_loadArtifact fun hnone =>
    .inr ⟨hnone, rfl⟩⟩

/-- Loading the artifacts makes only reads. -/
lemma within_openLoaded {isGh : Text → Prop} (ghPath : Option Text) (ref : GitHubPRRef) :
    Within (Reads args isGh) Blocks (args.openLoaded rt ghPath ref) := by
  refine (within_artifacts args rt).1.bind fun artifactData => ?_
  refine (within_artifacts args rt).2.bind fun sourceData => ?_
  split
  · rename_i hopen
    exact within_throw (openArtifacts_eq_error hopen)
  · exact within_pure _

/-- The calls of the opening: before the preflight has passed there is only the search for the
command. -/
lemma opening_runs {tr : LivePostTrace} {r : Except LivePostExit Opened}
    (hrun : Runs (args.opening rt).run tr r) :
    ((∀ e ∈ tr, e.1 = .which) ∨
        (∃ ref, Permitted rt args ref) ∧ ∀ e ∈ tr, Reads args (FindsGh args tr) e.1) ∧
      (∀ e, r = .error e → Blocks e) ∧
      ∀ o, r = .ok o → Permitted rt args o.ref ∧ Opens rt args tr o ∧
        ∀ e ∈ tr, Reads args (FindsGh args tr) e.1 := by
  have hopened : Within (Reads args fun _ => True) Blocks (args.opening rt) :=
    (within_resolveGh trivial _).bind fun ghPath =>
      (within_blockedLivePostArtifact _).bind fun ref => within_openLoaded ghPath ref
  obtain ⟨t₁, t₂, ghPath, rfl, hresolve, hrest⟩ : ∃ t₁ t₂ ghPath, tr = t₁ ++ t₂ ∧
      Runs (resolveGh args.ghPath).run t₁ (.ok ghPath) ∧
      Runs (args.blockedLivePostArtifact rt ghPath >>= args.openLoaded rt ghPath).run t₂ r := by
    rcases runs_run_bind_iff.1 hrun with ⟨e, hresolve, -⟩ | ⟨t₁, t₂, ghPath, rfl, hresolve, hrest⟩
    · obtain ⟨found, hfound, -⟩ := resolveGh_runs hresolve
      contradiction
    · exact ⟨t₁, t₂, ghPath, rfl, hresolve, hrest⟩
  obtain ⟨found, hfound, hcases⟩ := resolveGh_runs hresolve
  obtain rfl := Except.ok.inj hfound
  have hwhich : ∀ e ∈ t₁, e.1 = .which := by
    rcases hcases with ⟨-, -, -, rfl⟩ | ⟨-, rfl⟩
    · simp
    · simp
  have hsome : ∀ gh, ghPath = some gh → FindsGh args (t₁ ++ t₂) gh := by
    rintro gh rfl
    rcases hcases with ⟨path, hpath, heq, rfl⟩ | ⟨hnone, rfl⟩
    · exact .inl (hpath.trans heq.symm)
    · exact .inr ⟨hnone, .inl (List.mem_append_left _ (List.mem_singleton.2 rfl))⟩
  have hnone : ghPath = none → args.ghPath = none ∧
      (⟨.which, none⟩ : Event LivePostCall LivePostCall.Answer) ∈ t₁ := by
    rintro rfl
    rcases hcases with ⟨path, -, heq, -⟩ | ⟨hnone, rfl⟩
    · contradiction
    · exact ⟨hnone, List.mem_singleton.2 rfl⟩
  have hchecks : ∀ {t₃ : LivePostTrace} {x : Except LivePostExit GitHubPRRef}, t₃ ⊆ t₁ ++ t₂ →
      Runs (args.blockedLivePostArtifact rt ghPath).run t₃ x →
      ∀ e ∈ t₃, Reads args (FindsGh args (t₁ ++ t₂)) e.1 := by
    intro t₃ x hsub hblocked e he
    refine (blockedLivePostArtifact_reads hblocked e he).mono fun gh hgh => ?_
    rcases hgh with hgh | ⟨hgh, hmem⟩
    · exact hsome gh hgh
    · exact .inr ⟨(hnone hgh).1, .inl (hsub hmem)⟩
  have hreads : ∀ e ∈ t₁ ++ t₂, Reads args (FindsGh args (t₁ ++ t₂)) e.1 := by
    refine List.forall_mem_append.2 ⟨fun e he => ?_, ?_⟩
    · rw [hwhich e he]
      trivial
    · rcases runs_run_bind_iff.1 hrest with ⟨e, hblocked, -⟩ | ⟨t₃, t₄, ref, rfl, hblocked, hload⟩
      · exact hchecks (List.subset_append_right _ _) hblocked
      · refine List.forall_mem_append.2 ⟨hchecks ?_ hblocked,
          (within_openLoaded ghPath ref).onlyCalls.of_runs hload⟩
        exact List.Subset.trans (List.subset_append_left _ _) (List.subset_append_right _ _)
  refine ⟨?_, fun e he => hopened.raises _ e (he ▸ hrun), ?_⟩
  · cases hpreflight : args.preflight rt with
    | ok ref => exact .inr ⟨⟨ref, permitted_of_preflight hpreflight⟩, hreads⟩
    | error artifact =>
      -- The preflight raises, and nothing follows.
      have hblocked : args.blockedLivePostArtifact rt ghPath = throw (.finished artifact) := by
        unfold blockedLivePostArtifact
        rw [hpreflight]
      rw [hblocked] at hrest
      rcases runs_run_bind_iff.1 hrest with ⟨e, hthrow, -⟩ | ⟨t₃, t₄, ref, -, hthrow, -⟩
      · obtain ⟨rfl, -⟩ := runs_run_throw_iff.1 hthrow
        rw [List.append_nil]
        exact .inl hwhich
      · obtain ⟨-, hresult⟩ := runs_run_throw_iff.1 hthrow
        contradiction
  · rintro o rfl
    obtain ⟨t₃, t₄, ref, rfl, hblocked, hload⟩ := runs_run_bind_ok_iff.1 hrest
    obtain ⟨t₅, t₆, artifactData, rfl, happroved, hload⟩ := runs_run_bind_ok_iff.1 hload
    obtain ⟨t₇, t₈, sourceData, rfl, hsource, hload⟩ := runs_run_bind_ok_iff.1 hload
    split at hload
    · obtain ⟨-, hresult⟩ := runs_run_throw_iff.1 hload
      contradiction
    rename_i o' hopen
    obtain ⟨-, hresult⟩ := runs_run_pure_iff.1 hload
    obtain rfl : o = o' := Except.ok.inj hresult
    obtain ⟨hrefEq, hghEq, hloaded, hverified, howner, hnumber⟩ := openArtifacts_eq_ok hopen
    obtain ⟨hpreflight, hne⟩ := preflight_of_runs hblocked
    refine ⟨hrefEq ▸ permitted_of_preflight hpreflight, ⟨?_, ?_, howner, hnumber, ?_⟩, hreads⟩
    · exact ⟨artifactData, (loadArtifact_runs happroved).mono fun e he => by simp [he], hloaded⟩
    · exact ⟨sourceData, (loadArtifact_runs hsource).mono fun e he => by simp [he], hverified⟩
    · rw [hghEq]
      cases hpath : ghPath with
      | none =>
        obtain ⟨hgiven, hmem⟩ := hnone hpath
        exact .inr ⟨hgiven, .inr ⟨rfl, List.mem_append_left _ hmem⟩⟩
      | some path =>
        have htext : textOr path "gh" = path := if_neg fun hnil => hne (by rw [hpath, hnil])
        rw [Option.getD_some, htext]
        exact hsome path hpath

/-! ## What the proofs show -/

/-- A gate that passes has the actor of its probe. -/
lemma gate_actor_of_probe {probe : ActorPermissionProbeResult} {target : Checked ReviewTarget}
    {evaluatedAt actor : Text} {maxAge : ℤ} {gate : Checked ActorPermissionGateResult}
    (h : evaluateActorPermissionGate probe target evaluatedAt maxAge = .ok gate)
    (hpass : gate.val.status = .pass) (hactor : probe.actor = .value actor) :
    gate.val.actor = some actor := by
  unfold evaluateActorPermissionGate at h
  obtain ⟨-, h⟩ := check_bind_eq_ok.1 h
  split at h
  · contradiction
  rename_i evaluatedTime _
  have hspec := checkProbe_spec probe target evaluatedTime maxAge
  split at h
  · obtain ⟨summary, -, h⟩ := bind_eq_ok.1 h
    rw [construct_eq_ok.1 h] at hpass
    contradiction
  rename_i actor' principal source permission hcheck
  rw [hcheck] at hspec
  obtain ⟨summary, -, h⟩ := bind_eq_ok.1 h
  rw [construct_eq_ok.1 h]
  have hsafe := hspec.1.isActor
  unfold safeIdentity ProbeField.clean at hsafe
  rw [hactor] at hsafe
  obtain ⟨hclean, -⟩ := Option.filter_eq_some_iff.1 hsafe
  obtain ⟨hvalue, -⟩ := Option.filter_eq_some_iff.1 hclean
  exact congrArg some (Option.some.inj hvalue).symm

/-- A result that succeeds calls nothing. -/
lemma runs_ofResult_ok {α : Type} {x : Result α} {tr : LivePostTrace} {a : α}
    (h : Runs (LivePost.ofResult x).run tr (.ok a)) : x = .ok a ∧ tr = [] := by
  cases x with
  | error e =>
    obtain ⟨-, hresult⟩ := runs_run_throw_iff.1 h
    contradiction
  | ok b =>
    obtain ⟨htr, hresult⟩ := runs_run_pure_iff.1 h
    rw [Except.ok.inj hresult]
    exact ⟨rfl, htr⟩

/-- The probe of a proof names its actor. -/
lemma actor_of_liveProof {gh checkedAt : Text} {approved : ApprovedPostArtifact}
    {tr : LivePostTrace}
    {proof : EvaluatedLiveProof} (h : Runs (args.liveProof rt gh approved checkedAt).run tr
      (.ok proof)) :
    proof.actorProbe.actor = .value proof.actor := by
  unfold liveProof at h
  dsimp only at h
  obtain ⟨_, _, actorPayload, -, -, h⟩ := runs_run_bind_ok_iff.1 h
  obtain ⟨_, _, repoPayload, -, -, h⟩ := runs_run_bind_ok_iff.1 h
  obtain ⟨_, _, prPayload, -, -, h⟩ := runs_run_bind_ok_iff.1 h
  obtain ⟨_, _, comparePayload, -, -, h⟩ := runs_run_bind_ok_iff.1 h
  obtain ⟨_, _, currentTarget, -, -, h⟩ := runs_run_bind_ok_iff.1 h
  obtain ⟨_, _, repoPermission, -, -, h⟩ := runs_run_bind_ok_iff.1 h
  obtain ⟨_, _, actor, -, -, h⟩ := runs_run_bind_ok_iff.1 h
  obtain ⟨_, _, payloadHash, -, -, h⟩ := runs_run_bind_ok_iff.1 h
  obtain ⟨_, _, findingsHash, -, -, h⟩ := runs_run_bind_ok_iff.1 h
  obtain ⟨_, _, markerResult, -, -, h⟩ := runs_run_bind_ok_iff.1 h
  obtain ⟨_, _, disposableMarkerPresent, -, -, h⟩ := runs_run_bind_ok_iff.1 h
  obtain ⟨_, _, forkPr, -, -, h⟩ := runs_run_bind_ok_iff.1 h
  obtain ⟨-, hproof⟩ := runs_run_pure_iff.1 h
  rw [Except.ok.inj hproof]
  rfl

/-- The approval of a confirmed hash is for the actor that was shown and for the approved target. -/
lemma approve_runs {o : Opened} {preProof : EvaluatedLiveProof} {tr : LivePostTrace}
    {approval : Checked ApprovalDecision} (h : Runs (approve o preProof).run tr (.ok approval))
    (hactor : preProof.actorProbe.actor = .value preProof.actor) :
    approval.val.approvedGithubActor = preProof.actor ∧
      approval.val.approvedReviewTarget = o.approved.request.reviewTarget := by
  obtain ⟨_, _, confirmedAt, -, -, h⟩ := runs_run_bind_ok_iff.1 h
  obtain ⟨_, _, decision, -, hdecision, h⟩ := runs_run_bind_ok_iff.1 h
  obtain ⟨hdecision, -⟩ := runs_ofResult_ok hdecision
  split at h
  · rename_i approval' hpass happroval
    obtain ⟨-, hresult⟩ := runs_run_pure_iff.1 h
    obtain rfl : approval = approval' := Except.ok.inj hresult
    unfold approvalDecisionOf at hdecision
    obtain ⟨gate, hgate, hdecision⟩ := bind_eq_ok.1 hdecision
    obtain ⟨proof, hproof, hdecision⟩ := bind_eq_ok.1 hdecision
    obtain ⟨hproofPass, hgatePass, approval', target, summary, happroval', htarget, hval⟩ :=
      buildApprovalDecision_pass hdecision hpass
    obtain rfl : approval = approval' := Option.some.inj (happroval.symm.trans happroval')
    obtain ⟨findings, b, -, hproofVal⟩ := buildApprovalProof_pass hproof hproofPass
    rw [hproofVal] at htarget
    rw [hval]
    refine ⟨?_, (Option.some.inj htarget).symm⟩
    unfold approvalOf
    rw [gate_actor_of_probe hgate hgatePass hactor]
    rfl
  · obtain ⟨-, hresult⟩ := runs_run_throw_iff.1 h
    contradiction

/-- The second proof shows what was approved: a pull request that is disposable and no fork, with
the approved target, and the actor that was shown before the confirmation. -/
structure StillApproved (o : Opened) (preProof postProof : EvaluatedLiveProof) : Prop where
  disposable : postProof.disposableMarkerPresent = true
  notFork : postProof.forkPr = false
  actor : postProof.actor = preProof.actor
  target : postProof.targetProbe.currentTarget = .value o.approved.request.reviewTarget
  safe : postProof.markerResult.val.status = .safeToPost

/-- The final payload of an artifact that loads. -/
lemma finalBuild_of_opens {o : Opened} {tr : LivePostTrace} (h : Opens rt args tr o) : ∃ b,
    o.approved.request.finalBuild = .ok b ∧
    b.payload.val.body = o.approved.finalPayloadBody ∧
    b.payload.val.reviewTarget = o.approved.request.reviewTarget := by
  obtain ⟨data, -, hdata⟩ := h.loaded
  obtain ⟨b, fingerprints, hloaded⟩ := loadApprovedPostArtifact_loaded rt.repr hdata
  obtain ⟨findings, hpasses⟩ := hloaded.passes
  obtain ⟨-, -, -, m, -, hval⟩ := ApprovedContent.build_eq_ok hpasses.build
  refine ⟨b, ApprovalRequest.finalBuild_of_passes hpasses, hloaded.body.1.symm, ?_⟩
  rw [hval]
  rfl

/-- The markers of a finalization are the ones of its reconciler. -/
lemma markers_of_finalize {f : FinalizationArguments} {payload : Checked FinalIssueCommentPayload}
    {marker m : Checked MarkerReconciliationResult} {result : FinalizeGithubPayloadResult}
    (h : f.finalizeGithubPayload (some (.ok payload)) (some (boundMarker marker)) = .ok result)
    (hm : result.markerReconciliation = some m) : m = marker := by
  have hnone : ∀ {status : Checked FinalizationStatus → FinalizeGithubPayloadResult}
      {x : Result (Checked FinalizationStatus)},
      (∀ s, (status s).markerReconciliation = none) → (x >>= fun s => pure (status s)) =
        .ok result →
      m = marker := by
    intro status x hstatus hresult
    obtain ⟨s, -, hresult⟩ := bind_eq_ok.1 hresult
    rw [← pure_eq_ok.1 hresult, hstatus] at hm
    contradiction
  have hsome : ∀ {bound : Checked BoundMarkerReconciliationResult}
      {status : Checked FinalizationStatus → FinalizeGithubPayloadResult}
      {x : Result (Checked FinalizationStatus)},
      boundMarker marker payload = .ok bound →
      (∀ s, (status s).markerReconciliation = some bound.val.result) →
      (x >>= fun s => pure (status s)) = .ok result → m = marker := by
    intro bound status x hbound hstatus hresult
    obtain ⟨s, -, hresult⟩ := bind_eq_ok.1 hresult
    rw [← pure_eq_ok.1 hresult, hstatus] at hm
    rw [← Option.some.inj hm, construct_eq_ok.1 hbound]
  unfold FinalizationArguments.finalizeGithubPayload at h
  split at h
  · exact hnone (fun _ => rfl) h
  obtain ⟨actorCheck, -, h⟩ := bind_eq_ok.1 h
  split at h
  · exact hnone (fun _ => rfl) h
  obtain ⟨targetCheck, -, h⟩ := bind_eq_ok.1 h
  unfold ReviewGraph.finalizeGithubPayload at h
  dsimp only at h
  split at h
  · exact hnone (fun _ => rfl) h
  split at h
  · exact hnone (fun _ => rfl) h
  rw [ok_bind] at h
  split at h
  · exact hnone (fun _ => rfl) h
  unfold finalizeBuiltPayload at h
  obtain ⟨validation, -, h⟩ := bind_eq_ok.1 h
  split at h
  · exact hnone (fun _ => rfl) h
  obtain ⟨bound, hbound, h⟩ := bind_eq_ok.1 h
  dsimp only at h
  split at h
  · exact hsome hbound (fun _ => rfl) h
  split at h
  · exact hsome hbound (fun _ => rfl) h
  · exact hsome hbound (fun _ => rfl) h
  · exact hsome hbound (fun _ => rfl) h

/-- A finalization that releases the payload saw that everything is approved still. -/
lemma stillApproved_of_released {o : Opened} {preProof postProof : EvaluatedLiveProof}
    {approval : Checked ApprovalDecision} {evaluatedAt : Text}
    {payload : Checked FinalIssueCommentPayload}
    {result : FinalizeGithubPayloadResult}
    (happrovedActor : approval.val.approvedGithubActor = preProof.actor)
    (happrovedTarget : approval.val.approvedReviewTarget = o.approved.request.reviewTarget)
    (hpostActor : postProof.actorProbe.actor = .value postProof.actor)
    (hdisposable : postProof.disposableMarkerPresent = true) (hfork : postProof.forkPr = false)
    (h : (finalizationOf o approval postProof evaluatedAt).finalizeGithubPayload
      (some (.ok payload))
      (some (boundMarker postProof.markerResult)) = .ok result)
    (hreleased : result.writerInputReleased = true) :
    StillApproved o preProof postProof ∧ result.finalPayload = some payload := by
  rcases FinalizationArguments.finalizeGithubPayload_cases h with hwithheld |
    ⟨payload', marker, hreleases, hresult⟩
  · rw [hwithheld.released] at hreleased
    contradiction
  obtain rfl : payload = payload' := Except.ok.inj (Option.some.inj hreleases.builder)
  obtain ⟨check, hcheck, hcheckPass⟩ := hreleases.actor
  obtain ⟨gate, hgate, hkeeps⟩ := FinalizationArguments.keepsPermission_of_pass hcheck hcheckPass
  obtain ⟨targetCheck, htargetCheck, htargetPass⟩ := hreleases.target
  obtain ⟨evaluatedTime, -, hfresh⟩ :=
    FinalizationArguments.showsFreshTarget_of_targetCheck htargetCheck htargetPass
  obtain ⟨reconcile, hreconcile, hmarker⟩ := hreleases.reconciler
  refine ⟨⟨hdisposable, hfork, ?_, ?_, ?_⟩, hresult.finalPayload⟩
  · have hgateActor := gate_actor_of_probe hgate hkeeps.passes hpostActor
    rw [← happrovedActor]
    exact Option.some.inj (hgateActor.symm.trans hkeeps.actor)
  · rw [← happrovedTarget]
    exact hfresh.currentTarget
  · rw [← Option.some.inj hreconcile] at hmarker
    have hsafe := hreleases.safe
    rw [construct_eq_ok.1 hmarker] at hsafe
    exact hsafe

/-! ## The writer -/

/-- A failure of the transport never says that the comment may have been created. -/
lemma ghPostIssueComment_failure {request : IssueCommentPost} {run : GhPostRun}
    {exc : GitHubIssueCommentPostTransportFailure}
    (h : ghPostIssueComment rt.str request run = .failure exc) : exc.ambiguousAccepted = false := by
  have hreason : ∀ stderr code, writerReasonCode
      (reasonFromGhFailure stderr code) ≠ .ambiguousAccepted := by
    intro stderr code
    unfold writerReasonCode
    split_ifs <;> decide
  cases run with
  | raised => contradiction
  | completed completed =>
    unfold ghPostIssueComment at h
    dsimp only at h
    split at h
    · cases h
      rfl
    split at h
    · cases h
      simp [GitHubIssueCommentPostTransportFailure.init, hreason]
    unfold ghPostResponse at h
    split at h
    · cases h
      rfl
    · contradiction
    · split at h
      · cases h
        rfl
      · split at h <;> contradiction
    · contradiction

/-- The call that posts a comment. -/
def postCall (args : LivePostArguments) (gh : Text) (request : IssueCommentPost) : LivePostCall :=
  .post (postArgs gh request) request.body request.timeoutSeconds (ghEnv args.env)

/-- The writer of a live post posts at most once and never recovers: it fails, or a response of the
approved actor has been returned. -/
lemma writer_runs {gh : Text} (input : Checked FinalizedIssueCommentWriterInput)
    {tr : LivePostTrace}
    {res : Result GitHubIssueCommentWriterAttemptResult}
    (hrun : Runs ((livePostWriter.val.postIssueComment input.val).handle
      (args.writerTransport rt gh)) tr
      res) :
    ∃ attempt, res = .ok attempt ∧ ((tr = [] ∧ attempt.writerResult.val.status = .failed) ∨
      ∃ run : GhPostRun, tr = [⟨postCall args gh (livePostWriter.val.request input.val), run⟩] ∧
        (attempt.writerResult.val.status = .failed ∨ ∃ response,
          ghPostIssueComment rt.str (livePostWriter.val.request input.val) run =
          .response response ∧
          attempt.writerResult.val.status = .posted ∧
          response.authorLogin = some input.val.approvedActor ∧
          attempt.writerResult.val.commentId = response.commentId)) := by
  obtain ⟨events, hevents, hserved⟩ := runs_handle_iff.1 hrun
  obtain ⟨attempt, rfl, hattempt⟩ :=
    GitHubIssueCommentWriter.postIssueComment_runs livePostWriter.property input hevents
  -- A key is new, and a post is one command.
  have hcheck :
      ∀ {key : RetrySequenceKey} {answer : Bool} {rest : List (Event WriterCall WriterCall.Answer)}
      {tr : LivePostTrace}, Served (args.writerTransport rt gh) (⟨.checkKey key, answer⟩ :: rest)
        tr →
      answer = false ∧ Served (args.writerTransport rt gh) rest tr := by
    intro key answer rest tr hserved
    cases hserved with
    | cons h₁ h₂ =>
      obtain ⟨rfl, hanswer⟩ := runs_ret_iff.1 h₁
      exact ⟨hanswer, by simpa using h₂⟩
  have hpost : ∀ {request : IssueCommentPost} {outcome : PostOutcome}
      {rest : List (Event WriterCall WriterCall.Answer)} {tr : LivePostTrace},
      Served (args.writerTransport rt gh) (⟨.post request, outcome⟩ :: rest) tr →
      ∃ (run : GhPostRun) (tr' : LivePostTrace), tr = ⟨postCall args gh request, run⟩ :: tr' ∧
        outcome = ghPostIssueComment rt.str request run ∧
        Served (args.writerTransport rt gh) rest tr' := by
    intro request outcome rest tr hserved
    cases hserved with
    | cons h₁ h₂ =>
      obtain ⟨run, tr₁, rfl, hret⟩ := runs_call_iff.1 h₁
      obtain ⟨rfl, houtcome⟩ := runs_ret_iff.1 hret
      exact ⟨run, _, rfl, houtcome, h₂⟩
  refine ⟨attempt, rfl, ?_⟩
  cases hattempt with
  | invalid _ hfailed _ =>
    cases hserved
    exact .inl ⟨rfl, hfailed⟩
  | repeated _ _ _ =>
    obtain ⟨hanswer, -⟩ := hcheck hserved
    contradiction
  | ambiguous _ haccepted _ _ =>
    obtain ⟨-, hserved⟩ := hcheck hserved
    obtain ⟨run, tr', -, houtcome, -⟩ := hpost hserved
    rw [ghPostIssueComment_failure houtcome.symm] at haccepted
    contradiction
  | failed _ hfailed _ _ =>
    obtain ⟨-, hserved⟩ := hcheck hserved
    obtain ⟨run, tr', rfl, -, hserved⟩ := hpost hserved
    cases hserved
    exact .inr ⟨run, rfl, .inl hfailed⟩
  | posted _ hposted _ hactor hcomment =>
    obtain ⟨-, hserved⟩ := hcheck hserved
    obtain ⟨run, tr', rfl, houtcome, hserved⟩ := hpost hserved
    cases hserved
    exact .inr ⟨run, rfl, .inr ⟨_, houtcome.symm, hposted, hactor, hcomment⟩⟩

/-! ## The flow -/

/-- The trace has a hash that is typed as it is expected, between a proof that is shown and a proof
that is read again. -/
def ConfirmedBetween (rt : PythonRuntime) (args : LivePostArguments) (o : Opened)
    (tr : LivePostTrace)
    (preProof postProof : EvaluatedLiveProof) : Prop :=
  ∃ (shown proved t₁ t₂ : LivePostTrace) (preCheckedAt postCheckedAt : Text),
    tr = shown ++ ⟨.confirmHash (approvalPrompt o.approved preProof preCheckedAt)
      o.approved.finalPayloadHash, some o.approved.finalPayloadHash⟩ :: proved ∧
    (t₁ <:+: shown ∧ Runs (args.liveProof rt o.gh o.approved preCheckedAt).run t₁ (.ok preProof)) ∧
    t₂ <:+: proved ∧ Runs (args.liveProof rt o.gh o.approved postCheckedAt).run t₂ (.ok postProof)

/-- Two proofs with the confirmation between them stay so in a longer trace. -/
lemma ConfirmedBetween.append {o : Opened} {tr : LivePostTrace}
    {preProof postProof : EvaluatedLiveProof}
    (h : ConfirmedBetween rt args o tr preProof postProof) (before after : LivePostTrace) :
    ConfirmedBetween rt args o (before ++ (tr ++ after)) preProof postProof := by
  obtain ⟨shown, proved, t₁, t₂, preCheckedAt, postCheckedAt, rfl, ⟨hshown, hpre⟩, hproved,
      hpost⟩ := h
  refine ⟨before ++ shown, proved ++ after, t₁, t₂, preCheckedAt, postCheckedAt, by
    simp, ⟨?_, hpre⟩, ?_,
    hpost⟩
  · exact hshown.trans (List.suffix_append before shown).isInfix
  · exact hproved.trans (List.prefix_append proved after).isInfix

/-- The approved comment. -/
def approvedPost (args : LivePostArguments) (o : Opened) : LivePostCall :=
  .post [o.gh, "api", "--method", "POST",
    "repos/" ++ (o.ref.ownerRepo ++ ("/issues/" ++ (Text.ofInt o.ref.prNumber ++ "/comments"))),
    "--input",
    "-"] o.approved.finalPayloadBody 10 (ghEnv args.env)

/-- The hash was typed to the prompt. -/
lemma runs_confirmHash_ok {o : Opened} {proof : EvaluatedLiveProof} {checkedAt : Text}
    {tr : LivePostTrace}
    {u : Unit} (h : Runs (confirmHash o proof checkedAt).run tr (.ok u)) :
    tr = [⟨.confirmHash (approvalPrompt o.approved proof checkedAt) o.approved.finalPayloadHash,
      some o.approved.finalPayloadHash⟩] := by
  obtain ⟨tr₁, tr₂, typed, rfl, hperform, hrest⟩ := runs_run_bind_ok_iff.1 h
  obtain ⟨answer, tr', rfl, hret⟩ := runs_call_iff.1 hperform
  obtain ⟨rfl, hanswer⟩ := runs_ret_iff.1 hret
  cases answer with
  | none => contradiction
  | some answer =>
    obtain rfl : typed = answer := Except.ok.inj hanswer
    split at hrest
    · obtain ⟨-, hresult⟩ := runs_run_throw_iff.1 hrest
      contradiction
    · rename_i htyped
      obtain ⟨rfl, -⟩ := runs_run_pure_iff.1 hrest
      rw [← not_not.1 htyped]
      rfl

/-- A run that is not blocked does not meet the condition. -/
lemma runs_blockIf_ok {o : Opened} {condition : Bool} {reason : Text} {tr : LivePostTrace}
    {u : Unit}
    (h : Runs (o.blockIf condition reason).run tr (.ok u)) : condition = false ∧ tr = [] := by
  unfold Opened.blockIf at h
  split at h
  · obtain ⟨-, hresult⟩ := runs_run_throw_iff.1 h
    contradiction
  · rename_i hcondition
    exact ⟨by simpa using hcondition, (runs_run_pure_iff.1 h).1⟩

/-- The second proof is one of the resources that are read in it. -/
lemma runs_proveAgain_ok {o : Opened} {tr : LivePostTrace} {proof : EvaluatedLiveProof}
    (h : Runs (args.proveAgain rt o).run tr (.ok proof)) :
    (∃ (t : LivePostTrace) (checkedAt : Text), t <:+: tr ∧
      Runs (args.liveProof rt o.gh o.approved checkedAt).run t (.ok proof)) ∧
      proof.disposableMarkerPresent = true ∧ proof.forkPr = false := by
  obtain ⟨tr₁, tr₂, checkedAt, rfl, -, h⟩ := runs_run_bind_ok_iff.1 h
  obtain ⟨tr₃, tr₄, proof', rfl, hproof, h⟩ := runs_run_bind_ok_iff.1 h
  obtain ⟨tr₅, tr₆, u, rfl, hdisposable, h⟩ := runs_run_bind_ok_iff.1 h
  obtain ⟨tr₇, tr₈, u', rfl, hfork, h⟩ := runs_run_bind_ok_iff.1 h
  obtain ⟨-, hresult⟩ := runs_run_pure_iff.1 h
  obtain rfl : proof = proof' := Except.ok.inj hresult
  refine ⟨⟨tr₃, checkedAt, ⟨tr₁, tr₅ ++ (tr₇ ++ tr₈), by simp⟩, hproof⟩, ?_,
    (runs_blockIf_ok hfork).1⟩
  simpa using (runs_blockIf_ok hdisposable).1

/-- An artifact that reports the comment of an earlier run, which the second scan has found. -/
def ReportsExisting (postProof : EvaluatedLiveProof) (artifact : LivePostSmokeArtifact) : Prop :=
  artifact.status = "succeeded" ∧ artifact.reason = "reconciled_existing" ∧
    postProof.markerResult.val.status = .reconciledExisting ∧
    artifact.commentId = postProof.markerResult.val.existingCommentId

/-- An artifact that reports the comment of a response of the approved actor. -/
def ReportsPosted (rt : PythonRuntime) (actor : Text) (run : GhPostRun)
    (artifact : LivePostSmokeArtifact) :
    Prop :=
  artifact.status = "succeeded" ∧ artifact.reason = "posted" ∧ ∃ request response,
    ghPostIssueComment rt.str request run = .response response ∧ response.authorLogin = some actor ∧
    artifact.commentId = response.commentId

/-- The end of the flow: nothing is posted, or the approved payload is. -/
lemma conclude_runs {o : Opened} {preProof postProof : EvaluatedLiveProof}
    {approval : Checked ApprovalDecision} {evaluatedAt : Text} {b : ApprovedFinalIssueCommentBuild}
    {finalization : FinalizeGithubPayloadResult} {tr : LivePostTrace}
    {r : Except LivePostExit LivePostSmokeArtifact} {t₀ : LivePostTrace}
    (hopens : Opens rt args t₀ o)
    (hb : o.approved.request.finalBuild = .ok b)
    (happrovedActor : approval.val.approvedGithubActor = preProof.actor)
    (happrovedTarget : approval.val.approvedReviewTarget = o.approved.request.reviewTarget)
    (hpostActor : postProof.actorProbe.actor = .value postProof.actor)
    (hdisposable : postProof.disposableMarkerPresent = true) (hfork : postProof.forkPr = false)
    (hfinal : (finalizationOf o approval postProof evaluatedAt).finalizeGithubPayload
      (some (.ok b.payload)) (some (boundMarker postProof.markerResult)) = .ok finalization)
    (hrun : Runs (args.conclude rt o approval finalization).run tr r) :
    (tr = [] ∧ (∀ e, r = .error e → Blocks e) ∧ ∀ artifact, r = .ok artifact →
      artifact.status = "fail_closed" ∨ ReportsExisting postProof artifact) ∨
    ∃ (run : GhPostRun) (artifact : LivePostSmokeArtifact), tr = [⟨approvedPost args o, run⟩] ∧
      StillApproved o preProof postProof ∧ r = .ok artifact ∧
      (artifact.status = "fail_closed" ∨ ReportsPosted rt preProof.actor run artifact) := by
  unfold conclude at hrun
  split at hrun
  · rename_i hexisting
    obtain ⟨rfl, rfl⟩ := runs_run_pure_iff.1 hrun
    refine .inl ⟨rfl, by rintro e ⟨⟩, ?_⟩
    rintro artifact ⟨⟩
    cases hmarker : finalization.markerReconciliation with
    | none =>
      rw [hmarker] at hexisting
      contradiction
    | some m =>
      rw [hmarker, Option.any_some, decide_eq_true_eq] at hexisting
      obtain rfl : m = postProof.markerResult := markers_of_finalize hfinal hmarker
      exact .inr ⟨rfl, rfl, hexisting, rfl⟩
  split at hrun
  · obtain ⟨rfl, rfl⟩ := runs_run_pure_iff.1 hrun
    refine .inl ⟨rfl, by rintro e ⟨⟩, ?_⟩
    rintro artifact ⟨⟩
    exact .inl rfl
  rename_i hreleased
  obtain ⟨hstill, hpayload⟩ := stillApproved_of_released happrovedActor happrovedTarget hpostActor
    hdisposable hfork hfinal (by simpa using hreleased)
  rcases (within_ofResult (P := fun _ => False) _).runs_bind hrun with
    ⟨hnone, e, rfl, he⟩ | ⟨tr₁, tr₂, input, rfl, -, hinput, hwriter⟩
  · refine .inl ⟨List.eq_nil_iff_forall_not_mem.2 hnone, ?_, by rintro artifact ⟨⟩⟩
    rintro e' ⟨⟩
    exact he
  obtain ⟨hbuild, rfl⟩ := runs_ofResult_ok hinput
  obtain ⟨hinputPayload, hinputActor⟩ := buildFinalizedIssueCommentWriterInput_ok hbuild
  have hsame : b.payload = input.val.finalPayload :=
      Option.some.inj (hpayload.symm.trans hinputPayload)
  -- The comment is the approved one.
  have hpost : ∀ run : GhPostRun, (⟨postCall args o.gh (livePostWriter.val.request input.val),
      run⟩ :
      Event LivePostCall LivePostCall.Answer) = ⟨approvedPost args o, run⟩ := by
    intro run
    obtain ⟨b', hb', hbody, htarget⟩ := finalBuild_of_opens hopens
    obtain rfl : b = b' := Except.ok.inj (hb.symm.trans hb')
    unfold postCall approvedPost postArgs GitHubIssueCommentWriter.request
    dsimp only
    rw [← hsame, hbody, htarget, hopens.ownerRepo, hopens.prNumber]
    rfl
  obtain ⟨tr₃, tr₄, res, rfl, hlift, hrest⟩ : ∃ tr₃ tr₄ res, tr₂ = tr₃ ++ tr₄ ∧
      Runs ((livePostWriter.val.postIssueComment input.val).handle (args.writerTransport rt o.gh))
        tr₃ res ∧
      Runs (LivePost.ofResult res >>= fun attempt =>
        pure (o.writerArtifact finalization attempt)).run tr₄
        r := by
    rcases runs_run_bind_iff.1 hwriter with ⟨e, hlift, -⟩ | ⟨tr₃, tr₄, res, rfl, hlift, hrest⟩
    · obtain ⟨res, -, hresult⟩ := runs_run_lift_iff.1 hlift
      contradiction
    · obtain ⟨res', hlift, hresult⟩ := runs_run_lift_iff.1 hlift
      obtain rfl := Except.ok.inj hresult
      exact ⟨tr₃, tr₄, res, rfl, hlift, hrest⟩
  obtain ⟨attempt, rfl, hattempt⟩ := writer_runs input hlift
  have hartifact : tr₄ = [] ∧ r = .ok (o.writerArtifact finalization attempt) := by
    simpa [LivePost.ofResult] using hrest
  obtain ⟨rfl, rfl⟩ := hartifact
  have hfailed : attempt.writerResult.val.status = .failed →
      (o.writerArtifact finalization attempt).status = "fail_closed" := by
    intro hstatus
    unfold Opened.writerArtifact
    rw [hstatus]
    rfl
  rcases hattempt with ⟨rfl, hstatus⟩ | ⟨run, rfl, hattempt⟩
  · refine .inl ⟨rfl, by rintro e ⟨⟩, ?_⟩
    rintro artifact ⟨⟩
    exact .inl (hfailed hstatus)
  · refine .inr ⟨run, _, ?_, hstill, rfl, ?_⟩
    · rw [List.nil_append, List.append_nil, hpost]
    rcases hattempt with hstatus | ⟨response, hresponse, hposted, hactor, hcomment⟩
    · exact .inl (hfailed hstatus)
    · rw [hinputActor, happrovedActor] at hactor
      refine .inr ⟨?_, ?_, _, response, hresponse, hactor, hcomment⟩
      · unfold Opened.writerArtifact
        rw [hposted]
        rfl
      · unfold Opened.writerArtifact
        rw [hposted]
        rfl

/-- The flow posts nothing, or it has confirmed the hash and read the live state again when it
posts; the post is its last call. -/
lemma flow_runs {o : Opened} {tr : LivePostTrace} {r : Except LivePostExit LivePostSmokeArtifact}
    {t₀ : LivePostTrace} (hopens : Opens rt args t₀ o) (hgh : isGh o.gh)
    (hrun : Runs (args.flow rt o).run tr r) :
    ((∀ e ∈ tr, Reads args isGh e.1) ∧ (∀ e, r = .error e → Blocks e) ∧ ∀ artifact,
      r = .ok artifact →
      artifact.status = "fail_closed" ∨ ∃ preProof postProof,
        ConfirmedBetween rt args o tr preProof postProof ∧ ReportsExisting postProof artifact) ∨
    ∃ (before : LivePostTrace) (run : GhPostRun) (artifact : LivePostSmokeArtifact)
      (preProof postProof : EvaluatedLiveProof), tr = before ++ [⟨approvedPost args o, run⟩] ∧
      (∀ e ∈ before, Reads args isGh e.1) ∧ ConfirmedBetween rt args o before preProof postProof ∧
      StillApproved o preProof postProof ∧ r = .ok artifact ∧
      (artifact.status = "fail_closed" ∨ ReportsPosted rt preProof.actor run artifact) := by
  have hends : ∀ {tr : LivePostTrace}, ((∀ e ∈ tr, Reads args isGh e.1) ∧ ∃ e, r = .error e ∧
      Blocks e) →
      (∀ e ∈ tr, Reads args isGh e.1) ∧ (∀ e, r = .error e → Blocks e) ∧ ∀ artifact,
        r = .ok artifact →
        artifact.status = "fail_closed" ∨ ∃ preProof postProof,
          ConfirmedBetween rt args o tr preProof postProof ∧
            ReportsExisting postProof artifact := by
    rintro tr ⟨hreads, e, rfl, he⟩
    refine ⟨hreads, ?_, by rintro artifact ⟨⟩⟩
    rintro e' ⟨⟩
    exact he
  have hbefore : ∀ {tr tr' : LivePostTrace}, (∀ e ∈ tr, Reads args isGh e.1) →
      (∀ e ∈ tr', Reads args isGh e.1) →
      ∀ e ∈ tr ++ tr', Reads args isGh e.1 :=
    fun h h' => List.forall_mem_append.2 ⟨h, h'⟩
  unfold flow at hrun
  rcases (within_checkPullRequest hgh).runs_bind hrun with hend | ⟨t₁, s₁, u₁, rfl, h₁, -, hrun⟩
  · exact .inl (hends hend)
  rcases (within_now (P := Reads args isGh) trivial).runs_bind hrun with
    ⟨hreads, hend⟩ | ⟨t₂, s₂, preCheckedAt, rfl, h₂, -, hrun⟩
  · exact .inl (hends ⟨hbefore h₁ hreads, hend⟩)
  rcases (within_liveProof hgh _ _).runs_bind hrun with
    ⟨hreads, hend⟩ | ⟨t₃, s₃, preProof, rfl, h₃, hpre, hrun⟩
  · exact .inl (hends ⟨hbefore h₁ (hbefore h₂ hreads), hend⟩)
  rcases (within_confirmHash _ _ _).runs_bind hrun with
    ⟨hreads, hend⟩ | ⟨t₄, s₄, u₂, rfl, h₄, hconfirm, hrun⟩
  · exact .inl (hends ⟨hbefore h₁ (hbefore h₂ (hbefore h₃ hreads)), hend⟩)
  rcases (within_approve _ _).runs_bind hrun with
    ⟨hreads, hend⟩ | ⟨t₅, s₅, approval, rfl, h₅, happrove, hrun⟩
  · exact .inl (hends ⟨hbefore h₁ (hbefore h₂ (hbefore h₃ (hbefore h₄ hreads))), hend⟩)
  rcases (within_proveAgain hgh).runs_bind hrun with
    ⟨hreads, hend⟩ | ⟨t₆, s₆, postProof, rfl, h₆, hpost, hrun⟩
  · exact .inl (hends ⟨hbefore h₁ (hbefore h₂ (hbefore h₃ (hbefore h₄ (hbefore h₅ hreads)))), hend⟩)
  rcases (within_finalize _ _ _).runs_bind hrun with
    ⟨hreads, hend⟩ | ⟨t₇, s₇, finalization, rfl, h₇, hfinalize, hrun⟩
  · exact .inl (hends
      ⟨hbefore h₁ (hbefore h₂ (hbefore h₃ (hbefore h₄ (hbefore h₅ (hbefore h₆ hreads))))), hend⟩)
  -- The finalization is reached: what it compares is what was shown and what was read again.
  obtain ⟨⟨t, postCheckedAt, hinfix, hproof⟩, hdisposable, hfork⟩ := runs_proveAgain_ok hpost
  obtain ⟨happrovedActor, happrovedTarget⟩ := approve_runs happrove (actor_of_liveProof hpre)
  obtain ⟨_, _, b, -, hb, hfinalize⟩ := runs_run_bind_ok_iff.1 hfinalize
  obtain ⟨_, _, evaluatedAt, -, -, hfinalize⟩ := runs_run_bind_ok_iff.1 hfinalize
  obtain ⟨hb, -⟩ := runs_ofResult_ok hb
  obtain ⟨hfinal, -⟩ := runs_ofResult_ok hfinalize
  have hreads := hbefore h₁ (hbefore h₂ (hbefore h₃ (hbefore h₄ (hbefore h₅ (hbefore h₆ h₇)))))
  have hconfirmed : ConfirmedBetween rt args o (t₁ ++ (t₂ ++ (t₃ ++ (t₄ ++ (t₅ ++ (t₆ ++ t₇))))))
      preProof postProof := by
    rw [runs_confirmHash_ok hconfirm]
    refine ⟨t₁ ++ (t₂ ++ t₃), t₅ ++ (t₆ ++ t₇), t₃, t, preCheckedAt, postCheckedAt, by
      simp, ⟨?_, hpre⟩, ?_,
      hproof⟩
    · exact ⟨t₁ ++ t₂, [], by simp⟩
    · exact hinfix.trans ⟨t₅, t₇, by simp⟩
  rcases conclude_runs hopens hb happrovedActor happrovedTarget (actor_of_liveProof hproof)
      hdisposable
    hfork hfinal hrun with ⟨rfl, hraises, hreports⟩ | ⟨run, artifact, rfl, hstill, rfl, hreports⟩
  · rw [List.append_nil]
    refine .inl ⟨hreads, hraises, fun artifact hartifact => ?_⟩
    rcases hreports artifact hartifact with hfailed | hexisting
    · exact .inl hfailed
    · exact .inr ⟨preProof, postProof, hconfirmed, hexisting⟩
  · exact .inr ⟨_, run, artifact, preProof, postProof, by
      simp, hreads, hconfirmed, hstill, rfl, hreports⟩

/-! ## The whole run -/

/-- A call that posts. -/
def isPost : LivePostCall → Bool
  | .post .. => true
  | _ => false

/-- A call that writes an artifact, to where it was asked for. -/
def IsWrite (args : LivePostArguments) (c : LivePostCall) : Prop :=
  ∃ destination artifact, args.destination = some destination ∧ c = .write destination artifact

/-- The trace has an artifact that could not be written. -/
def FailsToWrite (tr : LivePostTrace) : Prop :=
  ∃ destination artifact, (⟨.write destination artifact, false⟩ : Event LivePostCall
    LivePostCall.Answer) ∈ tr

/-- A read is no post. -/
lemma Reads.isPost {c : LivePostCall} (h : Reads args isGh c) : isPost c = false := by
  cases c with
  | post => exact h.elim
  | _ => rfl

/-- A write is no post. -/
lemma IsWrite.isPost {c : LivePostCall} (h : IsWrite args c) : isPost c = false := by
  obtain ⟨destination, artifact, -, rfl⟩ := h
  rfl

/-- Writing the artifact writes nothing else. -/
lemma writeArtifact_runs {artifact : LivePostSmokeArtifact} {tr : LivePostTrace} {written : Bool}
    (h : Runs (args.writeArtifact artifact) tr written) :
    (∀ e ∈ tr, IsWrite args e.1) ∧ (written = false → FailsToWrite tr) := by
  unfold writeArtifact at h
  split at h
  · obtain ⟨rfl, rfl⟩ := runs_ret_iff.1 h
    exact ⟨by simp, by simp⟩
  · rename_i destination hdestination
    obtain ⟨answer, tr', rfl, hret⟩ := runs_call_iff.1 h
    obtain ⟨rfl, rfl⟩ := runs_ret_iff.1 hret
    refine ⟨?_, ?_⟩
    · intro e he
      rw [List.mem_singleton.1 he]
      exact ⟨destination, artifact, hdestination, rfl⟩
    · rintro rfl
      exact ⟨destination, artifact, List.mem_singleton.2 rfl⟩

/-- Nor does the end of a run. -/
lemma finish_runs {artifact : LivePostSmokeArtifact} {tr : LivePostTrace}
    {r : Option LivePostSmokeArtifact} (h : Runs (args.finish artifact) tr r) :
    (∀ e ∈ tr, IsWrite args e.1) ∧ ∀ a, r = some a → a = artifact := by
  obtain ⟨tr₁, tr₂, written, rfl, hwrite, hret⟩ := runs_bind_iff.1 h
  obtain ⟨rfl, rfl⟩ := runs_pure_iff.1 hret
  rw [List.append_nil]
  refine ⟨(writeArtifact_runs hwrite).1, ?_⟩
  intro a ha
  split at ha
  · exact (Option.some.inj ha).symm
  · contradiction

/-- The artifact of a run is the one of the flow, unless the flow raises or the artifact cannot be
written. -/
lemma handleFlow_runs {o : Opened} {outcome : Except LivePostExit LivePostSmokeArtifact}
    {tr : LivePostTrace} {r : Option LivePostSmokeArtifact}
    (h : Runs (args.handleFlow o outcome) tr r) :
    (∀ e ∈ tr, IsWrite args e.1) ∧ ∀ artifact, r = some artifact → outcome = .ok artifact ∨
      outcome = .error (.finished artifact) ∨
      (artifact.status = "fail_closed" ∧ ∃ reasonCode,
        outcome = .error (.commandError reasonCode)) ∨
      (artifact.status = "blocked" ∧ (outcome = .error .raised ∨ FailsToWrite tr)) := by
  have hinside : ∀ {artifact : LivePostSmokeArtifact} {tr : LivePostTrace},
      Runs (args.writeArtifact artifact >>= fun written => if written then pure (some artifact)
        else args.finish (blockedArtifact "live_post_failed" (some o.ref.dict))) tr r →
      (∀ e ∈ tr, IsWrite args e.1) ∧ ∀ a, r = some a → a = artifact ∨
        (a.status = "blocked" ∧ FailsToWrite tr) := by
    intro artifact tr hrun
    obtain ⟨tr₁, tr₂, written, rfl, hwrite, hrest⟩ := runs_bind_iff.1 hrun
    obtain ⟨hwrites, hfails⟩ := writeArtifact_runs hwrite
    cases written with
    | true =>
      obtain ⟨rfl, rfl⟩ := runs_pure_iff.1 hrest
      rw [List.append_nil]
      exact ⟨hwrites, fun a ha => .inl (Option.some.inj ha).symm⟩
    | false =>
      obtain ⟨hfinish, hresult⟩ := finish_runs hrest
      refine ⟨List.forall_mem_append.2 ⟨hwrites, hfinish⟩, fun a ha => .inr ⟨?_, ?_⟩⟩
      · rw [hresult a ha]
        rfl
      · obtain ⟨destination, a', hmem⟩ := hfails rfl
        exact ⟨destination, a', List.mem_append_left _ hmem⟩
  cases outcome with
  | ok artifact =>
    obtain ⟨hwrites, hresult⟩ := hinside h
    refine ⟨hwrites, fun a ha => ?_⟩
    rcases hresult a ha with rfl | ⟨hstatus, hfails⟩
    · exact .inl rfl
    · exact .inr (.inr (.inr ⟨hstatus, .inr hfails⟩))
  | error exit =>
    cases exit with
    | finished artifact =>
      obtain ⟨hwrites, hresult⟩ := hinside h
      refine ⟨hwrites, fun a ha => ?_⟩
      rcases hresult a ha with rfl | ⟨hstatus, hfails⟩
      · exact .inr (.inl rfl)
      · exact .inr (.inr (.inr ⟨hstatus, .inr hfails⟩))
    | commandError reasonCode =>
      obtain ⟨hwrites, hresult⟩ := finish_runs h
      refine ⟨hwrites, fun a ha => .inr (.inr (.inl ⟨?_, reasonCode, rfl⟩))⟩
      rw [hresult a ha]
      rfl
    | raised =>
      obtain ⟨hwrites, hresult⟩ := finish_runs h
      refine ⟨hwrites, fun a ha => .inr (.inr (.inr ⟨?_, .inl rfl⟩))⟩
      rw [hresult a ha]
      rfl

/-- A run that ends before the flow starts to read. -/
structure EndsEarly (rt : PythonRuntime) (args : LivePostArguments) (tr : LivePostTrace)
    (r : Option LivePostSmokeArtifact) : Prop where
  calls : (∀ e ∈ tr, e.1 = .which ∨ IsWrite args e.1) ∨
    (∃ ref, Permitted rt args ref) ∧ ∀ e ∈ tr, Reads args (FindsGh args tr) e.1 ∨ IsWrite args e.1
  blocked : ∀ artifact, r = some artifact → artifact.status = "blocked"

/-- A run ends early, or goes through the opening, the flow and its handlers. -/
lemma runLivePostFlow_cases {tr : LivePostTrace} {r : Option LivePostSmokeArtifact}
    (hrun : Runs (args.runLivePostFlow rt) tr r) : EndsEarly rt args tr r ∨
      ∃ (o : Opened) (outcome : Except LivePostExit LivePostSmokeArtifact)
        (t₁ t₂ t₃ : LivePostTrace),
        tr = t₁ ++ (t₂ ++ t₃) ∧ Permitted rt args o.ref ∧ Opens rt args t₁ o ∧
        (∀ e ∈ t₁, Reads args (FindsGh args t₁) e.1) ∧
        Runs (args.flow rt o).run t₂ outcome ∧ Runs (args.handleFlow o outcome) t₃ r := by
  obtain ⟨t₁, t₂, opened, rfl, hopening, hrest⟩ := runs_bind_iff.1 hrun
  obtain ⟨hcalls, hraises, hopened⟩ := opening_runs hopening
  have hearly : ∀ {t : LivePostTrace}, (∀ e ∈ t, IsWrite args e.1) →
      (∀ e ∈ t₁ ++ t, e.1 = .which ∨ IsWrite args e.1) ∨
        (∃ ref, Permitted rt args ref) ∧ ∀ e ∈ t₁ ++ t, Reads args (FindsGh args (t₁ ++ t)) e.1 ∨
          IsWrite args e.1 := by
    intro t hwrites
    refine hcalls.imp (fun hwhich => ?_) fun ⟨hpermitted, hreads⟩ => ⟨hpermitted, ?_⟩
    · exact List.forall_mem_append.2 ⟨fun e he => .inl (hwhich e he), fun e he =>
        .inr (hwrites e he)⟩
    · refine List.forall_mem_append.2 ⟨fun e he => .inl ?_, fun e he => .inr (hwrites e he)⟩
      exact (hreads e he).mono fun gh => FindsGh.mono (List.subset_append_left _ _)
  cases opened with
  | ok o =>
    obtain ⟨t₂, t₃, outcome, rfl, hflow, hhandle⟩ := runs_bind_iff.1 hrest
    obtain ⟨hpermitted, hopens, hreads⟩ := hopened o rfl
    exact .inr ⟨o, outcome, t₁, t₂, t₃, rfl, hpermitted, hopens, hreads, hflow, hhandle⟩
  | error exit =>
    cases exit with
    | finished artifact =>
      obtain ⟨hwrites, hresult⟩ := finish_runs hrest
      refine .inl ⟨hearly hwrites, fun a ha => ?_⟩
      rw [hresult a ha]
      exact hraises _ rfl
    | commandError reasonCode =>
      obtain ⟨rfl, rfl⟩ := runs_pure_iff.1 hrest
      exact .inl ⟨hearly (by simp), by rintro a ⟨⟩⟩
    | raised =>
      obtain ⟨rfl, rfl⟩ := runs_pure_iff.1 hrest
      exact .inl ⟨hearly (by simp), by rintro a ⟨⟩⟩

end LivePostArguments

end ReviewGraph
