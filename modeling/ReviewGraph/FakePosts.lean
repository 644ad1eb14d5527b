import ReviewGraph.Finalization
import ReviewGraph.PayloadRoundTrip

/-!
# Posts to a fake writer

`FakeIssueCommentWriter` of `writer_fake.py` and the attempts to post of `post_mode_harness.py`: an
attempt finalizes a payload, reconciles its marker with the comments of the writer, and posts only a
payload that is released.  The writer posts only as its own author, whom the scan then trusts, so
that a review is never posted twice.
-/

namespace ReviewGraph

open Interaction

/-! ## The writer -/

/-- `FakeIssueComment`. -/
structure FakeIssueComment where
  commentId : Text
  body : Text
  authorLogin : Text
  authorType : Text := "Bot"
  deriving DecidableEq

/-- `FakeIssueCommentWriter`. -/
structure FakeIssueCommentWriter where
  authorLogin : Text
  requestId : Text
  callCount : ℕ
  comments : List FakeIssueComment
  authorLogin_ne_nil : authorLogin ≠ []

namespace FakeIssueCommentWriter

/-- The comment as a scan sees it. -/
def paginated (comment : FakeIssueComment) : PaginatedMarkerComment where
  commentId := comment.commentId
  body := comment.body
  authorLogin := comment.authorLogin
  authorType := comment.authorType
  sourceProvider := "github"
  authorAssociation := none

/-- `get_issue_comments_page`. -/
def getIssueCommentsPage (w : FakeIssueCommentWriter) (fetch : MarkerFetch) : FetchOutcome :=
  if fetch.cursor ≠ .absent then .page ⟨[], .absent, true, some w.requestId⟩
  else
    match w.comments.mapM fun comment => construct (paginated comment) with
    | .error _ => .raised
    | .ok comments => .page ⟨comments, .absent, true, some w.requestId⟩

/-- The writer with one more comment. -/
def append (w : FakeIssueCommentWriter) (body : Text) : FakeIssueCommentWriter :=
  { w with
    callCount := w.callCount + 1
    comments := w.comments ++ [{
      commentId := "fake-comment-" ++ Text.ofNat (w.comments.length + 1)
      body
      authorLogin := w.authorLogin }] }

/-- `post_issue_comment`; the comment stays if the result cannot be built. -/
def postIssueComment (w : FakeIssueCommentWriter) (input : FinalizedIssueCommentWriterInput) :
    Result (Checked GitHubWriterResult) × FakeIssueCommentWriter :=
  if w.authorLogin ≠ input.approvedActor then
    (construct {
      status := .failed
      artifactKind := .issueComment
      targetHash := input.targetHash
      payloadHash := input.finalPayloadHash
      commentId := none
      error := some "approved_actor_mismatch" }, w)
  else
    match validateFinalIssueCommentPayload (some input.finalPayload) with
    | .error e => (.error e, w)
    | .ok validation =>
      if validation.val.status ≠ .pass then
        (construct {
          status := .failed
          artifactKind := .issueComment
          targetHash := input.targetHash
          payloadHash := input.finalPayloadHash
          commentId := none
          error := some (validation.val.reasonCode.elim "payload_validation_failed"
            PayloadValidationReasonCode.value) }, w)
      else
        (construct {
          status := .posted
          artifactKind := .issueComment
          targetHash := input.targetHash
          payloadHash := input.finalPayloadHash
          commentId := some ("fake-comment-" ++ Text.ofNat (w.comments.length + 1))
          error := none }, w.append input.finalPayload.val.body)

end FakeIssueCommentWriter

/-! ## Attempts -/

/-- An attempt to post: the approval, the outcomes of the checks of the finalization, unless they
raise, the builder of the payload, and the arguments of the scan. -/
structure PostAttempt where
  approval : Checked ApprovalDecision
  checks : Result FinalizationChecks
  finalPayloadBuilder : Option (Result (Checked FinalIssueCommentPayload))
  target : Checked ReviewTarget
  trustedBotAuthors : List Text
  trustedBotAuthors_ne_nil : ∀ author ∈ trustedBotAuthors, author ≠ []
  limits : Option (Checked MarkerScanLimits)
  runId : Text

namespace PostAttempt

variable (attempt : PostAttempt)

/-- The scan for the marker of a payload. -/
def scanArguments (payload : FinalIssueCommentPayload) : MarkerScanArguments where
  ownerRepo := attempt.target.val.ownerRepo
  prNumber := attempt.target.val.prNumber
  approvedActor := attempt.approval.val.approvedGithubActor
  trustedBotAuthors := attempt.trustedBotAuthors
  expectedTargetHash := payload.markerTargetHash
  expectedPayloadHash := payload.markerPayloadHash
  expectedFindingsHash := payload.markerFindingsHash
  limits := attempt.limits

/-- The marker reconciler over the comments of a writer. -/
def markerReconciler (w : FakeIssueCommentWriter) (payload : Checked FinalIssueCommentPayload) :
    Result (Checked BoundMarkerReconciliationResult) := do
  let result ← (reconcilePaginatedTrustedMarkers (attempt.scanArguments payload.val)).answer
    w.getIssueCommentsPage
  construct {
    result
    expectedTargetHash := payload.val.markerTargetHash
    expectedPayloadHash := payload.val.markerPayloadHash
    expectedFindingsHash := payload.val.markerFindingsHash }

/-- `_post_or_emit`. -/
def postOrEmit (finalization : FinalizeGithubPayloadResult) (w : FakeIssueCommentWriter) :
    Result (Option (Checked GitHubWriterResult)) × FakeIssueCommentWriter :=
  match finalization.markerReconciliation with
  | none => (.ok none, w)
  | some marker =>
    if marker.val.status = .reconciledExisting ∧
        finalization.finalizationStatus.val.state = .notReady ∧
        finalization.finalizationStatus.val.reasonCode = some .markerReconciledExisting ∧
        finalization.writerInputReleased = false ∧ finalization.finalPayload = none then
      ((construct {
        status := .reconciled
        artifactKind := .issueComment
        targetHash := attempt.approval.val.approvedReviewTargetHash
        payloadHash := attempt.approval.val.approvedFinalPayloadHash
        commentId := marker.val.existingCommentId
        error := none }).map some, w)
    else if finalization.finalizationStatus.val.state ≠ .finalized ∨
        marker.val.status ≠ .safeToPost ∨ finalization.writerInputReleased = false ∨
        finalization.finalPayload = none then (.ok none, w)
    else
      match buildFinalizedIssueCommentWriterInput finalization attempt.approval.val
        attempt.runId with
      | .error e => (.error e, w)
      | .ok input =>
        let (res, w) := w.postIssueComment input.val
        (res.map some, w)

/-- The attempt: what it returns, and the writer after it. -/
def run (w : FakeIssueCommentWriter) :
    Result (Option (Checked GitHubWriterResult)) × FakeIssueCommentWriter :=
  match attempt.checks with
  | .error e => (.error e, w)
  | .ok checks =>
    match finalizeGithubPayload attempt.approval.val checks attempt.finalPayloadBuilder
        (some (attempt.markerReconciler w)) with
    | .error e => (.error e, w)
    | .ok finalization => attempt.postOrEmit finalization w

end PostAttempt

/-! ## What finalization releases -/

/-- A payload is only part of a result if its scan found that it is safe to post. -/
lemma finalizeGithubPayload_payload {approval : ApprovalDecision} {checks : FinalizationChecks}
    {builder : Option (Result (Checked FinalIssueCommentPayload))}
    {markerReconciler :
      Checked FinalIssueCommentPayload → Result (Checked BoundMarkerReconciliationResult)}
    {f : FinalizeGithubPayloadResult} {payload : Checked FinalIssueCommentPayload}
    (h : finalizeGithubPayload approval checks builder (some markerReconciler) = .ok f)
    (hpayload : f.finalPayload = some payload) :
    ∃ bound, markerReconciler payload = .ok bound ∧ bound.val.result.val.status = .safeToPost := by
  unfold finalizeGithubPayload at h
  split at h
  · obtain ⟨status, -, h⟩ := bind_eq_ok.1 h
    obtain rfl := pure_eq_ok.1 h
    contradiction
  split at h
  · obtain ⟨status, -, h⟩ := bind_eq_ok.1 h
    obtain rfl := pure_eq_ok.1 h
    contradiction
  split at h
  · obtain ⟨status, -, h⟩ := bind_eq_ok.1 h
    obtain rfl := pure_eq_ok.1 h
    contradiction
  split at h
  · obtain ⟨status, -, h⟩ := bind_eq_ok.1 h
    obtain rfl := pure_eq_ok.1 h
    contradiction
  obtain ⟨built, -, h⟩ := bind_eq_ok.1 h
  split at h
  · obtain ⟨status, -, h⟩ := bind_eq_ok.1 h
    obtain rfl := pure_eq_ok.1 h
    contradiction
  unfold finalizeBuiltPayload at h
  obtain ⟨validation, -, h⟩ := bind_eq_ok.1 h
  split at h
  · obtain ⟨status, -, h⟩ := bind_eq_ok.1 h
    obtain rfl := pure_eq_ok.1 h
    contradiction
  obtain ⟨bound, hbound, h⟩ := bind_eq_ok.1 h
  dsimp only at h
  split at h
  · obtain ⟨status, -, h⟩ := bind_eq_ok.1 h
    obtain rfl := pure_eq_ok.1 h
    contradiction
  split at h
  · rename_i hsafe
    obtain ⟨status, -, h⟩ := bind_eq_ok.1 h
    obtain rfl := pure_eq_ok.1 h
    obtain rfl := Option.some.inj hpayload
    exact ⟨bound, hbound, hsafe⟩
  · obtain ⟨status, -, h⟩ := bind_eq_ok.1 h
    obtain rfl := pure_eq_ok.1 h
    contradiction
  · obtain ⟨status, -, h⟩ := bind_eq_ok.1 h
    obtain rfl := pure_eq_ok.1 h
    contradiction

/-- A writer input is built for the payload of a result and the actor of the approval. -/
lemma buildFinalizedIssueCommentWriterInput_ok {f : FinalizeGithubPayloadResult}
    {approval : ApprovalDecision} {runId : Text} {input : Checked FinalizedIssueCommentWriterInput}
    (h : buildFinalizedIssueCommentWriterInput f approval runId = .ok input) :
    f.finalPayload = some input.val.finalPayload ∧
      input.val.approvedActor = approval.approvedGithubActor := by
  unfold buildFinalizedIssueCommentWriterInput at h
  simp only [check_bind_eq_ok, require_eq_ok] at h
  obtain ⟨-, -, -, h⟩ := h
  split at h
  · contradiction
  rename_i payload hpayload
  simp only [check_bind_eq_ok, require_eq_ok] at h
  obtain ⟨-, -, -, h⟩ := h
  split at h
  · contradiction
  simp only [check_bind_eq_ok, require_eq_ok] at h
  obtain ⟨-, -, -, -, -, -, -, h⟩ := h
  have hval := construct_eq_ok.1 h
  rw [hval]
  exact ⟨hpayload, rfl⟩

/-! ## Scans of one page -/

/-- A scan whose first page ends the chain gives the verdict on its comments, unless they are too
many. -/
lemma answer_reconcile {args : MarkerScanArguments} (hargs : args.check = .ok ())
    {page : MarkerCommentPage} (hends : page.Ends) {f : MarkerFetch → FetchOutcome}
    (hf : f (args.fetch .initial) = .page page) :
    ∃ r, (reconcilePaginatedTrustedMarkers args).answer f = .ok r ∧
      ((page.comments.length ≤ args.scanLimits.maxComments ∧ args.Verdict page.comments r.val) ∨
        (args.scanLimits.maxComments < page.comments.length ∧ r.val.status = .failedClosed)) := by
  have hpages : 0 < args.scanLimits.maxPages := by
    have hlimits := (args.limits.getD MarkerScanLimits.default).property
    simp only [Record.postInit, check_bind_eq_ok, require_eq_ok] at hlimits
    exact hlimits.1
  have hrun : Runs (reconcilePaginatedTrustedMarkers args) [⟨args.fetch .initial, .page page⟩]
      ((reconcilePaginatedTrustedMarkers args).answer f) := by
    rw [MarkerScanArguments.reconcile_eq_scan hargs]
    obtain ⟨remaining, hremaining⟩ := Nat.exists_eq_succ_of_ne_zero hpages.ne'
    rw [hremaining, MarkerScanArguments.scan, Prog.answer, hf]
    refine .call _ ?_
    dsimp only
    split
    · exact .ret _
    · rw [if_pos hends.1]
      exact .ret _
  have hchain : [⟨args.fetch .initial, .page page⟩] = args.chainEvents .absent [page] := rfl
  have hcomments : chainComments [page] = page.comments := by simp [chainComments]
  obtain ⟨r, hr, -, hclass⟩ := MarkerScanArguments.reconcile_runs hargs hrun
  refine ⟨r, hr, ?_⟩
  rcases hclass with ⟨pages, hcompletes, hverdict⟩ | ⟨hfailed, hno⟩
  · have hpage : pages = [page] :=
      args.chainEvents_injective .absent (hcompletes.1.symm.trans hchain)
    rw [hpage, hcomments] at hverdict
    have hcap := hcompletes.2.commentCap
    rw [hpage, hcomments] at hcap
    exact .inl ⟨hcap, hverdict⟩
  · refine .inr ⟨?_, hfailed⟩
    by_contra hcap
    refine hno [page] ⟨hchain, ⟨[], page, rfl, by simp, hends⟩, by simp, ?_, ?_⟩
    · exact hpages
    · rw [hcomments]
      exact not_lt.1 hcap

/-! ## Stores -/

namespace FakeIssueCommentWriter

/-- What holds of the comments of a writer between attempts. -/
structure Clean (w : FakeIssueCommentWriter) : Prop where
  /-- The writer is the author, and the comments pass the checks of a page. -/
  own : ∀ c ∈ w.comments, c.authorLogin = w.authorLogin ∧ c.authorType = "Bot" ∧
    c.commentId ≠ [] ∧ c.body ≠ []
  /-- Every comment ends with a marker. -/
  marked : ∀ c ∈ w.comments, (scanFinalLineMarker c.body).isSome = true
  /-- No two comments are for the same target and findings. -/
  distinct : w.comments.Pairwise fun c c' => ∀ m ∈ scanFinalLineMarker c.body,
    ∀ m' ∈ scanFinalLineMarker c'.body, ¬ (m.target = m'.target ∧ m.findings = m'.findings)

/-- The page of a clean writer has its comments. -/
lemma getIssueCommentsPage_of_clean {w : FakeIssueCommentWriter} (h : w.Clean) {fetch : MarkerFetch}
    (hcursor : fetch.cursor = .absent) :
    ∃ comments : List (Checked PaginatedMarkerComment),
      (comments.map fun c => c.val) = w.comments.map paginated ∧
      w.getIssueCommentsPage fetch = .page ⟨comments, .absent, true, some w.requestId⟩ := by
  have hbuilt : ∀ cs : List FakeIssueComment, (∀ c ∈ cs, c.commentId ≠ [] ∧ c.body ≠ []) →
      ∃ comments : List (Checked PaginatedMarkerComment),
        cs.mapM (fun c => construct (paginated c)) = .ok comments ∧
        (comments.map fun c => c.val) = cs.map paginated := by
    intro cs hcs
    induction cs with
    | nil => exact ⟨[], rfl, rfl⟩
    | cons c cs ih =>
      obtain ⟨comments, hmap, hval⟩ := ih fun c hc => hcs c (List.mem_cons_of_mem _ hc)
      obtain ⟨hid, hbody⟩ := hcs c List.mem_cons_self
      have hcheck : Record.postInit (paginated c) = .ok () := by
        simp only [Record.postInit, check_bind_eq_ok, require_eq_ok]
        exact ⟨hid, hbody, by simp [paginated], by simp [paginated]⟩
      refine ⟨⟨_, hcheck⟩ :: comments, ?_, ?_⟩
      · rw [List.mapM_cons, construct_of_postInit hcheck, ok_bind, hmap]
        rfl
      · rw [List.map_cons, List.map_cons, hval]
  obtain ⟨comments, hmap, hval⟩ := hbuilt w.comments fun c hc =>
    ⟨(h.own c hc).2.2.1, (h.own c hc).2.2.2⟩
  refine ⟨comments, hval, ?_⟩
  unfold getIssueCommentsPage
  rw [if_neg (by simp [hcursor]), hmap]

/-- A scan for the author of the writer trusts all its comments. -/
lemma trusts_of_clean {w : FakeIssueCommentWriter} (h : w.Clean) {args : MarkerScanArguments}
    (hactor : args.approvedActor = w.authorLogin) {c : FakeIssueComment} (hc : c ∈ w.comments) :
    args.trusts (paginated c) = true := by
  obtain ⟨hlogin, htype, -, -⟩ := h.own c hc
  have hbot : ("Bot" : Text).casefold = "bot" := by decide +kernel
  have hne : ("Bot" : Text) ≠ [] := by simp
  unfold MarkerScanArguments.trusts isTrustedMarkerAuthor paginated
  simp [hlogin, htype, hbot, hactor, w.authorLogin_ne_nil]

/-- A valid payload ends with its marker. -/
lemma scanFinalLineMarker_of_valid {p : Checked FinalIssueCommentPayload}
    (h : ValidFinalPayload p.val) : scanFinalLineMarker p.val.body = some p.val.marker := by
  have hbody : p.val.body ≠ [] := (FinalIssueCommentPayload.postInit_eq_ok.1 p.property).1
  unfold scanFinalLineMarker
  rw [bodyFinalLine_eq_some hbody, Option.bind_some, h.finalLine, h.markerLine]
  exact parse_eq_some_iff.2 ⟨rfl, h.wellFormed⟩

/-- A post leaves the writer as it was, or adds a valid payload that was approved for its author. -/
lemma postIssueComment_cases (w : FakeIssueCommentWriter)
    (input : FinalizedIssueCommentWriterInput) :
    (w.postIssueComment input).2 = w ∨
      input.approvedActor = w.authorLogin ∧ ValidFinalPayload input.finalPayload.val ∧
        (w.postIssueComment input).2 = w.append input.finalPayload.val.body := by
  obtain ⟨validation, hvalidation, hpass, -⟩ :=
      validateFinalIssueCommentPayload_ok input.finalPayload
  unfold postIssueComment
  by_cases hactor : w.authorLogin ≠ input.approvedActor
  · rw [if_pos hactor]
    exact .inl rfl
  · rw [if_neg hactor, hvalidation]
    dsimp only
    by_cases hstatus : validation.val.status ≠ .pass
    · rw [if_pos hstatus]
      exact .inl rfl
    · rw [if_neg hstatus]
      exact .inr ⟨(not_not.1 hactor).symm, hpass.1 (not_not.1 hstatus), rfl⟩

end FakeIssueCommentWriter

namespace PostAttempt

open FakeIssueCommentWriter

variable {attempt : PostAttempt} {w : FakeIssueCommentWriter}

/-- What the reconciler found out for a payload. -/
lemma markerReconciler_ok {payload : Checked FinalIssueCommentPayload}
    {bound : Checked BoundMarkerReconciliationResult} (hclean : w.Clean)
    (h : attempt.markerReconciler w payload = .ok bound) :
    ∃ comments : List (Checked PaginatedMarkerComment),
      (comments.map fun c => c.val) = w.comments.map paginated ∧
      ((comments.length ≤ (attempt.scanArguments payload.val).scanLimits.maxComments ∧
          (attempt.scanArguments payload.val).Verdict comments bound.val.result.val) ∨
        ((attempt.scanArguments payload.val).scanLimits.maxComments < comments.length ∧
          bound.val.result.val.status = .failedClosed)) := by
  obtain ⟨result, hresult, hbound⟩ := bind_eq_ok.1 h
  have hval := construct_eq_ok.1 hbound
  cases hargs : (attempt.scanArguments payload.val).check with
  | error e =>
    unfold reconcilePaginatedTrustedMarkers at hresult
    rw [hargs] at hresult
    contradiction
  | ok _ =>
    obtain ⟨comments, hcomments, hpage⟩ := getIssueCommentsPage_of_clean hclean
      (show ((attempt.scanArguments payload.val).fetch .initial).cursor = .absent from rfl)
    obtain ⟨r, hr, hclass⟩ := answer_reconcile hargs ⟨rfl, rfl⟩ hpage
    rw [hresult] at hr
    obtain rfl := Except.ok.inj hr
    rw [hval]
    exact ⟨comments, hcomments, hclass⟩

/-- An attempt leaves the writer as it was, or adds a valid payload that was approved for its author
and that is safe to post. -/
lemma run_cases (attempt : PostAttempt) (w : FakeIssueCommentWriter) :
    (attempt.run w).2 = w ∨ ∃ payload bound, ValidFinalPayload payload.val ∧
      attempt.approval.val.approvedGithubActor = w.authorLogin ∧
      attempt.markerReconciler w payload = .ok bound ∧
      bound.val.result.val.status = .safeToPost ∧
      (attempt.run w).2 = w.append payload.val.body := by
  unfold run
  split
  · exact .inl rfl
  split
  · exact .inl rfl
  rename_i finalization hfinalize
  unfold postOrEmit
  split
  · exact .inl rfl
  split
  · exact .inl rfl
  split
  · exact .inl rfl
  split
  · exact .inl rfl
  rename_i input hinput
  obtain ⟨hpayload, hactor⟩ := buildFinalizedIssueCommentWriterInput_ok hinput
  obtain ⟨bound, hbound, hsafe⟩ := finalizeGithubPayload_payload hfinalize hpayload
  rcases w.postIssueComment_cases input.val with hsame | ⟨hauthor, hvalid, hposted⟩
  · exact .inl hsame
  · exact .inr ⟨input.val.finalPayload, bound, hvalid, hactor.symm.trans hauthor, hbound, hsafe,
      hposted⟩

/-- An attempt keeps the writer clean. -/
lemma clean_run (attempt : PostAttempt) (hclean : w.Clean) : (attempt.run w).2.Clean := by
  rcases attempt.run_cases w with hsame | ⟨payload, bound, hvalid, hactor, hbound, hsafe, hposted⟩
  · rw [hsame]
    exact hclean
  rw [hposted]
  have hmarker := scanFinalLineMarker_of_valid hvalid
  obtain ⟨comments, hcomments, ⟨-, hverdict⟩ | ⟨-, hfailed⟩⟩ := markerReconciler_ok hclean hbound
  · have hnew : ∀ c ∈ w.comments, ¬ (attempt.scanArguments payload.val).SameReview
        (paginated c) := by
      intro c hc
      have hmem : paginated c ∈ comments.map fun c => c.val := by
        rw [hcomments]
        exact List.mem_map_of_mem hc
      obtain ⟨checked, hchecked, heq⟩ := List.mem_map.1 hmem
      have htrusted : (attempt.scanArguments payload.val).trusts (paginated c) = true :=
        trusts_of_clean hclean hactor hc
      rw [← heq] at htrusted ⊢
      exact (hverdict.safe.1 hsafe checked hchecked htrusted).2
    refine ⟨?_, ?_, ?_⟩
    · intro c hc
      rcases List.mem_append.1 hc with hc | hc
      · exact hclean.own c hc
      · rw [List.mem_singleton.1 hc]
        exact ⟨rfl, rfl, by simp, (FinalIssueCommentPayload.postInit_eq_ok.1 payload.property).1⟩
    · intro c hc
      rcases List.mem_append.1 hc with hc | hc
      · exact hclean.marked c hc
      · rw [List.mem_singleton.1 hc]
        dsimp only
        rw [hmarker]
        rfl
    · refine List.pairwise_append.2 ⟨hclean.distinct, List.pairwise_singleton _ _, ?_⟩
      intro c hc c' hc' m hm m' hm'
      rw [List.mem_singleton.1 hc'] at hm'
      dsimp only at hm'
      rw [hmarker] at hm'
      obtain rfl := Option.some.inj hm'
      rintro ⟨htarget, hfindings⟩
      exact hnew c hc ⟨m, hm, htarget, hfindings⟩
  · rw [hfailed] at hsafe
    contradiction

/-! ## Attempts for a review that is posted -/

/-- The attempt passes everything before the scan, with a payload that was approved for the author
of the writer, and the writer is within the comment cap of the scan. -/
structure ReachesScan (attempt : PostAttempt) (w : FakeIssueCommentWriter)
    (payload : Checked FinalIssueCommentPayload) : Prop where
  checks : ∃ checks, attempt.checks = .ok checks ∧ checks.approvalPreflight = none ∧
    checks.actorCheck.val.status = .pass ∧ checks.targetCheck.val.status = .pass
  builder : attempt.finalPayloadBuilder = some (.ok payload)
  approved : payload.val.finalPayloadHash = attempt.approval.val.approvedFinalPayloadHash
  valid : ValidFinalPayload payload.val
  actor : attempt.approval.val.approvedGithubActor = w.authorLogin
  cap : w.comments.length ≤ (attempt.scanArguments payload.val).scanLimits.maxComments

/-- A comment of the writer ends with the marker of the payload, whatever its run is. -/
def Posted (payload : FinalIssueCommentPayload) (c : FakeIssueComment) : Prop :=
  ∃ m ∈ scanFinalLineMarker c.body, m.target = payload.markerTargetHash ∧
    m.payload = payload.markerPayloadHash ∧ m.findings = payload.markerFindingsHash

/-- The arguments of the scan of an attempt are valid. -/
lemma scanArguments_check {payload : Checked FinalIssueCommentPayload}
    (h : attempt.ReachesScan w payload) : (attempt.scanArguments payload.val).check = .ok () := by
  obtain ⟨howner, hnumber, -⟩ := ReviewTarget.postInit_eq_ok.1 attempt.target.property
  have hwf := h.valid.wellFormed
  have hne : ∀ {t : Text}, IsStrictSha256 t → t ≠ [] := by
    rintro t ⟨digits, rfl, -⟩
    simp [hashPrefix_eq]
  simp only [MarkerScanArguments.check, check_bind_eq_ok, require_eq_ok]
  refine ⟨List.ne_nil_of_mem howner, hnumber, ?_, hne hwf.target, hwf.target, hne hwf.payload,
    hwf.payload, hne hwf.findings, hwf.findings, attempt.trustedBotAuthors_ne_nil⟩
  show attempt.approval.val.approvedGithubActor ≠ []
  rw [h.actor]
  exact w.authorLogin_ne_nil

/-- Two comments of a clean writer for one review are the same. -/
lemma eq_of_sameReview (hclean : w.Clean) {c c' : FakeIssueComment} (hc : c ∈ w.comments)
    (hc' : c' ∈ w.comments) {m m' : MarkerFields} (hm : m ∈ scanFinalLineMarker c.body)
    (hm' : m' ∈ scanFinalLineMarker c'.body) (htarget : m.target = m'.target)
    (hfindings : m.findings = m'.findings) : c = c' := by
  by_contra hne
  have hsymm : Std.Symm fun c c' : FakeIssueComment => ∀ m ∈ scanFinalLineMarker c.body,
      ∀ m' ∈ scanFinalLineMarker c'.body, ¬ (m.target = m'.target ∧ m.findings = m'.findings) := by
    constructor
    intro a b hab m hm m' hm' hsame
    exact hab m' hm' m hm ⟨hsame.1.symm, hsame.2.symm⟩
  exact hclean.distinct.forall hc hc' hne m hm m' hm' ⟨htarget, hfindings⟩

/-- The reconciler finds the comment. -/
lemma markerReconciler_of_posted (hclean : w.Clean) {payload : Checked FinalIssueCommentPayload}
    (h : attempt.ReachesScan w payload) {c : FakeIssueComment} (hc : c ∈ w.comments)
    (hposted : Posted payload.val c) :
    ∃ bound, attempt.markerReconciler w payload = .ok bound ∧
      bound.val.result.val.status = .reconciledExisting ∧
      bound.val.result.val.existingCommentId = some c.commentId ∧
      bound.val.expectedTargetHash = payload.val.markerTargetHash ∧
      bound.val.expectedPayloadHash = payload.val.markerPayloadHash ∧
      bound.val.expectedFindingsHash = payload.val.markerFindingsHash := by
  obtain ⟨m, hm, htarget, hpayload, hfindings⟩ := hposted
  have hargs := scanArguments_check h
  obtain ⟨comments, hcomments, hpage⟩ := getIssueCommentsPage_of_clean hclean
    (show ((attempt.scanArguments payload.val).fetch .initial).cursor = .absent from rfl)
  obtain ⟨r, hr, hclass⟩ := answer_reconcile hargs ⟨rfl, rfl⟩ hpage
  have hlength : comments.length = w.comments.length := by
    have hlength := congrArg List.length hcomments
    rwa [List.length_map, List.length_map] at hlength
  have hcomment : ∀ checked ∈ comments, ∃ c' ∈ w.comments, checked.val = paginated c' := by
    intro checked hchecked
    have hmem : checked.val ∈ w.comments.map paginated := by
      rw [← hcomments]
      exact List.mem_map_of_mem hchecked
    obtain ⟨c', hc', heq⟩ := List.mem_map.1 hmem
    exact ⟨c', hc', heq.symm⟩
  rcases hclass with ⟨-, hverdict⟩ | ⟨hcap, -⟩
  · have hreconciled : r.val.status = .reconciledExisting := by
      rw [hverdict.reconciled]
      constructor
      · have hmem : paginated c ∈ comments.map fun c => c.val := by
          rw [hcomments]
          exact List.mem_map_of_mem hc
        obtain ⟨checked, hchecked, heq⟩ := List.mem_map.1 hmem
        refine ⟨checked, hchecked, ?_, ?_⟩
        · rw [heq]
          exact trusts_of_clean hclean h.actor hc
        · rw [heq]
          exact ⟨m, hm, htarget, hpayload, hfindings⟩
      · intro checked hchecked _
        obtain ⟨c', hc', heq⟩ := hcomment checked hchecked
        rw [heq]
        constructor
        · rintro ⟨hnone, -⟩
          have hmarked := hclean.marked c' hc'
          rw [show scanFinalLineMarker c'.body = none from hnone] at hmarked
          contradiction
        · rintro ⟨m', hm', htarget', hpayload', hfindings'⟩
          obtain rfl := eq_of_sameReview hclean hc hc' hm hm' (htarget.trans htarget'.symm)
            (hfindings.trans hfindings'.symm)
          have hsame : m = m' := Option.some.inj (hm.symm.trans hm')
          rw [← hsame] at hpayload'
          exact hpayload' hpayload
    obtain ⟨first, rest, hmatching, hexisting, -⟩ := hverdict.existing hreconciled
    have hfirst : r.val.existingCommentId = some c.commentId := by
      have hmem : first ∈ (attempt.scanArguments payload.val).matching comments := by
        rw [hmatching]
        exact List.mem_cons_self
      obtain ⟨hfirstMem, hmatches⟩ := List.mem_filter.1 hmem
      obtain ⟨-, m', hm', htarget', -, hfindings'⟩ := of_decide_eq_true hmatches
      obtain ⟨c', hc', heq⟩ := hcomment first hfirstMem
      rw [heq] at hm'
      obtain rfl := eq_of_sameReview hclean hc hc' hm hm' (htarget.trans htarget'.symm)
        (hfindings.trans hfindings'.symm)
      rw [hexisting, heq]
      rfl
    obtain ⟨-, -, -, htargetHash, hpayloadHash, hfindingsHash, -⟩ :=
      FinalIssueCommentPayload.postInit_eq_ok.1 payload.property
    have hbound : Record.postInit (⟨r, payload.val.markerTargetHash, payload.val.markerPayloadHash,
        payload.val.markerFindingsHash⟩ : BoundMarkerReconciliationResult) = .ok () := by
      simp only [Record.postInit, check_bind_eq_ok, require_eq_ok, Text.startsWith_iff]
      exact ⟨htargetHash, hpayloadHash, hfindingsHash⟩
    refine ⟨⟨_, hbound⟩, ?_, hreconciled, hfirst, rfl, rfl, rfl⟩
    unfold markerReconciler
    rw [hr, ok_bind]
    exact construct_of_postInit hbound
  · have hle := h.cap
    dsimp only at hcap
    omega

/-- The status of a payload that is not finalized is built. -/
lemma notFinalized_ok (approval : Checked ApprovalDecision) {state : FinalizationState}
    (hstate : state ≠ .finalized) (reasonCode : FinalizationReasonCode) {reason : Text}
    (hreason : reason ≠ []) :
    ∃ status, notFinalized approval.val state reasonCode reason = .ok status ∧
      status.val.state = state ∧ status.val.reasonCode = some reasonCode := by
  have happroval := approval.property
  simp only [Record.postInit, check_bind_eq_ok, requireHashLike_eq_ok] at happroval
  refine ⟨⟨_, ?checks⟩, construct_of_postInit ?checks, rfl, rfl⟩
  case checks =>
    simp only [Record.postInit, check_bind_eq_ok, requireOptionalHashLike_eq_ok,
      requireOptionalNonEmpty_eq_ok]
    refine ⟨by simp, ?_, by simpa using hreason, ?_⟩
    · intro v hv
      obtain rfl := Option.some.inj hv
      exact happroval.2.2.1
    · rw [if_neg hstate]
      simp only [check_bind_eq_ok, require_eq_ok]
      exact ⟨by simp, trivial⟩

/-- The finalization of a payload that reaches its scan. -/
lemma finalize_of_reachesScan {payload : Checked FinalIssueCommentPayload}
    (h : attempt.ReachesScan w payload) : ∃ checks validation, attempt.checks = .ok checks ∧
      checks.actorCheck.val.status = .pass ∧ checks.targetCheck.val.status = .pass ∧
      validateFinalIssueCommentPayload (some payload) = .ok validation ∧
      validation.val.status = .pass ∧
      finalizeGithubPayload attempt.approval.val checks attempt.finalPayloadBuilder
        (some (attempt.markerReconciler w)) =
        finalizeBuiltPayload attempt.approval.val checks payload (attempt.markerReconciler w) := by
  obtain ⟨checks, hchecks, hpreflight, hactor, htarget⟩ := h.checks
  obtain ⟨validation, hvalidation, hpass, -⟩ := validateFinalIssueCommentPayload_ok payload
  refine ⟨checks, validation, hchecks, hactor, htarget, hvalidation, hpass.2 h.valid, ?_⟩
  unfold finalizeGithubPayload
  rw [hpreflight, h.builder]
  dsimp only
  rw [if_neg (not_not.2 hactor), if_neg (not_not.2 htarget), ok_bind, if_neg (not_not.2 h.approved)]

/-- The attempt for a review that is posted ends with the existing comment. -/
lemma run_of_posted (hclean : w.Clean) {payload : Checked FinalIssueCommentPayload}
    (h : attempt.ReachesScan w payload) {c : FakeIssueComment} (hc : c ∈ w.comments)
    (hposted : Posted payload.val c) :
    ∃ r : Checked GitHubWriterResult, attempt.run w = (.ok (some r), w) ∧
      r.val.status = .reconciled ∧ r.val.commentId = some c.commentId := by
  obtain ⟨checks, validation, hchecks, -, -, hvalidation, hpass, hfinalize⟩ :=
      finalize_of_reachesScan h
  obtain ⟨bound, hbound, hreconciled, hexisting, htarget, hpayload, hfindings⟩ :=
    markerReconciler_of_posted hclean h hc hposted
  obtain ⟨status, hstatus, hstate, hreason⟩ := notFinalized_ok attempt.approval
    (show FinalizationState.notReady ≠ .finalized by simp) .markerReconciledExisting
    (show ("marker reconciliation matched an existing comment" : Text) ≠ [] by simp)
  have happroval := attempt.approval.property
  simp only [Record.postInit, check_bind_eq_ok, requireHashLike_eq_ok] at happroval
  have hid := (hclean.own c hc).2.2.1
  have hresult : Record.postInit ({
      status := .reconciled
      artifactKind := .issueComment
      targetHash := attempt.approval.val.approvedReviewTargetHash
      payloadHash := attempt.approval.val.approvedFinalPayloadHash
      commentId := bound.val.result.val.existingCommentId
      error := none } : GitHubWriterResult) = .ok () := by
    rw [GitHubWriterResult.postInit_eq_ok, hexisting]
    exact ⟨happroval.2.2.1, happroval.2.1, by simpa using hid, by simp, by simp, by simp⟩
  refine ⟨⟨_, hresult⟩, ?_, rfl, hexisting⟩
  unfold run
  rw [hchecks]
  dsimp only
  rw [hfinalize]
  unfold finalizeBuiltPayload
  rw [hvalidation, ok_bind, if_neg (not_not.2 hpass), hbound, ok_bind]
  dsimp only
  rw [if_neg (by simp [htarget, hpayload, hfindings]), hreconciled]
  dsimp only
  rw [hstatus, ok_bind]
  unfold postOrEmit
  simp only [pure, Except.pure]
  rw [if_pos ⟨hreconciled, hstate, hreason, trivial, trivial⟩, construct_of_postInit hresult]
  rfl

/-- The status of a finalized payload is built. -/
lemma finalized_ok (payload : Checked FinalIssueCommentPayload) :
    ∃ status : Checked FinalizationStatus, construct {
        state := .finalized
        finalPayloadHash := some payload.val.finalPayloadHash
        targetHash := some payload.val.reviewTarget.val.targetHash
        reasonCode := none
        reason := none } = .ok status ∧ status.val.state = .finalized ∧
      status.val.finalPayloadHash = some payload.val.finalPayloadHash ∧
      status.val.targetHash = some payload.val.reviewTarget.val.targetHash := by
  obtain ⟨-, -, -, -, -, -, -, hpayload, -⟩ :=
    FinalIssueCommentPayload.postInit_eq_ok.1 payload.property
  have htarget := payload.val.reviewTarget.val.isStrictSha256_targetHash.hashPrefix_accepted
  refine ⟨⟨_, ?checks⟩, construct_of_postInit ?checks, rfl, rfl, rfl⟩
  case checks =>
    simp only [Record.postInit, check_bind_eq_ok, requireOptionalHashLike_eq_ok,
      requireOptionalNonEmpty_eq_ok]
    refine ⟨?_, ?_, by simp, by simp⟩
    · intro v hv
      obtain rfl := Option.some.inj hv
      exact hpayload
    · intro v hv
      obtain rfl := Option.some.inj hv
      exact htarget

/-- The first attempt that reaches its scan, with an approved payload for the approved target,
posts. -/
lemma run_of_noComments (hempty : w.comments = []) {payload : Checked FinalIssueCommentPayload}
    (h : attempt.ReachesScan w payload) (happroved : attempt.approval.val.approved = true)
    (htarget : attempt.approval.val.approvedReviewTargetHash =
      payload.val.reviewTarget.val.targetHash)
    (hrunId : attempt.runId = payload.val.markerRunId) :
    (attempt.run w).2 = w.append payload.val.body := by
  have hclean : w.Clean := ⟨by simp [hempty], by simp [hempty], by simp [hempty]⟩
  obtain ⟨checks, validation, hchecks, hactorCheck, htargetCheck, hvalidation, hpass, hfinalize⟩ :=
    finalize_of_reachesScan h
  have hargs := scanArguments_check h
  obtain ⟨comments, hcomments, hpage⟩ := getIssueCommentsPage_of_clean hclean
    (show ((attempt.scanArguments payload.val).fetch .initial).cursor = .absent from rfl)
  have hnil : comments = [] := by
    rw [hempty] at hcomments
    exact List.map_eq_nil_iff.1 hcomments
  obtain ⟨r, hr, hclass⟩ := answer_reconcile hargs ⟨rfl, rfl⟩ hpage
  have hsafe : r.val.status = .safeToPost := by
    rcases hclass with ⟨-, hverdict⟩ | ⟨hcap, -⟩
    · rw [hverdict.safe]
      simp [hnil]
    · simp [hnil] at hcap
  obtain ⟨-, -, hmarkerRunId, htargetHash, hpayloadHash, hfindingsHash, -⟩ :=
    FinalIssueCommentPayload.postInit_eq_ok.1 payload.property
  have hbound : Record.postInit (⟨r, payload.val.markerTargetHash, payload.val.markerPayloadHash,
      payload.val.markerFindingsHash⟩ : BoundMarkerReconciliationResult) = .ok () := by
    simp only [Record.postInit, check_bind_eq_ok, require_eq_ok, Text.startsWith_iff]
    exact ⟨htargetHash, hpayloadHash, hfindingsHash⟩
  have hreconciler : attempt.markerReconciler w payload = .ok ⟨_, hbound⟩ := by
    unfold markerReconciler
    rw [hr, ok_bind]
    exact construct_of_postInit hbound
  obtain ⟨status, hstatus, hstate, hstatusPayload, hstatusTarget⟩ := finalized_ok payload
  have hinput : Record.postInit ({
      finalPayload := payload
      finalPayloadHash := payload.val.finalPayloadHash
      targetHash := payload.val.reviewTarget.val.targetHash
      markerReconciliationStatus := r.val.status
      approvedActor := attempt.approval.val.approvedGithubActor
      runId := attempt.runId } : FinalizedIssueCommentWriterInput) = .ok () := by
    rw [FinalizedIssueCommentWriterInput.postInit_eq_ok]
    refine ⟨rfl, rfl, hsafe, ?_, ?_⟩
    · show attempt.approval.val.approvedGithubActor ≠ []
      rw [h.actor]
      exact w.authorLogin_ne_nil
    · show attempt.runId ≠ []
      rw [hrunId]
      exact hmarkerRunId
  have hfinal : finalizeBuiltPayload attempt.approval.val checks payload
      (attempt.markerReconciler w) = .ok {
        actorPermissionFinalizationCheck := some checks.actorCheck
        targetFreshnessCheck := some checks.targetCheck
        finalizationStatus := status
        approvedGithubActor := some attempt.approval.val.approvedGithubActor
        payloadValidation := some validation
        markerReconciliation := some r
        finalPayload := some payload
        finalPayloadBuilderCalls := 1
        writerInputReleased := true } := by
    unfold finalizeBuiltPayload
    rw [hvalidation, ok_bind, if_neg (not_not.2 hpass), hreconciler, ok_bind]
    dsimp only
    rw [if_neg (by simp), hsafe]
    dsimp only
    rw [hstatus, ok_bind]
    rfl
  unfold run
  rw [hchecks]
  dsimp only
  rw [hfinalize, hfinal]
  unfold postOrEmit
  dsimp only
  rw [if_neg (by simp [hsafe]), if_neg (by simp [hstate, hsafe])]
  have hbuild : buildFinalizedIssueCommentWriterInput {
        actorPermissionFinalizationCheck := some checks.actorCheck
        targetFreshnessCheck := some checks.targetCheck
        finalizationStatus := status
        approvedGithubActor := some attempt.approval.val.approvedGithubActor
        payloadValidation := some validation
        markerReconciliation := some r
        finalPayload := some payload
        finalPayloadBuilderCalls := 1
        writerInputReleased := true } attempt.approval.val attempt.runId = .ok ⟨_, hinput⟩ := by
    unfold buildFinalizedIssueCommentWriterInput
    simp only [check_bind_eq_ok, require_eq_ok, Option.any_some]
    exact ⟨happroved, hstate, trivial, by simpa using hactorCheck, by simpa using htargetCheck,
      by simpa using hpass, hsafe, hstatusPayload, hstatusTarget, trivial, h.approved.symm, htarget,
      hrunId, construct_of_postInit hinput⟩
  rw [hbuild]
  unfold postIssueComment
  dsimp only
  rw [if_neg (by simp [h.actor]), hvalidation]
  dsimp only
  rw [if_neg (not_not.2 hpass)]

end PostAttempt

/-! ## The store over all attempts -/

/-- The writers that attempts reach, starting without comments. -/
inductive ReachableWriter (authorLogin requestId : Text) : FakeIssueCommentWriter → Prop
  | initial (h : authorLogin ≠ []) : ReachableWriter authorLogin requestId ⟨authorLogin, requestId,
    0, [], h⟩
  | attempt {w : FakeIssueCommentWriter} (h : ReachableWriter authorLogin requestId w)
      (attempt : PostAttempt) : ReachableWriter authorLogin requestId (attempt.run w).2

/-- No reachable writer has stored two comments for one review. -/
lemma ReachableWriter.clean {authorLogin requestId : Text} {w : FakeIssueCommentWriter}
    (h : ReachableWriter authorLogin requestId w) : w.Clean := by
  induction h with
  | initial _ => exact ⟨by simp, by simp, List.Pairwise.nil⟩
  | attempt _ attempt ih => exact attempt.clean_run ih

/-- After any attempts no two comments of the writer end with markers for the same target and
findings; and an attempt for its author that reaches the scan of a writer within the comment cap
ends with the existing comment, and leaves the writer as it was, if its target, payload and findings
are posted. -/
theorem fakePosts_noDuplicate {authorLogin requestId : Text} {w : FakeIssueCommentWriter}
    (h : ReachableWriter authorLogin requestId w) :
    (w.comments.Pairwise fun c c' => ∀ m ∈ scanFinalLineMarker c.body,
      ∀ m' ∈ scanFinalLineMarker c'.body, ¬ (m.target = m'.target ∧ m.findings = m'.findings)) ∧
    ∀ (attempt : PostAttempt) (payload : Checked FinalIssueCommentPayload) (c : FakeIssueComment),
      attempt.ReachesScan w payload → c ∈ w.comments → PostAttempt.Posted payload.val c →
      ∃ r : Checked GitHubWriterResult, attempt.run w = (.ok (some r), w) ∧
        r.val.status = .reconciled ∧ r.val.commentId = some c.commentId := by
  have hclean := h.clean
  refine ⟨hclean.distinct, ?_⟩
  intro attempt payload c hreaches hc hposted
  exact attempt.run_of_posted hclean hreaches hc hposted

/-- An approval of the first pull request for an author. -/
def firstApproval : Checked ApprovalDecision :=
  ⟨{ approved := true
     approvedItemIds := [['1']]
     approvedFinalPayloadHash := hashPrefix
     approvedReviewTargetHash := firstPullRequest.val.targetHash
     approvedReviewTarget := firstPullRequest
     approvedGithubActor := ['a']
     approvedPermission := "write"
     approvedPermissionCheckedAt := "2026-01-01T00:00:00Z"
     approvedCredentialPrincipal := ['a']
     approvedCredentialSource := "pat"
     approvedRepoPermission := some "write"
     approvedInstallationPermission := none
     approvedEndpointPermission := none
     approvedIssueCommentWrite := true
     approvedPermissionCheckMethod := actorPermissionCheckMethod
     approvedPermissionEndpointMethod := actorPermissionEndpointMethod
     approvedPermissionCheckedTarget := firstPullRequest.val.toOrderedDict
     approvedPermissionCheckedTargetHash := firstPullRequest.val.targetHash
     approvedPermissionEndpoint := "/repos/o/r/issues/1/comments"
     approvedPermissionEndpointKind := actorPermissionEndpointKind
     approvedPermissionTransportSummary := ⟨⟨actorPermissionTransportEndpointKind, false, none,
       none⟩,
       by decide +kernel⟩
     includePublicVerdict := false
     approvedBy := ['a']
     timestamp := "2026-01-01T00:00:00Z" }, by decide +kernel⟩

/-- Checks that pass. -/
def passedChecks : FinalizationChecks where
  approvalPreflight := none
  actorCheck := ⟨{
    status := .pass
    reasonCode := none
    actorPermissionReasonCode := none
    actorPermissionTransportSummary := some firstApproval.val.approvedPermissionTransportSummary
    currentActorPermissionCheckedAt := some "2026-01-01T00:00:00Z"
    mismatchedFields := []
    reason := none }, by decide +kernel⟩
  targetCheck := ⟨{
    status := .pass
    reasonCode := none
    transportSummary := some ⟨⟨targetFreshnessTransportEndpointKind, false, none, none⟩,
      by decide +kernel⟩
    currentTarget := some firstPullRequest
    currentTargetHash := some firstPullRequest.val.targetHash
    currentCheckedAt := some "2026-01-01T00:00:00Z"
    checkMethod := some targetFreshnessCheckMethod
    mismatchedFields := []
    reason := none }, by decide +kernel⟩

/-- An approval stays valid with the hash of another payload. -/
lemma approval_withHash (a : Checked ApprovalDecision) {hash : Text} (h : hashPrefix <+: hash) :
    Record.postInit { a.val with approvedFinalPayloadHash := hash } = .ok () := by
  have happroval := a.property
  simp only [Record.postInit, check_bind_eq_ok, requireHashLike_eq_ok] at happroval ⊢
  obtain ⟨hids, -, hrest⟩ := happroval
  exact ⟨hids, h, hrest⟩

/-- An attempt posts, and a second one with the same approval ends with the comment of the first. -/
theorem fakePosts_noDuplicate_twice : ∃ (w : FakeIssueCommentWriter) (attempt : PostAttempt)
    (r : Checked GitHubWriterResult), ReachableWriter ['a'] ['r'] w ∧ w.comments.length = 1 ∧
      attempt.run w = (.ok (some r), w) ∧ r.val.status = .reconciled := by
  obtain ⟨p, validation, hbuild, hvalidate, hpass⟩ :=
    buildFinalIssueCommentPayload_valid ['1'] firstPullRequest ['x'] [] nothingRedacted
      (by decide +kernel) List.nodup_nil (by simp) (by decide +kernel) rfl
  obtain ⟨m, -, -, hval⟩ := buildFinalIssueCommentPayload_eq_ok.1 hbuild
  obtain ⟨validation', hvalidate', hstatus, -⟩ := validateFinalIssueCommentPayload_ok p
  obtain rfl := Except.ok.inj (hvalidate.symm.trans hvalidate')
  have hvalid := hstatus.1 hpass
  obtain ⟨-, -, -, -, -, -, -, hhash, -⟩ := FinalIssueCommentPayload.postInit_eq_ok.1 p.property
  let attempt : PostAttempt := {
    approval := ⟨_, approval_withHash firstApproval hhash⟩
    checks := .ok passedChecks
    finalPayloadBuilder := some (.ok p)
    target := firstPullRequest
    trustedBotAuthors := []
    trustedBotAuthors_ne_nil := by simp
    limits := none
    runId := p.val.markerRunId }
  let empty : FakeIssueCommentWriter := ⟨['a'], ['r'], 0, [], by simp⟩
  have hreaches : ∀ w : FakeIssueCommentWriter, w.authorLogin = ['a'] → w.comments.length ≤ 1 →
      attempt.ReachesScan w p := by
    intro w hauthor hlength
    have hcap : 1 ≤ (attempt.scanArguments p.val).scanLimits.maxComments := by
      show 1 ≤ MarkerScanLimits.default.val.maxComments
      decide +kernel
    exact ⟨⟨passedChecks, rfl, rfl, rfl, rfl⟩, rfl, rfl, hvalid, hauthor.symm, hlength.trans hcap⟩
  have htarget : attempt.approval.val.approvedReviewTargetHash =
      p.val.reviewTarget.val.targetHash := by
    rw [hval]
    rfl
  have hposted := @PostAttempt.run_of_noComments attempt empty rfl p
    (hreaches empty rfl (Nat.zero_le 1)) rfl htarget rfl
  have hreachable : ReachableWriter ['a'] ['r'] (empty.append p.val.body) := by
    rw [← hposted]
    exact .attempt (.initial _) attempt
  obtain ⟨-, hreconciles⟩ := fakePosts_noDuplicate hreachable
  obtain ⟨r, hrun, hreconciled, -⟩ := hreconciles attempt p _
    (hreaches (empty.append p.val.body) rfl (le_refl 1)) (List.mem_singleton.2 rfl)
    ⟨p.val.marker, FakeIssueCommentWriter.scanFinalLineMarker_of_valid hvalid, rfl, rfl, rfl⟩
  exact ⟨_, attempt, r, hreachable, rfl, hrun, hreconciled⟩

end ReviewGraph
