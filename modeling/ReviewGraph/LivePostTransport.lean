import ReviewGraph.Foundation.JsonDecoding
import ReviewGraph.WriterGithubSharing

/-!
# The transport of a live post

`_GhApiIssueCommentPostTransport` of `github_live_post.py` posts a comment with the `gh` command.  A
command that timed out may have created the comment, but the failure that the transport raises does
not say so, and the writer then returns without a recovery scan.
-/

namespace ReviewGraph

open Interaction

/-! ## The command -/

/-- `GhCommandResult`. -/
structure GhCommandResult where
  returncode : ℤ
  stdout : Text
  stderr : Text
  timedOut : Bool
  deriving DecidableEq

/-- What `run_json` of a post runner can do: return the result of the command, or raise. -/
inductive GhPostRun
  | completed (result : GhCommandResult)
  | raised
  deriving DecidableEq

/-- `_reason_from_gh_failure`. -/
def reasonFromGhFailure (stderr : Text) (returncode : ℤ) : Text :=
  let text := stderr.casefold
  if text.containsAny ["403", "forbidden"] then "forbidden"
  else if text.containsAny ["404", "not found"] then "not_found"
  else if text.containsAny ["429", "rate limit", "rate_limited"] then "rate_limited"
  else if returncode = 124 ∨ text.containsAny ["timed out", "timeout"] = true then "timeout"
  else "unavailable"

/-- `_writer_reason_code`. -/
def writerReasonCode (reason : Text) : GitHubIssueCommentWriterReasonCode :=
  if reason = "timeout" then .timeout
  else if reason = "rate_limited" then .rateLimited
  else if reason = "forbidden" then .forbidden
  else if reason = "not_found" then .notFound
  else if reason = "unavailable" then .unavailable
  else if reason = "malformed_response" then .malformedResponse
  else .transportUnknown

/-! ## The response -/

/-- A number with a fraction or an exponent is zero as a double: its digits are, or it is at most
half of the least positive double. -/
def isZeroFloat (lexeme : Text) : Bool :=
  let mantissa := lexeme.takeWhile fun c => c ≠ 'e' ∧ c ≠ 'E'
  let exponent := lexeme.drop (mantissa.length + 1)
  let digits := mantissa.filter Json.isDigit
  let number := Nat.ofDigitChars 10 digits 0
  let size : ℤ := (Nat.ofDigitChars 10 (exponent.filter Json.isDigit) 0 : ℕ)
  let places := (mantissa.dropWhile (· ≠ '.')).tail.length
  let scale : ℤ := (if exponent.head? = some '-' then -size else size) - places
  -- The words for the special values have no digits.
  digits ≠ [] && (number = 0 || (scale < 0 && number * 2 ^ 1075 ≤ 10 ^ scale.natAbs))

/-- Values that are false in a condition. -/
def isFalsy : Json → Bool
  | .null => true
  | .bool b => !b
  | .int n => n = 0
  | .float lexeme => isZeroFloat lexeme
  | .str s => s = []
  | .arr items => items.isEmpty
  | .obj fields => fields.isEmpty

/-- `_user_login`; `none` is the error of a login that is no text. -/
def userLogin (user : Option Json) : Option Text :=
  match user with
  | some (.obj fields) =>
    match Json.lookup fields "login" with
    | some (.str login) => if login = [] then none else some login
    | _ => none
  | _ => some "unknown"

/-- `_request_id` of a live post. -/
def liveRequestId (payload : List (Text × Json)) : Option Text :=
  match Json.lookup payload "request_id" with
  | some (.str value) => if value = [] then none else some value
  | _ => none

/-- The payload has a body that is a text, and not the one that was posted. -/
def returnsOtherBody (payload : List (Text × Json)) (body : Text) : Bool :=
  match Json.lookup payload "body" with
  | some (.str returned) => returned ≠ body
  | _ => false

section
/- The text of a decoded value, `str` of the language. -/
variable (str : Json → Text)

/-- The response of a command that has succeeded. -/
def ghPostResponse (request : IssueCommentPost) (stdout : Text) : PostOutcome :=
  match Json.loads stdout with
  | .error .invalid => .failure (.init .malformedResponse none false)
  | .error (.digitLimit _) => .raised
  | .ok (.obj payload) =>
    if returnsOtherBody payload request.body then .failure (.init .malformedResponse none false)
    else
      match userLogin (Json.lookup payload "user") with
      | none => .raised
      | some login => .response {
          commentId := some ((Json.lookup payload "id").elim [] fun id =>
            if isFalsy id then [] else str id)
          authorLogin := some login
          requestId := liveRequestId payload }
  | .ok _ => .raised

/-- `_GhApiIssueCommentPostTransport.post_issue_comment`.  The checks of the body and of the
arguments of the command compare values that are built to be equal. -/
def ghPostIssueComment (request : IssueCommentPost) : GhPostRun → PostOutcome
  | .raised => .raised
  | .completed completed =>
    if completed.timedOut then .failure (.init .timeout none false)
    else if completed.returncode ≠ 0 then
      .failure (.init (writerReasonCode (reasonFromGhFailure completed.stderr completed.returncode))
        none false)
    else ghPostResponse str request completed.stdout

/-! ## Posts that time out -/

/-- A post that may have created the comment is recovered: the comments are listed, and the result
carries the scan. -/
structure RecoversUnknownPost (tr : List (Event WriterCall WriterCall.Answer))
    (r : GitHubIssueCommentWriterAttemptResult) : Prop where
  /-- A page of comments was fetched. -/
  fetched : ∃ page outcome, (⟨.fetch page, outcome⟩ : Event WriterCall WriterCall.Answer) ∈ tr
  /-- The result reports the scan. -/
  reported : r.transportSummary.val.recoveryScanCount = 1
  /-- The result carries what the scan found. -/
  carried : r.markerReconciliation ≠ none

/-- A call whose post times out makes no further exchange. -/
lemma trace_of_timedOut {w : Checked GitHubIssueCommentWriter}
    (input : Checked FinalizedIssueCommentWriterInput)
    {tr : List (Event WriterCall WriterCall.Answer)} {r : GitHubIssueCommentWriterAttemptResult}
    (hattempt : w.val.Attempt input.val tr r) {request : IssueCommentPost}
    {completed : GhCommandResult} (htimeout : completed.timedOut = true)
    (hpost : ⟨.post request, ghPostIssueComment str request (.completed completed)⟩ ∈ tr) :
    tr = [⟨.checkKey input.val.retrySequenceKey, false⟩,
      ⟨.post (w.val.request input.val), .failure (.init .timeout none false)⟩] := by
  have houtcome : ghPostIssueComment str request (.completed completed) =
      .failure (.init .timeout none false) := by
    unfold ghPostIssueComment
    dsimp only
    rw [if_pos htimeout]
  rw [houtcome] at hpost
  cases hattempt with
  | invalid _ _ _ => cases hpost
  | repeated _ _ hrecovered =>
    rcases List.mem_cons.1 hpost with heq | hmem
    · cases heq
    · obtain ⟨page, outcome, heq⟩ := hrecovered.fetches _ hmem
      cases heq
  | ambiguous _ haccepted _ hrecovered =>
    rcases List.mem_cons.1 hpost with heq | hmem
    · cases heq
    rcases List.mem_cons.1 hmem with heq | hmem
    · cases heq
      exact absurd haccepted (by decide)
    · obtain ⟨page, outcome, heq⟩ := hrecovered.fetches _ hmem
      cases heq
  | failed _ _ _ _ =>
    rcases List.mem_cons.1 hpost with heq | hmem
    · cases heq
    · cases List.mem_singleton.1 hmem
      rfl
  | posted _ _ _ _ _ =>
    rcases List.mem_cons.1 hpost with heq | hmem
    · cases heq
    · cases List.mem_singleton.1 hmem

/-- A post that timed out is never recovered: the call makes no further exchange and reports a plain
failure of the transport. -/
theorem postIssueComment_timedOut (w : Checked GitHubIssueCommentWriter)
    (input : Checked FinalizedIssueCommentWriterInput)
    {tr : List (Event WriterCall WriterCall.Answer)}
    {res : Result GitHubIssueCommentWriterAttemptResult}
    (hrun : Runs (w.val.postIssueComment input.val) tr res) (request : IssueCommentPost)
    (completed : GhCommandResult) (htimeout : completed.timedOut = true)
    (hpost : ⟨.post request, ghPostIssueComment str request (.completed completed)⟩ ∈ tr) :
    ∃ r, res = .ok r ∧ r.outcomeDetail = .transportFailed ∧
      r.transportSummary.val.postAttemptCount = 1 ∧
      r.transportSummary.val.recoveryScanCount = 0 ∧ r.markerReconciliation = none ∧
      ¬ RecoversUnknownPost tr r := by
  obtain ⟨r, rfl, hattempt⟩ := GitHubIssueCommentWriter.postIssueComment_runs w.property input hrun
  obtain rfl := trace_of_timedOut str input hattempt htimeout hpost
  obtain ⟨validation, hvalidate, hpass, -⟩ :=
    validateFinalIssueCommentPayload_ok input.val.finalPayload
  have hvalid : ValidFinalPayload input.val.finalPayload.val := by
    cases hattempt <;> assumption
  obtain ⟨k, k', hcheck, hsent, hfailure, -⟩ :=
    GitHubIssueCommentWriter.postIssueComment_of_pass w.val hvalidate (hpass.2 hvalid)
  rw [hcheck, runs_call_cons_iff, hsent, runs_call_cons_iff, hfailure _ rfl] at hrun
  obtain ⟨-, hres⟩ := runs_ret_iff.1 hrun
  obtain ⟨r', hr', -, hposts, hscans, hdetail, hmarker⟩ :=
    GitHubIssueCommentWriter.failedResult_ok input
      {
        outcomeDetail := .transportFailed
        reasonCode := GitHubIssueCommentWriterReasonCode.timeout.value
        retryable := true
        postAttemptCount := 1 } (GitHubIssueCommentWriterReasonCode.value_safe .timeout)
  obtain rfl : r = r' := Except.ok.inj (hres.trans hr')
  refine ⟨r, rfl, hdetail, hposts, hscans, hmarker, ?_⟩
  intro hrecovers
  exact hrecovers.carried hmarker

/-- A command that timed out without any output. -/
def timedOutCommand : GhCommandResult := ⟨124, [], "gh api post timed out", true⟩

/-- A writer with a recovery scan. -/
def scanningWriter : Checked GitHubIssueCommentWriter := ⟨⟨true, [], 20, none⟩, by decide +kernel⟩

/-- The run of a call whose post times out. -/
lemma exists_run_timedOut : ∃ (input : Checked FinalizedIssueCommentWriterInput)
    (tr : List (Event WriterCall WriterCall.Answer))
    (res : Result GitHubIssueCommentWriterAttemptResult),
    Runs (scanningWriter.val.postIssueComment input.val) tr res ∧
      tr = [⟨.checkKey input.val.retrySequenceKey, false⟩,
        ⟨.post (scanningWriter.val.request input.val),
        ghPostIssueComment str (scanningWriter.val.request input.val)
          (.completed timedOutCommand)⟩] := by
  obtain ⟨input, validation, hvalidate, hpass⟩ := GitHubIssueCommentWriter.exists_passing_input
  obtain ⟨k, k', hcheck, hsent, hfailure, -⟩ :=
    GitHubIssueCommentWriter.postIssueComment_of_pass scanningWriter.val hvalidate hpass
  obtain ⟨res, hret⟩ : ∃ res, Runs (k' (.failure (.init .timeout none false))) [] res := by
    rw [hfailure _ rfl]
    exact ⟨_, .ret _⟩
  have hpost : Runs (k false) [⟨.post (scanningWriter.val.request input.val),
      .failure (.init .timeout none false)⟩] res := by
    rw [hsent]
    exact .call (c := WriterCall.post (scanningWriter.val.request input.val)) _ hret
  refine ⟨input, _, res, ?_, rfl⟩
  rw [hcheck]
  exact .call (k := k) false hpost

end

/-- A post that times out on a writer with a recovery scan is not recovered. -/
theorem timedOutCommand_is_not_recovered :
    ∃ (input : Checked FinalizedIssueCommentWriterInput)
      (tr : List (Event WriterCall WriterCall.Answer))
      (res : Result GitHubIssueCommentWriterAttemptResult),
      Runs (scanningWriter.val.postIssueComment input.val) tr res ∧
      ⟨.post (scanningWriter.val.request input.val), ghPostIssueComment Json.dumps
        (scanningWriter.val.request input.val) (.completed timedOutCommand)⟩ ∈ tr ∧
      ∀ r, ¬ RecoversUnknownPost tr r := by
  obtain ⟨input, tr, res, hrun, rfl⟩ := exists_run_timedOut Json.dumps
  refine ⟨input, _, res, hrun, by simp, ?_⟩
  intro r hrecovers
  obtain ⟨page, outcome, hmem⟩ := hrecovers.fetched
  simp at hmem

/-- The call reports a plain failure of the transport, after one post and without a scan. -/
theorem postIssueComment_timedOut_scanningWriter :
    ∃ (input : Checked FinalizedIssueCommentWriterInput)
      (tr : List (Event WriterCall WriterCall.Answer)) (r : GitHubIssueCommentWriterAttemptResult),
      Runs (scanningWriter.val.postIssueComment input.val) tr (.ok r) ∧
      r.outcomeDetail = .transportFailed ∧ r.transportSummary.val.postAttemptCount = 1 ∧
      r.transportSummary.val.recoveryScanCount = 0 := by
  obtain ⟨input, tr, res, hrun, htr⟩ := exists_run_timedOut Json.dumps
  obtain ⟨r, rfl, hdetail, hposts, hscans, -⟩ :=
    postIssueComment_timedOut Json.dumps scanningWriter input hrun
      (scanningWriter.val.request input.val) timedOutCommand rfl (by simp [htr])
  exact ⟨input, tr, r, hrun, hdetail, hposts, hscans⟩

end ReviewGraph
