import ReviewGraph.PayloadRoundTrip
import ReviewGraph.WriterGithubRuns

/-!
# Calls that share a writer

Any number of calls of `post_issue_comment` on one `GitHubIssueCommentWriter`.  They share the set
`_post_attempted_keys` behind its lock; everything else is up to the transports, whose answers are
arbitrary.  Sequences of calls are the executions in which one call returns before the next one
starts.
-/

namespace ReviewGraph

open Interaction

namespace GitHubIssueCommentWriter

variable {ι : Type} [DecidableEq ι]

/-- `_post_attempted_keys` behind `_post_attempted_lock`: the test of a key adds it; the transports
answer as they like. -/
def attemptedKeys : SharedObject (List RetrySequenceKey) WriterCall WriterCall.Answer where
  admits
    | keys, .checkKey key, already => already = decide (key ∈ keys)
    | _, .post _, _ => True
    | _, .fetch _, _ => True
  next
    | keys, .checkKey key, _ => if key ∈ keys then keys else key :: keys
    | keys, .post _, _ => keys
    | keys, .fetch _, _ => keys

/-- Calls on a new writer, one for each writer input. -/
def calls (w : GitHubIssueCommentWriter) (inputs : ι → Checked FinalizedIssueCommentWriterInput) :
    System ι (List RetrySequenceKey) WriterCall WriterCall.Answer
      (Result GitHubIssueCommentWriterAttemptResult) where
  object := []
  programs i := w.postIssueComment (inputs i).val

/-- Each key is tested for the first time once, and from then on it is in the set. -/
lemma countP_isFirstCheck {w : GitHubIssueCommentWriter}
    {inputs : ι → Checked FinalizedIssueCommentWriterInput}
    {log : List (ι × Event WriterCall WriterCall.Answer)}
    {s : System ι (List RetrySequenceKey) WriterCall WriterCall.Answer
      (Result GitHubIssueCommentWriterAttemptResult)}
    (h : Exec attemptedKeys (w.calls inputs) log s) (key : RetrySequenceKey) :
    log.countP (fun e => isFirstCheck key e.2) = if key ∈ s.object then 1 else 0 := by
  refine h.induction (P := fun keys log =>
    log.countP (fun e => isFirstCheck key e.2) = if key ∈ keys then 1 else 0) rfl ?_
  intro keys log i c r ih hadmits
  rw [List.countP_append, ih, List.countP_singleton]
  cases c with
  | checkKey key' =>
    have hr : r = decide (key' ∈ keys) := hadmits
    by_cases hmem : key' ∈ keys
    · rw [hr]
      simp [attemptedKeys, hmem, isFirstCheck]
    · rw [hr]
      by_cases hkey : key' = key
      · subst hkey
        simp [attemptedKeys, hmem, isFirstCheck]
      · have hkey' : ¬ key = key' := fun h => hkey h.symm
        simp [attemptedKeys, hmem, isFirstCheck, hkey, hkey']
  | post request => rfl
  | fetch page => rfl

/-- Two elements that are counted at most once are equal. -/
lemma eq_of_countP_le_one {α : Type} {l : List α} {p : α → Bool} (h : l.countP p ≤ 1) {a b : α}
    (ha : a ∈ l) (hb : b ∈ l) (hpa : p a = true) (hpb : p b = true) : a = b := by
  rw [List.countP_eq_length_filter] at h
  have ha' : a ∈ l.filter p := List.mem_filter.2 ⟨ha, hpa⟩
  have hb' : b ∈ l.filter p := List.mem_filter.2 ⟨hb, hpb⟩
  match hl : l.filter p with
  | [] => simp [hl] at ha'
  | [x] =>
    rw [hl, List.mem_singleton] at ha' hb'
    rw [ha', hb']
  | x :: y :: rest =>
    rw [hl] at h
    simp at h

section Execution

variable {w : Checked GitHubIssueCommentWriter}
  {inputs : ι → Checked FinalizedIssueCommentWriterInput}
  {log : List (ι × Event WriterCall WriterCall.Answer)}
  {s : System ι (List RetrySequenceKey) WriterCall WriterCall.Answer
    (Result GitHubIssueCommentWriterAttemptResult)}

/-- At most one call is the first to test a key. -/
lemma first_unique (h : Exec attemptedKeys (w.val.calls inputs) log s) {i j : ι}
    {key : RetrySequenceKey} (hi : (i, ⟨.checkKey key, false⟩) ∈ log)
    (hj : (j, ⟨.checkKey key, false⟩) ∈ log) : i = j := by
  have hcount := countP_isFirstCheck h key
  have hle : log.countP (fun e => isFirstCheck key e.2) ≤ 1 := by
    rw [hcount]
    split <;> omega
  have heq := eq_of_countP_le_one hle hi hj (isFirstCheck_iff.2 rfl) (isFirstCheck_iff.2 rfl)
  exact congrArg Prod.fst heq

/-- No key has been attempted, and the transports raise. -/
def raising : (c : WriterCall) → WriterCall.Answer c
  | .checkKey _ => false
  | .post _ => .raised
  | .fetch _ => .raised

/-- The exchanges of a call are the beginning of an attempt. -/
lemma exchanges_prefix (h : Exec attemptedKeys (w.val.calls inputs) log s) (i : ι) :
    ∃ tr r, exchangesOf i log <+: tr ∧ w.val.Attempt (inputs i).val tr r := by
  -- The transports may raise from now on.
  obtain ⟨tr', res, hrun⟩ := (h.after i).exists_runs raising
  obtain ⟨r, -, hattempt⟩ := postIssueComment_runs w.property (inputs i) hrun
  exact ⟨_, r, List.prefix_append _ _, hattempt⟩

/-- A call that returned is an attempt. -/
lemma attempt_of_returned (h : Exec attemptedKeys (w.val.calls inputs) log s) {i : ι}
    {res : Result GitHubIssueCommentWriterAttemptResult} (hres : s.programs i = .ret res) :
    ∃ r, res = .ok r ∧ w.val.Attempt (inputs i).val (exchangesOf i log) r :=
  postIssueComment_runs w.property (inputs i) (h.runs hres)

/-- A call that posts was the first to test its key, and posts its valid payload. -/
lemma of_post_mem (h : Exec attemptedKeys (w.val.calls inputs) log s) {i : ι}
    {request : IssueCommentPost} {outcome : PostOutcome}
    (hpost : (i, ⟨.post request, outcome⟩) ∈ log) :
    ValidFinalPayload (inputs i).val.finalPayload.val ∧ request = w.val.request (inputs i).val ∧
      (i, ⟨.checkKey (inputs i).val.retrySequenceKey, false⟩) ∈ log := by
  obtain ⟨tr, r, hinitial, hattempt⟩ := exchanges_prefix h i
  obtain ⟨hvalid, hrequest, hfirst⟩ := hattempt.of_isPost hinitial (mem_exchangesOf.2 hpost)
  exact ⟨hvalid, hrequest, mem_exchangesOf.1 hfirst⟩

/-- For each key there is at most one post. -/
lemma countP_isPost (h : Exec attemptedKeys (w.val.calls inputs) log s) (key : RetrySequenceKey) :
    log.countP (fun e => isPost e.2 && decide ((inputs e.1).val.retrySequenceKey = key)) ≤ 1 := by
  by_contra hcontra
  obtain ⟨⟨i, e⟩, hmem, he⟩ := List.countP_pos_iff.1 (Nat.zero_lt_one.trans (not_le.1 hcontra))
  rw [Bool.and_eq_true, decide_eq_true_eq] at he
  obtain ⟨hpost, hkey⟩ := he
  have hfirst : ∀ {j : ι} {e : Event WriterCall WriterCall.Answer}, (j, e) ∈ log →
      isPost e = true → (inputs j).val.retrySequenceKey = key →
      (j, ⟨.checkKey key, false⟩) ∈ log := by
    rintro j ⟨c, outcome⟩ hmem hpost hkey
    cases c with
    | post request => exact hkey ▸ (of_post_mem h hmem).2.2
    | checkKey key => simp [isPost] at hpost
    | fetch page => simp [isPost] at hpost
  -- All posts with this key are by the same call, which posts at most once.
  have hle : log.countP (fun e => isPost e.2 && decide ((inputs e.1).val.retrySequenceKey = key)) ≤
      log.countP (fun e => isPost e.2 && decide (e.1 = i)) := by
    refine List.countP_mono_left ?_
    rintro ⟨j, e'⟩ hmem' he'
    rw [Bool.and_eq_true, decide_eq_true_eq] at he' ⊢
    exact ⟨he'.1, first_unique h (hfirst hmem' he'.1 he'.2) (hfirst hmem hpost hkey)⟩
  have hone : log.countP (fun e => isPost e.2 && decide (e.1 = i)) ≤ 1 := by
    obtain ⟨tr, r, hinitial, hattempt⟩ := exchanges_prefix h i
    have hcount : (exchangesOf i log).countP isPost =
        log.countP (fun e => isPost e.2 && decide (e.1 = i)) := by
      rw [exchangesOf, List.countP_map, List.countP_filter]
      rfl
    rw [← hcount]
    exact (hinitial.sublist.countP_le).trans hattempt.countP_isPost
  exact hcontra (hle.trans hone)

end Execution

/-- Calls on one writer, in any number and in any order, with any answers of its transports: for
each key there is at most one post, and it is of a valid payload; every other call with the key only
recovers and reports no post; every call that returns gives a result, which is posted only if the
response is by the approved actor and reconciled only if the recovery scan found a trusted comment
with the marker of the payload. -/
theorem postIssueComment_atMostOnce (w : Checked GitHubIssueCommentWriter)
    (inputs : ι → Checked FinalizedIssueCommentWriterInput)
    {log : List (ι × Event WriterCall WriterCall.Answer)}
    {s : System ι (List RetrySequenceKey) WriterCall WriterCall.Answer
      (Result GitHubIssueCommentWriterAttemptResult)}
    (h : Exec attemptedKeys (w.val.calls inputs) log s) :
    (∀ key, log.countP
      (fun e => isPost e.2 && decide ((inputs e.1).val.retrySequenceKey = key)) ≤ 1) ∧
    (∀ i request outcome, (i, ⟨.post request, outcome⟩) ∈ log →
      request = w.val.request (inputs i).val ∧ ∃ validation : Checked PayloadValidationResult,
        validateFinalIssueCommentPayload (some (inputs i).val.finalPayload) = .ok validation ∧
          validation.val.status = .pass) ∧
    (∀ i j, i ≠ j → (inputs i).val.retrySequenceKey = (inputs j).val.retrySequenceKey →
      (i, ⟨.checkKey (inputs i).val.retrySequenceKey, false⟩) ∈ log →
      (∀ e, (j, e) ∈ log → e = ⟨.checkKey (inputs j).val.retrySequenceKey, true⟩ ∨
        ∃ page outcome, e = ⟨.fetch page, outcome⟩) ∧
      ∀ r, s.programs j = .ret (.ok r) → r.transportSummary.val.postAttemptCount = 0 ∧
        r.writerResult.val.status ≠ .posted) ∧
    ∀ i res, s.programs i = .ret res → ∃ r, res = .ok r ∧
      (r.writerResult.val.status = .posted → ∃ response,
        (i, ⟨.post (w.val.request (inputs i).val), .response response⟩) ∈ log ∧
          response.authorLogin = some (inputs i).val.approvedActor ∧
          r.writerResult.val.commentId = response.commentId) ∧
      (r.writerResult.val.status = .reconciled → ∃ before scanned pages comment,
        exchangesOf i log = before ++ scanned.map (fun e => ⟨.fetch e.1, e.2⟩) ∧
          (w.val.recoveryScan (inputs i).val).Completes scanned pages ∧
          comment ∈ chainComments pages ∧
          (w.val.recoveryScan (inputs i).val).trusts comment.val = true ∧
          (w.val.recoveryScan (inputs i).val).ExactMarker comment.val ∧
          r.writerResult.val.commentId = some comment.val.commentId) := by
  refine ⟨countP_isPost h, ?_, ?_, ?_⟩
  · intro i request outcome hpost
    obtain ⟨hvalid, hrequest, -⟩ := of_post_mem h hpost
    obtain ⟨validation, hok, hpass, -⟩ :=
      validateFinalIssueCommentPayload_ok (inputs i).val.finalPayload
    exact ⟨hrequest, validation, hok, hpass.2 hvalid⟩
  · intro i j hne hkey hfirst
    have hnot : ⟨.checkKey (inputs j).val.retrySequenceKey, false⟩ ∉ exchangesOf j log := by
      intro hmem
      rw [← hkey] at hmem
      exact hne (first_unique h hfirst (mem_exchangesOf.1 hmem))
    refine ⟨?_, ?_⟩
    · intro e he
      obtain ⟨tr, r, hinitial, hattempt⟩ := exchanges_prefix h j
      exact hattempt.of_not_first hinitial hnot e (mem_exchangesOf.2 he)
    · intro r hret
      obtain ⟨r', hr', hattempt⟩ := attempt_of_returned h hret
      obtain rfl := Except.ok.inj hr'
      rcases hattempt.cases_first with ⟨outcome, rest, htr, -⟩ | ⟨-, hcount, hstatus⟩
      · rw [htr] at hnot
        exact absurd List.mem_cons_self hnot
      · exact ⟨hcount, hstatus⟩
  · intro i res hret
    obtain ⟨r, rfl, hattempt⟩ := attempt_of_returned h hret
    obtain ⟨hposted, hreconciled⟩ := hattempt.status
    refine ⟨r, rfl, ?_, ?_⟩
    · intro hstatus
      obtain ⟨response, hmem, hactor, hcomment⟩ := hposted hstatus
      exact ⟨response, mem_exchangesOf.1 hmem, hactor, hcomment⟩
    · intro hstatus
      obtain ⟨recovery, before, after, htr, hrecovered, hvalid⟩ := hreconciled hstatus
      obtain ⟨scanned, pages, comment, rfl, hfound⟩ :=
        hrecovered.reconciled w.property hvalid hstatus
      exact ⟨before, scanned, pages, comment, htr, hfound⟩

/-- A writer without a recovery scan. -/
def plainWriter : Checked GitHubIssueCommentWriter := ⟨⟨false, [], 30, none⟩, by decide +kernel⟩

/-- There is a writer input whose payload is valid. -/
lemma exists_passing_input : ∃ (input : Checked FinalizedIssueCommentWriterInput)
    (validation : Checked PayloadValidationResult),
    validateFinalIssueCommentPayload (some input.val.finalPayload) = .ok validation ∧
      validation.val.status = .pass := by
  obtain ⟨p, validation, -, hvalidate, hpass⟩ :=
    buildFinalIssueCommentPayload_valid ['1'] firstPullRequest ['x'] [] nothingRedacted
      (by decide +kernel) List.nodup_nil (by simp) (by decide +kernel) rfl
  have hchecks : Record.postInit (⟨p, p.val.finalPayloadHash, p.val.reviewTarget.val.targetHash,
      .safeToPost, ['a'], ['1']⟩ : FinalizedIssueCommentWriterInput) = .ok () :=
    FinalizedIssueCommentWriterInput.postInit_eq_ok.2 ⟨rfl, rfl, rfl, by simp, by simp⟩
  exact ⟨⟨_, hchecks⟩, validation, hvalidate, hpass⟩

/-- A call with a valid payload tests its key, then posts; a plain failure of the post ends it. -/
lemma postIssueComment_of_pass (w : GitHubIssueCommentWriter)
    {input : Checked FinalizedIssueCommentWriterInput}
    {validation : Checked PayloadValidationResult}
    (hvalidate : validateFinalIssueCommentPayload (some input.val.finalPayload) = .ok validation)
    (hpass : validation.val.status = .pass) :
    ∃ k k', w.postIssueComment input.val = .call (.checkKey input.val.retrySequenceKey) k ∧
      k false = .call (.post (w.request input.val)) k' ∧
      (∀ exc, exc.ambiguousAccepted = false → k' (.failure exc) =
        .ret (failedResult input.val {
          outcomeDetail := .transportFailed
          reasonCode := exc.reasonCode.value
          retryable := exc.reasonCode ∈ retryableWriterReasons
          requestId := exc.requestId
          postAttemptCount := 1 })) ∧
      ∀ response, k' (.response response) = .ret (respondedResult input.val response) := by
  unfold postIssueComment
  rw [hvalidate]
  simp only [hpass, ne_eq, not_true_eq_false, if_false]
  refine ⟨_, _, rfl, rfl, ?_, fun _ => rfl⟩
  intro exc haccepted
  simp only [haccepted, Bool.false_eq_true, if_false]

/-- Two calls with the same input: the first one posts, the second one only tests the key. -/
theorem postIssueComment_atMostOnce_twice :
    ∃ (input : Checked FinalizedIssueCommentWriterInput)
      (log : List (Bool × Event WriterCall WriterCall.Answer)), log.length = 3 ∧
      (∀ key, log.countP (fun e => isPost e.2 && decide (input.val.retrySequenceKey = key)) ≤ 1) ∧
      ∀ e, (false, e) ∈ log → e = ⟨.checkKey input.val.retrySequenceKey, true⟩ ∨
        ∃ page outcome, e = ⟨.fetch page, outcome⟩ := by
  obtain ⟨input, validation, hvalidate, hpass⟩ := exists_passing_input
  obtain ⟨k, k', hcheck, hpost, -⟩ := postIssueComment_of_pass plainWriter.val hvalidate hpass
  let inputs : Bool → Checked FinalizedIssueCommentWriterInput := fun _ => input
  have hfirst : Exec attemptedKeys (plainWriter.val.calls inputs) [] _ := .refl
  have hsecond := hfirst.step (.call (i := true) false hcheck (by simp [attemptedKeys, calls]))
  have hthird := hsecond.step (.call (i := true) (.raised) hpost trivial)
  have hfourth := hthird.step (.call (i := false) true hcheck (by simp [attemptedKeys, calls]))
  obtain ⟨hcount, -, hlater, -⟩ := postIssueComment_atMostOnce plainWriter inputs hfourth
  exact ⟨input, _, rfl, hcount, (hlater true false (by decide) rfl (by simp [inputs])).1⟩

end GitHubIssueCommentWriter

end ReviewGraph
