import ReviewGraph.DiffAnchors
import ReviewGraph.LivePagedReads
import ReviewGraph.MarkerReconciliation
import ReviewGraph.TextReaders

/-!
# The marker scan of a live post

`_LivePostGhTransport` of `github_live_post.py` fetches pages of comments with the `gh` command for
`reconcile_paginated_trusted_markers`.  A comment whose body is empty cannot be built, and neither
can the failure for a page beyond the limit of the transport; both end the scan as an unknown
failure.
-/

namespace ReviewGraph

open Interaction

/-! ## Resources -/

/-- The resources that `_assert_live_post_read_args` admits. -/
def isLivePostReadResource (resource : Text) : Bool :=
  let parts := resource.splitOn '/'
  let tail := Text.join "/" (parts.drop 3)
  resource = ("user" : Text) ||
    (3 ≤ parts.length && parts.head? = some ("repos" : Text) &&
      (tail = [] ||
        (tail.startsWith "pulls/" && '?' ∉ tail && (tail.splitOn '/').length = 2) ||
        (tail.startsWith "compare/" && tail.contains "...") ||
        (tail.startsWith "issues/" && ("/comments?per_page=100&page=1" : Text) <:+ tail) ||
        (tail.startsWith "issues/" && tail.contains "/comments?per_page=100&page=" &&
          isPositiveNumber ((tail.splitOn '=').getLastD []))))
where
  /-- A text that is a positive number. -/
  isPositiveNumber (t : Text) : Bool := t ≠ [] && t.all Unicode.isDecimal && 0 < decimalNat t

/-- The resource of a page of comments. -/
def commentsResource (ownerRepo : Text) (prNumber : ℤ) (page : ℤ) : Text :=
  "repos/" ++ (ownerRepo ++ ("/issues/" ++ (Text.ofInt prNumber ++
    ("/comments?per_page=100&page=" ++ Text.ofInt page))))

/-! ## Comments -/

section
/- `str` and `str.lower` of the language. -/
variable (str : Json → Text) (lower : Text → Text)

/-- `str(value or "")`. -/
def strOrEmpty (value : Option Json) : Text :=
  value.elim [] fun v => if isFalsy v then [] else str v

/-- `_user_type`. -/
def userType (user : Option Json) : Text :=
  match user with
  | some (.obj fields) =>
    lower ((Json.lookup fields "type").elim "unknown" fun v =>
      if isFalsy v then "unknown" else str v)
  | _ => "unknown"

/-- `_marker_comment`. -/
def markerComment (item : List (Text × Json)) : Result (Checked PaginatedMarkerComment) :=
  match userLogin (Json.lookup item "user") with
  | none => .error (.valueError "live post payload expected a non-empty string")
  | some login => construct {
      commentId := strOrEmpty str (Json.lookup item "id")
      body := strOrEmpty str (Json.lookup item "body")
      authorLogin := login
      authorType := userType str lower (Json.lookup item "user")
      sourceProvider := "github"
      authorAssociation := none }

/-! ## The transport -/

/-- The outcome of `_get_json` of a live post: a value, a `LivePostCommandError`, or another
exception. -/
inductive LivePostRead
  | json (payload : Json)
  | commandError (reasonCode : Text)
  | raised

/-- `_get_json` of a live post, behind the check of its arguments. -/
def livePostGetJson (decode : Text → JsonDecoding) : GhReadRun → LivePostRead
  | .raised _ => .raised
  | .completed completed =>
    if completed.timedOut then .commandError "timeout"
    else if completed.returncode ≠ 0 then
      .commandError (reasonFromGhFailure completed.stderr completed.returncode)
    else
      match decode completed.stdout with
      | .value payload => .json payload
      | .invalid _ => .commandError "malformed_response"
      | .raised _ => .raised

/-- `_marker_reason_code`. -/
def markerReasonCode (reason : Text) : MarkerReconciliationReasonCode :=
  if reason = "timeout" then .timeout
  else if reason = "rate_limited" then .rateLimited
  else if reason = "forbidden" then .forbidden
  else if reason = "not_found" then .notFound
  else if reason = "unavailable" then .unavailable
  else if reason = "malformed_response" then .malformedPage
  else .transportUnknown

/-- `MarkerScanTransportFailure(...)`, which raises a `ValueError` for a reason that is not one of a
transport. -/
def raiseScanFailure (reasonCode : MarkerReconciliationReasonCode) : FetchOutcome :=
  if h : reasonCode ∈ transportMarkerReconciliationReasonCodes then .failure ⟨reasonCode, none, h⟩
  else .raised

/-- `DEFAULT_PER_PAGE`, the only page size that the resources admit. -/
def livePostPerPage : ℕ := 100

/-- The number of the page at a cursor, `int` of a text. -/
def cursorPage : Cursor → Option ℤ
  | .absent => some 1
  | .string value => DateTime.readInt value
  | .other => none

/-- The end of `get_issue_comments_page`, from the outcome of the command on. -/
def commentsPage (page : ℤ) : LivePostRead → FetchOutcome
  | .raised => .raised
  | .commandError reasonCode => raiseScanFailure (markerReasonCode reasonCode)
  | .json (.arr payload) =>
    match (payload.filterMap objectFields).mapM (markerComment str lower) with
    | .error _ => .raised
    | .ok comments => .page {
        comments
        completed := !decide (payload.length = livePostPerPage)
        nextCursor := if payload.length = livePostPerPage then .string (Text.ofInt (page + 1)) else
          .absent
        requestId := none }
  | .json _ => raiseScanFailure .malformedPage

/-- `_LivePostGhTransport.get_issue_comments_page`, with the outcome of every command. -/
def getIssueCommentsPage (maxPages : ℕ) (read : Text → LivePostRead) (fetch : MarkerFetch) :
    FetchOutcome :=
  match cursorPage fetch.cursor with
  | none => .raised
  | some page =>
    if (maxPages : ℤ) < page then raiseScanFailure .pageCapExceeded
    else
      let resource := commentsResource fetch.ownerRepo fetch.prNumber page
      if isLivePostReadResource resource then commentsPage str lower page (read resource) else
        .raised

end

/-! ## Numbers in texts -/

/-- A number is read back from its digits. -/
lemma readInt_ofNat (n : ℕ) : DateTime.readInt (Text.ofNat n) = some (n : ℤ) := by
  have hdigits : ∀ c ∈ Text.ofNat n, Unicode.isDigit c = true := fun c hc =>
    Json.isDigit_of_mem_toDigits hc
  have hsame : decimalNat (Text.ofNat n) = n := decimalNat_digits n
  have hne : Text.ofNat n ≠ [] := digits_ne_nil n
  rw [readInt_digits hne hdigits, hsame]

/-- The number of the page of a comment list, before its first fetch and after a page. -/
def markerCursor (page : ℕ) : Cursor := if page ≤ 1 then .absent else .string (Text.ofNat page)

/-- The cursor of a page is read back. -/
@[simp] lemma cursorPage_markerCursor {page : ℕ} (hpage : 1 ≤ page) :
    cursorPage (markerCursor page) = some (page : ℤ) := by
  unfold markerCursor
  split
  · have hone : page = 1 := by omega
    rw [hone]
    rfl
  · exact readInt_ofNat page

/-- The pages of comments of a reference may be read. -/
lemma isLivePostReadResource_commentsResource {ref : GitHubPRRef} (href : ref.Valid) {page : ℕ}
    (hpage : 1 ≤ page) :
    isLivePostReadResource (commentsResource (ref.owner ++ ("/" ++ ref.repo)) ref.prNumber page) =
      true := by
  have hslashName : ∀ c, RestPattern.isNameChar c = true → c ≠ '/' := by
    rintro c hc rfl
    exact absurd hc (by decide)
  have hdigitSlash : ∀ n, '/' ∉ Text.ofNat n := by
    intro n hmem
    exact absurd (Json.isDigit_of_mem_toDigits hmem) (by decide)
  have hdigitEq : ∀ n, '=' ∉ Text.ofNat n := by
    intro n hmem
    exact absurd (Json.isDigit_of_mem_toDigits hmem) (by decide)
  have hrepos : ("repos/" : Text) = ("repos" : Text) ++ ['/'] := by decide +kernel
  have hissues : ("/issues/" : Text) = '/' :: (("issues" : Text) ++ ['/']) := by decide +kernel
  have hcomments : ("/comments?per_page=100&page=" : Text) =
      '/' :: ("comments?per_page=100&page=" : Text) := by decide +kernel
  have hslash : ("/" : Text) = ['/'] := by decide +kernel
  have hquerySlash : '/' ∉ ("comments?per_page=100&page=" : Text) ++ Text.ofNat page := by
    rw [List.mem_append, not_or]
    exact ⟨by decide +kernel, hdigitSlash page⟩
  have hsplit : commentsResource (ref.owner ++ (("/" : Text) ++ ref.repo)) ref.prNumber page =
      ("repos" : Text) ++ '/' :: (ref.owner ++ '/' :: (ref.repo ++ '/' :: (("issues" : Text) ++
        '/' :: (Text.ofNat ref.prNumber ++
          '/' :: (("comments?per_page=100&page=" : Text) ++ Text.ofNat page))))) := by
    unfold commentsResource
    rw [hrepos, hissues, hcomments, hslash]
    simp [Text.ofInt]
  have hparts : (commentsResource (ref.owner ++ (("/" : Text) ++ ref.repo)) ref.prNumber
      page).splitOn '/' =
      [("repos" : Text), ref.owner, ref.repo, ("issues" : Text), Text.ofNat ref.prNumber,
        ("comments?per_page=100&page=" : Text) ++ Text.ofNat page] := by
    rw [hsplit, List.splitOn_append_cons_self_of_not_mem (by decide +kernel),
      List.splitOn_append_cons_self_of_not_mem fun h => hslashName _ (href.owner _ h) rfl,
      List.splitOn_append_cons_self_of_not_mem fun h => hslashName _ (href.repo _ h) rfl,
      List.splitOn_append_cons_self_of_not_mem (by decide +kernel),
      List.splitOn_append_cons_self_of_not_mem (hdigitSlash _),
      List.splitOn_eq_singleton hquerySlash]
  set tail : Text := ("issues/" : Text) ++ (Text.ofNat ref.prNumber ++
    (("/comments?per_page=100&page=" : Text) ++ Text.ofNat page)) with htail
  have hjoin : Text.join "/" [("issues" : Text), Text.ofNat ref.prNumber,
      ("comments?per_page=100&page=" : Text) ++ Text.ofNat page] = tail := by
    have hissues' : ("issues/" : Text) = ("issues" : Text) ++ ['/'] := by decide +kernel
    rw [htail, hissues', hcomments]
    simp [Text.join, hslash, List.intercalate, List.intersperse]
  have hlast : (tail.splitOn '=').getLastD [] = Text.ofNat page := by
    have hper : ("/comments?per_page=100&page=" : Text) =
        ("/comments?per_page" : Text) ++ '=' :: (("100&page" : Text) ++ ['=']) := by decide +kernel
    have hsplitEq : tail = (("issues/" : Text) ++
        (Text.ofNat ref.prNumber ++ ("/comments?per_page" : Text))) ++
        '=' :: (("100&page" : Text) ++ '=' :: Text.ofNat page) := by
      rw [htail, hper]
      simp
    rw [hsplitEq, List.splitOn_append_cons_self, List.splitOn_append_cons_self,
      List.splitOn_eq_singleton (hdigitEq page)]
    simp [List.getLastD_eq_getLast?]
  have hnumber : isLivePostReadResource.isPositiveNumber (Text.ofNat page) = true := by
    have hdecimal : (Text.ofNat page).all Unicode.isDecimal = true :=
      List.all_eq_true.2 fun c hc => isDecimal_of_mem_digits hc
    have hvalue : decimalNat (Text.ofNat page) = page := decimalNat_digits page
    have hne : Text.ofNat page ≠ [] := digits_ne_nil page
    have hpositive : 0 < page := hpage
    simp [isLivePostReadResource.isPositiveNumber, hdecimal, hvalue, hne, hpositive]
  have hstarts : tail.startsWith "issues/" = true := by
    rw [Text.startsWith, List.isPrefixOf_iff_prefix]
    exact List.prefix_append _ _
  have hcontains : tail.contains "/comments?per_page=100&page=" = true := by
    refine decide_eq_true ⟨("issues/" : Text) ++ Text.ofNat ref.prNumber, Text.ofNat page, ?_⟩
    rw [htail]
    simp
  unfold isLivePostReadResource
  dsimp only
  rw [hparts]
  simp only [List.drop_succ_cons, List.drop_zero, hjoin, hlast, hnumber, hstarts, hcontains]
  simp

/-! ## Comments that are served -/

/-- `str`; its value for other objects than texts and integers is given. -/
def strOf (other : Json → Text) : Json → Text
  | .int n => Text.ofInt n
  | .str t => t
  | value => other value

/-- A comment as GitHub lists it: an integer as its identifier, a body that is a text or null, and a
user with a login or null. -/
structure IssueComment (item : List (Text × Json)) : Prop where
  /-- The identifier is an integer. -/
  id : ∃ n : ℤ, Json.lookup item "id" = some (.int n)
  /-- The body is a text or null. -/
  body : Json.lookup item "body" = some .null ∨ ∃ t, Json.lookup item "body" = some (.str t)
  /-- The user has a login or is null. -/
  user : Json.lookup item "user" = some .null ∨ ∃ fields login, Json.lookup item "user" = some
    (.obj fields) ∧
    Json.lookup fields "login" = some (.str login) ∧ login ≠ []

/-- A comment has a body that is not empty. -/
def hasBody (item : List (Text × Json)) : Bool :=
  match Json.lookup item "body" with
  | some (.str t) => t ≠ []
  | _ => false

/-- A comment that `PaginatedMarkerComment` rejects: its body is empty, or its identifier is
zero. -/
def IsUnbuildable (item : List (Text × Json)) : Prop :=
  hasBody item = false ∨ Json.lookup item "id" = some (.int 0)

section
variable (other : Json → Text) (lower : Text → Text)

/-- A number has a digit. -/
lemma ofInt_ne_nil (n : ℤ) : Text.ofInt n ≠ [] := by
  cases n with
  | ofNat n => exact digits_ne_nil n
  | negSucc n => exact List.cons_ne_nil _ _

/-- A comment is built exactly if it can be. -/
lemma markerComment_eq_ok_iff {item : List (Text × Json)} (h : IssueComment item) :
    (∃ comment, markerComment (strOf other) lower item = .ok comment) ↔ ¬ IsUnbuildable item := by
  obtain ⟨n, hid⟩ := h.id
  have hlogin : ∃ login, userLogin (Json.lookup item "user") = some login := by
    rcases h.user with hnull | ⟨fields, login, huser, hname, hne⟩
    · exact ⟨"unknown", by rw [hnull]; rfl⟩
    · refine ⟨login, ?_⟩
      rw [huser]
      simp only [userLogin, hname]
      rw [if_neg hne]
  obtain ⟨login, hlogin⟩ := hlogin
  have hidText : strOrEmpty (strOf other) (Json.lookup item "id") ≠ [] ↔ n ≠ 0 := by
    by_cases hn : n = 0
    · simp [hid, strOrEmpty, isFalsy, hn]
    · simp [hid, strOrEmpty, isFalsy, hn, strOf, ofInt_ne_nil]
  have hbodyText : strOrEmpty (strOf other) (Json.lookup item "body") ≠ [] ↔
      hasBody item = true := by
    rcases h.body with hnull | ⟨t, ht⟩
    · simp [hnull, strOrEmpty, isFalsy, hasBody]
    · by_cases hempty : t = []
      · simp [ht, strOrEmpty, isFalsy, hasBody, hempty]
      · simp [ht, strOrEmpty, isFalsy, hasBody, hempty, strOf]
  have hgithub : ("github" : Text) ≠ [] := by simp
  unfold markerComment IsUnbuildable
  rw [hlogin]
  simp only [construct_eq_ok]
  rw [not_or, Bool.not_eq_false, ← hbodyText, hid]
  simp only [Option.some.injEq, Json.int.injEq]
  rw [← ne_eq, ← hidText, hid]
  constructor
  · rintro ⟨comment, hval⟩
    have hchecks := comment.property
    rw [hval] at hchecks
    simp only [Record.postInit, check_bind_eq_ok, require_eq_ok] at hchecks
    exact ⟨hchecks.2.1, hchecks.1⟩
  · rintro ⟨hbody, hident⟩
    refine ⟨⟨_, ?_⟩, rfl⟩
    simp only [Record.postInit, check_bind_eq_ok, require_eq_ok]
    exact ⟨hident, hbody, hgithub, by simp⟩

/-- Comments are built together exactly if each of them can be. -/
lemma markerComments_eq_ok_iff {items : List (List (Text × Json))} (h : ∀ item ∈ items,
    IssueComment item) :
    (∃ comments, items.mapM (markerComment (strOf other) lower) = .ok comments) ↔
      ∀ item ∈ items, ¬ IsUnbuildable item := by
  constructor
  · rintro ⟨comments, hmap⟩ item hitem
    rw [mapM_eq_ok] at hmap
    obtain ⟨comment, -, hok⟩ := hmap.flip.exists_of_mem_right hitem
    exact (markerComment_eq_ok_iff other lower (h item hitem)).1 ⟨comment, hok⟩
  · intro hbuild
    obtain ⟨comments, hok, -⟩ := exists_mapM_eq_ok (R := fun _ _ => True) fun item hitem => by
      obtain ⟨comment, hcomment⟩ := (markerComment_eq_ok_iff other lower (h item hitem)).2
          (hbuild item hitem)
      exact ⟨comment, hcomment, trivial⟩
    exact ⟨comments, hok⟩

end

/-! ## States of the scan -/

/-- Two states have found the same in the comments. -/
structure SameFindings (st st' : MarkerScanState) : Prop where
  trustedMatch : st.trustedMatch = st'.trustedMatch
  duplicates : st.duplicateCommentIds = st'.duplicateCommentIds
  deferred : st.deferredFailure = st'.deferredFailure
  requestId : st.requestId = st'.requestId

/-- Two results say the same. -/
structure SameVerdict (r r' : MarkerReconciliationResult) : Prop where
  status : r.status = r'.status
  reasonCode : r.reasonCode = r'.reasonCode
  existing : r.existingCommentId = r'.existingCommentId
  duplicates : r.duplicateCommentIds = r'.duplicateCommentIds

section
variable {args : MarkerScanArguments}

/-- Having found the same is symmetric. -/
lemma SameFindings.symm {st st' : MarkerScanState} (h : SameFindings st st') :
    SameFindings st' st :=
  ⟨h.trustedMatch.symm, h.duplicates.symm, h.deferred.symm, h.requestId.symm⟩

/-- It is transitive. -/
lemma SameFindings.trans {st st' st'' : MarkerScanState} (h : SameFindings st st')
    (h' : SameFindings st' st'') : SameFindings st st'' :=
  ⟨h.trustedMatch.trans h'.trustedMatch, h.duplicates.trans h'.duplicates,
    h.deferred.trans h'.deferred,
    h.requestId.trans h'.requestId⟩

/-- A comment adds the same to states that have found the same. -/
lemma SameFindings.acceptComment {st st' : MarkerScanState} (h : SameFindings st st')
    (comment : Checked PaginatedMarkerComment) :
    SameFindings (args.acceptComment st comment) (args.acceptComment st' comment) := by
  obtain ⟨hmatch, hduplicates, hdeferred, hrequest⟩ := h
  unfold MarkerScanArguments.acceptComment MarkerScanState.defer MarkerScanState.recordMatch
  dsimp only
  cases args.trusts comment.val with
  | false =>
    simp only [Bool.not_false, if_true]
    split_ifs
    · exact ⟨hmatch, hduplicates, hdeferred, hrequest⟩
    · exact ⟨hmatch, hduplicates, hdeferred, hrequest⟩
  | true =>
    simp only [Bool.not_true, Bool.false_eq_true, if_false]
    cases (bodyFinalLine comment.val.body).bind parseReviewgraphV1MarkerLine with
    | none =>
      cases looksLikeReviewgraphMarker (bodyFinalLine comment.val.body) with
      | false => exact ⟨hmatch, hduplicates, hdeferred, hrequest⟩
      | true =>
        exact ⟨hmatch, hduplicates, by simp [hdeferred, hrequest], hrequest⟩
    | some marker =>
      simp only [Option.isSome_some, Bool.true_or, if_true]
      split_ifs
      · exact ⟨hmatch, hduplicates, hdeferred, hrequest⟩
      · exact ⟨hmatch, hduplicates, by simp [hdeferred, hrequest], hrequest⟩
      · rw [hmatch]
        cases st'.trustedMatch with
        | none => exact ⟨rfl, hduplicates, hdeferred, hrequest⟩
        | some first => exact ⟨rfl, by simp [hduplicates], hdeferred, hrequest⟩

/-- It is kept by comments that both scans accept. -/
lemma SameFindings.foldl {st st' : MarkerScanState} (h : SameFindings st st')
    (comments : List (Checked PaginatedMarkerComment)) :
    SameFindings (comments.foldl args.acceptComment st)
      (comments.foldl args.acceptComment st') := by
  induction comments generalizing st st' with
  | nil => exact h
  | cons comment comments ih => exact ih (h.acceptComment comment)

/-- States that have found the same end in results that say the same. -/
lemma SameFindings.finish {st st' : MarkerScanState} (h : SameFindings st st')
    {r r' : Checked MarkerReconciliationResult} (hr : st.finish = .ok r)
    (hr' : st'.finish = .ok r') :
    SameVerdict r.val r'.val := by
  unfold MarkerScanState.finish at hr hr'
  rw [← h.deferred] at hr'
  split at hr
  · rename_i code requestId hdeferred
    rw [hdeferred] at hr'
    unfold MarkerScanState.failure trustedMarkerFailure at hr hr'
    obtain ⟨_, -, hr⟩ := bind_eq_ok.1 hr
    obtain ⟨_, -, hr'⟩ := bind_eq_ok.1 hr'
    rw [construct_eq_ok] at hr hr'
    rw [hr, hr']
    exact ⟨rfl, rfl, rfl, rfl⟩
  · rename_i hdeferred
    rw [hdeferred, ← h.trustedMatch] at hr'
    split at hr
    · rename_i comment hmatch
      rw [hmatch] at hr'
      obtain ⟨_, -, hr⟩ := bind_eq_ok.1 hr
      obtain ⟨_, -, hr'⟩ := bind_eq_ok.1 hr'
      rw [construct_eq_ok] at hr hr'
      rw [hr, hr']
      exact ⟨rfl, rfl, rfl, h.duplicates⟩
    · rename_i hmatch
      rw [hmatch] at hr'
      obtain ⟨_, -, hr⟩ := bind_eq_ok.1 hr
      obtain ⟨_, -, hr'⟩ := bind_eq_ok.1 hr'
      rw [construct_eq_ok] at hr hr'
      rw [hr, hr']
      exact ⟨rfl, rfl, rfl, rfl⟩

/-- The findings of a state are those of some comments. -/
lemma SameFindings.records {st st' : MarkerScanState} (h : SameFindings st st')
    {comments : List (Checked PaginatedMarkerComment)} (hrecords : args.Records st' comments) :
    args.Records st comments := by
  refine ⟨h.trustedMatch.trans hrecords.firstMatch, h.duplicates.trans hrecords.duplicates, ?_, ?_⟩
  · rw [h.deferred]
    exact hrecords.deferred
  · rw [h.deferred]
    exact hrecords.reason

/-- A page without a request identifier, as a transport builds it. -/
structure PlainPage (page : MarkerCommentPage) : Prop where
  /-- A last page has no cursor. -/
  last : page.completed = true → page.nextCursor = .absent
  /-- Another page has a text as its cursor. -/
  next : page.completed = false → isValidMarkerCursor page.nextCursor = true
  /-- There is no request identifier. -/
  requestId : page.requestId = none

/-- What a plain page does to the scan. -/
lemma acceptPage_plain {st : MarkerScanState} {page : MarkerCommentPage} (hpage : PlainPage page)
    (hrequest : st.requestId = none) (hnew : page.completed = false →
      page.nextCursor ∉ st.seenCursors) :
    (args.scanLimits.maxComments < st.commentCount + page.comments.length ∧
      ∃ st', args.acceptPage st page = .error (.commentCapExceeded, st')) ∨
    (st.commentCount + page.comments.length ≤ args.scanLimits.maxComments ∧
      ∃ st', args.acceptPage st page = .ok st' ∧
        SameFindings st' (page.comments.foldl args.acceptComment st) ∧
        (page.completed = false → st'.cursor = page.nextCursor ∧
          st'.seenCursors = page.nextCursor :: st.seenCursors ∧
            st'.commentCount = st.commentCount + page.comments.length)) := by
  have hsafe : safeMarkerRequestId page.requestId = none := by
    rw [hpage.requestId]
    rfl
  have hmalformed : ¬ (page.completed = true ∧ page.nextCursor ≠ .absent) := fun h =>
      h.2 (hpage.last h.1)
  have hincomplete : ¬ (page.completed = false ∧ page.nextCursor = .absent) := by
    rintro ⟨hcompleted, habsent⟩
    have hvalid := hpage.next hcompleted
    rw [habsent] at hvalid
    exact absurd hvalid (by decide)
  have hinvalid : ¬ (page.completed = false ∧ isValidMarkerCursor page.nextCursor = false) := by
    rintro ⟨hcompleted, hfalse⟩
    rw [hpage.next hcompleted] at hfalse
    exact absurd hfalse (by decide)
  unfold MarkerScanArguments.acceptPage
  dsimp only
  rw [if_neg hmalformed, if_neg hincomplete, if_neg hinvalid]
  split
  · rename_i hcap
    exact .inl ⟨hcap, _, rfl⟩
  rename_i hcap
  refine .inr ⟨Nat.not_lt.1 hcap, ?_⟩
  set counted : MarkerScanState := { st with
    pageCount := st.pageCount + 1
    requestId := safeMarkerRequestId page.requestId
    commentCount := st.commentCount + page.comments.length }
  have hstart : SameFindings counted st := ⟨rfl, rfl, rfl, hsafe.trans hrequest.symm⟩
  have hfold : SameFindings (page.comments.foldl args.acceptComment counted)
      (page.comments.foldl args.acceptComment st) := hstart.foldl page.comments
  obtain ⟨-, hseen, -, hcount, -⟩ := args.sameFrame_foldl counted page.comments
  split
  · rename_i hcompleted
    exact ⟨_, rfl, hfold, fun h => absurd (hcompleted.symm.trans h) (by simp)⟩
  rename_i hcompleted
  rw [Bool.not_eq_true] at hcompleted
  have hfresh : page.nextCursor ∉ (page.comments.foldl args.acceptComment counted).seenCursors := by
    rw [hseen]
    exact hnew hcompleted
  rw [if_neg hfresh]
  refine ⟨_, rfl, ⟨hfold.trustedMatch, hfold.duplicates, hfold.deferred, hfold.requestId⟩, ?_⟩
  intro _
  exact ⟨rfl, by rw [hseen], hcount⟩

end

/-! ## Pages that are served -/

/-- The comments of a pull request, which `gh` serves by the numbers of their pages. -/
structure ServesComments (args : MarkerScanArguments) (read : Text → LivePostRead)
    (items : List (List (Text × Json))) : Prop where
  /-- The scan is about a pull request. -/
  ref : ∃ ref : GitHubPRRef, ref.Valid ∧ args.ownerRepo = ref.owner ++ (("/" : Text) ++ ref.repo) ∧
    args.prNumber = ref.prNumber
  /-- The comments are as GitHub lists them. -/
  comments : ∀ item ∈ items, IssueComment item
  /-- A page has its part of the list. -/
  pages : ∀ page : ℕ, 1 ≤ page → read (commentsResource args.ownerRepo args.prNumber page) =
    .json (.arr ((LiveRead.onPage livePostPerPage page items).map .obj))

section
variable {args : MarkerScanArguments} {maxPages : ℕ} {other : Json → Text} {lower : Text → Text}
  {read : Text → LivePostRead} {items : List (List (Text × Json))}

/-- A page beyond the limit of the transport raises, because the failure cannot be built. -/
lemma getIssueCommentsPage_of_lt {page : ℕ} (hpage : 1 ≤ page) (hlt : maxPages < page)
    (timeout : ℕ) :
    getIssueCommentsPage (strOf other) lower maxPages read
      ⟨args.ownerRepo, args.prNumber, markerCursor page, timeout⟩ = .raised := by
  have hlt' : (maxPages : ℤ) < (page : ℤ) := Int.ofNat_lt.2 hlt
  unfold getIssueCommentsPage
  rw [cursorPage_markerCursor hpage]
  dsimp only
  rw [if_pos hlt']
  decide

/-- A page within the limit of the transport has its part of the list, if its comments can be
built. -/
lemma getIssueCommentsPage_of_le (other : Json → Text) (lower : Text → Text)
    (hserves : ServesComments args read items) {page : ℕ} (hpage : 1 ≤ page)
    (hle : page ≤ maxPages) (timeout : ℕ) :
    getIssueCommentsPage (strOf other) lower maxPages read
        ⟨args.ownerRepo, args.prNumber, markerCursor page, timeout⟩ =
      match (LiveRead.onPage livePostPerPage page items).mapM
        (markerComment (strOf other) lower) with
      | .error _ => .raised
      | .ok comments => .page {
          comments
          completed := !decide ((LiveRead.onPage livePostPerPage page items).length =
            livePostPerPage)
          nextCursor :=
            if (LiveRead.onPage livePostPerPage page items).length = livePostPerPage then
              .string (Text.ofNat (page + 1))
            else .absent
          requestId := none } := by
  obtain ⟨ref, href, howner, hnumber⟩ := hserves.ref
  have hle' : ¬ (maxPages : ℤ) < (page : ℤ) := by omega
  have hresource : isLivePostReadResource (commentsResource args.ownerRepo args.prNumber page) =
      true := by
    rw [howner, hnumber]
    exact isLivePostReadResource_commentsResource href hpage
  have hobjects : ((LiveRead.onPage livePostPerPage page items).map Json.obj).filterMap
      objectFields =
      LiveRead.onPage livePostPerPage page items := by
    rw [List.filterMap_map]
    exact List.filterMap_some
  unfold getIssueCommentsPage
  rw [cursorPage_markerCursor hpage]
  dsimp only
  rw [if_neg hle', if_pos hresource, hserves.pages page hpage]
  unfold commentsPage
  dsimp only
  rw [hobjects, List.length_map]
  rfl

/-- The scan ends as an unknown failure: a page with a comment that cannot be built is fetched, or
the page behind the limit of the transport. -/
def ScanBreaks (limits : MarkerScanLimits) (maxPages : ℕ) (items : List (List (Text × Json))) :
    Prop :=
  (∃ i item, items[i]? = some item ∧ IsUnbuildable item ∧ i / livePostPerPage < limits.maxPages ∧
    i / livePostPerPage < maxPages ∧ livePostPerPage * (i / livePostPerPage) ≤ limits.maxComments) ∨
  (maxPages < limits.maxPages ∧ livePostPerPage * maxPages ≤ items.length ∧
    livePostPerPage * maxPages ≤ limits.maxComments)

/-- The list is within the limits. -/
def WithinLimits (limits : MarkerScanLimits) (maxPages : ℕ) (items : List (List (Text × Json))) :
    Prop :=
  items.length < livePostPerPage * min limits.maxPages maxPages ∧ items.length ≤ limits.maxComments

/-- The state before the fetch of a page, behind the given number of full pages. -/
structure BeforeFetch (st : MarkerScanState) (pages : ℕ) : Prop where
  /-- The cursor is that of the next page. -/
  cursor : st.cursor = markerCursor (pages + 1)
  /-- The cursors so far are those of the pages up to the next one. -/
  seen : ∀ cursor ∈ st.seenCursors, ∃ k ≤ pages + 1, cursor = markerCursor k
  /-- The pages were full. -/
  commentCount : st.commentCount = livePostPerPage * pages
  /-- There is no request identifier. -/
  requestId : st.requestId = none

/-- The cursor of the page after the next one has not been seen. -/
lemma BeforeFetch.next_not_mem {st : MarkerScanState} {pages : ℕ} (h : BeforeFetch st pages) :
    Cursor.string (Text.ofNat (pages + 2)) ∉ st.seenCursors := by
  intro hmem
  obtain ⟨k, hk, heq⟩ := h.seen _ hmem
  unfold markerCursor at heq
  split at heq
  · contradiction
  · have hpage : pages + 2 = k := ofNat_injective (Cursor.string.inj heq)
    omega

/-- What a scan of a list that is served returns. -/
def ScanOf (args : MarkerScanArguments) (maxPages : ℕ) (other : Json → Text) (lower : Text → Text)
    (items : List (List (Text × Json))) (r : Checked MarkerReconciliationResult) : Prop :=
  (ScanBreaks args.scanLimits maxPages items ∧ r.val.reasonCode = .transportUnknown) ∨
  (¬ ScanBreaks args.scanLimits maxPages items ∧ ¬ WithinLimits args.scanLimits maxPages items ∧
    r.val.status = .failedClosed ∧
      (r.val.reasonCode = .pageCapExceeded ∨ r.val.reasonCode = .commentCapExceeded)) ∨
  (¬ ScanBreaks args.scanLimits maxPages items ∧ WithinLimits args.scanLimits maxPages items ∧
    ∃ comments st, items.mapM (markerComment (strOf other) lower) = .ok comments ∧
      SameFindings st (comments.foldl args.acceptComment .initial) ∧ st.finish = .ok r)

/-- A failure with a reason of a failure. -/
lemma exists_failure (st : MarkerScanState) (code : MarkerReconciliationReasonCode)
    (h₁ : code ≠ .safeToPost) (h₂ : code ≠ .matchedExisting) (requestId : Option Text) :
    ∃ r, st.failure code requestId = .ok r ∧ r.val.status = .failedClosed ∧
      r.val.reasonCode = code := by
  obtain ⟨r, s, hr, -, hval⟩ :=
    trustedMarkerFailure_ok h₁ h₂ st.pageCount st.commentCount st.markerCount requestId
  refine ⟨r, hr, ?_, ?_⟩
  · rw [hval]
  · rw [hval]

/-- A comment that cannot be built, on the page behind the given number of full pages. -/
lemma scanBreaks_of_page {limits : MarkerScanLimits} {pages : ℕ} (hpages : pages < limits.maxPages)
    (hmax : pages < maxPages) (hcount : livePostPerPage * pages ≤ limits.maxComments)
    {item : List (Text × Json)} (hitem : item ∈ LiveRead.onPage livePostPerPage (pages + 1) items)
    (hbad : IsUnbuildable item) : ScanBreaks limits maxPages items := by
  obtain ⟨k, hk, hget⟩ := List.getElem_of_mem hitem
  have hlength := LiveRead.length_onPage livePostPerPage (pages + 1) items
  have hklt : k < livePostPerPage := by omega
  have hindex : items[livePostPerPage * pages + k]? = some item := by
    have hsome : (LiveRead.onPage livePostPerPage (pages + 1) items)[k]? = some item := by
      rw [List.getElem?_eq_getElem hk, hget]
    rw [LiveRead.onPage, List.getElem?_take_of_lt hklt, List.getElem?_drop, Nat.add_sub_cancel,
      Nat.mul_comm] at hsome
    exact hsome
  have hdiv : (livePostPerPage * pages + k) / livePostPerPage = pages := by
    rw [Nat.mul_add_div (by decide), Nat.div_eq_of_lt hklt, Nat.add_zero]
  exact .inl ⟨_, item, hindex, hbad, by rw [hdiv]; exact hpages, by rw [hdiv]; exact hmax,
    by rw [hdiv]; exact hcount⟩

/-- The first comments that could be built were all that a scan behind them can break on. -/
lemma not_scanBreaks {limits : MarkerScanLimits} {pages : ℕ}
    (hbuilt : ∀ item ∈ items.take (livePostPerPage * pages), ¬ IsUnbuildable item)
    (hrest : items.length < livePostPerPage * pages ∨ limits.maxPages ≤ pages ∨ maxPages ≤ pages ∨
      items.length = livePostPerPage * pages ∨ limits.maxComments < livePostPerPage * pages)
    (hlimit : ¬ (maxPages < limits.maxPages ∧ livePostPerPage * maxPages ≤ items.length ∧
      livePostPerPage * maxPages ≤ limits.maxComments)) : ¬ ScanBreaks limits maxPages items := by
  rintro (⟨i, item, hget, hbad, hpages, hmax, hcount⟩ | h)
  · have hi : i < items.length := (List.getElem?_eq_some_iff.1 hget).1
    by_cases hlt : i < livePostPerPage * pages
    · refine hbuilt item (List.mem_take_iff_getElem.2 ⟨i, lt_min hlt hi, ?_⟩) hbad
      exact (List.getElem?_eq_some_iff.1 hget).2
    · have hle : pages ≤ i / livePostPerPage :=
        (Nat.le_div_iff_mul_le (by decide)).2 (by rw [Nat.mul_comm]; exact not_lt.1 hlt)
      have hmul : livePostPerPage * pages ≤ livePostPerPage * (i / livePostPerPage) :=
        Nat.mul_le_mul_left _ hle
      omega
  · exact hlimit h

/-- The next page goes on where the pages before it end. -/
lemma take_onPage (items : List (List (Text × Json))) (pages : ℕ) :
    items.take (livePostPerPage * (pages + 1)) =
      items.take (livePostPerPage * pages) ++ LiveRead.onPage livePostPerPage
        (pages + 1) items := by
  rw [Nat.mul_succ, List.take_add, LiveRead.onPage, Nat.add_sub_cancel, Nat.mul_comm pages]

/-- A page of comments that is not built has a comment that cannot be. -/
lemma exists_isUnbuildable {onPage : List (List (Text × Json))}
    (hlegal : ∀ item ∈ onPage, IssueComment item) {e : PyError}
    (hbuild : onPage.mapM (markerComment (strOf other) lower) = .error e) :
    ∃ item ∈ onPage, IsUnbuildable item := by
  by_contra hnone
  push Not at hnone
  obtain ⟨comments, hok⟩ := (markerComments_eq_ok_iff other lower hlegal).2 hnone
  rw [hbuild] at hok
  contradiction

/-- A full page leads to the next one. -/
lemma BeforeFetch.advance {st st' : MarkerScanState} {pages : ℕ}
    {comments : List (Checked PaginatedMarkerComment)} (hst : BeforeFetch st pages)
    (hfull : comments.length = livePostPerPage)
    (hcursor : st'.cursor = .string (Text.ofNat (pages + 2)))
    (hseen : st'.seenCursors = .string (Text.ofNat (pages + 2)) :: st.seenCursors)
    (hcommentCount : st'.commentCount = st.commentCount + comments.length)
    (hsame : SameFindings st' (comments.foldl args.acceptComment st)) :
    BeforeFetch st' (pages + 1) := by
  have hnext : Cursor.string (Text.ofNat (pages + 2)) = markerCursor (pages + 2) :=
    (if_neg (by omega)).symm
  refine ⟨hcursor.trans hnext, ?_, ?_, ?_⟩
  · intro cursor hmem
    rw [hseen] at hmem
    rcases List.mem_cons.1 hmem with rfl | hmem
    · exact ⟨pages + 2, le_rfl, hnext⟩
    · obtain ⟨k, hk, heq⟩ := hst.seen cursor hmem
      exact ⟨k, Nat.le_succ_of_le hk, heq⟩
  · rw [hcommentCount, hst.commentCount, hfull, Nat.mul_succ]
  · rw [hsame.requestId]
    have hframe := args.sameFrame_foldl st comments
    exact hframe.2.2.2.2.trans hst.requestId

/-- The scan stops at the page cap. -/
lemma exists_scanOf_pageCap {pages : ℕ} (st : MarkerScanState)
    (hmaxPages : args.scanLimits.maxPages = pages) (hmax : pages ≤ maxPages)
    (hlength : livePostPerPage * pages ≤ items.length)
    (hbuilt : ∀ item ∈ items.take (livePostPerPage * pages), ¬ IsUnbuildable item) :
    ∃ r, (args.scan 0 st).answer (getIssueCommentsPage (strOf other) lower maxPages read) = .ok r ∧
      ScanOf args maxPages other lower items r := by
  obtain ⟨r, hr, hstatus, hcode⟩ := exists_failure st .pageCapExceeded (by decide) (by decide)
    st.requestId
  refine ⟨r, hr, .inr (.inl ⟨?_, ?_, hstatus, .inl hcode⟩)⟩
  · exact not_scanBreaks hbuilt (.inr (.inl hmaxPages.le)) (by omega)
  · rintro ⟨hlt, -⟩
    have hmin : min args.scanLimits.maxPages maxPages = pages := by omega
    rw [hmin] at hlt
    omega

/-- The scan stops where the transport raises. -/
lemma exists_scanOf_raised {remaining : ℕ} {st : MarkerScanState}
    (hraises : getIssueCommentsPage (strOf other) lower maxPages read (args.fetch st) = .raised)
    (hbreaks : ScanBreaks args.scanLimits maxPages items) :
    ∃ r, (args.scan (remaining + 1) st).answer
      (getIssueCommentsPage (strOf other) lower maxPages read) = .ok r ∧
      ScanOf args maxPages other lower items r := by
  obtain ⟨r, hr, -, hcode⟩ := exists_failure st .transportUnknown (by decide) (by decide)
    st.requestId
  refine ⟨r, ?_, .inl ⟨hbreaks, hcode⟩⟩
  rw [MarkerScanArguments.scan, Prog.answer, hraises]
  exact hr

/-- The scan of a list that is served, behind some full pages. -/
lemma exists_scanOf (hserves : ServesComments args read items) {remaining pages : ℕ}
    {st : MarkerScanState}
    (hremaining : pages + remaining = args.scanLimits.maxPages) (hmax : pages ≤ maxPages)
    (hlength : livePostPerPage * pages ≤ items.length)
    (hcap : livePostPerPage * pages ≤ args.scanLimits.maxComments) (hst : BeforeFetch st pages)
    {done : List (Checked PaginatedMarkerComment)}
    (hdone : (items.take (livePostPerPage * pages)).mapM (markerComment (strOf other) lower) =
      .ok done)
    (hfound : SameFindings st (done.foldl args.acceptComment .initial)) :
    ∃ r, (args.scan remaining st).answer (getIssueCommentsPage (strOf other) lower maxPages read) =
      .ok r ∧
      ScanOf args maxPages other lower items r := by
  have hbuilt : ∀ item ∈ items.take (livePostPerPage * pages), ¬ IsUnbuildable item :=
    (markerComments_eq_ok_iff other lower fun item hitem =>
      hserves.comments item (List.mem_of_mem_take hitem)).1 ⟨done, hdone⟩
  induction remaining generalizing pages st done with
  | zero =>
    exact exists_scanOf_pageCap st (by omega) hmax hlength hbuilt
  | succ remaining ih =>
    have hpage : 1 ≤ pages + 1 := Nat.le_add_left 1 pages
    have hfetch : args.fetch st = ⟨args.ownerRepo, args.prNumber, markerCursor (pages + 1),
        args.scanLimits.timeoutSeconds⟩ := by
      rw [MarkerScanArguments.fetch, hst.cursor]
    by_cases hlast : maxPages ≤ pages
    · -- the transport has no more pages
      have hbeyond : maxPages = pages := le_antisymm hlast hmax
      refine exists_scanOf_raised ?_
        (.inr ⟨by omega, by rw [hbeyond]; exact hlength, by rw [hbeyond]; exact hcap⟩)
      rw [hfetch]
      exact getIssueCommentsPage_of_lt hpage (by omega) _
    rw [not_le] at hlast
    have houtcome := getIssueCommentsPage_of_le other lower hserves hpage hlast
      args.scanLimits.timeoutSeconds
    rw [← hfetch] at houtcome
    set onPage := LiveRead.onPage livePostPerPage (pages + 1) items with honPage
    have hpageLength : onPage.length = min livePostPerPage
        (items.length - livePostPerPage * pages) := by
      rw [honPage, LiveRead.length_onPage, Nat.add_sub_cancel, Nat.mul_comm pages]
    have htake : items.take (livePostPerPage * (pages + 1)) = items.take
        (livePostPerPage * pages) ++ onPage := take_onPage items pages
    cases hbuild : onPage.mapM (markerComment (strOf other) lower) with
    | error e =>
      rw [hbuild] at houtcome
      refine exists_scanOf_raised houtcome ?_
      obtain ⟨item, hitem, hbad⟩ := exists_isUnbuildable (fun item hitem =>
        hserves.comments item (List.mem_of_mem_drop (List.mem_of_mem_take hitem))) hbuild
      exact scanBreaks_of_page (by omega) hlast hcap hitem hbad
    | ok comments =>
      rw [hbuild] at houtcome
      have hcount : comments.length = onPage.length := (mapM_eq_ok.1 hbuild).length_eq.symm
      have hsucc : livePostPerPage * (pages + 1) = livePostPerPage * pages + livePostPerPage :=
        Nat.mul_succ _ _
      have hdone' : (items.take (livePostPerPage * (pages + 1))).mapM
          (markerComment (strOf other) lower) =
          .ok (done ++ comments) := by
        rw [htake, mapM_eq_ok]
        exact List.rel_append (mapM_eq_ok.1 hdone) (mapM_eq_ok.1 hbuild)
      have hbuilt' : ∀ item ∈ items.take (livePostPerPage * (pages + 1)), ¬ IsUnbuildable item :=
        (markerComments_eq_ok_iff other lower fun item hitem =>
          hserves.comments item (List.mem_of_mem_take hitem)).1 ⟨_, hdone'⟩
      have hpages : livePostPerPage * (pages + 1) ≤ livePostPerPage * maxPages :=
        Nat.mul_le_mul_left _ hlast
      set page : MarkerCommentPage := {
        comments
        completed := !decide (onPage.length = livePostPerPage)
        nextCursor := if onPage.length = livePostPerPage then .string
          (Text.ofNat (pages + 1 + 1)) else .absent
        requestId := none } with hpageDef
      have hcompleted : page.completed = true ↔ onPage.length ≠ livePostPerPage := by
        simp [hpageDef]
      have hnext : page.completed = false → onPage.length = livePostPerPage ∧
          page.nextCursor = .string (Text.ofNat (pages + 2)) := by
        intro hnot
        have hfull : onPage.length = livePostPerPage := by
          by_contra hne
          rw [hcompleted.2 hne] at hnot
          contradiction
        exact ⟨hfull, if_pos hfull⟩
      have hplain : PlainPage page := by
        refine ⟨fun h => if_neg (hcompleted.1 h), fun h => ?_, rfl⟩
        rw [(hnext h).2]
        exact decide_eq_true (digits_ne_nil _)
      have hnew : page.completed = false → page.nextCursor ∉ st.seenCursors := by
        intro h
        rw [(hnext h).2]
        exact hst.next_not_mem
      rcases acceptPage_plain hplain hst.requestId hnew with
        ⟨hover, st', haccept⟩ | ⟨hwithin, st', haccept, hsame, hadvance⟩
      · -- the comment cap ends the scan
        have hover' : args.scanLimits.maxComments < livePostPerPage * pages + onPage.length := by
          rw [← hst.commentCount, ← hcount]
          exact hover
        obtain ⟨r, hr, hstatus, hcode⟩ := exists_failure st' .commentCapExceeded (by decide)
            (by decide)
          st'.requestId
        refine ⟨r, ?_, .inr (.inl ⟨?_, ?_, hstatus, .inr hcode⟩)⟩
        · rw [MarkerScanArguments.scan, Prog.answer, houtcome]
          dsimp only
          rw [haccept]
          exact hr
        · exact not_scanBreaks hbuilt' (by omega) (by omega)
        · rintro ⟨-, hle⟩
          omega
      · have hwithin' : livePostPerPage * pages + onPage.length ≤ args.scanLimits.maxComments := by
          rw [← hst.commentCount, ← hcount]
          exact hwithin
        have hfound' : SameFindings st' ((done ++ comments).foldl args.acceptComment .initial) := by
          rw [List.foldl_append]
          exact hsame.trans (hfound.foldl comments)
        by_cases hfull : onPage.length = livePostPerPage
        · have hnot : page.completed = false := by
            rw [← Bool.not_eq_true, hcompleted, not_not]
            exact hfull
          obtain ⟨hcursor, hseen, hcommentCount⟩ := hadvance hnot
          obtain ⟨-, hnextCursor⟩ := hnext hnot
          have hst' : BeforeFetch st' (pages + 1) :=
            hst.advance (hcount.trans hfull) (hcursor.trans hnextCursor)
              (hseen.trans (congrArg (· :: st.seenCursors) hnextCursor)) hcommentCount hsame
          have hlength' : livePostPerPage * (pages + 1) ≤ items.length := by
            rw [hfull] at hpageLength
            omega
          have hcap' : livePostPerPage * (pages + 1) ≤ args.scanLimits.maxComments := by
            rw [hfull] at hwithin'
            omega
          have hremaining' : pages + 1 + remaining = args.scanLimits.maxPages := by omega
          obtain ⟨r, hr, hscan⟩ := ih hremaining' hlast hlength' hcap' hst' hdone' hfound' hbuilt'
          refine ⟨r, ?_, hscan⟩
          rw [MarkerScanArguments.scan, Prog.answer, houtcome]
          dsimp only
          rw [haccept]
          dsimp only
          have hnot' : ¬ (!decide (onPage.length = livePostPerPage)) = true := by simp [hfull]
          rw [if_neg hnot']
          exact hr
        · have hall : items.take (livePostPerPage * (pages + 1)) = items :=
            List.take_of_length_le (by omega)
          rw [hall] at hdone'
          have hrecords : args.Records st' (done ++ comments) :=
            hfound'.records (args.records_foldl args.progress_initial.records (done ++ comments))
          obtain ⟨r, hr, -⟩ := args.finish_verdict hrecords
          refine ⟨r, ?_, .inr (.inr ⟨?_, ⟨?_, by omega⟩, _, st', hdone', hfound', hr⟩)⟩
          · rw [MarkerScanArguments.scan, Prog.answer, houtcome]
            dsimp only
            rw [haccept]
            dsimp only
            rw [if_pos (hcompleted.2 hfull)]
            exact hr
          · exact not_scanBreaks hbuilt' (by omega) (by omega)
          · have hmin : pages + 1 ≤ min args.scanLimits.maxPages maxPages := by omega
            have hbound : livePostPerPage * (pages + 1) ≤
                livePostPerPage * min args.scanLimits.maxPages maxPages :=
                  Nat.mul_le_mul_left _ hmin
            omega

/-! ## Results -/

/-- The limits of a scan are positive. -/
lemma scanLimits_positive (args : MarkerScanArguments) : 0 < args.scanLimits.maxPages := by
  have hchecks := (args.limits.getD MarkerScanLimits.default).property
  simp only [Record.postInit, check_bind_eq_ok, require_eq_ok] at hchecks
  exact hchecks.1

/-- The state after the comments of a complete scan does not end as an unknown failure. -/
lemma reasonCode_of_finish {st : MarkerScanState} {comments : List (Checked PaginatedMarkerComment)}
    (hrecords : args.Records st comments) {r : Checked MarkerReconciliationResult}
    (hr : st.finish = .ok r) :
    r.val.reasonCode ≠ .transportUnknown := by
  unfold MarkerScanState.finish at hr
  split at hr
  · rename_i code requestId hdeferred
    unfold MarkerScanState.failure trustedMarkerFailure at hr
    obtain ⟨_, -, hr⟩ := bind_eq_ok.1 hr
    rw [construct_eq_ok] at hr
    rw [hr]
    rcases hrecords.reason (code, requestId) hdeferred with hcode | hcode
    · rintro rfl
      contradiction
    · rintro rfl
      contradiction
  · split at hr
    · obtain ⟨_, -, hr⟩ := bind_eq_ok.1 hr
      rw [construct_eq_ok] at hr
      simp [hr]
    · obtain ⟨_, -, hr⟩ := bind_eq_ok.1 hr
      rw [construct_eq_ok] at hr
      simp [hr]

/-- One page with all comments. -/
def singlePage (comments : List (Checked PaginatedMarkerComment)) (_ : MarkerFetch) :
    FetchOutcome :=
  .page { comments, nextCursor := .absent, completed := true, requestId := none }

/-- The scan of a single page. -/
lemma singlePage_scan (hargs : args.check = .ok ())
    (comments : List (Checked PaginatedMarkerComment)) :
    ∃ r, (reconcilePaginatedTrustedMarkers args).answer (singlePage comments) = .ok r ∧
      ((args.scanLimits.maxComments < comments.length ∧ r.val.reasonCode = .commentCapExceeded) ∨
        (comments.length ≤ args.scanLimits.maxComments ∧ ∃ st,
          SameFindings st (comments.foldl args.acceptComment .initial) ∧ st.finish = .ok r)) := by
  obtain ⟨remaining, hremaining⟩ := Nat.exists_eq_succ_of_ne_zero (scanLimits_positive args).ne'
  rw [MarkerScanArguments.reconcile_eq_scan hargs, hremaining, MarkerScanArguments.scan,
    Prog.answer]
  have hplain :
      PlainPage { comments, nextCursor := .absent, completed := true, requestId := none } :=
    ⟨fun _ => rfl, fun h => absurd h (by simp), rfl⟩
  have hnew : (true : Bool) = false → Cursor.absent ∉ MarkerScanState.initial.seenCursors := by
    intro h
    contradiction
  dsimp only [singlePage]
  rcases @acceptPage_plain args .initial _ hplain rfl hnew with
    ⟨hover, st, haccept⟩ | ⟨hwithin, st, haccept, hsame, -⟩
  · obtain ⟨r, hr, -, hcode⟩ := exists_failure st .commentCapExceeded (by decide)
        (by decide) st.requestId
    refine ⟨r, ?_, .inl ⟨by simpa [MarkerScanState.initial] using hover, hcode⟩⟩
    rw [haccept]
    exact hr
  · have hrecords : args.Records st comments :=
      hsame.records (args.records_foldl args.progress_initial.records comments)
    obtain ⟨r, hr, -⟩ := args.finish_verdict hrecords
    refine ⟨r, ?_, .inr ⟨by simpa [MarkerScanState.initial] using hwithin, st, hsame, hr⟩⟩
    rw [haccept]
    exact hr

end

/-- The scan of a live post sees the whole list: within the limits it says the same as over one page
with the comments that have a body, and beyond them it fails closed because of a cap. -/
def SeesWholeList (args : MarkerScanArguments) (maxPages : ℕ) (other : Json → Text) (lower : Text →
    Text)
    (read : Text → LivePostRead) (items : List (List (Text × Json))) : Prop :=
  ∃ r, (reconcilePaginatedTrustedMarkers args).answer
      (getIssueCommentsPage (strOf other) lower maxPages read) = .ok r ∧
    (WithinLimits args.scanLimits maxPages items → ∃ comments r',
      (items.filter hasBody).mapM (markerComment (strOf other) lower) = .ok comments ∧
      (reconcilePaginatedTrustedMarkers args).answer (singlePage comments) = .ok r' ∧
        SameVerdict r.val r'.val) ∧
    (¬ WithinLimits args.scanLimits maxPages items → r.val.status = .failedClosed ∧
      (r.val.reasonCode = .pageCapExceeded ∨ r.val.reasonCode = .commentCapExceeded))

section
variable {args : MarkerScanArguments} {maxPages : ℕ} {other : Json → Text} {lower : Text → Text}
  {read : Text → LivePostRead} {items : List (List (Text × Json))}

/-- What the scan of a list that is served returns. -/
lemma reconcile_scanOf (hargs : args.check = .ok ()) (maxPages : ℕ) (other : Json → Text)
    (lower : Text → Text) (hserves : ServesComments args read items) :
    ∃ r, (reconcilePaginatedTrustedMarkers args).answer
        (getIssueCommentsPage (strOf other) lower maxPages read) = .ok r ∧
      ScanOf args maxPages other lower items r := by
  have hinitial : BeforeFetch .initial 0 := by
    refine ⟨rfl, ?_, rfl, rfl⟩
    intro cursor hmem
    exact ⟨1, le_rfl, List.mem_singleton.1 hmem⟩
  have hnothing : (items.take (livePostPerPage * 0)).mapM (markerComment (strOf other) lower) = .ok
      [] := rfl
  rw [MarkerScanArguments.reconcile_eq_scan hargs]
  exact exists_scanOf hserves (Nat.zero_add _) (Nat.zero_le _) (Nat.zero_le _) (Nat.zero_le _)
    hinitial
    hnothing ⟨rfl, rfl, rfl, rfl⟩

/-- A scan that breaks does not see the whole list. -/
lemma not_seesWholeList (hargs : args.check = .ok ()) (hserves : ServesComments args read items)
    (hbreaks : ScanBreaks args.scanLimits maxPages items) :
    ¬ SeesWholeList args maxPages other lower read items := by
  rintro ⟨r, hr, hwithin, hbeyond⟩
  obtain ⟨r', hr', hscan⟩ := reconcile_scanOf hargs maxPages other lower hserves
  obtain rfl := Except.ok.inj (hr'.symm.trans hr)
  have hunknown : r'.val.reasonCode = .transportUnknown := by
    rcases hscan with ⟨-, hcode⟩ | ⟨hnot, -⟩ | ⟨hnot, -⟩
    · exact hcode
    · exact absurd hbreaks hnot
    · exact absurd hbreaks hnot
  by_cases hlimits : WithinLimits args.scanLimits maxPages items
  · obtain ⟨comments, single, -, hsingle, hsame⟩ := hwithin hlimits
    obtain ⟨single', hsingle', hverdict⟩ := singlePage_scan hargs comments
    obtain rfl := Except.ok.inj (hsingle.symm.trans hsingle')
    have hcode : single.val.reasonCode = .transportUnknown := hsame.reasonCode.symm.trans hunknown
    rcases hverdict with ⟨-, hcap⟩ | ⟨-, st, hfound, hfinish⟩
    · rw [hcap] at hcode
      contradiction
    · have hrecords : args.Records st comments :=
        hfound.records (args.records_foldl args.progress_initial.records comments)
      exact reasonCode_of_finish hrecords hfinish hcode
  · rcases (hbeyond hlimits).2 with hcap | hcap
    · rw [hunknown] at hcap
      contradiction
    · rw [hunknown] at hcap
      contradiction

end

/-- The scan of a live post sees the whole list exactly if it does not break on a comment that
cannot be built or on the page behind the limit of the transport. -/
theorem seesWholeList_iff {args : MarkerScanArguments} (hargs : args.check = .ok ()) (maxPages : ℕ)
    (other : Json → Text) (lower : Text → Text) {read : Text → LivePostRead}
    {items : List (List (Text × Json))} (hserves : ServesComments args read items) :
    SeesWholeList args maxPages other lower read items ↔
      ¬ ScanBreaks args.scanLimits maxPages items := by
  constructor
  · intro hsees hbreaks
    exact not_seesWholeList hargs hserves hbreaks hsees
  · intro hnot
    obtain ⟨r, hr, hscan⟩ := reconcile_scanOf hargs maxPages other lower hserves
    refine ⟨r, hr, ?_, ?_⟩
    · intro hlimits
      rcases hscan with ⟨hbreaks, -⟩ | ⟨-, hover, -⟩ | ⟨-, -, comments, st, hbuild, hfound, hfinish⟩
      · exact absurd hbreaks hnot
      · exact absurd hlimits hover
      · have hbuilt := (markerComments_eq_ok_iff other lower hserves.comments).1 ⟨comments, hbuild⟩
        have hfilter : items.filter hasBody = items := by
          refine List.filter_eq_self.2 ?_
          intro item hitem
          by_contra hempty
          exact hbuilt item hitem (.inl (Bool.not_eq_true _ ▸ hempty))
        obtain ⟨r', hsingle, hverdict⟩ := singlePage_scan hargs comments
        refine ⟨comments, r', by rw [hfilter]; exact hbuild, hsingle, ?_⟩
        have hcount : items.length = comments.length := (mapM_eq_ok.1 hbuild).length_eq
        rcases hverdict with ⟨hcap, -⟩ | ⟨-, st', hfound', hfinish'⟩
        · have hle := hlimits.2
          omega
        · exact (hfound.trans hfound'.symm).finish hfinish hfinish'
    · intro hover
      rcases hscan with ⟨hbreaks, -⟩ | ⟨-, -, hfailed⟩ | ⟨-, hlimits, -⟩
      · exact absurd hbreaks hnot
      · exact hfailed
      · exact absurd hlimits hover

/-- Arguments of a scan, with the default limits. -/
def liveArguments : MarkerScanArguments where
  ownerRepo := ['o', '/', 'r']
  prNumber := 1
  approvedActor := ['a']
  trustedBotAuthors := []
  expectedTargetHash := hashPrefix ++ List.replicate 64 '1'
  expectedPayloadHash := hashPrefix ++ List.replicate 64 '2'
  expectedFindingsHash := hashPrefix ++ List.replicate 64 '3'
  limits := none

/-- The pull request of the arguments. -/
lemma liveArguments_ref : ∃ ref : GitHubPRRef, ref.Valid ∧
    liveArguments.ownerRepo = ref.owner ++ (("/" : Text) ++ ref.repo) ∧
      liveArguments.prNumber = ref.prNumber := by
  have howner : (['o'] : Text).all RestPattern.isNameChar = true := by decide +kernel
  have hrepo : (['r'] : Text).all RestPattern.isNameChar = true := by decide +kernel
  exact ⟨⟨['o'], ['r'], 1⟩, ⟨by simp, List.all_eq_true.1 howner, by simp, List.all_eq_true.1 hrepo,
    Nat.one_pos⟩, by decide +kernel, rfl⟩

/-- The arguments pass the checks of a scan. -/
lemma liveArguments_check : liveArguments.check = .ok () := by decide +kernel

/-- A server of the first pages of a list. -/
def servePages (items : List (List (Text × Json))) : ℕ → Text → LivePostRead
  | 0, _ => .json (.arr [])
  | page + 1, resource =>
    if resource = commentsResource liveArguments.ownerRepo liveArguments.prNumber
      (page + 1 : ℕ) then
      .json (.arr ((LiveRead.onPage livePostPerPage (page + 1) items).map .obj))
    else servePages items page resource

/-- A page has its part of the list, and a page behind the last one is empty. -/
lemma servePages_page (items : List (List (Text × Json))) {pages page : ℕ} (hpage : 1 ≤ page)
    (hlength : items.length ≤ livePostPerPage * pages) :
    servePages items pages
        (commentsResource liveArguments.ownerRepo liveArguments.prNumber page) =
      .json (.arr ((LiveRead.onPage livePostPerPage page items).map .obj)) := by
  have hserved : ∀ last, page ≤ last → servePages items last
      (commentsResource liveArguments.ownerRepo liveArguments.prNumber page) =
        .json (.arr ((LiveRead.onPage livePostPerPage page items).map .obj)) := by
    intro last hlast
    induction last with
    | zero => omega
    | succ last ih =>
      unfold servePages
      split
      · rename_i heq
        simp only [commentsResource, List.append_cancel_left_eq] at heq
        rw [← ofNat_injective heq]
      · rename_i hne
        refine ih (Nat.le_of_lt_succ (lt_of_le_of_ne hlast ?_))
        rintro rfl
        exact hne rfl
  have hbehind : ∀ last, last < page → servePages items last
      (commentsResource liveArguments.ownerRepo liveArguments.prNumber page) = .json (.arr []) := by
    intro last hlast
    induction last with
    | zero => rfl
    | succ last ih =>
      unfold servePages
      split
      · rename_i heq
        simp only [commentsResource, List.append_cancel_left_eq] at heq
        have heq := ofNat_injective heq
        omega
      · exact ih (by omega)
  rcases Nat.lt_or_ge pages page with hlt | hge
  · have hempty : LiveRead.onPage livePostPerPage page items = [] := by
      have hle : pages * livePostPerPage ≤ (page - 1) * livePostPerPage :=
        Nat.mul_le_mul_right _ (by omega)
      rw [LiveRead.onPage, List.drop_of_length_le (by rw [Nat.mul_comm] at hlength; omega),
        List.take_nil]
    rw [hbehind pages hlt, hempty]
    rfl
  · exact hserved pages hge

/-- A list is served by a server of all its pages. -/
lemma servesComments_servePages {items : List (List (Text × Json))} {pages : ℕ}
    (hitems : ∀ item ∈ items, IssueComment item)
    (hlength : items.length ≤ livePostPerPage * pages) :
    ServesComments liveArguments (servePages items pages) items :=
  ⟨liveArguments_ref, hitems, fun _ hpage => servePages_page items hpage hlength⟩

/-- A comment of a user. -/
def commentItem (id : ℕ) (body login : Text) : List (Text × Json) :=
  [("id", .int id), ("body", .str body), ("user",
    .obj [("login", .str login), ("type", .str "User")])]

/-- The item is the object of a comment with its body. -/
lemma issueComment_commentItem (id : ℕ) (body : Text) {login : Text} (h : login ≠ []) :
    IssueComment (commentItem id body login) where
  id := ⟨id, by simp [commentItem, Json.lookup]⟩
  body := .inr ⟨body, by simp [commentItem, Json.lookup, Text.ofString_eq]⟩
  user := .inr ⟨[("login", .str login), ("type", .str "User")], login,
    by simp [commentItem, Json.lookup, Text.ofString_eq], by simp [Json.lookup], h⟩

/-- A comment with an identifier and a body can be built. -/
lemma not_isUnbuildable_commentItem {id : ℕ} {body : Text} (login : Text) (hid : id ≠ 0)
    (hbody : body ≠ []) : ¬ IsUnbuildable (commentItem id body login) := by
  rintro (hempty | hzero)
  · simp [hasBody, commentItem, Json.lookup, Text.ofString_eq, hbody] at hempty
  · simp [commentItem, Json.lookup, hid] at hzero

/-- The comment of the review. -/
def reviewComment : List (Text × Json) :=
  commentItem 101 ("x" ++ '\n' :: (⟨['1'], liveArguments.expectedTargetHash,
    liveArguments.expectedPayloadHash, liveArguments.expectedFindingsHash⟩ : MarkerFields).render)
    ['a']

/-- A full page of other comments, and the comment of the review behind it. -/
def reviewedItems : List (List (Text × Json)) :=
  ((List.range livePostPerPage).map fun n => commentItem (n + 1) ['x'] ['b']) ++ [reviewComment]

/-- The comment of the review, on the second page, is seen. -/
theorem seesWholeList_iff_secondPage :
    SeesWholeList liveArguments 5 (fun _ => []) (fun t => t) (servePages reviewedItems 2)
      reviewedItems ∧
      WithinLimits liveArguments.scanLimits 5 reviewedItems ∧
      ∃ c ∈ (markerComment (strOf fun _ => []) (fun t => t) reviewComment).toOption,
        liveArguments.Matches c.val := by
  have hitems : ∀ item ∈ reviewedItems, IssueComment item ∧ ¬ IsUnbuildable item := by
    intro item hitem
    rcases List.mem_append.1 hitem with hitem | hitem
    · obtain ⟨n, -, rfl⟩ := List.mem_map.1 hitem
      exact ⟨issueComment_commentItem _ _ (by simp),
        not_isUnbuildable_commentItem _ (by omega) (by simp)⟩
    · rw [List.mem_singleton.1 hitem]
      exact ⟨issueComment_commentItem _ _ (by simp),
        not_isUnbuildable_commentItem _ (by decide) (by simp)⟩
  have hlength : reviewedItems.length = livePostPerPage + 1 := by simp [reviewedItems]
  have hwithin : WithinLimits liveArguments.scanLimits 5 reviewedItems := by
    unfold WithinLimits
    rw [hlength]
    decide
  have hserves : ServesComments liveArguments (servePages reviewedItems 2) reviewedItems :=
    servesComments_servePages (fun item hitem => (hitems item hitem).1)
    (by rw [hlength]; decide)
  refine ⟨(seesWholeList_iff liveArguments_check 5 _ _ hserves).2 ?_, hwithin, by decide +kernel⟩
  rintro (⟨i, item, hitem, hbad, -⟩ | ⟨-, hfull, -⟩)
  · exact (hitems item (List.mem_of_getElem? hitem)).2 hbad
  · rw [hlength] at hfull
    exact absurd hfull (by decide)

/-- A comment without a body, by nobody whom the scan trusts. -/
def bodilessComment : List (Text × Json) := [("id", .int 1), ("body", .null), ("user", .null)]

/-- The item is the object of a comment without a body. -/
lemma issueComment_bodilessComment : IssueComment bodilessComment :=
  ⟨⟨1, by decide +kernel⟩, .inl (by decide +kernel), .inl (by decide +kernel)⟩

/-- A comment without a body makes the scan fail. -/
theorem seesWholeList_bodiless :
    ¬ ∀ (args : MarkerScanArguments) (maxPages : ℕ) (other : Json → Text) (lower : Text → Text)
      (read : Text → LivePostRead) (items : List (List (Text × Json))), args.check = .ok () →
        ServesComments args read items → SeesWholeList args maxPages other lower read items := by
  intro hall
  have hbad : IsUnbuildable bodilessComment := .inl (by decide +kernel)
  have hbreaks : ScanBreaks liveArguments.scanLimits 5 [bodilessComment] :=
    .inl ⟨0, bodilessComment, rfl, hbad, by decide, by decide, by decide⟩
  have hserves : ServesComments liveArguments (servePages [bodilessComment] 1) [bodilessComment] :=
    servesComments_servePages (List.forall_mem_singleton.2 issueComment_bodilessComment) (by decide)
  exact not_seesWholeList liveArguments_check hserves hbreaks
    (hall liveArguments 5 (fun _ => []) id _ [bodilessComment] liveArguments_check hserves)

end ReviewGraph
