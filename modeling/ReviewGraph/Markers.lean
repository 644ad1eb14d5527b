import ReviewGraph.Foundation.Interaction
import ReviewGraph.Models.Posting
import ReviewGraph.Redaction

/-!
# Markers and the trusted marker scan

`markers.py`: the marker on the last line of a comment, and the scan of the comments of a pull
request that decides whether a payload is already posted.  The transport is the environment: the
scan issues one `MarkerFetch` for each page and continues with whatever it answers, be it a page,
an object of another type or an exception.

Each page is processed by `acceptPage`, which is a function of the scan state; the loop only
alternates it with fetches.
-/

namespace ReviewGraph

open Interaction

/-! ## The last line of a comment -/

/-- `_body_final_line`. -/
def bodyFinalLine (body : Text) : Option Text :=
  if body = [] then none
  else
    let normalized := body.normalizeLineEndings
    let normalized := if normalized.getLast? = some '\n' then normalized.dropLast else normalized
    if normalized = [] then some [] else (Text.lines normalized).getLast?

/-- `_looks_like_reviewgraph_marker`. -/
def looksLikeReviewgraphMarker (line : Option Text) : Bool :=
  line.any fun l => l.startsWith "<!-- reviewgraph:"

/-- `scan_final_line_marker`; a marker is the tuple of its fields. -/
def scanFinalLineMarker (body : Text) : Option MarkerFields :=
  (bodyFinalLine body).bind parseReviewgraphV1MarkerLine

/-! ## Pages of comments -/

/-- `MarkerScanLimits`. -/
structure MarkerScanLimits where
  maxPages : ℕ
  maxComments : ℕ
  timeoutSeconds : ℕ
  deriving DecidableEq

instance : Record MarkerScanLimits where
  postInit l := do
    require (0 < l.maxPages) "marker scan max_pages must be a positive integer"
    require (0 < l.maxComments) "marker scan max_comments must be a positive integer"
    require (0 < l.timeoutSeconds) "marker scan timeout_seconds must be a positive integer"

/-- The limits that hold when none are given. -/
def MarkerScanLimits.default : Checked MarkerScanLimits := ⟨⟨20, 1000, 10⟩, by decide⟩

/-- `PaginatedMarkerComment`. -/
structure PaginatedMarkerComment where
  commentId : Text
  body : Text
  authorLogin : Text
  authorType : Text
  sourceProvider : Text
  authorAssociation : Option Text
  deriving DecidableEq

instance : Record PaginatedMarkerComment where
  postInit c := do
    require (c.commentId ≠ []) "paginated marker comment comment_id is required"
    require (c.body ≠ []) "paginated marker comment body is required"
    require (c.sourceProvider ≠ []) "paginated marker comment source_provider is required"
    require (c.authorAssociation ≠ some [])
      "paginated marker comment author_association must be non-empty"

/-- A comment has an identifier. -/
lemma PaginatedMarkerComment.commentId_ne_nil (c : Checked PaginatedMarkerComment) :
    c.val.commentId ≠ [] := by
  have h := c.property
  simp only [Record.postInit, check_bind_eq_ok, require_eq_ok] at h
  exact h.1

/-- A cursor as a transport may return it: absent, a string, or an object of another type. -/
inductive Cursor
  | absent
  | string (value : Text)
  | other
  deriving DecidableEq, Repr

/-- `MarkerCommentPage`. -/
structure MarkerCommentPage where
  comments : List (Checked PaginatedMarkerComment)
  nextCursor : Cursor
  completed : Bool
  requestId : Option Text
  deriving DecidableEq

/-- `_is_valid_marker_cursor`. -/
def isValidMarkerCursor : Cursor → Bool
  | .string value => value ≠ []
  | _ => false

/-! ## The transport -/

/-- `TRANSPORT_MARKER_RECONCILIATION_REASON_CODES`. -/
def transportMarkerReconciliationReasonCodes : List MarkerReconciliationReasonCode :=
  [.timeout, .rateLimited, .forbidden, .notFound, .unavailable, .malformedPage, .transportUnknown]

/-- `MarkerScanTransportFailure`, which admits only the reasons of a transport. -/
structure MarkerScanTransportFailure where
  reasonCode : MarkerReconciliationReasonCode
  requestId : Option Text
  transportReason : reasonCode ∈ transportMarkerReconciliationReasonCodes
  deriving DecidableEq

/-- A call of `get_issue_comments_page`. -/
structure MarkerFetch where
  ownerRepo : Text
  prNumber : ℤ
  cursor : Cursor
  timeoutSeconds : ℕ
  deriving DecidableEq

/-- What a call of `get_issue_comments_page` can do: return a page, return something else, raise
the transport's failure, or raise another exception. -/
inductive FetchOutcome
  | page (page : MarkerCommentPage)
  | notPage
  | failure (failure : MarkerScanTransportFailure)
  | raised
  deriving DecidableEq

/-- Programs that fetch pages of comments. -/
abbrev Scan : Type → Type := Prog MarkerFetch fun _ => FetchOutcome

/-! ## Trust -/

/-- `_is_trusted_marker_author`. -/
def isTrustedMarkerAuthor (comment : PaginatedMarkerComment) (approvedActor : Text)
    (trustedBotAuthors : List Text) : Bool :=
  let actorType := comment.authorType.casefold
  comment.sourceProvider = "github" && comment.authorLogin ≠ [] && comment.authorType ≠ [] &&
    (actorType = "user" || actorType = "bot") &&
    (comment.authorLogin = approvedActor ||
      (actorType = "bot" && comment.authorLogin ∈ trustedBotAuthors))

/-- A character of `_ALLOWED_MARKER_REQUEST_ID_CHARS`. -/
def isAllowedMarkerRequestIdChar (c : Char) : Bool :=
  Unicode.isAsciiAlphanumeric c || c ∈ ['-', '_', '.', ':', '/']

/-- `_safe_marker_request_id`. -/
def safeMarkerRequestId (value : Option Text) : Option Text :=
  value.filter fun v => v ≠ [] && v.length ≤ 128 && v.all isAllowedMarkerRequestIdChar &&
    !hasSecretFragment v && !(redactText v).redacted

/-! ## Results of a scan -/

/-- `_marker_scan_summary`. -/
def markerScanSummary (pageCount commentCount markerCount : ℕ) (requestId : Option Text)
    (reasonCode : Option MarkerReconciliationReasonCode) :
      Result (Checked MarkerScanTransportSummary) :=
  construct {
    endpointKind := markerScanEndpointKind
    pageCount, commentCount, markerCount
    retryable := reasonCode.any (· ∈ retryableMarkerReconciliationReasonCodes)
    reasonCode
    requestId := safeMarkerRequestId requestId }

/-- `_trusted_marker_failure`. -/
def trustedMarkerFailure (reasonCode : MarkerReconciliationReasonCode)
    (pageCount commentCount markerCount : ℕ) (requestId : Option Text) :
    Result (Checked MarkerReconciliationResult) := do
  let transportSummary ←
    markerScanSummary pageCount commentCount markerCount requestId (some reasonCode)
  construct {
    status := .failedClosed
    reasonCode
    transportSummary
    trustedActor := none
    existingCommentId := none
    duplicateCommentIds := []
    writerInputReleased := false
    finalizationPassed := false
    reason := none }

/-- A safe request identifier passes the checks of a transport summary. -/
lemma requireRequestId_safe (owner : Text) (value : Option Text) :
    requireRequestId owner (safeMarkerRequestId value) = .ok () := by
  unfold requireRequestId
  rw [check_bind_eq_ok, requireOptionalNonEmpty_eq_ok]
  unfold safeMarkerRequestId
  cases h : value.filter _ with
  | none => simp
  | some v =>
    obtain ⟨-, hv⟩ := Option.filter_eq_some_iff.1 h
    simp only [Bool.and_eq_true, decide_eq_true_eq, Bool.not_eq_true', List.all_eq_true] at hv
    obtain ⟨⟨⟨⟨hne, hlen⟩, hchars⟩, hsecret⟩, -⟩ := hv
    refine ⟨by simpa using hne, ?_⟩
    simp only [Option.elim_some, check_bind_eq_ok, require_eq_ok]
    refine ⟨⟨hlen, fun c hc => ?_⟩, hsecret⟩
    have := hchars c hc
    simp only [isAllowedMarkerRequestIdChar, isAllowedRequestIdChar, Bool.or_eq_true,
      decide_eq_true_eq, List.mem_cons, List.not_mem_nil, or_false] at this ⊢
    tauto

/-- A summary of a scan is always built. -/
lemma markerScanSummary_ok (pageCount commentCount markerCount : ℕ) (requestId : Option Text)
    (reasonCode : Option MarkerReconciliationReasonCode) :
    ∃ s, markerScanSummary pageCount commentCount markerCount requestId reasonCode = .ok s ∧
      s.val = {
        endpointKind := markerScanEndpointKind
        pageCount, commentCount, markerCount
        retryable := reasonCode.any (· ∈ retryableMarkerReconciliationReasonCodes)
        reasonCode
        requestId := safeMarkerRequestId requestId } := by
  refine ⟨⟨_, ?_⟩, construct_of_postInit ?_, rfl⟩ <;>
    · simp only [Record.postInit, check_bind_eq_ok, requireNonEmpty_eq_ok, require_eq_ok,
        requireRequestId_safe, and_true, true_and]
      refine ⟨by simp [markerScanEndpointKind, Text.ofString_eq], ?_, ?_⟩
      · rintro rfl
        rfl
      · intro code hcode
        rw [Option.mem_def] at hcode
        rw [hcode, Option.any_some]

/-- A failure with a failure reason is always built. -/
lemma trustedMarkerFailure_ok {reasonCode : MarkerReconciliationReasonCode}
    (h₁ : reasonCode ≠ .safeToPost) (h₂ : reasonCode ≠ .matchedExisting)
    (pageCount commentCount markerCount : ℕ) (requestId : Option Text) :
    ∃ r s, trustedMarkerFailure reasonCode pageCount commentCount markerCount requestId = .ok r ∧
      markerScanSummary pageCount commentCount markerCount requestId (some reasonCode) = .ok s ∧
      r.val = {
        status := .failedClosed
        reasonCode
        transportSummary := s
        trustedActor := none
        existingCommentId := none
        duplicateCommentIds := []
        writerInputReleased := false
        finalizationPassed := false
        reason := none } := by
  obtain ⟨s, hs, hval⟩ :=
    markerScanSummary_ok pageCount commentCount markerCount requestId (some reasonCode)
  refine ⟨⟨_, ?_⟩, s, bind_eq_ok.2 ⟨s, hs, construct_of_postInit ?_⟩, hs, rfl⟩ <;>
    simp [Record.postInit, h₁, h₂, hval]

/-! ## The scan -/

/-- The arguments of a scan besides its transport. -/
structure MarkerScanArguments where
  ownerRepo : Text
  prNumber : ℤ
  approvedActor : Text
  trustedBotAuthors : List Text
  expectedTargetHash : Text
  expectedPayloadHash : Text
  expectedFindingsHash : Text
  limits : Option (Checked MarkerScanLimits)
  deriving DecidableEq

/-- The variables of the scan loop. -/
structure MarkerScanState where
  cursor : Cursor
  seenCursors : List Cursor
  pageCount : ℕ
  commentCount : ℕ
  markerCount : ℕ
  requestId : Option Text
  trustedMatch : Option (Checked PaginatedMarkerComment)
  duplicateCommentIds : List Text
  deferredFailure : Option (MarkerReconciliationReasonCode × Option Text)

namespace MarkerScanState

/-- The state before the first fetch. -/
def initial : MarkerScanState where
  cursor := .absent
  seenCursors := [.absent]
  pageCount := 0
  commentCount := 0
  markerCount := 0
  requestId := none
  trustedMatch := none
  duplicateCommentIds := []
  deferredFailure := none

/-- Remember the first failure that is found in a comment. -/
def defer (st : MarkerScanState) (reasonCode : MarkerReconciliationReasonCode) : MarkerScanState :=
  { st with deferredFailure := st.deferredFailure.or (some (reasonCode, st.requestId)) }

/-- Remember a comment with the expected marker. -/
def recordMatch (st : MarkerScanState) (comment : Checked PaginatedMarkerComment) :
    MarkerScanState :=
  match st.trustedMatch with
  | none => { st with trustedMatch := some comment }
  | some _ => { st with duplicateCommentIds := st.duplicateCommentIds ++ [comment.val.commentId] }

/-- The failure with the counts of the state. -/
def failure (st : MarkerScanState) (reasonCode : MarkerReconciliationReasonCode)
    (requestId : Option Text) : Result (Checked MarkerReconciliationResult) :=
  trustedMarkerFailure reasonCode st.pageCount st.commentCount st.markerCount requestId

/-- The end of a complete scan. -/
def finish (st : MarkerScanState) : Result (Checked MarkerReconciliationResult) :=
  match st.deferredFailure with
  | some (reasonCode, requestId) => st.failure reasonCode requestId
  | none =>
    match st.trustedMatch with
    | some comment => do
      let transportSummary ←
        markerScanSummary st.pageCount st.commentCount st.markerCount st.requestId none
      construct {
        status := .reconciledExisting
        reasonCode := .matchedExisting
        transportSummary
        trustedActor := some comment.val.authorLogin
        existingCommentId := some comment.val.commentId
        duplicateCommentIds := st.duplicateCommentIds
        writerInputReleased := false
        finalizationPassed := false
        reason := none }
    | none => do
      let transportSummary ←
        markerScanSummary st.pageCount st.commentCount st.markerCount st.requestId none
      construct {
        status := .safeToPost
        reasonCode := .safeToPost
        transportSummary
        trustedActor := none
        existingCommentId := none
        duplicateCommentIds := []
        writerInputReleased := false
        finalizationPassed := false
        reason := none }

end MarkerScanState

namespace MarkerScanArguments

variable (args : MarkerScanArguments)

/-- The limits in force. -/
def scanLimits : MarkerScanLimits := (args.limits.getD MarkerScanLimits.default).val

/-- The checks of the arguments. -/
def check : Result Unit := do
  require (args.ownerRepo ≠ []) "marker scan owner_repo must be a non-empty string"
  require (0 < args.prNumber) "marker scan pr_number must be a positive integer"
  require (args.approvedActor ≠ []) "marker scan approved_actor must be a non-empty string"
  require (args.expectedTargetHash ≠ [])
    "marker scan expected_target_hash must be a non-empty string"
  require (IsStrictSha256 args.expectedTargetHash)
    "marker scan expected_target_hash must be a strict sha256 hash"
  require (args.expectedPayloadHash ≠ [])
    "marker scan expected_payload_hash must be a non-empty string"
  require (IsStrictSha256 args.expectedPayloadHash)
    "marker scan expected_payload_hash must be a strict sha256 hash"
  require (args.expectedFindingsHash ≠ [])
    "marker scan expected_findings_hash must be a non-empty string"
  require (IsStrictSha256 args.expectedFindingsHash)
    "marker scan expected_findings_hash must be a strict sha256 hash"
  require (∀ author ∈ args.trustedBotAuthors, author ≠ [])
    "trusted marker bot authors must be non-empty strings"

/-- The comment is by an author whom the scan trusts. -/
def trusts (comment : PaginatedMarkerComment) : Bool :=
  isTrustedMarkerAuthor comment args.approvedActor args.trustedBotAuthors

/-- Process one comment of a page. -/
def acceptComment (st : MarkerScanState) (comment : Checked PaginatedMarkerComment) :
    MarkerScanState :=
  let finalLine := bodyFinalLine comment.val.body
  let marker := finalLine.bind parseReviewgraphV1MarkerLine
  let looksLikeMarker := looksLikeReviewgraphMarker finalLine
  let st := if marker.isSome || looksLikeMarker then { st with markerCount := st.markerCount + 1 }
    else st
  if !args.trusts comment.val then st
  else
    match marker with
    | none => if looksLikeMarker then st.defer .trustedMarkerMalformed else st
    | some marker =>
      if marker.target ≠ args.expectedTargetHash ∨ marker.findings ≠ args.expectedFindingsHash then
        st
      else if marker.payload ≠ args.expectedPayloadHash then st.defer .trustedMarkerConflict
      else st.recordMatch comment

/-- Process one page: the state for the next fetch or for the end of the scan, or the reason for
which the page ends the scan with the state at that point. -/
def acceptPage (st : MarkerScanState) (page : MarkerCommentPage) :
    Except (MarkerReconciliationReasonCode × MarkerScanState) MarkerScanState :=
  let st := { st with
    pageCount := st.pageCount + 1
    requestId := safeMarkerRequestId page.requestId }
  if page.completed = true ∧ page.nextCursor ≠ .absent then .error (.malformedPage, st)
  else if page.completed = false ∧ page.nextCursor = .absent then
    .error (.paginationIncomplete, st)
  else if page.completed = false ∧ isValidMarkerCursor page.nextCursor = false then
    .error (.malformedPage, st)
  else
    let st := { st with commentCount := st.commentCount + page.comments.length }
    if args.scanLimits.maxComments < st.commentCount then .error (.commentCapExceeded, st)
    else
      let st := page.comments.foldl args.acceptComment st
      if page.completed then .ok st
      else if page.nextCursor ∈ st.seenCursors then .error (.repeatedCursor, st)
      else .ok { st with
        seenCursors := page.nextCursor :: st.seenCursors
        cursor := page.nextCursor }

/-- The fetch of the page at the cursor of the state. -/
def fetch (st : MarkerScanState) : MarkerFetch :=
  ⟨args.ownerRepo, args.prNumber, st.cursor, args.scanLimits.timeoutSeconds⟩

/-- The loop of the scan; the first argument is `max_pages - page_count`. -/
def scan : ℕ → MarkerScanState → Scan (Result (Checked MarkerReconciliationResult))
  | 0, st => .ret (st.failure .pageCapExceeded st.requestId)
  | remaining + 1, st => .call (args.fetch st) fun outcome =>
    match outcome with
    | .failure f => .ret (st.failure f.reasonCode f.requestId)
    | .raised => .ret (st.failure .transportUnknown st.requestId)
    | .notPage => .ret (st.failure .malformedPage st.requestId)
    | .page page =>
      match args.acceptPage st page with
      | .error (reasonCode, st) => .ret (st.failure reasonCode st.requestId)
      | .ok st => if page.completed then .ret st.finish else scan remaining st

end MarkerScanArguments

/-- `reconcile_paginated_trusted_markers`. -/
def reconcilePaginatedTrustedMarkers (args : MarkerScanArguments) :
    Scan (Result (Checked MarkerReconciliationResult)) :=
  match args.check with
  | .error e => .ret (.error e)
  | .ok () => args.scan args.scanLimits.maxPages .initial

end ReviewGraph
