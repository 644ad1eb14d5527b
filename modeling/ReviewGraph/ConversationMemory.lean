import ReviewGraph.Models.Context

/-!
# Conversation memory

`build_conversation_memory` of `memory.py`.  Every comment, review and comment of a thread becomes a
memory reference; only comments of trusted authors in open conversations are actionable.
-/

namespace ReviewGraph

/-! ## Trust -/

/-- The authors that an operator trusts besides those with a trusted association. -/
structure TrustedAuthors where
  operators : List Text
  bots : List Text

/-- The upper-case form of an ASCII character. -/
def asciiUpper (c : Char) : Char := if Unicode.isLower c then Char.ofNat (c.toNat - 32) else c

/-- `TRUSTED_ASSOCIATIONS`. -/
def trustedAssociations : List Text := ["OWNER", "MEMBER", "COLLABORATOR"]

/-- `_is_trusted`.  Only ASCII letters have an upper-case form that occurs in a trusted
association. -/
def isTrusted (authors : TrustedAuthors) (author authorAssociation authorType : Text) : Bool :=
  let actorType := authorType.casefold
  if actorType = "bot" then decide (author ∈ authors.bots)
  else if actorType ≠ "user" then false
  else
    let association := authorAssociation.map asciiUpper
    decide (author ∈ authors.operators) || decide (association ∈ trustedAssociations)

/-- `_is_trust_eligible`. -/
def isTrustEligible (trustLabel sourceProvider : Text) : Bool :=
  if sourceProvider = "github" then true
  else if sourceProvider = "fixture" then decide (trustLabel = "trusted")
  else false

/-- A comment counts as trusted. -/
def isTrustedComment (authors : TrustedAuthors) (comment : PullRequestComment) : Bool :=
  isTrustEligible comment.trustLabel comment.sourceProvider &&
    isTrusted authors comment.author comment.authorAssociation comment.authorType

/-- A review counts as trusted. -/
def isTrustedReview (authors : TrustedAuthors) (review : PullRequestReview) : Bool :=
  isTrustEligible review.trustLabel review.sourceProvider &&
    isTrusted authors review.author review.authorAssociation review.authorType

/-! ## References -/

/-- `_memory_source_provider`. -/
def memorySourceProvider (sourceProvider : Text) : Option Text :=
  if sourceProvider = "fixture" then none else some sourceProvider

/-- `_memory_id`. -/
def conversationMemoryId (sourceProvider : Option Text) (sourceType sourceId : Text)
    (threadId : Option Text) : Text :=
  if sourceProvider ≠ some "github" then sourceId
  else
    match threadId with
    | some threadId =>
      if sourceType = "review_thread" then
        "github:" ++ (sourceType ++ (":" ++ (threadId ++ (":" ++ sourceId))))
      else "github:" ++ (sourceType ++ (":" ++ sourceId))
    | none => "github:" ++ (sourceType ++ (":" ++ sourceId))

/-- `_passive_reason`. -/
def passiveReason (trusted : Bool) (resolvedStatus : Text) : Text :=
  if trusted = false then "untrusted author"
  else if resolvedStatus = "resolved" then "resolved thread"
  else if resolvedStatus = "unknown" then "unknown thread state"
  else "passive memory"

/-- `_passive_thread_reason`. -/
def passiveThreadReason (resolvedStatus : Text) : Text :=
  if resolvedStatus = "resolved" then "resolved thread"
  else if resolvedStatus = "unknown" then "unknown thread state"
  else "thread is passive"

/-- The thread that a comment is part of. -/
structure CommentThread where
  id : Text
  path : Text
  resolvedStatus : Text
  deriving DecidableEq

/-- `_thread_is_actionable`. -/
def CommentThread.isActionable (thread : CommentThread) : Bool :=
  decide (thread.resolvedStatus = "unresolved")

/-- The arguments of `_memory_from_comment` that depend on the thread of the comment. -/
structure CommentPlace where
  resolvedStatus : Text
  passiveReason : Option Text := none
  forcePassive : Bool := false
  fallbackPath : Option Text := none
  threadId : Option Text := none

/-- The place of an issue comment. -/
def issueCommentPlace : CommentPlace where
  resolvedStatus := "unresolved"

/-- The place of a comment of a thread. -/
def CommentThread.place (thread : CommentThread) : CommentPlace where
  resolvedStatus := thread.resolvedStatus
  passiveReason := if thread.isActionable then none else some
    (passiveThreadReason thread.resolvedStatus)
  forcePassive := !thread.isActionable
  fallbackPath := some thread.path
  threadId := some thread.id

/-- The values that `_memory_from_comment` gives to the reference. -/
def commentMemory (authors : TrustedAuthors) (comment : PullRequestComment) (place : CommentPlace) :
    MemoryReference :=
  let trusted := isTrustedComment authors comment
  let actionable :=
    trusted && !place.forcePassive && decide (place.resolvedStatus = "unresolved")
  let sourceProvider := memorySourceProvider comment.sourceProvider
  let threadId := if sourceProvider.isSome then place.threadId else none
  { id := conversationMemoryId sourceProvider comment.sourceType comment.id threadId
    trustLabel := if trusted then "trusted" else "untrusted"
    resolvedStatus := place.resolvedStatus
    sourceType := comment.sourceType
    body := some comment.body
    author := some comment.author
    authorAssociation := some comment.authorAssociation
    authorType := some comment.authorType
    createdAt := some comment.createdAt
    url := comment.url
    path := comment.path.or place.fallbackPath
    line := comment.line
    actionable
    passiveReason :=
      if actionable then none
      else some (place.passiveReason.getD (passiveReason trusted place.resolvedStatus))
    sourceProvider
    sourceId := if sourceProvider.isSome then some comment.id else none
    threadId }

/-- The values that `_memory_from_review` gives to the reference. -/
def reviewMemory (authors : TrustedAuthors) (review : PullRequestReview) : MemoryReference :=
  let trusted := isTrustedReview authors review
  let sourceProvider := memorySourceProvider review.sourceProvider
  { id := conversationMemoryId sourceProvider review.sourceType review.id none
    trustLabel := if trusted then "trusted" else "untrusted"
    resolvedStatus := "unresolved"
    sourceType := review.sourceType
    body := review.body
    author := some review.author
    authorAssociation := some review.authorAssociation
    authorType := some review.authorType
    createdAt := some review.createdAt
    url := review.url
    path := none
    line := none
    actionable := false
    passiveReason := some (
      if trusted then "review summary is passive until a later node interprets it"
      else "untrusted author")
    sourceProvider
    sourceId := if sourceProvider.isSome then some review.id else none
    threadId := none }

/-- The thread of a review thread's comments. -/
def commentThread (thread : PullRequestReviewThread) : CommentThread :=
  ⟨thread.id, thread.path, thread.resolvedStatus⟩

/-- The values of the references, in the order of the memory. -/
def conversationEntries (authors : TrustedAuthors) (pr : PullRequestContext) :
    List MemoryReference :=
  (pr.comments.map fun comment => commentMemory authors comment.val issueCommentPlace) ++
    ((pr.reviews.map fun review => reviewMemory authors review.val) ++
      pr.reviewThreads.flatMap fun thread => thread.val.comments.map fun comment =>
        commentMemory authors comment.val (commentThread thread.val).place)

/-- `build_conversation_memory`. -/
def buildConversationMemory (authors : TrustedAuthors) (pr : PullRequestContext) :
    Result PRConversationMemory := do
  let entries ← (conversationEntries authors pr).mapM construct
  return ⟨entries⟩

/-! ## Comments of untrusted authors -/

/-- An identifier with a source is not empty. -/
lemma conversationMemoryId_ne_nil (sourceProvider : Option Text) (sourceType : Text)
    {sourceId : Text}
    (threadId : Option Text) (h : sourceId ≠ []) :
    conversationMemoryId sourceProvider sourceType sourceId threadId ≠ [] := by
  unfold conversationMemoryId
  split
  · exact h
  split
  · split <;> simp
  · simp

/-- A reason for being passive is not empty. -/
lemma passiveReason_ne_nil (trusted : Bool) (resolvedStatus : Text) :
    passiveReason trusted resolvedStatus ≠ [] := by
  unfold passiveReason
  repeat' split
  all_goals simp

/-- The arguments that depend on the thread pass the checks of a reference. -/
structure CommentPlace.Valid (place : CommentPlace) : Prop where
  resolvedStatus : place.resolvedStatus ≠ []
  passiveReason : place.passiveReason ≠ some []
  fallbackPath : place.fallbackPath ≠ some []
  threadId : place.threadId ≠ some []

/-- The place of a comment on the pull request is valid. -/
lemma issueCommentPlace_valid : issueCommentPlace.Valid :=
  ⟨by simp [issueCommentPlace], by simp [issueCommentPlace], by simp [issueCommentPlace],
    by simp [issueCommentPlace]⟩

/-- The place of a comment in a thread is valid. -/
lemma commentThread_place_valid (thread : Checked PullRequestReviewThread) :
    (commentThread thread.val).place.Valid := by
  have hvalid := thread.property
  simp only [Record.postInit, check_bind_eq_ok, requireNonEmpty_eq_ok] at hvalid
  obtain ⟨hid, hpath, hstatus, -, -⟩ := hvalid
  refine ⟨hstatus, ?_, by simpa [commentThread, CommentThread.place] using hpath,
    by simpa [commentThread, CommentThread.place] using hid⟩
  have hreason : passiveThreadReason thread.val.resolvedStatus ≠ [] := by
    unfold passiveThreadReason
    repeat' split
    all_goals simp
  show (if (commentThread thread.val).isActionable then none
    else some (passiveThreadReason thread.val.resolvedStatus)) ≠ some []
  split
  · simp
  · simpa using hreason

/-- The authors that are trusted are users and bots. -/
lemma authorType_of_isTrustedComment {authors : TrustedAuthors} {comment : PullRequestComment}
    (h : isTrustedComment authors comment = true) :
    comment.authorType.casefold ∈ (["user", "bot"] : List Text) := by
  have htrusted := (Bool.and_eq_true_iff.1 h).2
  unfold isTrusted at htrusted
  by_cases hbot : comment.authorType.casefold = "bot"
  · simp [hbot]
  · by_cases huser : comment.authorType.casefold = "user"
    · simp [huser]
    · simp [hbot, huser] at htrusted

/-- The memory of a comment is built, if a comment of a trusted author is of one of the two sources
that can be actionable. -/
lemma commentMemory_valid {authors : TrustedAuthors} (comment : Checked PullRequestComment)
    {place : CommentPlace} (hplace : place.Valid)
    (hsourceType : isTrustedComment authors comment.val = true →
      comment.val.sourceType ∈ (["issue_comment", "review_thread"] : List Text)) :
    Record.postInit (commentMemory authors comment.val place) = .ok () := by
  have hvalid := comment.property
  simp only [Record.postInit, check_bind_eq_ok, requireNonEmpty_eq_ok] at hvalid
  obtain ⟨hid, hauthor, hassociation, hbody, hcreated, htrust, hsource, htype, hprovider, hurl,
      hpath,
    -, -, hline, -⟩ := hvalid
  have hline : ∀ v ∈ comment.val.line, 0 < v := require_eq_ok.1 hline
  have hactionable : (commentMemory authors comment.val place).actionable = true →
      isTrustedComment authors comment.val = true ∧ place.resolvedStatus = "unresolved" := by
    simp only [commentMemory, Bool.and_eq_true, decide_eq_true_eq]
    exact fun h => ⟨h.1.1, h.2⟩
  simp only [Record.postInit, check_bind_eq_ok, require_eq_ok]
  refine ⟨conversationMemoryId_ne_nil _ _ _ hid, ?_, hplace.resolvedStatus, hsource,
    requireOptionalNonEmpty_eq_ok.2 (by simpa [commentMemory] using hauthor),
    requireOptionalNonEmpty_eq_ok.2 (by simpa [commentMemory] using hassociation),
    requireOptionalNonEmpty_eq_ok.2 (by simpa [commentMemory] using htype),
    requireOptionalNonEmpty_eq_ok.2 (by simpa [commentMemory] using hcreated),
    requireOptionalNonEmpty_eq_ok.2 (requireOptionalNonEmpty_eq_ok.1 hurl),
    requireOptionalNonEmpty_eq_ok.2 ?_, requireOptionalNonEmpty_eq_ok.2 ?_,
    requireOptionalNonEmpty_eq_ok.2 ?_, requireOptionalNonEmpty_eq_ok.2 ?_,
    requireOptionalNonEmpty_eq_ok.2 ?_, require_eq_ok.2 hline, ?_, ?_, ?_, ?_⟩
  · show (if isTrustedComment authors comment.val then ("trusted" : Text) else "untrusted") ≠ []
    split <;> simp
  · have hpath := requireOptionalNonEmpty_eq_ok.1 hpath
    show comment.val.path.or place.fallbackPath ≠ some []
    cases hcase : comment.val.path with
    | none => exact hplace.fallbackPath
    | some path => rwa [hcase] at hpath
  · show (if _ then none else some (place.passiveReason.getD _)) ≠ some []
    split
    · simp
    · cases hcase : place.passiveReason with
      | none => simpa using passiveReason_ne_nil _ _
      | some reason =>
        have hreason := hplace.passiveReason
        rw [hcase] at hreason
        simpa using hreason
  · show memorySourceProvider comment.val.sourceProvider ≠ some []
    unfold memorySourceProvider
    split
    · simp
    · simpa using hprovider
  · show (if _ then some comment.val.id else none) ≠ some []
    split
    · simpa using hid
    · simp
  · show (if _ then place.threadId else none) ≠ some []
    split
    · exact hplace.threadId
    · simp
  · intro h
    simp [commentMemory, (hactionable h).1]
  · intro h
    exact (hactionable h).2
  · intro h
    exact hsourceType (hactionable h).1
  · intro h
    simpa [commentMemory] using authorType_of_isTrustedComment (hactionable h).1

/-- The memory of a comment of an untrusted author is built. -/
lemma commentMemory_of_untrusted {authors : TrustedAuthors} (comment : Checked PullRequestComment)
    {place : CommentPlace} (hplace : place.Valid)
    (h : isTrustedComment authors comment.val = false) :
    Record.postInit (commentMemory authors comment.val place) = .ok () :=
  commentMemory_valid comment hplace fun htrusted => by rw [h] at htrusted; contradiction

end ReviewGraph
