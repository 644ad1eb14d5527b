import ReviewGraph.Models.Review

/-!
# What reviewers see

The records of `models.py` for pull requests, the memory of their conversations, and the budget that
limits how much of both reaches a reviewer.  Counts are natural numbers, as their checks demand.
-/

namespace ReviewGraph

/-! ## Pull requests -/

/-- The check of an optional positive integer. -/
def requireOptionalPositiveInt (value : Option ℤ) (fieldName : Text) : Result Unit :=
  require (∀ v ∈ value, 0 < v) (fieldName ++ " must be a positive integer")

/-- `PullRequestComment`. -/
structure PullRequestComment where
  id : Text
  author : Text
  authorAssociation : Text
  authorType : Text
  body : Text
  createdAt : Text
  trustLabel : Text
  sourceType : Text
  url : Option Text
  path : Option Text
  line : Option ℤ
  side : Option Text
  commitSha : Option Text
  position : Option ℤ
  sourceProvider : Text
  deriving DecidableEq

instance : Record PullRequestComment where
  postInit c := do
    requireNonEmpty c.id "pull request comment id"
    requireNonEmpty c.author "pull request comment author"
    requireNonEmpty c.authorAssociation "pull request comment author_association"
    requireNonEmpty c.body "pull request comment body"
    requireNonEmpty c.createdAt "pull request comment created_at"
    requireNonEmpty c.trustLabel "pull request comment trust_label"
    requireNonEmpty c.sourceType "pull request comment source_type"
    requireNonEmpty c.authorType "pull request comment author_type"
    requireNonEmpty c.sourceProvider "pull request comment source_provider"
    requireOptionalNonEmpty c.url "pull request comment url"
    requireOptionalNonEmpty c.path "pull request comment path"
    requireOptionalNonEmpty c.side "pull request comment side"
    requireOptionalNonEmpty c.commitSha "pull request comment commit_sha"
    requireOptionalPositiveInt c.line "pull request comment line"
    requireOptionalPositiveInt c.position "pull request comment position"

/-- `PullRequestReview`. -/
structure PullRequestReview where
  id : Text
  author : Text
  authorAssociation : Text
  authorType : Text
  state : Text
  createdAt : Text
  trustLabel : Text
  sourceType : Text
  body : Option Text
  url : Option Text
  sourceProvider : Text
  deriving DecidableEq

instance : Record PullRequestReview where
  postInit r := do
    requireNonEmpty r.id "pull request review id"
    requireNonEmpty r.author "pull request review author"
    requireNonEmpty r.authorAssociation "pull request review author_association"
    requireNonEmpty r.state "pull request review state"
    requireNonEmpty r.createdAt "pull request review created_at"
    requireNonEmpty r.trustLabel "pull request review trust_label"
    requireNonEmpty r.sourceType "pull request review source_type"
    requireNonEmpty r.authorType "pull request review author_type"
    requireNonEmpty r.sourceProvider "pull request review source_provider"
    requireOptionalNonEmpty r.body "pull request review body"
    requireOptionalNonEmpty r.url "pull request review url"

/-- `PullRequestReviewThread`. -/
structure PullRequestReviewThread where
  id : Text
  path : Text
  resolvedStatus : Text
  comments : List (Checked PullRequestComment)
  deriving DecidableEq

instance : Record PullRequestReviewThread where
  postInit t := do
    requireNonEmpty t.id "pull request review thread id"
    requireNonEmpty t.path "pull request review thread path"
    requireNonEmpty t.resolvedStatus "pull request review thread resolved_status"
    require (t.resolvedStatus ∈ (["resolved", "unresolved", "unknown"] : List Text))
      "pull request review thread resolved_status must be resolved, unresolved, or unknown"
    require (t.comments ≠ []) "pull request review thread comments must not be empty"

/-- `PullRequestChangedFile`. -/
structure PullRequestChangedFile where
  path : Text
  patch : Option Text
  additions : ℕ
  deletions : ℕ
  status : Text
  previousPath : Option Text
  patchStatus : Text
  deriving DecidableEq

instance : Record PullRequestChangedFile where
  postInit f := do
    requireNonEmpty f.path "pull request changed file path"
    requireNonEmpty f.status "pull request changed file status"
    requireOptionalNonEmpty f.previousPath "pull request changed file previous_path"
    requireNonEmpty f.patchStatus "pull request changed file patch_status"
    require (f.patch = none → f.patchStatus ≠ "available")
      "pull request changed file patch_status must explain missing patch"

/-- `PullRequestContext`. -/
structure PullRequestContext where
  reviewTarget : Checked ReviewTarget
  title : Text
  body : Option Text
  labels : List Text
  changedFiles : List (Checked PullRequestChangedFile)
  comments : List (Checked PullRequestComment)
  reviews : List (Checked PullRequestReview)
  reviewThreads : List (Checked PullRequestReviewThread)
  deriving DecidableEq

instance : Record PullRequestContext where
  postInit pr := do
    requireNonEmpty pr.title "pull request context title"
    requireStringTuple pr.labels "pull request context labels" true
    require (pr.changedFiles ≠ []) "pull request context changed_files must not be empty"

/-! ## Memory -/

/-- `MemoryReference`. -/
structure MemoryReference where
  id : Text
  trustLabel : Text
  resolvedStatus : Text
  sourceType : Text
  body : Option Text
  author : Option Text
  authorAssociation : Option Text
  authorType : Option Text
  createdAt : Option Text
  url : Option Text
  path : Option Text
  line : Option ℤ
  actionable : Bool
  passiveReason : Option Text
  sourceProvider : Option Text
  sourceId : Option Text
  threadId : Option Text
  deriving DecidableEq

instance : Record MemoryReference where
  postInit m := do
    require (m.id ≠ []) "id is required"
    require (m.trustLabel ≠ []) "trust_label is required"
    require (m.resolvedStatus ≠ []) "resolved_status is required"
    require (m.sourceType ≠ []) "source_type is required"
    requireOptionalNonEmpty m.author "memory author"
    requireOptionalNonEmpty m.authorAssociation "memory author_association"
    requireOptionalNonEmpty m.authorType "memory author_type"
    requireOptionalNonEmpty m.createdAt "memory created_at"
    requireOptionalNonEmpty m.url "memory url"
    requireOptionalNonEmpty m.path "memory path"
    requireOptionalNonEmpty m.passiveReason "memory passive_reason"
    requireOptionalNonEmpty m.sourceProvider "memory source_provider"
    requireOptionalNonEmpty m.sourceId "memory source_id"
    requireOptionalNonEmpty m.threadId "memory thread_id"
    requireOptionalPositiveInt m.line "memory line"
    require (m.actionable = true → m.trustLabel = "trusted")
      "actionable memory requires trusted trust_label"
    require (m.actionable = true → m.resolvedStatus = "unresolved")
      "actionable memory requires unresolved resolved_status"
    require (m.actionable = true → m.sourceType ∈ (["issue_comment", "review_thread"] : List Text))
      "actionable memory requires issue_comment or review_thread source_type"
    require (m.actionable = true → m.authorType.any fun t =>
        t.casefold ∈ (["user", "bot"] : List Text))
      "actionable memory requires supported author_type"

/-- `PRConversationMemory`. -/
structure PRConversationMemory where
  entries : List (Checked MemoryReference)
  deriving DecidableEq

/-! ## Budgets -/

/-- `SelectedReviewer`. -/
structure SelectedReviewer where
  name : Text
  stage : Text
  reasons : List Text
  deriving DecidableEq

instance : Record SelectedReviewer where
  postInit r := do
    require (r.name ≠ []) "selected reviewer name is required"
    require (r.stage ≠ []) "selected reviewer stage is required"
    require (r.reasons ≠ []) "selected reviewer reasons are required"

/-- `LocalNote`. -/
structure LocalNote where
  id : Text
  title : Text
  body : Text
  evidence : Text
  classification : OutputClassification
  deriving DecidableEq

instance : Record LocalNote where
  postInit n := do
    requireNonEmpty n.id "local note id"
    requireNonEmpty n.title "local note title"
    requireNonEmpty n.body "local note body"
    requireNonEmpty n.evidence "local note evidence"
    require (n.classification = .localNote) "LocalNote must use local_note classification"

/-- `TruncationNotice`. -/
structure TruncationNotice where
  resource : Text
  truncated : Bool
  note : Text
  originalCount : Option ℕ
  retainedCount : Option ℕ
  originalBytes : Option ℕ
  retainedBytes : Option ℕ
  deriving DecidableEq

instance : Record TruncationNotice where
  postInit n := do
    require (n.resource ≠ []) "truncation resource is required"
    require (n.note ≠ []) "truncation note is required"

/-- `OmittedContextMarker`. -/
structure OmittedContextMarker where
  id : Text
  source : Text
  reasonCode : Text
  dimension : Text
  affectedId : Text
  originalCount : Option ℕ
  retainedCount : Option ℕ
  originalBytes : Option ℕ
  retainedBytes : Option ℕ
  deriving DecidableEq

instance : Record OmittedContextMarker where
  postInit m := do
    requireNonEmpty m.id "omitted context id"
    requireNonEmpty m.source "omitted context source"
    requireNonEmpty m.reasonCode "omitted context reason_code"
    requireNonEmpty m.dimension "omitted context dimension"
    requireNonEmpty m.affectedId "omitted context affected_id"

/-- `ContextBudget`. -/
structure ContextBudget where
  maxChangedFiles : ℕ
  maxPatchBytes : ℕ
  maxMemoryBytes : ℕ
  maxReviewers : ℕ
  maxLiveCalls : ℕ
  truncation : List (Checked TruncationNotice) := []
  omittedContext : List (Checked OmittedContextMarker) := []
  originalChangedFileCount : ℕ := 0
  retainedChangedFileCount : ℕ := 0
  originalPatchBytes : ℕ := 0
  retainedPatchBytes : ℕ := 0
  originalMemoryCount : ℕ := 0
  retainedMemoryCount : ℕ := 0
  originalMemoryBytes : ℕ := 0
  retainedMemoryBytes : ℕ := 0
  originalReviewerCount : ℕ := 0
  retainedReviewerCount : ℕ := 0
  plannedLiveCalls : ℕ := 0
  retainedFilePaths : List Text := []
  omittedFilePaths : List Text := []
  retainedMemoryIds : List Text := []
  omittedMemoryIds : List Text := []
  retainedReviewerIds : List Text := []
  deferredReviewerIds : List Text := []
  retainedLiveCallReviewerIds : List Text := []
  deferredLiveCallReviewerIds : List Text := []
  generatedLocalNoteIds : List Text := []
  reasons : List Text := []
  deriving DecidableEq

/-- The check of a positive count. -/
def requirePositive (value : ℕ) (fieldName : Text) : Result Unit :=
  require (0 < value) (fieldName ++ " must be a positive integer")

instance : Record ContextBudget where
  postInit b := do
    requirePositive b.maxChangedFiles "context budget max_changed_files"
    requirePositive b.maxPatchBytes "context budget max_patch_bytes"
    requirePositive b.maxMemoryBytes "context budget max_memory_bytes"
    requirePositive b.maxReviewers "context budget max_reviewers"
    requireStringTuple b.retainedFilePaths "context budget retained_file_paths" true
    requireStringTuple b.omittedFilePaths "context budget omitted_file_paths" true
    requireStringTuple b.retainedMemoryIds "context budget retained_memory_ids" true
    requireStringTuple b.omittedMemoryIds "context budget omitted_memory_ids" true
    requireStringTuple b.retainedReviewerIds "context budget retained_reviewer_ids" true
    requireStringTuple b.deferredReviewerIds "context budget deferred_reviewer_ids" true
    requireStringTuple b.retainedLiveCallReviewerIds
      "context budget retained_live_call_reviewer_ids" true
    requireStringTuple b.deferredLiveCallReviewerIds
      "context budget deferred_live_call_reviewer_ids" true
    requireStringTuple b.generatedLocalNoteIds "context budget generated_local_note_ids" true
    requireStringTuple b.reasons "context budget reasons" true

/-- What the checks of a context budget establish. -/
lemma ContextBudget.postInit_eq_ok {b : ContextBudget} :
    Record.postInit b = .ok () ↔ 0 < b.maxChangedFiles ∧ 0 < b.maxPatchBytes ∧
      0 < b.maxMemoryBytes ∧ 0 < b.maxReviewers ∧ (∀ t ∈ b.retainedFilePaths, t ≠ []) ∧
      (∀ t ∈ b.omittedFilePaths, t ≠ []) ∧ (∀ t ∈ b.retainedMemoryIds, t ≠ []) ∧
      (∀ t ∈ b.omittedMemoryIds, t ≠ []) ∧ (∀ t ∈ b.retainedReviewerIds, t ≠ []) ∧
      (∀ t ∈ b.deferredReviewerIds, t ≠ []) ∧ (∀ t ∈ b.retainedLiveCallReviewerIds, t ≠ []) ∧
      (∀ t ∈ b.deferredLiveCallReviewerIds, t ≠ []) ∧ (∀ t ∈ b.generatedLocalNoteIds, t ≠ []) ∧
      ∀ t ∈ b.reasons, t ≠ [] := by
  simp only [Record.postInit, check_bind_eq_ok, requirePositive, require_eq_ok,
    requireStringTuple_eq_ok, true_or, and_true]

end ReviewGraph
