import ReviewGraph.Hashing

/-!
# Review records

The records of `models.py` that describe what is reviewed and what may be published: the review
target, classified findings with their diff anchors, the posting plan, and the candidate and final
comment payloads.
-/

namespace ReviewGraph

/-! ## Enumerations -/

/-- `GateStatus`. -/
inductive GateStatus
  | pass
  | fail
  | unknown
  deriving DecidableEq, Repr

/-- `ArtifactKind`. -/
inductive ArtifactKind
  | issueComment
  deriving DecidableEq, Repr

/-- `Severity`. -/
inductive Severity
  | critical
  | warning
  | suggestion
  | nit
  deriving DecidableEq, Repr

/-- `Confidence`. -/
inductive Confidence
  | high
  | medium
  | low
  deriving DecidableEq, Repr

/-- `OutputClassification`. -/
inductive OutputClassification
  | postableFinding
  | localNote
  | clarificationRequest
  | suggestedReply
  | nonFinding
  deriving DecidableEq, Repr

/-- `ReviewVerdict`. -/
inductive ReviewVerdict
  | comment
  | requestChanges
  | needsClarification
  | noFindings
  deriving DecidableEq, Repr

/-- `PostingDestination`. -/
inductive PostingDestination
  | localOnly
  | topLevelSummaryItem
  | reviewBodyItem
  | inlineCandidate
  | suggestedReply
  deriving DecidableEq, Repr

/-- The string value of a severity. -/
def Severity.value : Severity → Text
  | critical => "critical"
  | warning => "warning"
  | suggestion => "suggestion"
  | nit => "nit"

/-- The string value of a confidence. -/
def Confidence.value : Confidence → Text
  | high => "high"
  | medium => "medium"
  | low => "low"

/-- The string value of a classification. -/
def OutputClassification.value : OutputClassification → Text
  | postableFinding => "postable_finding"
  | localNote => "local_note"
  | clarificationRequest => "clarification_request"
  | suggestedReply => "suggested_reply"
  | nonFinding => "non_finding"

/-- The string value of a gate status. -/
def GateStatus.value : GateStatus → Text
  | pass => "pass"
  | fail => "fail"
  | unknown => "unknown"

/-- The string value of an artifact kind. -/
def ArtifactKind.value : ArtifactKind → Text
  | issueComment => "issue_comment"

/-- The string value of a verdict. -/
def ReviewVerdict.value : ReviewVerdict → Text
  | comment => "comment"
  | requestChanges => "request_changes"
  | needsClarification => "needs_clarification"
  | noFindings => "no_findings"

/-- The string value of a destination. -/
def PostingDestination.value : PostingDestination → Text
  | localOnly => "local_only"
  | topLevelSummaryItem => "top_level_summary_item"
  | reviewBodyItem => "review_body_item"
  | inlineCandidate => "inline_candidate"
  | suggestedReply => "suggested_reply"

/-! ## The review target -/

/-- `ReviewTarget`. -/
structure ReviewTarget where
  ownerRepo : Text
  prNumber : ℤ
  baseSha : Text
  headSha : Text
  mergeBaseSha : Option Text
  diffBasis : Text
  deriving DecidableEq

instance : Record ReviewTarget where
  postInit t := do
    require ('/' ∈ t.ownerRepo) "owner_repo must be in owner/repo form"
    require (0 < t.prNumber) "pr_number must be positive"
    require (t.baseSha ≠ []) "base_sha is required"
    require (t.headSha ≠ []) "head_sha is required"
    require (t.diffBasis ≠ []) "diff_basis is required"

namespace ReviewTarget

/-- What the checks of a review target establish. -/
lemma postInit_eq_ok {t : ReviewTarget} :
    Record.postInit t = .ok () ↔ '/' ∈ t.ownerRepo ∧ 0 < t.prNumber ∧ t.baseSha ≠ [] ∧
      t.headSha ≠ [] ∧ t.diffBasis ≠ [] := by
  simp only [Record.postInit, check_bind_eq_ok, require_eq_ok]

/-- A missing value is written as null. -/
def optionalJson (value : Option Text) : Json := value.elim .null .str

/-- `ReviewTarget.to_ordered_dict`. -/
def toOrderedDict (t : ReviewTarget) : List (Text × Json) :=
  [("owner_repo", .str t.ownerRepo), ("pr_number", .int t.prNumber), ("base_sha", .str t.baseSha),
    ("head_sha", .str t.headSha), ("merge_base_sha", optionalJson t.mergeBaseSha),
    ("diff_basis", .str t.diffBasis)]

/-- `ReviewTarget.target_hash`. -/
def targetHash (t : ReviewTarget) : Text :=
  domainJsonHash "reviewgraph.review_target.v1" (.obj t.toOrderedDict)

/-- The hash of a target is a hash. -/
lemma isStrictSha256_targetHash (t : ReviewTarget) : IsStrictSha256 t.targetHash :=
  isStrictSha256_sha256Text _

end ReviewTarget

/-! ## Findings -/

/-- `DiffAnchor`. -/
structure DiffAnchor where
  path : Text
  line : ℤ
  targetCommitSha : Text
  hunkStart : ℤ
  hunkEnd : ℤ
  side : Text
  fileStatus : Text
  hunkId : Text
  startLine : Option ℤ
  startSide : Text
  oldPath : Option Text
  deriving DecidableEq

instance : Record DiffAnchor where
  postInit a := do
    require (a.path ≠ []) "diff anchor path is required"
    require (0 < a.line) "diff anchor line must be positive"
    require (a.side = "RIGHT") "diff anchor side must be RIGHT for MVP inline candidates"
    require (0 < a.hunkStart ∧ a.hunkStart ≤ a.hunkEnd) "diff anchor hunk bounds are invalid"
    require (a.targetCommitSha ≠ []) "diff anchor target_commit_sha is required"
    require (a.hunkId ≠ []) "diff anchor hunk_id is required"
    require (∃ l ∈ a.startLine, 0 < l) "diff anchor start_line is required"
    require (a.startSide = "RIGHT") "diff anchor start_side must be RIGHT for MVP inline candidates"

/-- `DiffAnchor.overlaps_changed_target`. -/
def DiffAnchor.overlapsChangedTarget (a : DiffAnchor) : Bool :=
  a.side = "RIGHT" ∧ a.hunkStart ≤ a.line ∧ a.line ≤ a.hunkEnd

/-- `DiffAnchor.validates_finding_location`. -/
def DiffAnchor.validatesFindingLocation (a : DiffAnchor) (path : Text) (line : ℤ)
    (targetCommitSha : Text) (lineEnd : Option ℤ) : Bool :=
  a.path = path ∧ a.line = line ∧ a.targetCommitSha = targetCommitSha ∧
    a.startLine.any (fun start => a.hunkStart ≤ start && start ≤ a.line) ∧
    a.line ≤ lineEnd.getD line ∧ lineEnd.getD line ≤ a.hunkEnd ∧
    a.startSide = "RIGHT" ∧ a.overlapsChangedTarget

/-- `ClassifiedFinding`. -/
structure ClassifiedFinding where
  id : Text
  sourceReviewer : Text
  sourceStage : Text
  title : Text
  body : Text
  evidence : Text
  path : Text
  line : ℤ
  priority : ℤ
  severity : Severity
  confidence : Confidence
  fingerprint : Text
  classification : OutputClassification
  blocking : Bool
  lineEnd : Option ℤ
  diffAnchor : Option (Checked DiffAnchor)
  deriving DecidableEq

instance : Record ClassifiedFinding where
  postInit f := do
    require (0 ≤ f.priority ∧ f.priority ≤ 3) "priority must be an integer from 0 through 3"
    require (f.classification = .postableFinding)
      "ClassifiedFinding must use postable_finding classification"
    require (f.id ≠ []) "id is required"
    require (f.sourceReviewer ≠ []) "source_reviewer is required"
    require (f.sourceStage ≠ []) "source_stage is required"
    require (f.title ≠ []) "title is required"
    require (f.body ≠ []) "body is required"
    require (f.evidence ≠ []) "evidence is required"
    require (f.path ≠ []) "path is required"
    require (f.fingerprint ≠ []) "fingerprint is required"
    require (0 < f.line) "line must be positive"

/-- What the checks of a finding establish. -/
lemma ClassifiedFinding.postInit_eq_ok {f : ClassifiedFinding} :
    Record.postInit f = .ok () ↔ (0 ≤ f.priority ∧ f.priority ≤ 3) ∧
      f.classification = .postableFinding ∧ f.id ≠ [] ∧ f.sourceReviewer ≠ [] ∧
      f.sourceStage ≠ [] ∧ f.title ≠ [] ∧ f.body ≠ [] ∧ f.evidence ≠ [] ∧ f.path ≠ [] ∧
      f.fingerprint ≠ [] ∧ 0 < f.line := by
  simp only [Record.postInit, check_bind_eq_ok, require_eq_ok]

/-! ## The posting plan -/

/-- `PostingPlanItem`. -/
structure PostingPlanItem where
  id : Text
  sourceClassification : Text
  destination : PostingDestination
  publicPayloadEligible : Bool
  fingerprint : Option Text
  body : Option Text
  deriving DecidableEq

instance : Record PostingPlanItem where
  postInit i := do
    requireNonEmpty i.id "posting plan item id"
    requireNonEmpty i.sourceClassification "posting plan item source_classification"
    requireOptionalNonEmpty i.fingerprint "posting plan item fingerprint"
    requireOptionalNonEmpty i.body "posting plan item body"
    require (i.publicPayloadEligible = true →
        i.destination = .topLevelSummaryItem ∨ i.destination = .reviewBodyItem)
      "public payload posting plan items must use a public payload destination"

/-- `PostingPlan`. -/
structure PostingPlan where
  items : List (Checked PostingPlanItem)
  deriving DecidableEq

/-- The identifiers of the items of a plan. -/
def PostingPlan.itemIds (p : PostingPlan) : List Text := p.items.map fun i => i.val.id

instance : Record PostingPlan where
  postInit p := require p.itemIds.Nodup "posting plan item ids must be unique"

/-- `PostingPlan.public_payload_items`. -/
def PostingPlan.publicPayloadItems (p : PostingPlan) : List (Checked PostingPlanItem) :=
  p.items.filter fun i => i.val.publicPayloadEligible

/-! ## Payloads -/

/-- `RedactionStatus`. -/
structure RedactionStatus where
  redacted : Bool
  replacementCount : ℤ
  categories : List Text
  status : GateStatus
  deriving DecidableEq

instance : Record RedactionStatus where
  postInit r := do
    require (0 ≤ r.replacementCount) "redaction replacement_count must be a non-negative integer"
    requireStringTuple r.categories "redaction categories" true
    require (r.redacted = true → 0 < r.replacementCount)
      "redacted payloads require replacement_count"

/-- `CandidateIssueCommentPayload`. -/
structure CandidateIssueCommentPayload where
  artifactKind : ArtifactKind
  reviewTarget : Checked ReviewTarget
  body : Text
  visibleBodyHash : Text
  findingsHash : Text
  itemFingerprints : List Text
  redactionStatus : Checked RedactionStatus
  deriving DecidableEq

instance : Record CandidateIssueCommentPayload where
  postInit p := do
    requireNonEmpty p.body "candidate issue comment payload body"
    requireHashLike p.visibleBodyHash "candidate issue comment payload visible_body_hash"
    requireHashLike p.findingsHash "candidate issue comment payload findings_hash"
    requireStringTuple p.itemFingerprints "candidate issue comment payload item_fingerprints" true

/-- `FinalIssueCommentPayload`. -/
structure FinalIssueCommentPayload where
  artifactKind : ArtifactKind
  reviewTarget : Checked ReviewTarget
  body : Text
  markerLine : Text
  markerRunId : Text
  markerTargetHash : Text
  markerPayloadHash : Text
  markerFindingsHash : Text
  visibleBodyHash : Text
  finalPayloadHash : Text
  findingsHash : Text
  itemFingerprints : List Text
  redactionStatus : Checked RedactionStatus
  deriving DecidableEq

instance : Record FinalIssueCommentPayload where
  postInit p := do
    requireNonEmpty p.body "final issue comment payload body"
    requireNonEmpty p.markerLine "final issue comment payload marker_line"
    requireNonEmpty p.markerRunId "final issue comment payload marker_run_id"
    requireHashLike p.markerTargetHash "final issue comment payload marker_target_hash"
    requireHashLike p.markerPayloadHash "final issue comment payload marker_payload_hash"
    requireHashLike p.markerFindingsHash "final issue comment payload marker_findings_hash"
    requireHashLike p.visibleBodyHash "final issue comment payload visible_body_hash"
    requireHashLike p.finalPayloadHash "final issue comment payload final_payload_hash"
    requireHashLike p.findingsHash "final issue comment payload findings_hash"
    requireStringTuple p.itemFingerprints "final issue comment payload item_fingerprints" true

namespace FinalIssueCommentPayload

/-- What the checks of a final payload establish. -/
lemma postInit_eq_ok {p : FinalIssueCommentPayload} :
    Record.postInit p = .ok () ↔ p.body ≠ [] ∧ p.markerLine ≠ [] ∧ p.markerRunId ≠ [] ∧
      hashPrefix <+: p.markerTargetHash ∧ hashPrefix <+: p.markerPayloadHash ∧
      hashPrefix <+: p.markerFindingsHash ∧ hashPrefix <+: p.visibleBodyHash ∧
      hashPrefix <+: p.finalPayloadHash ∧ hashPrefix <+: p.findingsHash ∧
      ∀ item ∈ p.itemFingerprints, item ≠ [] := by
  simp only [Record.postInit, check_bind_eq_ok, requireNonEmpty_eq_ok, requireHashLike_eq_ok,
    requireStringTuple_eq_ok, true_or, and_true]

end FinalIssueCommentPayload

end ReviewGraph
