import ReviewGraph.ApprovalBinding
import ReviewGraph.DiffAnchors
import ReviewGraph.FixtureInputs

/-!
# Approved-post artifacts

`build_approved_post_artifact` and `load_approved_post_artifact` of `github_live_post.py`.  An
artifact records a request together with what was approved.  Loading it runs the approval again and
compares, so that an artifact that loads shows the final payload of a request that passes.
-/

namespace ReviewGraph

/-! ## Fields -/

/-- String literals are compared as texts. -/
lemma Text.ofString_inj {s t : String} : Text.ofString s = Text.ofString t ↔ s = t := by
  rw [Text.ofString_eq, Text.ofString_eq, String.toList_inj]

/-- A key is looked up field by field. -/
lemma Json.lookup_cons (k key : Text) (v : Json) (fields : List (Text × Json)) :
    Json.lookup ((k, v) :: fields) key = if k = key then some v else Json.lookup fields key := by
  unfold Json.lookup
  rw [List.find?_cons]
  by_cases h : k = key
  · simp [h]
  · have hne : (k == key) = false := beq_false_of_ne h
    simp [h, hne]

namespace ApprovedPost

/- `repr` of a text. -/
variable (repr : Text → Text)

/-- `_required_str`. -/
def requiredStr (data : Mapping) (name : Text) : Result Text :=
  match Json.lookup data name with
  | some (.str t) =>
    if t = [] then .error (.valueError (name ++ " must be a non-empty string")) else .ok t
  | _ => .error (.valueError (name ++ " must be a non-empty string"))

/-- `_required_int`. -/
def requiredInt (data : Mapping) (name : Text) : Result ℤ :=
  match Json.lookup data name with
  | some (.int n) => .ok n
  | _ => .error (.valueError (name ++ " must be an integer"))

/-- `_required_bool`. -/
def requiredBool (data : Mapping) (name : Text) : Result Bool :=
  match Json.lookup data name with
  | some (.bool b) => .ok b
  | _ => .error (.valueError (name ++ " must be a boolean"))

/-- `_required_mapping`. -/
def requiredMapping (data : Mapping) (name : Text) : Result Mapping :=
  match Json.lookup data name with
  | some (.obj fields) => .ok fields
  | _ => .error (.valueError (name ++ " must be an object"))

/-- `_required_mapping_list`. -/
def requiredMappingList (data : Mapping) (name : Text) : Result (List Mapping) :=
  match Json.lookup data name with
  | some (.arr items) =>
    match items.mapM Fixture.objectFields with
    | some objects => .ok objects
    | none => .error (.valueError (name ++ " must be an array of objects"))
  | _ => .error (.valueError (name ++ " must be an array of objects"))

/-- `_required_str_tuple`. -/
def requiredStrTuple (data : Mapping) (name : Text) : Result (List Text) :=
  match Json.lookup data name with
  | some (.arr items) =>
    match items.mapM nonEmptyString with
    | some values => .ok values
    | none => .error (.valueError (name ++ " must be an array of strings"))
  | _ => .error (.valueError (name ++ " must be an array of strings"))

/-- `_optional_str`. -/
def optionalStr : Json → Result (Option Text)
  | .null => .ok none
  | .str t =>
    if t = [] then .error (.valueError "optional string must be non-empty") else .ok (some t)
  | _ => .error (.valueError "optional string must be non-empty")

/-- `_optional_int`. -/
def optionalInt : Json → Result (Option ℤ)
  | .null => .ok none
  | .int n => .ok (some n)
  | _ => .error (.valueError "optional int must be int")

/-- `data.get(name)`. -/
def get (data : Mapping) (name : Text) : Json := (Json.lookup data name).getD .null

/-- The member of an enumeration with some value. -/
def ofValue {α : Type} (members : List α) (value : α → Text) (enumeration t : Text) : Result α :=
  match members.find? fun member => value member = t with
  | some member => .ok member
  | none => .error (.valueError (repr t ++ (" is not a valid " ++ enumeration)))

/-- `PostingDestination(...)`. -/
def postingDestination : Text → Result PostingDestination :=
  ofValue repr [.localOnly, .topLevelSummaryItem, .reviewBodyItem, .inlineCandidate,
    .suggestedReply]
    PostingDestination.value "PostingDestination"

/-- `Severity(...)`. -/
def severity : Text → Result Severity :=
  ofValue repr [.critical, .warning, .suggestion, .nit] Severity.value "Severity"

/-- `Confidence(...)`. -/
def confidence : Text → Result Confidence :=
  ofValue repr [.high, .medium, .low] Confidence.value "Confidence"

/-- `ArtifactKind(...)`. -/
def artifactKind : Text → Result ArtifactKind :=
  ofValue repr [.issueComment] ArtifactKind.value "ArtifactKind"

/-- `_optional_verdict`. -/
def optionalVerdict : Json → Result (Option ReviewVerdict)
  | .null => .ok none
  | .str value => do
    let verdict ← ofValue repr [.comment, .requestChanges, .needsClarification, .noFindings]
      ReviewVerdict.value "ReviewVerdict" value
    return some verdict
  | _ => .error (.valueError "local_verdict must be string or null")

/-- The check of `include_public_verdict`. -/
def includePublicVerdict (data : Mapping) : Result Bool :=
  match Json.lookup data "include_public_verdict" with
  | some (.bool b) => .ok b
  | _ => .error (.valueError "approved-post artifact include_public_verdict must be bool")

/-- `_require_hash`. -/
def requireHash (value name : Text) : Result Unit :=
  require (value.startsWith hashPrefix = true ∧ value.length = 71)
    (name ++ " must be a sha256 hash")

/-! ## Records -/

/-- `_review_target_from_dict`. -/
def reviewTargetFromDict (data : Mapping) : Result (Checked ReviewTarget) := do
  let mergeBaseSha := match Json.lookup data "merge_base_sha" with
    | some (.str sha) => some sha
    | _ => none
  let ownerRepo ← requiredStr data "owner_repo"
  let prNumber ← requiredInt data "pr_number"
  let baseSha ← requiredStr data "base_sha"
  let headSha ← requiredStr data "head_sha"
  let diffBasis ← requiredStr data "diff_basis"
  construct ⟨ownerRepo, prNumber, baseSha, headSha, mergeBaseSha, diffBasis⟩

/-- `_posting_plan_item_to_dict`. -/
def postingPlanItemToDict (item : PostingPlanItem) : Mapping :=
  [("id", .str item.id), ("source_classification", .str item.sourceClassification),
    ("destination", .str item.destination.value),
    ("public_payload_eligible", .bool item.publicPayloadEligible),
    ("fingerprint", ReviewTarget.optionalJson item.fingerprint),
    ("body", ReviewTarget.optionalJson item.body)]

/-- `_posting_plan_item_from_dict`. -/
def postingPlanItemFromDict (data : Mapping) : Result (Checked PostingPlanItem) := do
  let id ← requiredStr data "id"
  let sourceClassification ← requiredStr data "source_classification"
  let destinationValue ← requiredStr data "destination"
  let destination ← postingDestination repr destinationValue
  let publicPayloadEligible ← requiredBool data "public_payload_eligible"
  let fingerprint ← optionalStr (get data "fingerprint")
  let body ← optionalStr (get data "body")
  construct ⟨id, sourceClassification, destination, publicPayloadEligible, fingerprint, body⟩

/-- `_classified_finding_to_dict`, which leaves out the diff anchor. -/
def classifiedFindingToDict (finding : ClassifiedFinding) : Mapping :=
  [("id", .str finding.id), ("source_reviewer", .str finding.sourceReviewer),
    ("source_stage", .str finding.sourceStage), ("title", .str finding.title),
    ("body", .str finding.body), ("evidence", .str finding.evidence), ("path", .str finding.path),
    ("line", .int finding.line), ("priority", .int finding.priority),
    ("severity", .str finding.severity.value), ("confidence", .str finding.confidence.value),
    ("fingerprint", .str finding.fingerprint), ("blocking", .bool finding.blocking),
    ("line_end", finding.lineEnd.elim .null .int)]

/-- `_classified_finding_from_dict`. -/
def classifiedFindingFromDict (data : Mapping) : Result (Checked ClassifiedFinding) := do
  let id ← requiredStr data "id"
  let sourceReviewer ← requiredStr data "source_reviewer"
  let sourceStage ← requiredStr data "source_stage"
  let title ← requiredStr data "title"
  let body ← requiredStr data "body"
  let evidence ← requiredStr data "evidence"
  let path ← requiredStr data "path"
  let line ← requiredInt data "line"
  let priority ← requiredInt data "priority"
  let severityValue ← requiredStr data "severity"
  let severity ← severity repr severityValue
  let confidenceValue ← requiredStr data "confidence"
  let confidence ← confidence repr confidenceValue
  let fingerprint ← requiredStr data "fingerprint"
  let blocking ← requiredBool data "blocking"
  let lineEnd ← optionalInt (get data "line_end")
  construct {
    id := id
    sourceReviewer := sourceReviewer
    sourceStage := sourceStage
    title := title
    body := body
    evidence := evidence
    path := path
    line := line
    priority := priority
    severity := severity
    confidence := confidence
    fingerprint := fingerprint
    classification := .postableFinding
    blocking := blocking
    lineEnd := lineEnd
    diffAnchor := none }

/-- `_candidate_payload_to_dict`. -/
def candidatePayloadToDict (payload : CandidateIssueCommentPayload) : Mapping :=
  [("artifact_kind", .str payload.artifactKind.value),
    ("review_target", .obj payload.reviewTarget.val.toOrderedDict), ("body", .str payload.body),
    ("visible_body_hash", .str payload.visibleBodyHash),
    ("findings_hash", .str payload.findingsHash),
    ("item_fingerprints", .arr (payload.itemFingerprints.map .str)),
    ("redaction_status", .obj [("redacted", .bool payload.redactionStatus.val.redacted),
      ("replacement_count", .int payload.redactionStatus.val.replacementCount),
      ("categories", .arr (payload.redactionStatus.val.categories.map .str)),
      ("status", .str payload.redactionStatus.val.status.value)])]

/-- `_candidate_payload_from_dict`; the status of the redaction is its default. -/
def candidatePayloadFromDict (data : Mapping) : Result (Checked CandidateIssueCommentPayload) := do
  let redaction ← requiredMapping data "redaction_status"
  let kindValue ← requiredStr data "artifact_kind"
  let kind ← artifactKind repr kindValue
  let targetData ← requiredMapping data "review_target"
  let reviewTarget ← reviewTargetFromDict targetData
  let body ← requiredStr data "body"
  let visibleBodyHash ← requiredStr data "visible_body_hash"
  let findingsHash ← requiredStr data "findings_hash"
  let itemFingerprints ← requiredStrTuple data "item_fingerprints"
  let redacted ← requiredBool redaction "redacted"
  let replacementCount ← requiredInt redaction "replacement_count"
  let categories ← requiredStrTuple redaction "categories"
  let redactionStatus ← construct ⟨redacted, replacementCount, categories, .pass⟩
  construct ⟨kind, reviewTarget, body, visibleBodyHash, findingsHash, itemFingerprints,
    redactionStatus⟩

end ApprovedPost

/-! ## The artifact -/

/-- `APPROVED_POST_SOURCE`. -/
def approvedPostSource : Text := "reviewgraph-approved-post-artifact"

/-- The name of the helper that writes artifacts. -/
def approvedPostHelper : Text := "build_approved_post_artifact"

/-- `ApprovedPostArtifact`; the arguments of the approval proof among its fields are a request. -/
structure ApprovedPostArtifact where
  data : Mapping
  request : ApprovalRequest
  finalPayloadBody : Text
  finalPayloadHash : Text
  sourceDryRunArtifactHash : Text
  artifactHash : Text

/-- The string value of a reason. -/
def ApprovalProofReasonCode.value : ApprovalProofReasonCode → Text
  | emptyApproval => "empty_approval"
  | unknownApprovedId => "unknown_approved_id"
  | nonPublicDestination => "non_public_destination"
  | summaryItemDeferred => "summary_item_deferred"
  | candidateBindingMismatch => "candidate_binding_mismatch"
  | duplicateApprovedFingerprint => "duplicate_approved_fingerprint"
  | finalRedactionFailed => "final_redaction_failed"
  | invalidRunId => "invalid_run_id"
  | requestChangesPublicTextDeferred => "request_changes_public_text_deferred"

/-- The data without its hash. -/
def withoutArtifactHash (data : Mapping) : Mapping := data.filter fun field =>
    field.1 ≠ "artifact_hash"

/-- The value is one as a schema version: an integer, a boolean or a float that equals one. -/
def isSchemaVersionOne (value : Option Json) : Bool :=
  value = some (.int 1) || value = some (.bool true) || value = some (.float "1.0")

namespace ApprovalRequest

/-- `sorted(findings_by_id[item_id].fingerprint for item_id in approved_item_ids)`. -/
def approvedFingerprints (request : ApprovalRequest) : Result (List Text) := do
  let fingerprints ← request.approvedItemIds.mapM fun itemId =>
    match findingById request.findings itemId with
    | some finding => .ok finding.val.fingerprint
    | none => .error (.keyError itemId)
  return Text.sorted fingerprints

/-- The proof of a request that an artifact records. -/
def artifactProof (request : ApprovalRequest) : Result Unit := do
  let proof ← buildApprovalProof request
  require (proof.val.status = .pass) ("approved-post artifact approval proof failed: " ++
    proof.val.reasonCode.elim ("None" : Text) ApprovalProofReasonCode.value)

/-- The fields that record the approved payload, which `load_approved_post_artifact` compares. -/
def payloadFields (fingerprints : List Text) (b : ApprovedFinalIssueCommentBuild) : Mapping :=
  [("finding_fingerprints", .arr (fingerprints.map .str)),
    ("findings_hash", .str b.payload.val.findingsHash),
    ("visible_body_hash", .str b.visibleBodyHash),
    ("marker_payload_hash", .str b.payload.val.markerPayloadHash),
    ("marker_line", .str b.payload.val.markerLine),
    ("final_payload_hash", .str b.payload.val.finalPayloadHash)]

/-- The data of the artifact for a request, without its hash. -/
def artifactFields (request : ApprovalRequest) (sourceDryRunArtifactHash : Text)
    (fingerprints : List Text) (b : ApprovedFinalIssueCommentBuild) : Mapping :=
  ([("schema_version", .int 1), ("artifact_kind", .str ArtifactKind.issueComment.value),
    ("source", .str approvedPostSource), ("created_by_helper", .str approvedPostHelper),
    ("source_dry_run_artifact_hash", .str sourceDryRunArtifactHash), ("run_id", .str request.runId),
    ("target", .obj request.reviewTarget.val.toOrderedDict),
    ("target_hash", .str request.reviewTarget.val.targetHash),
    ("approved_item_ids", .arr (request.approvedItemIds.map .str))] : Mapping) ++
  payloadFields fingerprints b ++
  ([("final_payload_body", .str b.payload.val.body),
    ("posting_plan_items", .arr (request.postingPlan.val.items.map fun item =>
      .obj (ApprovedPost.postingPlanItemToDict item.val))),
    ("candidate_findings", .arr (request.findings.map fun finding =>
      .obj (ApprovedPost.classifiedFindingToDict finding.val))),
    ("candidate_payload", .obj (ApprovedPost.candidatePayloadToDict request.candidatePayload.val)),
    ("local_verdict", request.localVerdict.elim .null fun verdict => .str verdict.value),
    ("include_public_verdict", .bool request.includePublicVerdict),
    ("approved_by", .str request.approvedBy), ("timestamp", .str request.timestamp)] : Mapping)

end ApprovalRequest

section
variable (repr : Text → Text)

/-- The request that is recorded in an artifact, from the target on. -/
def requestFromData (data : Mapping) : Result ApprovalRequest := do
  let targetData ← ApprovedPost.requiredMapping data "target"
  let reviewTarget ← ApprovedPost.reviewTargetFromDict targetData
  require (Json.lookup data "target_hash" = some (.str reviewTarget.val.targetHash))
    "approved-post artifact target hash mismatch"
  let runId ← ApprovedPost.requiredStr data "run_id"
  let approvedItemIds ← ApprovedPost.requiredStrTuple data "approved_item_ids"
  let planData ← ApprovedPost.requiredMappingList data "posting_plan_items"
  let items ← planData.mapM (ApprovedPost.postingPlanItemFromDict repr)
  let postingPlan ← construct ⟨items⟩
  let findingData ← ApprovedPost.requiredMappingList data "candidate_findings"
  let findings ← findingData.mapM (ApprovedPost.classifiedFindingFromDict repr)
  let candidateData ← ApprovedPost.requiredMapping data "candidate_payload"
  let candidatePayload ← ApprovedPost.candidatePayloadFromDict repr candidateData
  let localVerdict ← ApprovedPost.optionalVerdict repr (ApprovedPost.get data "local_verdict")
  let includePublicVerdict ← ApprovedPost.includePublicVerdict data
  let approvedBy ← ApprovedPost.requiredStr data "approved_by"
  let timestamp ← ApprovedPost.requiredStr data "timestamp"
  return ⟨approvedItemIds, reviewTarget, postingPlan, findings, candidatePayload, runId, approvedBy,
    timestamp, localVerdict, includePublicVerdict⟩

/-- `load_approved_post_artifact`. -/
def loadApprovedPostArtifact (data : Mapping) : Result ApprovedPostArtifact := do
  let artifactHash ← ApprovedPost.requiredStr data "artifact_hash"
  require (artifactHash = canonicalJsonHash (.obj (withoutArtifactHash data)))
    "approved-post artifact hash mismatch"
  require (isSchemaVersionOne (Json.lookup data "schema_version") = true)
    "approved-post artifact schema_version mismatch"
  require (Json.lookup data "source" = some (.str approvedPostSource) ∧
      Json.lookup data "created_by_helper" = some (.str approvedPostHelper))
    "approved-post artifact must be helper-created"
  require (Json.lookup data "artifact_kind" = some (.str ArtifactKind.issueComment.value))
    "approved-post artifact kind must be issue_comment"
  let sourceDryRunArtifactHash ← ApprovedPost.requiredStr data "source_dry_run_artifact_hash"
  ApprovedPost.requireHash sourceDryRunArtifactHash "source_dry_run_artifact_hash"
  let request ← requestFromData repr data
  request.artifactProof
  require (request.selectedItems.length = request.approvedItemIds.length)
    "approved-post artifact approved items must exist in posting plan"
  let finalBuild ← request.finalBuild
  let finalPayloadBody ← ApprovedPost.requiredStr data "final_payload_body"
  require (finalPayloadBody = finalBuild.payload.val.body)
    "approved-post artifact final payload body mismatch"
  let fingerprints ← request.approvedFingerprints
  (ApprovalRequest.payloadFields fingerprints finalBuild).forM fun field =>
    require (Json.lookup data field.1 = some field.2)
      ("approved-post artifact " ++ (field.1 ++ " mismatch"))
  return {
    data := data
    request := request
    finalPayloadBody := finalPayloadBody
    finalPayloadHash := finalBuild.payload.val.finalPayloadHash
    sourceDryRunArtifactHash := sourceDryRunArtifactHash
    artifactHash := artifactHash }

/-- `build_approved_post_artifact`. -/
def buildApprovedPostArtifact (sourceDryRunArtifactHash : Text) (request : ApprovalRequest) :
    Result ApprovedPostArtifact := do
  ApprovedPost.requireHash sourceDryRunArtifactHash "source_dry_run_artifact_hash"
  request.artifactProof
  let finalBuild ← request.finalBuild
  let fingerprints ← request.approvedFingerprints
  let fields := request.artifactFields sourceDryRunArtifactHash fingerprints finalBuild
  loadApprovedPostArtifact repr
    (fields ++ ([("artifact_hash", .str (canonicalJsonHash (.obj (withoutArtifactHash fields))))] :
      Mapping))

end

/-! ## Reading what was written -/

/-- All checks of a list pass exactly if each of them does. -/
lemma forM_eq_ok {α : Type} {items : List α} {check : α → Result Unit} :
    items.forM check = .ok () ↔ ∀ item ∈ items, check item = .ok () := by
  induction items with
  | nil => simp [List.forM, pure, Except.pure]
  | cons item items ih =>
    change (check item >>= fun _ => items.forM check) = .ok () ↔ _
    rw [check_bind_eq_ok, ih, List.forall_mem_cons]

/-- What is written item by item is read item by item. -/
lemma mapM_map_eq_some {α β : Type} {write : α → β} {read : β → Option α} {items : List α}
    (h : ∀ item ∈ items, read (write item) = some item) : (items.map write).mapM read =
      some items := by
  induction items with
  | nil => rfl
  | cons item items ih =>
    rw [List.map_cons, List.mapM_cons, h item List.mem_cons_self,
      ih fun i hi => h i (List.mem_cons_of_mem _ hi)]
    rfl

namespace ApprovedPost

section
variable {data : Mapping} {name : Text}

/-- A nonempty string is read. -/
lemma requiredStr_of_lookup {t : Text} (h : Json.lookup data name = some (.str t)) (hne : t ≠ []) :
    requiredStr data name = .ok t := by
  unfold requiredStr
  rw [h]
  exact if_neg hne

/-- What is read as a required string is a nonempty string. -/
lemma requiredStr_eq_ok {t : Text} (h : requiredStr data name = .ok t) :
    Json.lookup data name = some (.str t) ∧ t ≠ [] := by
  unfold requiredStr at h
  split at h
  · rename_i text hlookup
    split at h
    · contradiction
    · rename_i hne
      obtain rfl := Except.ok.inj h
      exact ⟨hlookup, hne⟩
  · contradiction

/-- An integer is read. -/
lemma requiredInt_of_lookup {n : ℤ} (h : Json.lookup data name = some (.int n)) :
    requiredInt data name = .ok n := by
  unfold requiredInt
  rw [h]

/-- A truth value is read. -/
lemma requiredBool_of_lookup {b : Bool} (h : Json.lookup data name = some (.bool b)) :
    requiredBool data name = .ok b := by
  unfold requiredBool
  rw [h]

/-- An object is read. -/
lemma requiredMapping_of_lookup {fields : Mapping} (h : Json.lookup data name = some
    (.obj fields)) :
    requiredMapping data name = .ok fields := by
  unfold requiredMapping
  rw [h]

/-- A list of objects is read. -/
lemma requiredMappingList_of_lookup {objects : List Mapping}
    (h : Json.lookup data name = some (.arr (objects.map .obj))) :
    requiredMappingList data name = .ok objects := by
  have hobjects : (objects.map Json.obj).mapM Fixture.objectFields = some objects :=
    mapM_map_eq_some fun _ _ => rfl
  unfold requiredMappingList
  rw [h]
  dsimp only
  rw [hobjects]

/-- A list of nonempty strings is read. -/
lemma requiredStrTuple_of_lookup {texts : List Text}
    (h : Json.lookup data name = some (.arr (texts.map .str))) (hne : ∀ t ∈ texts, t ≠ []) :
    requiredStrTuple data name = .ok texts := by
  have htexts : (texts.map Json.str).mapM nonEmptyString = some texts :=
    mapM_map_eq_some fun t ht => nonEmptyString_eq_some.2 ⟨rfl, hne t ht⟩
  unfold requiredStrTuple
  rw [h]
  dsimp only
  rw [htexts]

/-- An optional string that is not empty is read back. -/
lemma optionalStr_optionalJson {t : Option Text} (hne : t ≠ some []) :
    optionalStr (ReviewTarget.optionalJson t) = .ok t := by
  cases t with
  | none => rfl
  | some t =>
    have hsome : t ≠ [] := fun hnil => hne (congrArg some hnil)
    exact if_neg hsome

end

section
variable (repr : Text → Text)

/-- The values of an enumeration determine its members. -/
lemma ofValue_value {α : Type} {members : List α} {value : α → Text} {enumeration : Text}
    (hinjective : Function.Injective value) {member : α} (hmem : member ∈ members) :
    ofValue repr members value enumeration (value member) = .ok member := by
  have hfind : members.find? (fun m => value m = value member) = some member := by
    have hsome : (members.find? fun m => value m = value member).isSome = true :=
      List.find?_isSome.2 ⟨member, hmem, by simp⟩
    obtain ⟨found, hfound⟩ := Option.isSome_iff_exists.1 hsome
    have hvalue := List.find?_some hfound
    rw [hfound, hinjective (of_decide_eq_true hvalue)]
  unfold ofValue
  rw [hfind]

/-- The value of a destination is read back. -/
lemma postingDestination_value (destination : PostingDestination) :
    postingDestination repr destination.value = .ok destination := by
  refine ofValue_value repr ?_ (by cases destination <;> simp)
  intro a b h
  revert h
  cases a <;> cases b <;> simp [PostingDestination.value, Text.ofString_inj]

/-- The value of a severity is read back. -/
lemma severity_value (s : Severity) : severity repr s.value = .ok s := by
  refine ofValue_value repr ?_ (by cases s <;> simp)
  intro a b h
  revert h
  cases a <;> cases b <;> simp [Severity.value, Text.ofString_inj]

/-- The value of a confidence is read back. -/
lemma confidence_value (c : Confidence) : confidence repr c.value = .ok c := by
  refine ofValue_value repr ?_ (by cases c <;> simp)
  intro a b h
  revert h
  cases a <;> cases b <;> simp [Confidence.value, Text.ofString_inj]

/-- The value of an artifact kind is read back. -/
lemma artifactKind_value (kind : ArtifactKind) : artifactKind repr kind.value = .ok kind := by
  refine ofValue_value repr ?_ (by cases kind; simp)
  intro a b _
  cases a
  cases b
  rfl

/-- The value of an optional verdict is read back. -/
lemma optionalVerdict_value (verdict : Option ReviewVerdict) :
    optionalVerdict repr (verdict.elim .null fun v => .str v.value) = .ok verdict := by
  cases verdict with
  | none => rfl
  | some v =>
    have hvalue : ofValue repr [.comment, .requestChanges, .needsClarification, .noFindings]
        ReviewVerdict.value "ReviewVerdict" v.value = .ok v := by
      refine ofValue_value repr ?_ (by cases v <;> simp)
      intro a b h
      revert h
      cases a <;> cases b <;> simp [ReviewVerdict.value, Text.ofString_inj]
    dsimp only [Option.elim_some, optionalVerdict]
    rw [hvalue]
    rfl

/-- A target is read back. -/
lemma reviewTargetFromDict_toOrderedDict (target : Checked ReviewTarget) :
    reviewTargetFromDict target.val.toOrderedDict = .ok target := by
  obtain ⟨hslash, hnumber, hbase, hhead, hbasis⟩ := ReviewTarget.postInit_eq_ok.1 target.property
  have hrepo : target.val.ownerRepo ≠ [] := List.ne_nil_of_mem hslash
  have hmerge : (match Json.lookup target.val.toOrderedDict "merge_base_sha" with
      | some (.str sha) => some sha
      | _ => none) = target.val.mergeBaseSha := by
    have hlookup : Json.lookup target.val.toOrderedDict "merge_base_sha" =
        some (ReviewTarget.optionalJson target.val.mergeBaseSha) := by
      simp [ReviewTarget.toOrderedDict, Json.lookup_cons, Text.ofString_inj]
    rw [hlookup]
    cases target.val.mergeBaseSha <;> rfl
  unfold reviewTargetFromDict
  rw [hmerge]
  simp only [requiredStr, requiredInt, ReviewTarget.toOrderedDict, Json.lookup_cons,
    Text.ofString_inj,
    String.reduceEq, if_true, if_false, hrepo, hbase, hhead, hbasis, ok_bind]
  exact construct_of_postInit target.property

/-- An item of a plan is read back. -/
lemma postingPlanItemFromDict_toDict (item : Checked PostingPlanItem) :
    postingPlanItemFromDict repr (postingPlanItemToDict item.val) = .ok item := by
  have hchecks := item.property
  simp only [Record.postInit, check_bind_eq_ok, requireNonEmpty_eq_ok,
    requireOptionalNonEmpty_eq_ok]
    at hchecks
  obtain ⟨hid, hclassification, hfingerprint, hbody, -⟩ := hchecks
  have hdestination : item.val.destination.value ≠ [] := by
    cases item.val.destination <;> simp [PostingDestination.value]
  unfold postingPlanItemFromDict
  simp only [requiredStr, requiredBool, get, postingPlanItemToDict, Json.lookup_cons,
    Text.ofString_inj,
    String.reduceEq, if_true, if_false, hid, hclassification, hdestination, ok_bind,
    postingDestination_value, Option.getD_some, optionalStr_optionalJson hfingerprint,
    optionalStr_optionalJson hbody]
  exact construct_of_postInit item.property

/-- A finding without its diff anchor. -/
def withoutAnchor (finding : Checked ClassifiedFinding) : Checked ClassifiedFinding :=
  ⟨{ finding.val with diffAnchor := none }, finding.property⟩

/-- A finding is read back without its diff anchor. -/
lemma classifiedFindingFromDict_toDict (finding : Checked ClassifiedFinding) :
    classifiedFindingFromDict repr (classifiedFindingToDict finding.val) = .ok
      (withoutAnchor finding) := by
  obtain ⟨-, hclassification, hid, hreviewer, hstage, htitle, hbody, hevidence, hpath, hfingerprint,
      -⟩ :=
    ClassifiedFinding.postInit_eq_ok.1 finding.property
  have hseverity : finding.val.severity.value ≠ [] := by
    cases finding.val.severity <;> simp [Severity.value]
  have hconfidence : finding.val.confidence.value ≠ [] := by
    cases finding.val.confidence <;> simp [Confidence.value]
  have hline : optionalInt (finding.val.lineEnd.elim .null .int) = .ok finding.val.lineEnd := by
    cases finding.val.lineEnd <;> rfl
  unfold classifiedFindingFromDict
  simp only [requiredStr, requiredInt, requiredBool, get, classifiedFindingToDict, Json.lookup_cons,
    Text.ofString_inj, String.reduceEq, if_true, if_false, hid, hreviewer, hstage, htitle, hbody,
    hevidence,
    hpath, hfingerprint, hseverity, hconfidence, ok_bind, severity_value, confidence_value,
    Option.getD_some, hline]
  rw [← hclassification]
  exact construct_of_postInit (withoutAnchor finding).property

/-- A candidate whose redaction passed is read back. -/
lemma candidatePayloadFromDict_toDict {payload : Checked CandidateIssueCommentPayload}
    (hpass : payload.val.redactionStatus.val.status = .pass) :
    candidatePayloadFromDict repr (candidatePayloadToDict payload.val) = .ok payload := by
  have hchecks := payload.property
  simp only [Record.postInit, check_bind_eq_ok, requireNonEmpty_eq_ok, requireHashLike_eq_ok,
    requireStringTuple_eq_ok, true_or, and_true] at hchecks
  obtain ⟨hbody, hvisible, hfindings, hitems⟩ := hchecks
  have hstatus := payload.val.redactionStatus.property
  have hcategories : ∀ c ∈ payload.val.redactionStatus.val.categories, c ≠ [] := by
    simp only [Record.postInit, check_bind_eq_ok, requireStringTuple_eq_ok, true_or,
      and_true] at hstatus
    exact hstatus.2.1
  have hprefix : ∀ {hash : Text}, hashPrefix <+: hash → hash ≠ [] := by
    rintro hash hp rfl
    exact absurd (List.prefix_nil.1 hp) (by simp [hashPrefix])
  have htexts : ∀ {texts : List Text}, (∀ t ∈ texts, t ≠ []) →
      (texts.map Json.str).mapM nonEmptyString = some texts := by
    intro texts hne
    exact mapM_map_eq_some fun t ht => nonEmptyString_eq_some.2 ⟨rfl, hne t ht⟩
  have hkind : payload.val.artifactKind.value ≠ [] := by
    cases payload.val.artifactKind
    simp [ArtifactKind.value]
  have hredaction : (construct ⟨payload.val.redactionStatus.val.redacted,
      payload.val.redactionStatus.val.replacementCount, payload.val.redactionStatus.val.categories,
      .pass⟩ :
      Result (Checked RedactionStatus)) = .ok payload.val.redactionStatus := by
    rw [← hpass]
    exact construct_of_postInit hstatus
  unfold candidatePayloadFromDict
  simp only [requiredStr, requiredInt, requiredBool, requiredMapping, candidatePayloadToDict,
    Json.lookup_cons, Text.ofString_inj, String.reduceEq, if_true, if_false, hbody,
    hprefix hvisible,
    hprefix hfindings, hkind, ok_bind, artifactKind_value, reviewTargetFromDict_toOrderedDict,
    requiredStrTuple, htexts hitems, htexts hcategories, hredaction]
  exact construct_of_postInit payload.property

end

end ApprovedPost

/-! ## Requests without diff anchors -/

/-- A change that keeps identifiers commutes with the lookup of a finding. -/
lemma findingById_map {change : Checked ClassifiedFinding → Checked ClassifiedFinding}
    (hid : ∀ f, (change f).val.id = f.val.id) (findings : List (Checked ClassifiedFinding))
    (id : Text) :
    findingById (findings.map change) id = (findingById findings id).map change := by
  unfold findingById
  rw [← List.map_reverse, List.find?_map]
  congr 2
  funext f
  exact congrArg (fun i => decide (i = id)) (hid f)

namespace ApprovalRequest

open ApprovedPost

variable {request : ApprovalRequest}

/-- The request as an artifact records it. -/
def recorded (request : ApprovalRequest) : ApprovalRequest :=
  { request with findings := request.findings.map withoutAnchor }

/-- The recorded findings have the same identifiers. -/
lemma findingById_recorded (request : ApprovalRequest) (id : Text) :
    findingById request.recorded.findings id = (findingById request.findings id).map
      withoutAnchor :=
  @findingById_map withoutAnchor (fun _ => rfl) request.findings id

/-- An approved finding is recorded without its anchor. -/
lemma approvedFinding_recorded {item : PostingPlanItem} {finding : Checked ClassifiedFinding}
    (h : request.approvedFinding item = .ok finding) :
    request.recorded.approvedFinding item = .ok (withoutAnchor finding) := by
  obtain ⟨hfinding, -⟩ := approvedFinding_eq_ok h
  unfold approvedFinding at h ⊢
  rw [findingById_recorded]
  rw [hfinding] at h ⊢
  dsimp only [Option.map_some] at h ⊢
  split at h
  · contradiction
  rename_i hpublic
  refine (if_neg hpublic).trans ?_
  split at h
  · contradiction
  rename_i hdestination
  refine (if_neg hdestination).trans ?_
  split at h
  · contradiction
  rename_i hclassification
  refine (if_neg hclassification).trans ?_
  split at h
  · contradiction
  rename_i hfingerprint
  exact if_neg hfingerprint

/-- The approved findings of the recorded request are the approved findings without their
anchors. -/
lemma approvedFindings_recorded {findings : List (Checked ClassifiedFinding)}
    (h : request.approvedFindings = .ok findings) :
    request.recorded.approvedFindings = .ok (findings.map withoutAnchor) := by
  unfold approvedFindings at h ⊢
  split at h
  · contradiction
  rename_i hrun
  refine (if_neg hrun).trans ?_
  split at h
  · contradiction
  rename_i hverdict
  refine (if_neg hverdict).trans ?_
  split at h
  · contradiction
  rename_i hsummary
  refine (if_neg hsummary).trans ?_
  split at h
  · contradiction
  rename_i hempty
  refine (if_neg hempty).trans ?_
  split at h
  · contradiction
  rename_i hnodup
  refine (if_neg hnodup).trans ?_
  have hfind : (request.recorded.approvedItemIds.find?
      (· ∉ request.recorded.postingPlan.val.itemIds)) = request.approvedItemIds.find?
        (· ∉ request.postingPlan.val.itemIds) := rfl
  rw [hfind]
  split at h
  · contradiction
  split at h
  · contradiction
  rename_i findings' hmap
  split at h
  · contradiction
  rename_i hfingerprints
  obtain rfl := Except.ok.inj h
  have hmap' : request.recorded.selectedItems.mapM (fun item =>
      request.recorded.approvedFinding item.val) =
      .ok (findings'.map withoutAnchor) := by
    rw [mapM_eq_ok, List.forall₂_map_right_iff]
    exact (mapM_eq_ok.1 hmap).imp fun item finding hitem => approvedFinding_recorded hitem
  rw [hmap']
  have hsame : (findings'.map withoutAnchor).map (fun f => f.val.fingerprint) =
      findings'.map fun f => f.val.fingerprint := by
    rw [List.map_map]
    rfl
  dsimp only
  rw [hsame]
  exact if_neg hfingerprints

/-- The candidate payload does not depend on diff anchors. -/
lemma buildCandidate_recorded (reviewTarget : Checked ReviewTarget)
    (postingPlan : Checked PostingPlan)
    (findings : List (Checked ClassifiedFinding)) (localVerdict : Option ReviewVerdict)
    (includePublicVerdict : Bool) (kind : Text) :
    buildCandidateIssueCommentPayload reviewTarget postingPlan (findings.map withoutAnchor)
      localVerdict
        includePublicVerdict kind =
      buildCandidateIssueCommentPayload reviewTarget postingPlan findings localVerdict
        includePublicVerdict kind := by
  have hduplicate : ∀ seen, duplicateFindingId seen (findings.map withoutAnchor) =
      duplicateFindingId seen findings := by
    induction findings with
    | nil => exact fun _ => rfl
    | cons finding findings ih =>
      intro seen
      rw [List.map_cons, duplicateFindingId, duplicateFindingId, ih]
      rfl
  have hfind := @findingById_map withoutAnchor (fun _ => rfl) findings
  have hline : ∀ item, candidateItemLine (findings.map withoutAnchor) item =
      candidateItemLine findings item := by
    intro item
    unfold candidateItemLine
    rw [hfind]
    cases findingById findings item.id <;> rfl
  unfold buildCandidateIssueCommentPayload
  simp only [hduplicate, hfind, Option.isNone_map, hline]

/-- The recorded findings give the same approved content. -/
lemma content_recorded (findings : List (Checked ClassifiedFinding)) (runId : Text) :
    (request.recorded.content (findings.map withoutAnchor)).build runId =
      (request.content findings).build runId := by
  have hraw : (request.recorded.content (findings.map withoutAnchor)).rawVisibleBody =
      (request.content findings).rawVisibleBody := by
    unfold ApprovedContent.rawVisibleBody content
    dsimp only
    rw [List.map_map]
    rfl
  have hvisible : (request.recorded.content (findings.map withoutAnchor)).visibleBody =
      (request.content findings).visibleBody := by
    unfold ApprovedContent.visibleBody
    rw [hraw]
  have hfingerprints : (request.recorded.content (findings.map withoutAnchor)).fingerprints =
      (request.content findings).fingerprints := by
    unfold ApprovedContent.fingerprints content
    dsimp only
    rw [List.map_map]
    rfl
  unfold ApprovedContent.build
  rw [hraw, hvisible, hfingerprints]
  rfl

/-- The redaction of a candidate that is built passes. -/
lemma redactionStatus_of_buildCandidate {reviewTarget : Checked ReviewTarget}
    {postingPlan : Checked PostingPlan} {findings : List (Checked ClassifiedFinding)}
    {localVerdict : Option ReviewVerdict} {includePublicVerdict : Bool} {kind : Text}
    {payload : Checked CandidateIssueCommentPayload}
    (h : buildCandidateIssueCommentPayload reviewTarget postingPlan findings localVerdict
      includePublicVerdict kind = .ok payload) : payload.val.redactionStatus.val.status =
        .pass := by
  unfold buildCandidateIssueCommentPayload at h
  obtain ⟨kind, -, h⟩ := bind_eq_ok.1 h
  split at h
  · contradiction
  obtain ⟨-, h⟩ := check_bind_eq_ok.1 h
  dsimp only at h
  split at h
  · contradiction
  split at h
  · contradiction
  obtain ⟨lines, -, h⟩ := bind_eq_ok.1 h
  obtain ⟨hash, -, h⟩ := bind_eq_ok.1 h
  obtain ⟨status, hstatus, h⟩ := bind_eq_ok.1 h
  obtain ⟨status', hstatus', hval⟩ := redactionStatusOf_ok (redactText (Text.unlines
    (candidateBodyParts reviewTarget.val localVerdict includePublicVerdict (lines.map Prod.fst))))
  obtain rfl : status = status' := Except.ok.inj (hstatus.symm.trans hstatus')
  rw [construct_eq_ok.1 h, hval]

/-- A request that passes does so as it is recorded, with the same final payload. -/
lemma Passes.recorded {findings : List (Checked ClassifiedFinding)}
    {b : ApprovedFinalIssueCommentBuild}
    (h : request.Passes findings b) : request.recorded.Passes (findings.map withoutAnchor) b where
  approvedFindings := approvedFindings_recorded h.approvedFindings
  candidate := (buildCandidate_recorded _ _ _ _ _ _).trans h.candidate
  noMarker := h.noMarker
  build := (content_recorded findings request.runId).trans h.build
  approvedBy := h.approvedBy
  timestamp := h.timestamp

/-- The payload of the recorded request is the payload of the request. -/
lemma finalBuild_of_passes {findings : List (Checked ClassifiedFinding)}
    {b : ApprovedFinalIssueCommentBuild}
    (h : request.Passes findings b) : request.finalBuild = .ok b :=
  (buildApprovedFinalIssueComment_eq_build (approvedFindings_selects
    h.approvedFindings).selected).trans
    h.build

/-- An artifact records exactly the requests that pass. -/
lemma artifactProof_eq_ok : request.artifactProof = .ok () ↔ ∃ findings b,
    request.Passes findings b := by
  unfold artifactProof
  rw [bind_eq_ok]
  simp only [require_eq_ok]
  constructor
  · rintro ⟨proof, hproof, hpass⟩
    obtain ⟨findings, b, hpasses, -⟩ := buildApprovalProof_pass hproof hpass
    exact ⟨findings, b, hpasses⟩
  · rintro ⟨findings, b, hpasses⟩
    obtain ⟨proof, hproof, hval⟩ := buildApprovalProof_of_passes hpasses
    exact ⟨proof, hproof, by rw [hval]; rfl⟩

/-- The selected items are as many as the approved ones. -/
lemma Selects.length_eq {findings : List (Checked ClassifiedFinding)}
    (h : request.Selects findings) :
    request.selectedItems.length = request.approvedItemIds.length := by
  have hplan : request.postingPlan.val.itemIds.Nodup := require_eq_ok.1 request.postingPlan.property
  have hids : (request.selectedItems.map fun i => i.val.id).Perm request.approvedItemIds := by
    refine (List.perm_ext_iff_of_nodup ?_ h.nodup).2 fun id => ?_
    · exact hplan.sublist (List.filter_sublist.map _)
    · constructor
      · intro hid
        obtain ⟨item, hitem, rfl⟩ := List.mem_map.1 hid
        exact of_decide_eq_true (List.mem_filter.1 hitem).2
      · intro hid
        obtain ⟨item, hitem, rfl⟩ := List.mem_map.1 (h.subset id hid)
        exact List.mem_map.2 ⟨item, List.mem_filter.2 ⟨hitem, decide_eq_true hid⟩, rfl⟩
  rw [← hids.length_eq, List.length_map]

/-- The approved items of a request that passes have fingerprints. -/
lemma Selects.exists_fingerprints {findings : List (Checked ClassifiedFinding)}
    (h : request.Selects findings) : ∃ fingerprints, request.approvedFingerprints =
      .ok fingerprints := by
  have hread : ∀ id ∈ request.approvedItemIds, ∃ finding, findingById request.findings id =
      some finding := by
    intro id hid
    obtain ⟨item, hitem, rfl⟩ := List.mem_map.1 (h.subset id hid)
    have hselected : item ∈ request.selectedItems := List.mem_filter.2 ⟨hitem, decide_eq_true hid⟩
    have hall := mapM_eq_ok.1 h.selected
    obtain ⟨finding, -, hfinding⟩ := hall.flip.exists_of_mem_right hselected
    cases hfound : findingById request.findings item.val.id with
    | some found => exact ⟨found, rfl⟩
    | none =>
      simp only [hfound] at hfinding
      contradiction
  obtain ⟨fingerprints, hfingerprints, -⟩ := exists_mapM_eq_ok (R := fun _ _ => True)
    (f := fun itemId => match findingById request.findings itemId with
      | some finding => .ok finding.val.fingerprint
      | none => .error (PyError.keyError itemId)) fun id hid => by
    obtain ⟨finding, hfinding⟩ := hread id hid
    exact ⟨finding.val.fingerprint, by rw [hfinding], trivial⟩
  exact ⟨_, by unfold approvedFingerprints; rw [hfingerprints]; rfl⟩

/-- The recorded request approves the same fingerprints. -/
lemma approvedFingerprints_recorded (request : ApprovalRequest) :
    request.recorded.approvedFingerprints = request.approvedFingerprints := by
  unfold approvedFingerprints
  simp only [findingById_recorded]
  congr 2
  funext id
  cases findingById request.findings id <;> rfl

/-! ## The round trip -/

section
variable (repr : Text → Text)

/-- The request of an artifact is read back as it is recorded. -/
lemma requestFromData_artifactFields {findings : List (Checked ClassifiedFinding)}
    {b : ApprovedFinalIssueCommentBuild} (h : request.Passes findings b) (sourceHash : Text)
    (fingerprints : List Text) (rest : Mapping) :
    requestFromData repr (request.artifactFields sourceHash fingerprints b ++ rest) =
      .ok request.recorded := by
  have hselects := approvedFindings_selects h.approvedFindings
  have hrunId : request.runId ≠ [] := by
    intro hnil
    have hrun := hselects.runId
    rw [hnil] at hrun
    exact absurd hrun (by decide)
  have hids : (request.approvedItemIds.map Json.str).mapM nonEmptyString =
      some request.approvedItemIds := by
    refine mapM_map_eq_some fun id hid => nonEmptyString_eq_some.2 ⟨rfl, ?_⟩
    obtain ⟨item, -, rfl⟩ := List.mem_map.1 (hselects.subset id hid)
    have hitem := item.property
    simp only [Record.postInit, check_bind_eq_ok, requireNonEmpty_eq_ok] at hitem
    exact hitem.1
  have hobjects : ∀ {α : Type} (write : α → Mapping) (items : List α),
      (items.map fun item => Json.obj (write item)).mapM Fixture.objectFields = some
      (items.map write) := by
    intro α write items
    have heq : (items.map fun item => Json.obj (write item)) = (items.map write).map .obj := by
      rw [List.map_map]
      rfl
    rw [heq]
    exact mapM_map_eq_some fun _ _ => rfl
  have hitems : (request.postingPlan.val.items.map fun item => postingPlanItemToDict item.val).mapM
      (postingPlanItemFromDict repr) = .ok request.postingPlan.val.items := by
    rw [mapM_eq_ok, List.forall₂_map_left_iff, List.forall₂_same]
    exact fun item _ => postingPlanItemFromDict_toDict repr item
  have hfindings : (request.findings.map fun finding => classifiedFindingToDict finding.val).mapM
      (classifiedFindingFromDict repr) = .ok (request.findings.map withoutAnchor) := by
    rw [mapM_eq_ok, List.forall₂_map_left_iff, List.forall₂_map_right_iff, List.forall₂_same]
    exact fun finding _ => classifiedFindingFromDict_toDict repr finding
  have hcandidate : candidatePayloadFromDict repr
      (candidatePayloadToDict request.candidatePayload.val) =
      .ok request.candidatePayload :=
    candidatePayloadFromDict_toDict repr (redactionStatus_of_buildCandidate h.candidate)
  unfold requestFromData
  simp only [ApprovedPost.requiredStr, requiredMapping, requiredMappingList, requiredStrTuple,
    ApprovedPost.get, ApprovedPost.includePublicVerdict, artifactFields, payloadFields,
    List.cons_append, List.nil_append, Json.lookup_cons,
    Text.ofString_inj, String.reduceEq, if_true, if_false, ok_bind,
    reviewTargetFromDict_toOrderedDict,
    hrunId, hids, hobjects, hitems, hfindings, hcandidate, Option.getD_some, optionalVerdict_value,
    h.approvedBy, h.timestamp]
  have hplan : construct (⟨request.postingPlan.val.items⟩ : PostingPlan) =
      .ok request.postingPlan :=
    construct_of_postInit request.postingPlan.property
  rw [require_eq_ok.2 trivial, ok_bind, hplan]
  rfl

/-- The hash of an artifact is taken of the other fields. -/
lemma withoutArtifactHash_artifactFields (request : ApprovalRequest) (sourceHash : Text)
    (fingerprints : List Text) (b : ApprovedFinalIssueCommentBuild) :
    withoutArtifactHash (request.artifactFields sourceHash fingerprints b) =
      request.artifactFields sourceHash fingerprints b := by
  refine List.filter_eq_self.2 fun field hfield => decide_eq_true ?_
  simp only [artifactFields, payloadFields, List.cons_append, List.nil_append, List.mem_cons,
    List.not_mem_nil, or_false] at hfield
  rcases hfield with
      rfl | rfl | rfl | rfl | rfl | rfl | rfl | rfl | rfl | rfl | rfl | rfl | rfl | rfl |
    rfl | rfl | rfl | rfl | rfl | rfl | rfl | rfl | rfl <;> simp [Text.ofString_inj]

/-- The artifact of a request with its final payload. -/
def artifact (request : ApprovalRequest) (sourceHash : Text) (fingerprints : List Text)
    (b : ApprovedFinalIssueCommentBuild) : ApprovedPostArtifact where
  data := request.artifactFields sourceHash fingerprints b ++
    ([("artifact_hash", .str (canonicalJsonHash
      (.obj (request.artifactFields sourceHash fingerprints b))))] : Mapping)
  request := request.recorded
  finalPayloadBody := b.payload.val.body
  finalPayloadHash := b.payload.val.finalPayloadHash
  sourceDryRunArtifactHash := sourceHash
  artifactHash := canonicalJsonHash (.obj (request.artifactFields sourceHash fingerprints b))

/-- The artifact of a request that passes is loaded. -/
lemma load_artifactFields {findings : List (Checked ClassifiedFinding)}
    {b : ApprovedFinalIssueCommentBuild}
    (h : request.Passes findings b) {sourceHash : Text} {fingerprints : List Text}
    (hsource : ApprovedPost.requireHash sourceHash "source_dry_run_artifact_hash" = .ok ())
    (hfingerprints : request.approvedFingerprints = .ok fingerprints) :
    loadApprovedPostArtifact repr (request.artifact sourceHash fingerprints b).data =
      .ok (request.artifact sourceHash fingerprints b) := by
  let fields := request.artifactFields sourceHash fingerprints b
  let hash := canonicalJsonHash (.obj fields)
  let data := fields ++ ([("artifact_hash", .str hash)] : Mapping)
  change loadApprovedPostArtifact repr data = _
  have hfields : withoutArtifactHash data = fields := by
    have hrest : withoutArtifactHash ([("artifact_hash", .str hash)] : Mapping) = [] := by
      simp [withoutArtifactHash]
    have happend : withoutArtifactHash data = withoutArtifactHash fields ++
        withoutArtifactHash ([("artifact_hash", .str hash)] : Mapping) := List.filter_append _ _
    rw [happend, hrest, List.append_nil]
    exact withoutArtifactHash_artifactFields request sourceHash fingerprints b
  have hhash : hash ≠ [] := by
    have hstrict := (isStrictSha256_sha256Text (Json.obj fields).dumps).hashPrefix_accepted
    rintro hnil
    have hprefix : hashPrefix <+: hash := hstrict
    rw [hnil] at hprefix
    exact absurd (List.prefix_nil.1 hprefix) (by simp [hashPrefix])
  have hsourceNe : sourceHash ≠ [] := by
    rintro rfl
    have hlength := (require_eq_ok.1 hsource).2
    simp at hlength
  have hbody : b.payload.val.body ≠ [] := (FinalIssueCommentPayload.postInit_eq_ok.1
      b.payload.property).1
  have hrecorded := h.recorded
  have hlength := (approvedFindings_selects hrecorded.approvedFindings).length_eq
  have hread : requestFromData repr data = .ok request.recorded :=
    requestFromData_artifactFields repr h sourceHash fingerprints _
  have hproof : request.recorded.artifactProof = .ok () := artifactProof_eq_ok.2 ⟨_, _, hrecorded⟩
  have hbuild : request.recorded.finalBuild = .ok b := finalBuild_of_passes hrecorded
  have hsame : request.recorded.approvedFingerprints = .ok fingerprints := by
    rw [approvedFingerprints_recorded, hfingerprints]
  have hlookups : Json.lookup data "artifact_hash" = some (.str hash) ∧
      isSchemaVersionOne (Json.lookup data "schema_version") = true ∧
      Json.lookup data "source" = some (.str approvedPostSource) ∧
      Json.lookup data "created_by_helper" = some (.str approvedPostHelper) ∧
      Json.lookup data "artifact_kind" = some (.str ArtifactKind.issueComment.value) ∧
      Json.lookup data "source_dry_run_artifact_hash" = some (.str sourceHash) ∧
      Json.lookup data "final_payload_body" = some (.str b.payload.val.body) := by
    simp [data, fields, artifactFields, payloadFields, Json.lookup_cons, Text.ofString_inj,
      isSchemaVersionOne]
  obtain ⟨hartifact, hschema, hsourceName, hhelper, hkind, hsourceHash, hfinalBody⟩ := hlookups
  have hpayload : (payloadFields fingerprints b).forM (fun field =>
      require (Json.lookup data field.1 = some field.2)
        ("approved-post artifact " ++ (field.1 ++ " mismatch"))) = .ok () := by
    rw [forM_eq_ok]
    intro field hfield
    rw [require_eq_ok]
    simp only [payloadFields, List.mem_cons, List.not_mem_nil, or_false] at hfield
    rcases hfield with rfl | rfl | rfl | rfl | rfl | rfl <;>
      simp [data, fields, artifactFields, payloadFields, Json.lookup_cons, Text.ofString_inj]
  unfold loadApprovedPostArtifact
  rw [ApprovedPost.requiredStr_of_lookup hartifact hhash, ok_bind, hfields, require_eq_ok.2 rfl,
    ok_bind,
    require_eq_ok.2 hschema, ok_bind, require_eq_ok.2 ⟨hsourceName, hhelper⟩, ok_bind,
    require_eq_ok.2 hkind, ok_bind, ApprovedPost.requiredStr_of_lookup hsourceHash hsourceNe,
    ok_bind,
    hsource, ok_bind, hread, ok_bind, hproof, ok_bind, require_eq_ok.2 hlength, ok_bind, hbuild,
    ok_bind,
    ApprovedPost.requiredStr_of_lookup hfinalBody hbody, ok_bind, require_eq_ok.2 rfl, ok_bind,
    hsame,
    ok_bind, hpayload]
  rfl

end

end ApprovalRequest

section
variable (repr : Text → Text)

/-- Building an artifact loads the one of a request that passes. -/
lemma buildApprovedPostArtifact_eq_ok {sourceHash : Text} {request : ApprovalRequest}
    {artifact : ApprovedPostArtifact} :
    buildApprovedPostArtifact repr sourceHash request = .ok artifact ↔
      ApprovedPost.requireHash sourceHash "source_dry_run_artifact_hash" = .ok () ∧
      ∃ findings b fingerprints, request.Passes findings b ∧
        request.approvedFingerprints = .ok fingerprints ∧
        artifact = request.artifact sourceHash fingerprints b := by
  unfold buildApprovedPostArtifact
  simp only [check_bind_eq_ok]
  constructor
  · rintro ⟨hsource, hproof, hartifact⟩
    obtain ⟨findings, b, hpasses⟩ := ApprovalRequest.artifactProof_eq_ok.1 hproof
    rw [ApprovalRequest.finalBuild_of_passes hpasses, ok_bind] at hartifact
    obtain ⟨fingerprints, hfingerprints, hload⟩ := bind_eq_ok.1 hartifact
    rw [ApprovalRequest.withoutArtifactHash_artifactFields] at hload
    have hloaded := ApprovalRequest.load_artifactFields repr hpasses hsource hfingerprints
    exact ⟨hsource, findings, b, fingerprints, hpasses, hfingerprints,
      Except.ok.inj (hload.symm.trans hloaded)⟩
  · rintro ⟨hsource, findings, b, fingerprints, hpasses, hfingerprints, rfl⟩
    refine ⟨hsource, ApprovalRequest.artifactProof_eq_ok.2 ⟨findings, b, hpasses⟩, ?_⟩
    rw [ApprovalRequest.finalBuild_of_passes hpasses, ok_bind, hfingerprints, ok_bind,
      ApprovalRequest.withoutArtifactHash_artifactFields]
    exact ApprovalRequest.load_artifactFields repr hpasses hsource hfingerprints

/-- A hash has the prefix and 71 characters. -/
lemma requireHash_eq_ok {value name : Text} : ApprovedPost.requireHash value name = .ok () ↔
    hashPrefix <+: value ∧ value.length = 71 := by
  rw [ApprovedPost.requireHash, require_eq_ok, Text.startsWith_iff]

/-- An artifact can be built of exactly the requests that pass; it records the request up to the
diff anchors of its findings, with the final payload that is approved, and loads as it was built. -/
theorem approvedPostArtifact_roundTrip (sourceHash : Text) (request : ApprovalRequest) :
    ((∃ artifact, buildApprovedPostArtifact repr sourceHash request = .ok artifact) ↔
      (hashPrefix <+: sourceHash ∧ sourceHash.length = 71) ∧
        ∃ proof, buildApprovalProof request = .ok proof ∧ proof.val.status = .pass) ∧
    ∀ artifact, buildApprovedPostArtifact repr sourceHash request = .ok artifact →
      artifact.request = request.recorded ∧ artifact.sourceDryRunArtifactHash = sourceHash ∧
      loadApprovedPostArtifact repr artifact.data = .ok artifact ∧
      ∃ b, request.finalBuild = .ok b ∧ artifact.finalPayloadBody = b.payload.val.body ∧
        artifact.finalPayloadHash = b.payload.val.finalPayloadHash := by
  simp only [buildApprovedPostArtifact_eq_ok]
  constructor
  · constructor
    · rintro ⟨artifact, hsource, findings, b, fingerprints, hpasses, -⟩
      obtain ⟨proof, hproof, hval⟩ := buildApprovalProof_of_passes hpasses
      exact ⟨requireHash_eq_ok.1 hsource, proof, hproof, by rw [hval]; rfl⟩
    · rintro ⟨hsource, proof, hproof, hpass⟩
      obtain ⟨findings, b, hpasses, -⟩ := buildApprovalProof_pass hproof hpass
      obtain ⟨fingerprints, hfingerprints⟩ :=
        (ApprovalRequest.approvedFindings_selects hpasses.approvedFindings).exists_fingerprints
      exact ⟨_, requireHash_eq_ok.2 hsource, findings, b, fingerprints, hpasses, hfingerprints, rfl⟩
  · rintro artifact ⟨hsource, findings, b, fingerprints, hpasses, hfingerprints, rfl⟩
    exact ⟨rfl, rfl, ApprovalRequest.load_artifactFields repr hpasses hsource hfingerprints, b,
      ApprovalRequest.finalBuild_of_passes hpasses, rfl, rfl⟩

/-! ## Artifacts that load -/

/-- A finding that is read has no diff anchor. -/
lemma classifiedFindingFromDict_anchor {data : Mapping} {finding : Checked ClassifiedFinding}
    (h : ApprovedPost.classifiedFindingFromDict repr data = .ok finding) :
    ApprovedPost.withoutAnchor finding = finding := by
  unfold ApprovedPost.classifiedFindingFromDict at h
  simp only [bind_eq_ok] at h
  obtain ⟨_, -, _, -, _, -, _, -, _, -, _, -, _, -, _, -, _, -, _, -, _, -, _, -, _, -, _, -, _, -,
      _, -,
    h⟩ := h
  have hval := construct_eq_ok.1 h
  obtain ⟨finding, hchecks⟩ := finding
  subst hval
  rfl

/-- The request of an artifact is a recorded one. -/
lemma recorded_of_requestFromData {data : Mapping} {request : ApprovalRequest}
    (h : requestFromData repr data = .ok request) : request.recorded = request := by
  unfold requestFromData at h
  simp only [bind_eq_ok] at h
  obtain ⟨_, -, _, -, _, -, _, -, _, -, _, -, _, -, _, -, findingData, -, findings, hfindings, _, -,
      _, -,
    _, -,
    _, -, _, -, _, -, h⟩ := h
  obtain rfl := pure_eq_ok.1 h
  have hsame : findings.map ApprovedPost.withoutAnchor = findings := by
    refine (List.map_congr_left fun finding hfinding => ?_).trans (List.map_id findings)
    obtain ⟨fields, -, hread⟩ := (mapM_eq_ok.1 hfindings).exists_of_mem_right hfinding
    exact classifiedFindingFromDict_anchor repr hread
  unfold ApprovalRequest.recorded
  dsimp only
  rw [hsame]

/-- What an artifact that loads shows: its request passes, and what it records about the final
payload is what the approval of the request computes. -/
structure LoadedArtifact (data : Mapping) (artifact : ApprovedPostArtifact)
    (b : ApprovedFinalIssueCommentBuild) (fingerprints : List Text) : Prop where
  isData : artifact.data = data
  isRequest : requestFromData repr data = .ok artifact.request
  passes : ∃ findings, artifact.request.Passes findings b
  isFingerprints : artifact.request.approvedFingerprints = .ok fingerprints
  body : artifact.finalPayloadBody = b.payload.val.body ∧
    Json.lookup data "final_payload_body" = some (.str b.payload.val.body)
  hash : artifact.finalPayloadHash = b.payload.val.finalPayloadHash
  fields : ∀ field ∈ ApprovalRequest.payloadFields fingerprints b,
    Json.lookup data field.1 = some field.2
  source : hashPrefix <+: artifact.sourceDryRunArtifactHash ∧
    artifact.sourceDryRunArtifactHash.length = 71
  artifactHash : artifact.artifactHash = canonicalJsonHash (.obj (withoutArtifactHash data))

/-- A load that succeeds has checked everything that it compares. -/
lemma loadApprovedPostArtifact_loaded {data : Mapping} {artifact : ApprovedPostArtifact}
    (h : loadApprovedPostArtifact repr data = .ok artifact) :
    ∃ b fingerprints, LoadedArtifact repr data artifact b fingerprints := by
  unfold loadApprovedPostArtifact at h
  obtain ⟨artifactHash, hartifact, h⟩ := bind_eq_ok.1 h
  simp only [check_bind_eq_ok, require_eq_ok] at h
  obtain ⟨hhash, -, -, -, h⟩ := h
  obtain ⟨sourceHash, -, h⟩ := bind_eq_ok.1 h
  obtain ⟨hsource, h⟩ := check_bind_eq_ok.1 h
  obtain ⟨request, hrequest, h⟩ := bind_eq_ok.1 h
  simp only [check_bind_eq_ok, require_eq_ok] at h
  obtain ⟨hproof, -, h⟩ := h
  obtain ⟨b, hb, h⟩ := bind_eq_ok.1 h
  obtain ⟨body, hbody, h⟩ := bind_eq_ok.1 h
  obtain ⟨hsame, h⟩ := check_bind_eq_ok.1 h
  obtain ⟨fingerprints, hfingerprints, h⟩ := bind_eq_ok.1 h
  obtain ⟨hfields, h⟩ := check_bind_eq_ok.1 h
  obtain rfl := pure_eq_ok.1 h
  obtain ⟨findings, b', hpasses⟩ := ApprovalRequest.artifactProof_eq_ok.1 hproof
  obtain rfl : b = b' :=
    Except.ok.inj (hb.symm.trans (ApprovalRequest.finalBuild_of_passes hpasses))
  have hbodyEq : body = b.payload.val.body := require_eq_ok.1 hsame
  refine ⟨b, fingerprints, rfl, hrequest, ⟨findings, hpasses⟩, hfingerprints, ⟨hbodyEq, ?_⟩, rfl,
    ?_,
    requireHash_eq_ok.1 hsource, hhash⟩
  · rw [← hbodyEq]
    exact (ApprovedPost.requiredStr_eq_ok hbody).1
  · intro field hfield
    exact require_eq_ok.1 (forM_eq_ok.1 hfields field hfield)

/-- An artifact that loads is the artifact of its request: the request passes, what the artifact
records about the final payload is what its approval computes, and building the artifact of its
request again gives one with the same request and the same payload. -/
theorem loadApprovedPostArtifact_sound {data : Mapping} {artifact : ApprovedPostArtifact}
    (h : loadApprovedPostArtifact repr data = .ok artifact) :
    (∃ proof, buildApprovalProof artifact.request = .ok proof ∧ proof.val.status = .pass) ∧
    (∃ b fingerprints, artifact.request.finalBuild = .ok b ∧
      artifact.request.approvedFingerprints = .ok fingerprints ∧
      artifact.finalPayloadBody = b.payload.val.body ∧
      ∀ field ∈ (("final_payload_body" : Text), Json.str b.payload.val.body) ::
          ApprovalRequest.payloadFields fingerprints b, Json.lookup data field.1 = some field.2) ∧
    artifact.artifactHash = canonicalJsonHash (.obj (withoutArtifactHash data)) ∧
    ∃ rebuilt, buildApprovedPostArtifact repr artifact.sourceDryRunArtifactHash artifact.request =
        .ok rebuilt ∧ rebuilt.request = artifact.request ∧
      rebuilt.finalPayloadBody = artifact.finalPayloadBody ∧
      rebuilt.finalPayloadHash = artifact.finalPayloadHash := by
  obtain ⟨b, fingerprints, hloaded⟩ := loadApprovedPostArtifact_loaded repr h
  obtain ⟨findings, hpasses⟩ := hloaded.passes
  obtain ⟨proof, hproof, hval⟩ := buildApprovalProof_of_passes hpasses
  have hbuild := ApprovalRequest.finalBuild_of_passes hpasses
  refine ⟨⟨proof, hproof, by rw [hval]; rfl⟩,
    ⟨b, fingerprints, hbuild, hloaded.isFingerprints, hloaded.body.1, ?_⟩, hloaded.artifactHash,
    artifact.request.artifact artifact.sourceDryRunArtifactHash fingerprints b, ?_,
    recorded_of_requestFromData repr hloaded.isRequest, hloaded.body.1.symm, hloaded.hash.symm⟩
  · intro field hfield
    rcases List.mem_cons.1 hfield with rfl | hfield
    · exact hloaded.body.2
    · exact hloaded.fields field hfield
  · exact (buildApprovedPostArtifact_eq_ok repr).2 ⟨requireHash_eq_ok.2 hloaded.source, findings, b,
      fingerprints, hpasses, hloaded.isFingerprints, rfl⟩

/-- `repr` of a text without quotes, backslashes and control characters. -/
def quotedRepr (text : Text) : Text := "'" ++ (text ++ "'")

/-- The artifact of a finding of a plan loads. -/
theorem loadApprovedPostArtifact_sound_opening :
    ∃ (data : Mapping) (artifact : ApprovedPostArtifact),
    loadApprovedPostArtifact quotedRepr data = .ok artifact ∧
      ∃ proof, buildApprovalProof artifact.request = .ok proof ∧ proof.val.status = .pass := by
  obtain ⟨p, proof, hproof, hpass⟩ :=
    keyRequest_pass (keyRequest_approvedFindings openingFinding_approved)
  obtain ⟨findings, b, hpasses, -⟩ := buildApprovalProof_pass hproof hpass
  obtain ⟨fingerprints, hfingerprints⟩ :=
    (ApprovalRequest.approvedFindings_selects hpasses.approvedFindings).exists_fingerprints
  have hsource : ApprovedPost.requireHash zeroHash "source_dry_run_artifact_hash" = .ok () := by
    decide +kernel
  have hload := ApprovalRequest.load_artifactFields quotedRepr hpasses hsource hfingerprints
  exact ⟨_, _, hload, (loadApprovedPostArtifact_sound quotedRepr hload).1⟩

end

end ReviewGraph
