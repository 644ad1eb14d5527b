import ReviewGraph.Models.Review
import ReviewGraph.Redaction

/-!
# Candidate payloads

`build_candidate_issue_comment_payload` of `posting.py`: the dry-run body of the public items of a
posting plan.  The body depends on the findings only through what it prints, and the payload never
mentions a diff anchor.
-/

namespace ReviewGraph

/-! ## Findings and their lines -/

/-- The finding of an identifier in a dictionary that is filled in the order of the findings. -/
def findingById (findings : List (Checked ClassifiedFinding)) (id : Text) :
    Option (Checked ClassifiedFinding) :=
  findings.reverse.find? fun f => f.val.id = id

/-- A finding that is found is in the list and has the identifier. -/
lemma findingById_eq_some {findings : List (Checked ClassifiedFinding)} {id : Text}
    {finding : Checked ClassifiedFinding} (h : findingById findings id = some finding) :
    finding ∈ findings ∧ finding.val.id = id := by
  have hmem := List.mem_of_find?_eq_some h
  have hid := List.find?_some h
  exact ⟨List.mem_reverse.1 hmem, of_decide_eq_true hid⟩

/-- The line of a finding in a body. -/
def findingLine (finding : ClassifiedFinding) : Text :=
  "- P" ++ (Text.ofInt finding.priority ++ (" " ++ (finding.title ++ (": " ++ (finding.body ++
    (" (" ++ (finding.path ++ (":" ++ (Text.ofInt finding.line ++ ")")))))))))

/-- The lines of a target at the beginning of a body. -/
def targetLines (title : Text) (target : ReviewTarget) : List Text :=
  [title, "Target: " ++ (target.ownerRepo ++ ("#" ++ Text.ofInt target.prNumber)),
    "Head: " ++ target.headSha, []]

/-- The lines of a verdict that is published. -/
def verdictLines (localVerdict : Option ReviewVerdict) (includePublicVerdict : Bool) : List Text :=
  match localVerdict with
  | some verdict => if includePublicVerdict then ["Local verdict: " ++ verdict.value, []] else []
  | none => []

/-! ## Public items -/

/-- The check of one item in `_validate_public_payload_items`. -/
def validatePublicPayloadItem (item : PostingPlanItem) : Result Unit :=
  if item.id = "summary" then
    if item.destination ≠ .topLevelSummaryItem then
      .error (.postingPlanError "summary public item must use top_level_summary_item destination")
    else .ok ()
  else if item.destination ≠ .reviewBodyItem then
    .error (.postingPlanError "only review_body_item findings can enter public payload items")
  else if item.sourceClassification ≠ OutputClassification.postableFinding.value then
    .error (.postingPlanError "only postable findings can enter public payload items")
  else if item.fingerprint = none then
    .error (.postingPlanError "public payload findings require fingerprints")
  else .ok ()

/-- `_validate_public_payload_items`. -/
def validatePublicPayloadItems (publicItems : List (Checked PostingPlanItem)) : Result Unit :=
  publicItems.forM fun item => validatePublicPayloadItem item.val

/-- The first finding whose identifier an earlier finding has. -/
def duplicateFindingId : List Text → List (Checked ClassifiedFinding) → Option Text
  | _, [] => none
  | seen, finding :: findings =>
    if finding.val.id ∈ seen then some finding.val.id
    else duplicateFindingId (finding.val.id :: seen) findings

/-- Findings without a duplicate have distinct identifiers. -/
lemma duplicateFindingId_eq_none {seen : List Text} {findings : List (Checked ClassifiedFinding)} :
    duplicateFindingId seen findings = none ↔
      (findings.map fun f => f.val.id).Nodup ∧ ∀ f ∈ findings, f.val.id ∉ seen := by
  induction findings generalizing seen with
  | nil => simp [duplicateFindingId]
  | cons finding findings ih =>
    rw [duplicateFindingId]
    split
    · rename_i hseen
      simp [hseen]
    · rename_i hseen
      rw [ih]
      simp only [List.map_cons, List.nodup_cons, List.mem_map, List.mem_cons, forall_eq_or_imp]
      constructor
      · rintro ⟨hnodup, hrest⟩
        refine ⟨⟨?_, hnodup⟩, hseen, fun f hf h => hrest f hf (Or.inr h)⟩
        rintro ⟨f, hf, hid⟩
        exact hrest f hf (Or.inl hid)
      · rintro ⟨⟨hfirst, hnodup⟩, -, hrest⟩
        refine ⟨hnodup, fun f hf h => ?_⟩
        rcases h with h | h
        · exact hfirst ⟨f, hf, h⟩
        · exact hrest f hf h

/-- The line of a public item in a candidate body, with the fingerprint of its finding. -/
def candidateItemLine (findings : List (Checked ClassifiedFinding)) (item : PostingPlanItem) :
    Result (Text × Option Text) :=
  if item.id = "summary" then .ok ("- Summary item reserved for renderer output.", none)
  else
    match findingById findings item.id with
    | none => .error (.keyError item.id)
    | some finding =>
      if item.fingerprint ≠ some finding.val.fingerprint then
        .error (.postingPlanError ("posting plan fingerprint mismatch for " ++ item.id))
      else .ok (findingLine finding.val, some finding.val.fingerprint)

/-! ## The candidate payload -/

/-- `validate_mvp_artifact_kind`. -/
def validateMvpArtifactKind (kind : Text) : Result ArtifactKind :=
  if kind = ArtifactKind.issueComment.value then .ok .issueComment
  else .error (.postingPlanError "MVP supports only top-level issue_comment payloads")

/-- `findings_hash` of `posting.py`. -/
def postingFindingsHash (fingerprints : List Text) : Result Text :=
  match findingsHash fingerprints with
  | .error (.valueError message) => .error (.postingPlanError message)
  | result => result

/-- The redaction status of a redaction. -/
def redactionStatusOf (redaction : RedactionResult) : Result (Checked RedactionStatus) :=
  construct {
    redacted := redaction.redacted
    replacementCount := redaction.replacementCount
    categories := redaction.categories.map RedactionCategory.value
    status := .pass }

/-- The lines of a candidate body, given the lines of its items. -/
def candidateBodyParts (target : ReviewTarget) (localVerdict : Option ReviewVerdict)
    (includePublicVerdict : Bool) (itemLines : List Text) : List Text :=
  targetLines "ReviewGraph dry-run candidate" target ++
    verdictLines localVerdict includePublicVerdict ++
      if itemLines = [] then (["Postable findings: none."] : List Text)
      else ("Postable findings:" : Text) :: itemLines

/-- `build_candidate_issue_comment_payload`. -/
def buildCandidateIssueCommentPayload (reviewTarget : Checked ReviewTarget)
    (postingPlan : Checked PostingPlan) (findings : List (Checked ClassifiedFinding))
    (localVerdict : Option ReviewVerdict) (includePublicVerdict : Bool) (artifactKind : Text) :
    Result (Checked CandidateIssueCommentPayload) := do
  let kind ← validateMvpArtifactKind artifactKind
  match duplicateFindingId [] findings with
  | some id => .error (.postingPlanError ("duplicate finding id: " ++ id))
  | none => do
    let publicItems := postingPlan.val.publicPayloadItems
    validatePublicPayloadItems publicItems
    let missing := (publicItems.map fun item => item.val.id).filter fun id =>
      id ≠ ("summary" : Text) && (findingById findings id).isNone
    if missing ≠ [] then
      .error (.postingPlanError
        ("public payload item has no matching finding: " ++ Text.join ", " missing))
    else if includePublicVerdict = true ∧ localVerdict = some .requestChanges then
      .error (.postingPlanError
        "request_changes verdict text is not public in MVP candidate payloads")
    else do
      let lines ← publicItems.mapM fun item => candidateItemLine findings item.val
      let rawBody := Text.unlines (candidateBodyParts reviewTarget.val localVerdict
        includePublicVerdict (lines.map Prod.fst))
      let redaction := redactText rawBody
      let visibleBody := canonicalVisibleBody redaction.text
      let itemFingerprints := Text.sorted (lines.filterMap Prod.snd)
      let findingsHash ← postingFindingsHash itemFingerprints
      let redactionStatus ← redactionStatusOf redaction
      construct {
        artifactKind := kind
        reviewTarget
        body := visibleBody
        visibleBodyHash := visibleBodyHash visibleBody
        findingsHash
        itemFingerprints
        redactionStatus }

end ReviewGraph
