import ReviewGraph.ContextBudget
import ReviewGraph.FindingPolicy
import ReviewGraph.MemoryProvenance
import ReviewGraph.Models.Reviewers

/-!
# The quality gate

`classify_review_quality` of `quality.py` splits the findings and clarification requests of a
reviewer into those that go on and those that are suppressed.  A finding goes on only if it stands
on changed lines whose patch the reviewer has seen, cites actionable memory only, and does not
repeat a passive comment.
-/

namespace ReviewGraph

/-! ## Changed lines -/

/-- `ChangedRange` and `GitHubChangedRange`. -/
structure ChangedRange where
  first : ℤ
  last : ℤ
  deriving DecidableEq

/-- `ChangedRange.contains`. -/
def ChangedRange.contains (range : ChangedRange) (line : ℤ) : Bool :=
  range.first ≤ line && line ≤ range.last

/-- `ChangedFile` of `fixtures.py`. -/
structure ChangedFile where
  path : Text
  changedRanges : List ChangedRange
  patch : Option Text
  additions : ℕ
  deletions : ℕ
  status : Text
  previousPath : Option Text
  patchStatus : Text
  deriving DecidableEq

instance : Record ChangedFile where
  postInit f := do
    require (f.path ≠ []) "changed_files[].path is required"
    require (f.changedRanges ≠ [])
      ("changed_files[" ++ (f.path ++ "].changed_ranges is required"))
    require (f.patch = none → f.patchStatus ≠ "available")
      "changed_files[].patch_status must explain missing patch"

/-- `GitHubChangedFileLines`. -/
structure GitHubChangedFileLines where
  path : Text
  changedRanges : List ChangedRange
  status : Text
  previousPath : Option Text
  patchStatus : Text
  deriving DecidableEq

/-- A changed file of a dry run: one of a fixture, or one that was read from GitHub. -/
inductive ChangedLines
  | fixture (file : Checked ChangedFile)
  | github (file : GitHubChangedFileLines)
  deriving DecidableEq

namespace ChangedLines

/-- The path of the file. -/
def path : ChangedLines → Text
  | fixture file => file.val.path
  | github file => file.path

/-- The status of the patch. -/
def patchStatus : ChangedLines → Text
  | fixture file => file.val.patchStatus
  | github file => file.patchStatus

/-- The changed ranges. -/
def changedRanges : ChangedLines → List ChangedRange
  | fixture file => file.val.changedRanges
  | github file => file.changedRanges

/-- `contains_line`. -/
def containsLine (lines : ChangedLines) (line : ℤ) : Bool :=
  lines.changedRanges.any fun range => range.contains line

end ChangedLines

/-- One file of `_budgeted_dry_run_input_view`. -/
def budgetedChangedLines (budgetedFiles : List (Checked PullRequestChangedFile))
    (original : ChangedLines) : Result (Option ChangedLines) :=
  match budgetedFiles.reverse.find? fun file => file.val.path = original.path with
  | none => .ok none
  | some budgeted =>
    match original with
    | .github file => .ok (some (.github file))
    | .fixture file => do
      let updated ← construct { file.val with
        patch := budgeted.val.patch
        additions := budgeted.val.additions
        deletions := budgeted.val.deletions
        status := budgeted.val.status
        previousPath := budgeted.val.previousPath
        patchStatus := budgeted.val.patchStatus }
      return some (.fixture updated)

/-- The changed files of `_budgeted_dry_run_input_view`. -/
def budgetedDryRunInputView (originals : List ChangedLines)
    (budgetedFiles : List (Checked PullRequestChangedFile)) : Result (List ChangedLines) := do
  let files ← originals.mapM (budgetedChangedLines budgetedFiles)
  return files.reduceOption

/-! ## Evidence -/

/-- `_uses_omitted_memory`. -/
def usesOmittedMemory (evidenceMemoryIds omittedMemoryIds : List Text) : Bool :=
  evidenceMemoryIds.any (· ∈ omittedMemoryIds)

/-- `_normalized_provenance_text`. -/
def normalizedProvenanceText (value : Text) : Text := Text.join [' '] value.casefold.splitWords

/-- `_text_copies_passive_memory` of findings. -/
def textCopiesPassiveMemoryStrict (textValues : List Text)
    (memoryReferences : List (Checked MemoryReference)) : Bool :=
  memoryReferences.any fun memory =>
    !memory.val.actionable && memoryBodyOverlapsText memory.val.body (Text.unlines textValues)

/-- `_text_copies_passive_memory` of clarification requests. -/
def textCopiesPassiveMemoryLax (textValues : List Text)
    (memoryReferences : List (Checked MemoryReference)) : Bool :=
  let values := (textValues.map normalizedProvenanceText).filter fun value => 30 ≤ value.length
  memoryReferences.any fun memory =>
    let body := normalizedProvenanceText (memory.val.body.getD [])
    !memory.val.actionable && 30 ≤ body.length &&
      values.any fun value => body.contains value || value.contains body

/-- The mapping from identifiers to entries, which has the last entry for each. -/
def memoryById (entries : List (Checked MemoryReference)) (id : Text) :
    Option (Checked MemoryReference) :=
  entries.reverse.find? fun m => m.val.id = id

/-- `_unsafe_evidence_provenance`.  The two options of the code are both set for one kind of output:
findings are compared strictly, clarification requests must name their evidence. -/
def unsafeEvidenceProvenance (evidenceSources evidenceMemoryIds : List Text)
    (memoryReferences : List (Checked MemoryReference)) (textValues : List Text)
    (requireProvenanceWithPassiveMemory strictPassiveTextOverlap : Bool) : Bool :=
  if requireProvenanceWithPassiveMemory && memoryReferences.any (fun m => !m.val.actionable) &&
      evidenceSources = [] && evidenceMemoryIds = [] then true
  else if ("trusted_memory" : Text) ∈ evidenceSources ∧ evidenceMemoryIds = [] then true
  else if evidenceMemoryIds ≠ [] ∧ ("trusted_memory" : Text) ∉ evidenceSources then true
  else if evidenceMemoryIds.any fun id =>
      match memoryById memoryReferences id with
      | none => true
      | some memory => !memory.val.actionable then true
  else if strictPassiveTextOverlap then textCopiesPassiveMemoryStrict textValues memoryReferences
  else textCopiesPassiveMemoryLax textValues memoryReferences

/-- `_finding_has_unsafe_evidence_provenance`. -/
def findingHasUnsafeEvidenceProvenance (raw : RawReviewerFinding)
    (memoryReferences : List (Checked MemoryReference)) : Bool :=
  unsafeEvidenceProvenance raw.evidenceSources raw.evidenceMemoryIds memoryReferences
    [raw.title, raw.rationale, raw.evidence] false true

/-- `_clarification_has_unsafe_evidence_provenance`. -/
def clarificationHasUnsafeEvidenceProvenance (request : ClarificationRequest)
    (memoryReferences : List (Checked MemoryReference)) : Bool :=
  unsafeEvidenceProvenance request.evidenceSources request.evidenceMemoryIds memoryReferences
    [request.question, request.whyItMatters] true false

/-- `_finding_depends_on_omitted_context`. -/
def findingDependsOnOmittedContext (changedFiles : List ChangedLines) (raw : RawReviewerFinding)
    (omittedFilePaths omittedMemoryIds : List Text) : Bool :=
  decide (raw.path ∈ omittedFilePaths) || usesOmittedMemory raw.evidenceMemoryIds omittedMemoryIds
    ||
    match changedFiles.find? fun file => file.path = raw.path && file.containsLine raw.line with
    | some file => decide (file.patchStatus ≠ "available")
    | none => false

/-- `_finding_location_overlaps_changed_line`. -/
def findingLocationOverlapsChangedLine (changedFiles : List ChangedLines)
    (raw : RawReviewerFinding) : Bool :=
  changedFiles.any fun file => file.path = raw.path && file.containsLine raw.line

/-! ## Classification -/

/-- `_graph_priority`. -/
def graphPriority (severity : Severity) : ℤ :=
  match severity with
  | .critical | .warning => 1
  | .suggestion => 2
  | _ => 3

/-- `_graph_fingerprint`. -/
def graphFingerprint (raw : RawReviewerFinding) : Text :=
  canonicalJsonHash (.obj [("domain", .str "reviewgraph.fixture_finding.v1"),
    ("path", .str raw.path),
    ("line", .int raw.line), ("title", .str raw.title), ("evidence", .str raw.evidence)])

/-- The fields of `_classified_finding`. -/
def classifiedFields (runKey : ReviewerRunKey) (raw : RawReviewerFinding) :
    ClassifiedFinding where
  id := raw.id
  sourceReviewer := runKey.reviewer
  sourceStage := runKey.stage.value
  title := raw.title
  body := raw.rationale
  evidence := raw.evidence
  path := raw.path
  line := raw.line
  priority := graphPriority raw.severity
  severity := raw.severity
  confidence := raw.confidence
  fingerprint := graphFingerprint raw
  classification := .postableFinding
  blocking := false
  lineEnd := raw.lineEnd
  diffAnchor := none

/-- `_classified_finding`. -/
def classifiedFinding (runKey : Checked ReviewerRunKey) (raw : RawReviewerFinding) :
    Result (Checked ClassifiedFinding) :=
  construct (classifiedFields runKey.val raw)

/-- What becomes of a finding or a clarification request. -/
inductive Verdict (α : Type)
  | kept (a : α)
  | suppressed (output : Checked SuppressedOutput)

/-- An output is suppressed. -/
def suppress {α : Type} (id reason : Text) : Result (Verdict α) := do
  let output ← construct { id, reason }
  return .suppressed output

/-- The arguments of `classify_review_quality`. -/
structure QualityArguments where
  changedFiles : List ChangedLines
  reviewerResult : ReviewerResult
  memoryReferences : List (Checked MemoryReference)
  omittedFilePaths : List Text
  omittedMemoryIds : List Text

namespace QualityArguments

variable (args : QualityArguments)

/-- One round of the loop over the findings. -/
def classifyFinding (raw : Checked RawReviewerFinding) :
    Result (Verdict (Checked ClassifiedFinding)) :=
  if findingDependsOnOmittedContext args.changedFiles raw.val args.omittedFilePaths
      args.omittedMemoryIds then
    suppress raw.val.id "Finding candidate referenced context omitted by context budget."
  else if findingLocationOverlapsChangedLine args.changedFiles raw.val = false then
    suppress raw.val.id "Finding candidate location did not overlap changed code."
  else do
    let finding ← classifiedFinding args.reviewerResult.runKey raw.val
    if isPostableFinding finding.val then
      if findingHasUnsafeEvidenceProvenance raw.val args.memoryReferences then
        suppress raw.val.id "Finding candidate used passive or untrusted memory as evidence."
      else return .kept finding
    else suppress finding.val.id "Finding candidate did not meet postable quality policy."

/-- One round of the loop over the clarification requests. -/
def classifyRequest (request : Checked ClarificationRequest) :
    Result (Verdict (Checked ClarificationRequest)) :=
  if usesOmittedMemory request.val.evidenceMemoryIds args.omittedMemoryIds then
    suppress request.val.id "Clarification request referenced context omitted by context budget."
  else if clarificationHasUnsafeEvidenceProvenance request.val args.memoryReferences then
    suppress request.val.id "Clarification request used passive or untrusted memory as evidence."
  else return .kept request

end QualityArguments

/-- The outputs that are kept. -/
def keptOutputs {α : Type} : List (Verdict α) → List α
  | [] => []
  | .kept a :: verdicts => a :: keptOutputs verdicts
  | .suppressed _ :: verdicts => keptOutputs verdicts

/-- The outputs that are suppressed. -/
def suppressedBy {α : Type} : List (Verdict α) → List (Checked SuppressedOutput)
  | [] => []
  | .kept _ :: verdicts => suppressedBy verdicts
  | .suppressed output :: verdicts => output :: suppressedBy verdicts

/-- `QualityClassificationResult`. -/
structure QualityClassificationResult where
  findings : List (Checked ClassifiedFinding)
  localNotes : List (Checked LocalNote)
  clarificationRequests : List (Checked ClarificationRequest)
  suggestedReplies : List (Checked SuggestedReply)
  suppressedOutputs : List (Checked SuppressedOutput)

/-- `classify_review_quality`. -/
def classifyReviewQuality (args : QualityArguments) : Result QualityClassificationResult := do
  let findings ← args.reviewerResult.findings.mapM args.classifyFinding
  let requests ← args.reviewerResult.clarificationRequests.mapM args.classifyRequest
  return {
    findings := keptOutputs findings
    localNotes := args.reviewerResult.localNotes
    clarificationRequests := keptOutputs requests
    suggestedReplies := args.reviewerResult.suggestedReplies
    suppressedOutputs :=
      suppressedBy findings ++ suppressedBy requests ++ args.reviewerResult.suppressedOutputs }

/-! ## What becomes of each output -/

/-- An output with an identifier is suppressed. -/
lemma suppress_ok {α : Type} {id reason : Text} (hid : id ≠ []) (hreason : reason ≠ []) :
    ∃ output, (suppress id reason : Result (Verdict α)) = .ok (.suppressed output) ∧
      output.val.id = id := by
  refine ⟨⟨⟨id, reason⟩, ?checks⟩, ?_, rfl⟩
  case checks =>
    simp only [Record.postInit, check_bind_eq_ok, requireNonEmpty_eq_ok]
    exact ⟨hid, hreason⟩
  · unfold suppress
    rw [construct_of_postInit, ok_bind]
    rfl

/-- A raw finding is classified. -/
lemma classifiedFinding_ok (runKey : Checked ReviewerRunKey) (raw : Checked RawReviewerFinding) :
    ∃ finding, classifiedFinding runKey raw.val = .ok finding ∧
      finding.val = classifiedFields runKey.val raw.val := by
  have hraw := raw.property
  simp only [Record.postInit, check_bind_eq_ok, requireNonEmpty_eq_ok, require_eq_ok] at hraw
  obtain ⟨hid, hpath, htitle, hrationale, hevidence, hline, -⟩ := hraw
  have hpriority : 0 ≤ graphPriority raw.val.severity ∧ graphPriority raw.val.severity ≤ 3 := by
    cases raw.val.severity <;> decide
  have hstage : runKey.val.stage.value ≠ [] := by
    cases runKey.val.stage <;> simp [ReviewStage.value]
  have hfingerprint : graphFingerprint raw.val ≠ [] := (isStrictSha256_sha256Text _).ne_nil
  have hchecks : Record.postInit (classifiedFields runKey.val raw.val) = .ok () :=
    ClassifiedFinding.postInit_eq_ok.2 ⟨hpriority, rfl, hid, ReviewerRunKey.reviewer_ne_nil runKey,
      hstage, htitle, hrationale,
      hevidence, hpath, hfingerprint, hline⟩
  exact ⟨⟨_, hchecks⟩, construct_of_postInit hchecks, rfl⟩

namespace QualityArguments

variable {args : QualityArguments}

/-- What the gate checks of a finding that goes on. -/
structure PassesGate (args : QualityArguments) (raw : RawReviewerFinding) : Prop where
  /-- Nothing that the finding depends on was left out. -/
  notOmitted : findingDependsOnOmittedContext args.changedFiles raw args.omittedFilePaths
    args.omittedMemoryIds = false
  /-- The finding stands on a changed line. -/
  location : findingLocationOverlapsChangedLine args.changedFiles raw = true
  /-- The evidence is safe. -/
  safe : findingHasUnsafeEvidenceProvenance raw args.memoryReferences = false

/-- A finding goes on with all checks passed, or is suppressed. -/
lemma classifyFinding_cases (args : QualityArguments) (raw : Checked RawReviewerFinding) :
    (∃ finding, args.classifyFinding raw = .ok (.kept finding) ∧ args.PassesGate raw.val ∧
        finding.val = classifiedFields args.reviewerResult.runKey.val raw.val) ∨
      ∃ output, args.classifyFinding raw = .ok (.suppressed output) ∧
        output.val.id = raw.val.id := by
  have hraw := raw.property
  simp only [Record.postInit, check_bind_eq_ok, requireNonEmpty_eq_ok] at hraw
  obtain ⟨finding, hfinding, hval⟩ :=
    classifiedFinding_ok args.reviewerResult.runKey raw
  have hid : finding.val.id = raw.val.id := by
    rw [hval]
    rfl
  unfold classifyFinding
  split
  · exact .inr (suppress_ok hraw.1 (by simp))
  rename_i homitted
  split
  · exact .inr (suppress_ok hraw.1 (by simp))
  rename_i hlocation
  rw [hfinding, ok_bind]
  split
  · split
    · exact .inr (suppress_ok hraw.1 (by simp))
    · rename_i hsafe
      rw [Bool.not_eq_true] at homitted hsafe
      rw [Bool.not_eq_false] at hlocation
      exact .inl ⟨finding, rfl, ⟨homitted, hlocation, hsafe⟩, hval⟩
  · obtain ⟨output, houtput, hout⟩ := suppress_ok (hid ▸ hraw.1)
      (by simp : ("Finding candidate did not meet postable quality policy." : Text) ≠ [])
    exact .inr ⟨output, houtput, hout.trans hid⟩

/-- A clarification request goes on or is suppressed. -/
lemma classifyRequest_cases (args : QualityArguments) (request : Checked ClarificationRequest) :
    (∃ request', args.classifyRequest request = .ok (.kept request') ∧ request' = request) ∨
      ∃ output, args.classifyRequest request = .ok (.suppressed output) ∧
        output.val.id = request.val.id := by
  have hrequest := request.property
  simp only [Record.postInit, check_bind_eq_ok, requireNonEmpty_eq_ok] at hrequest
  unfold classifyRequest
  split
  · exact .inr (suppress_ok hrequest.1 (by simp))
  split
  · exact .inr (suppress_ok hrequest.1 (by simp))
  · exact .inl ⟨request, rfl, rfl⟩

end QualityArguments

/-- A loop that keeps or suppresses each element splits its list. -/
lemma exists_verdicts {α β : Type} {f : α → Result (Verdict β)} {ident : α → Text}
    {P : α → β → Prop}
    (h : ∀ a, (∃ b, f a = .ok (.kept b) ∧ P a b) ∨
      ∃ output, f a = .ok (.suppressed output) ∧ output.val.id = ident a) (as : List α) :
    ∃ verdicts kept dropped, as.mapM f = .ok verdicts ∧ List.Interleaving kept dropped as ∧
      List.Forall₂ P kept (keptOutputs verdicts) ∧
      (suppressedBy verdicts).map (fun o => o.val.id) = dropped.map ident := by
  induction as with
  | nil => exact ⟨[], [], [], rfl, .nil, .nil, rfl⟩
  | cons a as ih =>
    obtain ⟨verdicts, kept, dropped, hmap, hsplit, hkept, hdropped⟩ := ih
    rcases h a with ⟨b, hb, hP⟩ | ⟨output, houtput, hid⟩
    · refine ⟨.kept b :: verdicts, a :: kept, dropped, ?_, hsplit.left a, .cons hP hkept, hdropped⟩
      rw [List.mapM_cons, hb, ok_bind, hmap, ok_bind]
      rfl
    · refine ⟨.suppressed output :: verdicts, kept, a :: dropped, ?_, hsplit.right a, hkept, ?_⟩
      · rw [List.mapM_cons, houtput, ok_bind, hmap, ok_bind]
        rfl
      · rw [suppressedBy, List.map_cons, List.map_cons, hid, hdropped]

/-- How a classification splits what a reviewer returns. -/
structure QualitySplit (args : QualityArguments) (q : QualityClassificationResult)
    (kept dropped : List (Checked RawReviewerFinding))
    (droppedRequests : List (Checked ClarificationRequest)) : Prop where
  /-- Each finding goes on or is suppressed, in order. -/
  findings : List.Interleaving kept dropped args.reviewerResult.findings
  /-- The findings that go on have passed the gate and are classified. -/
  classified : List.Forall₂ (fun raw finding => args.PassesGate raw.val ∧ finding.val =
    classifiedFields args.reviewerResult.runKey.val raw.val) kept q.findings
  /-- Each clarification request goes on or is suppressed, in order. -/
  requests : List.Interleaving q.clarificationRequests droppedRequests
    args.reviewerResult.clarificationRequests
  /-- The suppressed outputs are those of the findings and requests, then those of the reviewer. -/
  suppressed : ∃ ofFindings ofRequests : List (Checked SuppressedOutput),
    q.suppressedOutputs = ofFindings ++ ofRequests ++ args.reviewerResult.suppressedOutputs ∧
    ofFindings.map (fun o => o.val.id) = dropped.map (fun raw => raw.val.id) ∧
    ofRequests.map (fun o => o.val.id) = droppedRequests.map (fun request => request.val.id)

/-- Every result of a reviewer is classified. -/
theorem classifyReviewQuality_ok (args : QualityArguments) :
    ∃ q kept dropped droppedRequests, classifyReviewQuality args = .ok q ∧
      QualitySplit args q kept dropped droppedRequests := by
  obtain ⟨verdicts, kept, dropped, hmap, hsplit, hkept, hdropped⟩ :=
    exists_verdicts args.classifyFinding_cases args.reviewerResult.findings
  obtain ⟨verdicts', kept', dropped', hmap', hsplit', hkept', hdropped'⟩ :=
    exists_verdicts args.classifyRequest_cases args.reviewerResult.clarificationRequests
  have hsame : kept' = keptOutputs verdicts' := by
    refine List.forall₂_eq_eq_eq ▸ ?_
    exact hkept'.imp fun _ _ heq => heq.symm
  rw [hsame] at hsplit'
  have hresult : classifyReviewQuality args = .ok {
      findings := keptOutputs verdicts
      localNotes := args.reviewerResult.localNotes
      clarificationRequests := keptOutputs verdicts'
      suggestedReplies := args.reviewerResult.suggestedReplies
      suppressedOutputs := suppressedBy verdicts ++ suppressedBy verdicts' ++
        args.reviewerResult.suppressedOutputs } := by
    unfold classifyReviewQuality
    rw [hmap, ok_bind, hmap', ok_bind]
    rfl
  exact ⟨_, kept, dropped, dropped', hresult, hsplit, hkept, hsplit', suppressedBy verdicts,
    suppressedBy verdicts', rfl, hdropped, hdropped'⟩

end ReviewGraph
