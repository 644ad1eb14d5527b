import ReviewGraph.CandidateValidation
import ReviewGraph.PagedReads
import ReviewGraph.ReviewStages
import ReviewGraph.ReviewerConfigs
import ReviewGraph.WriterRelease

/-!
# What a dry run prepares

The end of `_run_dry_run_core` of `runner.py`: from the classified outputs of the stages to the
verdict of `verdict.py`, the posting plan and the candidate payload.  A dry run has a candidate
exactly if no required reviewer has failed, no clarification blocks it and there is a finding; and
the candidate can then be approved, for exactly the selections of its findings.
-/

namespace ReviewGraph

/-! ## The verdict -/

/-- `_can_recommend_request_changes`. -/
def canRecommendRequestChanges (reviewerVerdictPowers : List (Text × Text))
    (finding : ClassifiedFinding) : Bool :=
  decide (reviewerVerdictPowers.lookup finding.sourceReviewer = some "request_changes") &&
    decide (finding.confidence = .high) && (decide (finding.severity = .critical) ||
      finding.blocking)

/-- `compute_local_verdict`. -/
def computeLocalVerdict (findings : List (Checked ClassifiedFinding))
    (clarificationGate : ClarificationGateResult) (reviewerVerdictPowers : List (Text × Text)) :
    ReviewVerdict :=
  if clarificationGate.blocksPosting then .needsClarification
  else if findings = [] then .noFindings
  else if findings.any fun finding => canRecommendRequestChanges reviewerVerdictPowers
    finding.val then
    .requestChanges
  else .comment

/-- `compute_post_enabled`; the local verdict is not read. -/
def computePostEnabled (errors : List GraphError) (clarificationGate : ClarificationGateResult)
    (findings : List (Checked ClassifiedFinding)) : Bool :=
  errors.isEmpty && !clarificationGate.blocksPosting && !findings.isEmpty

/-! ## Classified outputs -/

/-- The mapping `classified` of the runner. -/
structure ClassifiedOutputs where
  findings : List (Checked ClassifiedFinding)
  localNotes : List (Checked LocalNote)
  clarificationRequests : List (Checked SourcedClarificationRequest)
  suggestedReplies : List (Checked SuggestedReply)
  suppressedOutputs : List (Checked SuppressedOutput)

/-- A request without the fields that a posting plan does not read. -/
def plainRequest (request : Checked SourcedClarificationRequest) : Checked ClarificationRequest :=
  ⟨request.val.request, by
    have hrequest := request.property
    simp only [Record.postInit, check_bind_eq_ok] at hrequest ⊢
    obtain ⟨hid, hreviewer, hquestion, hwhy, -, -, hsources, hmemories⟩ := hrequest
    exact ⟨hid, hreviewer, hquestion, hwhy, hsources, hmemories⟩⟩

namespace ClassifiedOutputs

/-- The identifiers of the outputs, in the order of the mapping. -/
def itemIds (classified : ClassifiedOutputs) : List Text :=
  (classified.findings.map fun finding => finding.val.id) ++
    ((classified.localNotes.map fun note => note.val.id) ++
      ((classified.clarificationRequests.map fun request => request.val.request.id) ++
        ((classified.suggestedReplies.map fun reply => reply.val.id) ++
          classified.suppressedOutputs.map fun output => output.val.id)))

/-- The fingerprints of the findings. -/
def fingerprints (classified : ClassifiedOutputs) : List Text :=
  classified.findings.map fun finding => finding.val.fingerprint

/-- The outputs that stay local. -/
def privateOutputs (classified : ClassifiedOutputs) : PrivateOutputs where
  localNotes := classified.localNotes
  suggestedReplies := classified.suggestedReplies
  clarificationRequests := classified.clarificationRequests.map plainRequest
  suppressedOutputs := classified.suppressedOutputs

/-- The outputs have the identifiers of the items of their plan, in another order. -/
lemma itemIds_perm (classified : ClassifiedOutputs) :
    classified.itemIds.Perm
      ((classified.findings.map fun finding => finding.val.id) ++
        classified.privateOutputs.ids) := by
  have hrequests : (classified.clarificationRequests.map plainRequest).map
      (fun request => request.val.id) =
        classified.clarificationRequests.map fun request => request.val.request.id := by
    rw [List.map_map]
    rfl
  unfold itemIds PrivateOutputs.ids privateOutputs
  dsimp only
  rw [hrequests, List.append_assoc, List.append_assoc]
  apply List.Perm.append_left
  apply List.Perm.append_left
  rw [← List.append_assoc, ← List.append_assoc]
  apply List.Perm.append_right
  exact List.perm_append_comm

end ClassifiedOutputs

/-- One of the checks `_validate_output_item_ids` and `_validate_finding_fingerprints`: identities
are no secrets and distinct. -/
def requireStableIdentities (secret duplicate : Text) : List Text → List Text → Result Unit
  | _, [] => .ok ()
  | seen, identity :: identities => do
    require ((redactText identity).text = identity) secret
    require (identity ∉ seen) duplicate
    requireStableIdentities secret duplicate (identity :: seen) identities

/-- Identities are stable if redaction leaves them alone and none occurs twice. -/
structure StableIdentities (identities : List Text) : Prop where
  nodup : identities.Nodup
  plain : ∀ identity ∈ identities, (redactText identity).text = identity

/-- Identities pass exactly if they are stable and none has been seen. -/
lemma requireStableIdentities_eq_ok {secret duplicate : Text} {seen identities : List Text} :
    requireStableIdentities secret duplicate seen identities = .ok () ↔
      StableIdentities identities ∧ ∀ identity ∈ identities, identity ∉ seen := by
  induction identities generalizing seen with
  | nil =>
    unfold requireStableIdentities
    exact ⟨fun _ => ⟨⟨List.nodup_nil, by simp⟩, by simp⟩, fun _ => rfl⟩
  | cons identity identities ih =>
    unfold requireStableIdentities
    rw [check_bind_eq_ok, check_bind_eq_ok, require_eq_ok, require_eq_ok, ih]
    constructor
    · rintro ⟨hpublic, hseen, hstable, hrest⟩
      refine ⟨⟨List.nodup_cons.2 ⟨fun hmem => ?_, hstable.nodup⟩, ?_⟩, ?_⟩
      · exact hrest identity hmem List.mem_cons_self
      · exact List.forall_mem_cons.2 ⟨hpublic, hstable.plain⟩
      · exact List.forall_mem_cons.2 ⟨hseen, fun i hi h => hrest i hi (List.mem_cons_of_mem _ h)⟩
    · rintro ⟨hstable, hseen⟩
      obtain ⟨hfirst, hnodup⟩ := List.nodup_cons.1 hstable.nodup
      obtain ⟨hpublic, hpublics⟩ := List.forall_mem_cons.1 hstable.plain
      obtain ⟨hhead, htail⟩ := List.forall_mem_cons.1 hseen
      refine ⟨hpublic, hhead, ⟨hnodup, hpublics⟩, fun i hi h => ?_⟩
      rcases List.mem_cons.1 h with rfl | h
      · exact hfirst hi
      · exact htail i hi h

/-- `_validate_output_item_ids`. -/
def validateOutputItemIds (classified : ClassifiedOutputs) : Result Unit :=
  requireStableIdentities "classified output item ids require non-secret stable identities"
    "classified output item ids must be unique" [] classified.itemIds

/-- `_validate_finding_fingerprints`. -/
def validateFindingFingerprints (classified : ClassifiedOutputs) : Result Unit :=
  requireStableIdentities "postable_finding.fingerprint requires a non-secret stable identity"
    "postable_finding.fingerprint must be unique" [] classified.fingerprints

/-! ## A plan that publishes nothing -/

/-- An item of `_local_only_posting_plan`. -/
def localOnlyItem (item : Checked PostingPlanItem) : Result (Checked PostingPlanItem) :=
  if item.val.publicPayloadEligible = false then .ok item
  else construct { item.val with destination := .localOnly, publicPayloadEligible := false }

/-- `_local_only_posting_plan`. -/
def localOnlyPostingPlan (postingPlan : Checked PostingPlan) : Result (Checked PostingPlan) := do
  let items ← postingPlan.val.items.mapM localOnlyItem
  construct ⟨items⟩

/-- An item becomes local and keeps its identifier. -/
lemma localOnlyItem_ok (item : Checked PostingPlanItem) : ∃ item', localOnlyItem item = .ok item' ∧
    item'.val.id = item.val.id ∧ item'.val.publicPayloadEligible = false := by
  unfold localOnlyItem
  split
  · rename_i hprivate
    exact ⟨item, rfl, rfl, hprivate⟩
  · have hchecks : Record.postInit ({ item.val with
        destination := .localOnly
        publicPayloadEligible := false } : PostingPlanItem) = .ok () := by
      have hitem := item.property
      simp only [Record.postInit, check_bind_eq_ok, require_eq_ok] at hitem ⊢
      exact ⟨hitem.1, hitem.2.1, hitem.2.2.1, hitem.2.2.2.1, by simp⟩
    exact ⟨⟨_, hchecks⟩, construct_of_postInit hchecks, rfl, rfl⟩

/-- Every plan has a local one with the same identifiers. -/
lemma localOnlyPostingPlan_ok (plan : Checked PostingPlan) :
    ∃ plan', localOnlyPostingPlan plan = .ok plan' ∧ plan'.val.itemIds = plan.val.itemIds ∧
      plan'.val.publicPayloadItems = [] := by
  obtain ⟨items, hitems, hrel⟩ := exists_mapM_eq_ok fun item (_ : item ∈ plan.val.items) =>
    localOnlyItem_ok item
  obtain ⟨hids, hpublic⟩ :=
    @privateItems_of_forall₂ _ (fun item : Checked PostingPlanItem => item.val.id) _ _ hrel
  have hnodup : (plan.val.items.map fun item => item.val.id).Nodup := require_eq_ok.1 plan.property
  have hchecks : Record.postInit (⟨items⟩ : PostingPlan) = .ok () := by
    apply require_eq_ok.2
    unfold PostingPlan.itemIds
    rw [hids]
    exact hnodup
  exact ⟨⟨_, hchecks⟩, bind_eq_ok.2 ⟨items, hitems, construct_of_postInit hchecks⟩, hids, hpublic⟩

/-! ## The end of a dry run -/

/-- What the end of `_run_dry_run_core` reads: the context, the agents of the configuration, and the
classified outputs and the errors of the stages. -/
structure DryRunArguments where
  changedFiles : List GitHubChangedFileLines
  reviewTarget : Checked ReviewTarget
  contextNotes : List (Checked LocalNote)
  agents : List (Text × Checked Config.ReviewerAgentConfig)
  classified : ClassifiedOutputs
  errors : List GraphError

/-- What a dry run prepares. -/
structure PreparedReview where
  classified : ClassifiedOutputs
  localVerdict : ReviewVerdict
  postEnabled : Bool
  postingPlan : Checked PostingPlan
  candidatePayload : Option (Checked CandidateIssueCommentPayload)

/-- The plan that a dry run shows. -/
def postingPlanIf (enabled : Bool) (postingPlan : Checked PostingPlan) :
    Result (Checked PostingPlan) :=
  if enabled then .ok postingPlan else localOnlyPostingPlan postingPlan

/-- `_candidate_payload`. -/
def candidatePayloadIf (enabled : Bool) (reviewTarget : Checked ReviewTarget)
    (postingPlan : Checked PostingPlan) (findings : List (Checked ClassifiedFinding)) :
    Result (Option (Checked CandidateIssueCommentPayload)) :=
  if enabled then
    some <$> buildCandidateIssueCommentPayload reviewTarget postingPlan findings none false
      ArtifactKind.issueComment.value
  else .ok none

namespace DryRunArguments

/-- The outputs with the notes of the context and the anchored findings. -/
def outputs (args : DryRunArguments) (findings : List (Checked ClassifiedFinding)) :
    ClassifiedOutputs :=
  { args.classified with findings, localNotes := args.contextNotes ++ args.classified.localNotes }

/-- The verdict powers of the agents. -/
def verdictPowers (args : DryRunArguments) : List (Text × Text) :=
  args.agents.map fun entry => (entry.1, entry.2.val.verdictPower)

/-- The clarification gate at the end. -/
def gate (args : DryRunArguments) : ClarificationGateResult :=
  evaluateClarificationGate args.classified.clarificationRequests

/-- The end of `_run_dry_run_core`, up to the rendering. -/
def prepare (args : DryRunArguments) : Result PreparedReview := do
  let findings ← attachDiffAnchors args.changedFiles args.reviewTarget.val args.classified.findings
  let classified := args.outputs findings
  validateOutputItemIds classified
  validateFindingFingerprints classified
  let postEnabled := computePostEnabled args.errors args.gate findings
  let fullPlan ← classified.privateOutputs.plan findings (some args.reviewTarget)
  let postingPlan ← postingPlanIf postEnabled fullPlan
  let candidatePayload ← candidatePayloadIf postEnabled args.reviewTarget postingPlan findings
  return {
    classified
    localVerdict := computeLocalVerdict findings args.gate args.verdictPowers
    postEnabled
    postingPlan
    candidatePayload }

/-- What a dry run prepares, field by field. -/
structure Prepares (args : DryRunArguments) (r : PreparedReview) (plan : Checked PostingPlan) :
    Prop where
  anchored : attachDiffAnchors args.changedFiles args.reviewTarget.val args.classified.findings =
    .ok r.classified.findings
  outputs : r.classified = args.outputs r.classified.findings
  ids : StableIdentities r.classified.itemIds
  fingerprints : StableIdentities r.classified.fingerprints
  verdict : r.localVerdict = computeLocalVerdict r.classified.findings args.gate args.verdictPowers
  enabled : r.postEnabled = computePostEnabled args.errors args.gate r.classified.findings
  planned : r.classified.privateOutputs.plan r.classified.findings (some args.reviewTarget) =
    .ok plan
  published : r.postEnabled = true → r.postingPlan = plan
  hidden : r.postEnabled = false → r.candidatePayload = none ∧
    localOnlyPostingPlan plan = .ok r.postingPlan
  candidate : r.postEnabled = true → ∃ p, r.candidatePayload = some p ∧
    buildCandidateIssueCommentPayload args.reviewTarget plan r.classified.findings none false
      ArtifactKind.issueComment.value = .ok p

/-- A dry run that succeeds has gone through all its parts. -/
lemma prepare_eq_ok {args : DryRunArguments} {r : PreparedReview} (h : args.prepare = .ok r) :
    ∃ plan, args.Prepares r plan := by
  unfold prepare at h
  obtain ⟨findings, hfindings, h⟩ := bind_eq_ok.1 h
  obtain ⟨hids, h⟩ := check_bind_eq_ok.1 h
  obtain ⟨hfingerprints, h⟩ := check_bind_eq_ok.1 h
  obtain ⟨plan, hplan, h⟩ := bind_eq_ok.1 h
  obtain ⟨postingPlan, hposting, h⟩ := bind_eq_ok.1 h
  obtain ⟨candidate, hcandidate, h⟩ := bind_eq_ok.1 h
  obtain rfl := pure_eq_ok.1 h
  have hstable := (requireStableIdentities_eq_ok.1 hids).1
  have hstable' := (requireStableIdentities_eq_ok.1 hfingerprints).1
  cases henabled : computePostEnabled args.errors args.gate findings with
  | false =>
    rw [henabled] at hposting hcandidate
    obtain rfl : none = candidate := Except.ok.inj hcandidate
    exact ⟨plan, hfindings, rfl, hstable, hstable', rfl, henabled.symm, hplan, by simp,
      fun _ => ⟨rfl, hposting⟩, by simp⟩
  | true =>
    rw [henabled] at hposting hcandidate
    obtain rfl : plan = postingPlan := Except.ok.inj hposting
    unfold candidatePayloadIf at hcandidate
    rw [if_pos rfl] at hcandidate
    obtain ⟨p, hp, rfl⟩ : ∃ p, buildCandidateIssueCommentPayload args.reviewTarget plan findings
        none
        false ArtifactKind.issueComment.value = .ok p ∧ some p = candidate := by
      cases hbuild : buildCandidateIssueCommentPayload args.reviewTarget plan findings none false
          ArtifactKind.issueComment.value with
      | error e =>
        rw [hbuild] at hcandidate
        contradiction
      | ok p =>
        rw [hbuild] at hcandidate
        exact ⟨p, rfl, Except.ok.inj hcandidate⟩
    exact ⟨plan, hfindings, rfl, hstable, hstable', rfl, henabled.symm, hplan, fun _ => rfl,
      by simp, fun _ => ⟨p, rfl, hp⟩⟩

end DryRunArguments

/-! ## The items of a plan -/

/-- Private outputs become items that keep their identifiers and are not public. -/
lemma privateItems_eq_ok {α : Type} {as : List α} {items : List (Checked PostingPlanItem)}
    {id body : α → Text} {classification : OutputClassification} {destination : PostingDestination}
    (h : (as.mapM fun a => privateItem (id a) classification destination (body a)) = .ok items) :
    (items.map fun item => item.val.id) = as.map id ∧
      (items.filter fun item => item.val.publicPayloadEligible) = [] := by
  apply privateItems_of_forall₂
  refine (mapM_eq_ok.1 h).imp fun a item hitem => ?_
  rw [construct_eq_ok.1 hitem]
  exact ⟨rfl, rfl⟩

/-- The items of a plan: those of the findings, and behind them the private ones. -/
structure PlanItems (findings : List (Checked ClassifiedFinding)) (privateIds : List Text)
    (plan : PostingPlan) (rest : List (Checked PostingPlanItem)) : Prop where
  items : plan.items = findings.map checkedFindingItem ++ rest
  ids : (rest.map fun item => item.val.id) = privateIds
  hidden : (rest.filter fun item => item.val.publicPayloadEligible) = []
  noSummary : ∀ item ∈ rest, item.val.destination ≠ .topLevelSummaryItem

/-- A plan has the findings first, and then the private outputs. -/
lemma PrivateOutputs.plan_items {outputs : PrivateOutputs}
    {findings : List (Checked ClassifiedFinding)}
    {reviewTarget : Option (Checked ReviewTarget)} {plan : Checked PostingPlan}
    (h : outputs.plan findings reviewTarget = .ok plan) :
    ∃ rest, PlanItems findings outputs.ids plan.val rest := by
  unfold PrivateOutputs.plan buildPostingPlan summaryItems at h
  rw [if_neg Bool.false_ne_true, ok_bind, mapM_findingPlanItem, ok_bind] at h
  obtain ⟨noteItems, hnotes, h⟩ := bind_eq_ok.1 h
  obtain ⟨replyItems, hreplies, h⟩ := bind_eq_ok.1 h
  obtain ⟨requestItems, hrequests, h⟩ := bind_eq_ok.1 h
  obtain ⟨outputItems, houtputs, h⟩ := bind_eq_ok.1 h
  have hval : plan.val = _ := construct_eq_ok.1 h
  refine ⟨noteItems ++ replyItems ++ requestItems ++ outputItems, ?_, ?_, ?_, ?_⟩
  · rw [hval]
    simp only [List.nil_append, List.append_assoc]
  · simp only [List.map_append, (privateItems_eq_ok hnotes).1, (privateItems_eq_ok hreplies).1,
      (privateItems_eq_ok hrequests).1, (privateItems_eq_ok houtputs).1]
    rfl
  · simp only [List.filter_append, (privateItems_eq_ok hnotes).2, (privateItems_eq_ok hreplies).2,
      (privateItems_eq_ok hrequests).2, (privateItems_eq_ok houtputs).2, List.append_nil]
  · intro item hitem
    simp only [List.mem_append] at hitem
    rcases hitem with ((hitem | hitem) | hitem) | hitem
    · rw [destination_of_privateItems hnotes item hitem]
      simp
    · rw [destination_of_privateItems hreplies item hitem]
      simp
    · rw [destination_of_privateItems hrequests item hitem]
      simp
    · rw [destination_of_privateItems houtputs item hitem]
      simp

namespace PlanItems

variable {findings : List (Checked ClassifiedFinding)} {privateIds : List Text} {plan : PostingPlan}
  {rest : List (Checked PostingPlanItem)}

/-- The identifiers of its items. -/
lemma itemIds (h : PlanItems findings privateIds plan rest) :
    plan.itemIds = (findings.map fun f => f.val.id) ++ privateIds := by
  unfold PostingPlan.itemIds
  rw [h.items, List.map_append, h.ids, List.map_map]
  rfl

/-- Its public items are the findings. -/
lemma publicPayloadItems (h : PlanItems findings privateIds plan rest) :
    plan.publicPayloadItems = findings.map checkedFindingItem := by
  have hfindings : ((findings.map checkedFindingItem).filter fun item =>
      item.val.publicPayloadEligible) = findings.map checkedFindingItem := by
    rw [List.filter_eq_self]
    intro item hitem
    obtain ⟨finding, -, rfl⟩ := List.mem_map.1 hitem
    rfl
  unfold PostingPlan.publicPayloadItems
  rw [h.items, List.filter_append, hfindings, h.hidden, List.append_nil]

/-- Items that are selected by identifiers of findings are those of the selected findings. -/
lemma filter_items (h : PlanItems findings privateIds plan rest) (hnodup : plan.itemIds.Nodup)
    {ids : List Text} (hids : ∀ id ∈ ids, ∃ f ∈ findings, f.val.id = id) :
    (plan.items.filter fun item => item.val.id ∈ ids) =
      (findings.filter fun f => f.val.id ∈ ids).map checkedFindingItem := by
  rw [h.itemIds] at hnodup
  have hrest : (rest.filter fun item => item.val.id ∈ ids) = [] := by
    rw [List.filter_eq_nil_iff]
    intro item hitem hmem
    obtain ⟨f, hf, hid⟩ := hids _ (of_decide_eq_true hmem)
    have hprivate : item.val.id ∈ privateIds := h.ids ▸ List.mem_map_of_mem hitem
    exact List.disjoint_of_nodup_append hnodup (List.mem_map.2 ⟨f, hf, hid⟩) hprivate
  rw [h.items, List.filter_append, hrest, List.append_nil, List.filter_map]
  rfl

end PlanItems

/-! ## The approval of a candidate -/

/-- A verdict that is not published leaves the candidate alone. -/
lemma buildCandidateIssueCommentPayload_of_private (reviewTarget : Checked ReviewTarget)
    (plan : Checked PostingPlan) (findings : List (Checked ClassifiedFinding))
    (localVerdict : Option ReviewVerdict) (kind : Text) :
    buildCandidateIssueCommentPayload reviewTarget plan findings localVerdict false kind =
      buildCandidateIssueCommentPayload reviewTarget plan findings none false kind := by
  have hlines : verdictLines localVerdict false = [] := by
    cases localVerdict with
    | none => rfl
    | some verdict => rfl
  have hparts : ∀ itemLines, candidateBodyParts reviewTarget.val localVerdict false itemLines =
      candidateBodyParts reviewTarget.val none false itemLines := by
    intro itemLines
    unfold candidateBodyParts
    rw [hlines]
    rfl
  unfold buildCandidateIssueCommentPayload
  simp only [hparts, Bool.false_eq_true, false_and, if_false]

namespace ApprovalRequest

variable {request : ApprovalRequest} {privateIds : List Text}
  {rest : List (Checked PostingPlanItem)}

/-- A selection of findings: not empty, without repetitions, and of nothing else. -/
structure SelectsFindings (request : ApprovalRequest) : Prop where
  nonempty : request.approvedItemIds ≠ []
  nodup : request.approvedItemIds.Nodup
  findings : ∀ id ∈ request.approvedItemIds, ∃ f ∈ request.findings, f.val.id = id

/-- An item of a finding is approved with its finding. -/
lemma approvedFinding_item (hitems : PlanItems request.findings privateIds request.postingPlan.val
    rest)
    (hnodup : (request.findings.map fun f => f.val.id).Nodup) {finding : Checked ClassifiedFinding}
    (hmem : finding ∈ request.findings) :
    request.approvedFinding (findingItem finding.val) = .ok finding := by
  have hpublic : (findingItem finding.val).id ∈
      request.postingPlan.val.publicPayloadItems.map fun i => i.val.id := by
    rw [hitems.publicPayloadItems, List.map_map]
    exact List.mem_map.2 ⟨finding, hmem, rfl⟩
  have hclass : (findingItem finding.val).sourceClassification =
      OutputClassification.postableFinding.value := by
    unfold findingItem
    rw [(ClassifiedFinding.postInit_eq_ok.1 finding.property).2.1]
  have hfound : findingById request.findings (findingItem finding.val).id = some finding :=
    findingById_of_mem hnodup hmem
  have hdestination : (findingItem finding.val).destination = .reviewBodyItem := rfl
  have hfingerprint : (findingItem finding.val).fingerprint = some finding.val.fingerprint := rfl
  unfold approvedFinding
  rw [if_neg (not_not.2 hpublic), if_neg (not_not.2 hdestination), if_neg (not_not.2 hclass),
    hfound]
  exact if_neg (not_not.2 hfingerprint)

/-- A selection of the findings of a plan is approved. -/
lemma approvedFindings_of_selects
    (hitems : PlanItems request.findings privateIds request.postingPlan.val rest)
    (hfingerprints : (request.findings.map fun f => f.val.fingerprint).Nodup)
    (hprivate : request.includePublicVerdict = false) (hrun : isRunId request.runId = true)
    (hselects : request.SelectsFindings) :
    request.approvedFindings =
      .ok (request.findings.filter fun f => f.val.id ∈ request.approvedItemIds) := by
  have hplanIds : request.postingPlan.val.itemIds.Nodup :=
      require_eq_ok.1 request.postingPlan.property
  have hnodup : (request.findings.map fun f => f.val.id).Nodup := by
    rw [hitems.itemIds] at hplanIds
    exact hplanIds.of_append_left
  have hsummary : request.postingPlan.val.items.any
      (fun i => i.val.destination = .topLevelSummaryItem) = false := by
    rw [List.any_eq_false, hitems.items]
    refine List.forall_mem_append.2 ⟨fun item hitem => ?_, fun item hitem => ?_⟩
    · obtain ⟨finding, -, rfl⟩ := List.mem_map.1 hitem
      simp [checkedFindingItem, findingItem]
    · simpa using hitems.noSummary item hitem
  have hknown : request.approvedItemIds.find? (· ∉ request.postingPlan.val.itemIds) = none := by
    rw [List.find?_eq_none]
    intro id hid
    obtain ⟨f, hf, rfl⟩ := hselects.findings id hid
    rw [decide_eq_true_eq, not_not, hitems.itemIds]
    exact List.mem_append_left _ (List.mem_map.2 ⟨f, hf, rfl⟩)
  have hmap : (request.selectedItems.mapM fun item => request.approvedFinding item.val) =
      .ok (request.findings.filter fun f => f.val.id ∈ request.approvedItemIds) := by
    unfold selectedItems
    rw [hitems.filter_items hplanIds hselects.findings, mapM_eq_ok, List.forall₂_map_left_iff,
      List.forall₂_same]
    exact fun finding hfinding => approvedFinding_item hitems hnodup
      (List.mem_of_mem_filter hfinding)
  have hdistinct : ((request.findings.filter fun f => f.val.id ∈ request.approvedItemIds).map
      fun f => f.val.fingerprint).Nodup :=
    hfingerprints.sublist (List.Sublist.map _ List.filter_sublist)
  unfold approvedFindings
  rw [if_neg (by simp [isValidRunId_eq, hrun]), if_neg (by simp [hprivate]),
    if_neg (by simp [hsummary]),
    if_neg hselects.nonempty, if_neg (not_not.2 hselects.nodup), hknown]
  dsimp only
  rw [hmap]
  exact if_neg (not_not.2 hdistinct)

/-- What is approved is a selection of findings. -/
lemma Selects.selectsFindings {findings : List (Checked ClassifiedFinding)}
    (h : request.Selects findings) : request.SelectsFindings := by
  refine ⟨h.approvedItemIds, h.nodup, fun id hid => ?_⟩
  obtain ⟨item, hitem, rfl⟩ := List.mem_map.1 (h.subset id hid)
  have hselected : item ∈ request.selectedItems := List.mem_filter.2 ⟨hitem, decide_eq_true hid⟩
  obtain ⟨finding, -, hfinding⟩ := (mapM_eq_ok.1 h.selected).flip.exists_of_mem_right hselected
  cases hfound : findingById request.findings item.val.id with
  | none =>
    rw [hfound] at hfinding
    contradiction
  | some found => exact ⟨found, findingById_eq_some hfound⟩

end ApprovalRequest

namespace DryRunArguments

/-- A request to approve what a dry run has prepared, without publishing the verdict. -/
structure Asks (args : DryRunArguments) (r : PreparedReview)
    (p : Checked CandidateIssueCommentPayload)
    (request : ApprovalRequest) : Prop where
  target : request.reviewTarget = args.reviewTarget
  plan : request.postingPlan = r.postingPlan
  findings : request.findings = r.classified.findings
  candidate : request.candidatePayload = p
  privateVerdict : request.includePublicVerdict = false

/-- The gate blocks exactly if a pending request blocks the verdict. -/
lemma gate_blocks {args : DryRunArguments} : args.gate.blocksPosting = true ↔
    ∃ request ∈ args.classified.clarificationRequests, request.val.isPending = true ∧
      request.val.request.blocksVerdict = true := by
  unfold gate evaluateClarificationGate
  dsimp only
  rw [Bool.not_eq_true', List.isEmpty_eq_false_iff, ne_eq, List.filter_eq_nil_iff]
  simp only [List.mem_filter]
  push Not
  exact ⟨fun ⟨request, ⟨hmem, hpending⟩, hblocks⟩ => ⟨request, hmem, hpending, hblocks⟩,
    fun ⟨request, hmem, hpending, hblocks⟩ => ⟨request, ⟨hmem, hpending⟩, hblocks⟩⟩

/-- Nothing stops a dry run from preparing a candidate. -/
structure Ready (args : DryRunArguments) (findings : List (Checked ClassifiedFinding)) : Prop where
  noErrors : args.errors = []
  noBlocking : ∀ request ∈ args.classified.clarificationRequests, request.val.isPending = true →
    request.val.request.blocksVerdict = false
  hasFindings : findings ≠ []

/-- Posting is enabled exactly if the run is ready. -/
lemma postEnabled_iff {args : DryRunArguments} {findings : List (Checked ClassifiedFinding)} :
    computePostEnabled args.errors args.gate findings = true ↔ args.Ready findings := by
  have hgate : args.gate.blocksPosting = false ↔ ∀ request ∈ args.classified.clarificationRequests,
      request.val.isPending = true → request.val.request.blocksVerdict = false := by
    rw [← Bool.not_eq_true, gate_blocks]
    push Not
    simp only [Bool.not_eq_true]
  unfold computePostEnabled
  rw [Bool.and_eq_true, Bool.and_eq_true, List.isEmpty_iff, Bool.not_eq_true', Bool.not_eq_true',
    hgate,
    List.isEmpty_eq_false_iff]
  exact ⟨fun ⟨⟨h, h'⟩, h''⟩ => ⟨h, h', h''⟩, fun h => ⟨⟨h.noErrors, h.noBlocking⟩, h.hasFindings⟩⟩

/-- The verdict of a ready run. -/
lemma verdict_of_ready {args : DryRunArguments} {findings : List (Checked ClassifiedFinding)}
    (h : args.Ready findings) : computeLocalVerdict findings args.gate args.verdictPowers =
      if findings.any fun finding => canRecommendRequestChanges args.verdictPowers finding.val then
        .requestChanges
      else .comment := by
  have hgate : args.gate.blocksPosting ≠ true := by
    rw [ne_eq, gate_blocks]
    rintro ⟨request, hmem, hpending, hblocks⟩
    rw [h.noBlocking request hmem hpending] at hblocks
    contradiction
  unfold computeLocalVerdict
  rw [if_neg hgate, if_neg h.hasFindings]

/-- The proof of a request for a prepared candidate passes exactly for a selection of the findings,
with a run identifier, a name and a time, if the candidate shows no marker. -/
lemma Prepares.proof_passes_iff {args : DryRunArguments} {r : PreparedReview}
    {plan : Checked PostingPlan} (h : args.Prepares r plan)
    {p : Checked CandidateIssueCommentPayload}
    (hp : r.candidatePayload = some p) {request : ApprovalRequest} (hasks : args.Asks r p request) :
    (∃ proof, buildApprovalProof request = .ok proof ∧ proof.val.status = .pass) ↔
      request.SelectsFindings ∧ isRunId request.runId = true ∧ request.approvedBy ≠ [] ∧
        request.timestamp ≠ [] ∧ containsMarkerLine p.val.body = false := by
  have henabled : r.postEnabled = true := by
    by_contra hdisabled
    rw [(h.hidden (Bool.not_eq_true _ ▸ hdisabled)).1] at hp
    contradiction
  obtain ⟨p', hp', hbuild⟩ := h.candidate henabled
  obtain rfl : p = p' := Option.some.inj (hp.symm.trans hp')
  obtain ⟨rest, hitems⟩ := PrivateOutputs.plan_items h.planned
  have hplan : request.postingPlan = plan := hasks.plan.trans (h.published henabled)
  rw [← hplan, ← hasks.findings] at hitems
  constructor
  · rintro ⟨proof, hproof, hpass⟩
    obtain ⟨findings, b, hpasses, -⟩ := buildApprovalProof_pass hproof hpass
    have hselects := ApprovalRequest.approvedFindings_selects hpasses.approvedFindings
    refine ⟨hselects.selectsFindings, hselects.runId, hpasses.approvedBy, hpasses.timestamp, ?_⟩
    rw [← hasks.candidate]
    exact hpasses.noMarker
  · rintro ⟨hselects, hrun, hby, htime, hmarker⟩
    have hfingerprints : (request.findings.map fun f => f.val.fingerprint).Nodup := by
      rw [hasks.findings]
      exact h.fingerprints.nodup
    have happroved := ApprovalRequest.approvedFindings_of_selects hitems hfingerprints
      hasks.privateVerdict hrun hselects
    have hcandidate : buildCandidateIssueCommentPayload request.reviewTarget request.postingPlan
        request.findings request.localVerdict request.includePublicVerdict
        ArtifactKind.issueComment.value = .ok request.candidatePayload := by
      rw [hasks.target, hplan, hasks.findings, hasks.privateVerdict, hasks.candidate,
        buildCandidateIssueCommentPayload_of_private]
      exact hbuild
    have hdistinct := (ApprovalRequest.approvedFindings_selects happroved).fingerprints
    obtain ⟨b, hb⟩ := @ApprovedContent.exists_build (request.content _) _ hrun hdistinct
    have hpasses : request.Passes _ b :=
      ⟨happroved, hcandidate, by rw [hasks.candidate]; exact hmarker, hb, hby, htime⟩
    obtain ⟨proof, hproof, hval⟩ := buildApprovalProof_of_passes hpasses
    exact ⟨proof, hproof, by rw [hval]; rfl⟩

/-- What a dry run prepares.  It has a candidate exactly if no required reviewer has failed, no
pending clarification blocks it and there is a finding, and otherwise its plan publishes nothing. 
With a candidate, the plan publishes exactly the findings, the verdict is a comment or asks for
changes, which takes a finding that may, and the proof of an approval passes for exactly the
selections of the findings. -/
theorem prepare_approvable {args : DryRunArguments} {r : PreparedReview}
    (h : args.prepare = .ok r) :
    (r.candidatePayload.isSome = true ↔ args.Ready r.classified.findings) ∧
    (r.candidatePayload = none → r.postingPlan.val.publicPayloadItems = []) ∧
    ∀ p, r.candidatePayload = some p →
      r.postingPlan.val.publicPayloadItems = r.classified.findings.map checkedFindingItem ∧
      r.localVerdict = (if r.classified.findings.any fun finding =>
        canRecommendRequestChanges args.verdictPowers finding.val then .requestChanges else
          .comment) ∧
      ∀ request : ApprovalRequest, args.Asks r p request →
        ((∃ proof, buildApprovalProof request = .ok proof ∧ proof.val.status = .pass) ↔
          request.SelectsFindings ∧ isRunId request.runId = true ∧ request.approvedBy ≠ [] ∧
            request.timestamp ≠ [] ∧ containsMarkerLine p.val.body = false) := by
  obtain ⟨plan, hprepares⟩ := prepare_eq_ok h
  have hready : r.postEnabled = true ↔ args.Ready r.classified.findings := by
    rw [hprepares.enabled, postEnabled_iff]
  have hsome : r.candidatePayload.isSome = true ↔ r.postEnabled = true := by
    cases henabled : r.postEnabled with
    | false => simp [(hprepares.hidden henabled).1]
    | true =>
      obtain ⟨p, hp, -⟩ := hprepares.candidate henabled
      simp [hp]
  refine ⟨hsome.trans hready, ?_, ?_⟩
  · intro hnone
    have hdisabled : r.postEnabled = false := by
      rw [← Bool.not_eq_true, ← hsome, hnone]
      simp
    obtain ⟨plan', hplan', -, hpublic⟩ := localOnlyPostingPlan_ok plan
    obtain rfl := Except.ok.inj ((hprepares.hidden hdisabled).2.symm.trans hplan')
    exact hpublic
  · intro p hp
    have henabled : r.postEnabled = true := hsome.1 (by simp [hp])
    obtain ⟨rest, hitems⟩ := PrivateOutputs.plan_items hprepares.planned
    refine ⟨?_, ?_, fun request hasks => hprepares.proof_passes_iff hp hasks⟩
    · rw [hprepares.published henabled]
      exact hitems.publicPayloadItems
    · rw [hprepares.verdict]
      exact verdict_of_ready (hready.1 henabled)

end DryRunArguments

/-! ## When a dry run comes to its end -/

/-- A plan that publishes findings with distinct identities, none of them called like the summary,
has a candidate. -/
lemma exists_candidate (reviewTarget : Checked ReviewTarget) {plan : Checked PostingPlan}
    {findings : List (Checked ClassifiedFinding)}
    (hpublic : plan.val.publicPayloadItems = findings.map checkedFindingItem)
    (hids : (findings.map fun f => f.val.id).Nodup)
    (hfingerprints : (findings.map fun f => f.val.fingerprint).Nodup)
    (hsummary : ∀ finding ∈ findings, finding.val.id ≠ ("summary" : Text)) :
    ∃ p, buildCandidateIssueCommentPayload reviewTarget plan findings none false
      ArtifactKind.issueComment.value = .ok p := by
  have hlines : (findings.map fun f => (findingLine f.val, some f.val.fingerprint)).filterMap
      Prod.snd = findings.map fun f => f.val.fingerprint := by
    rw [List.filterMap_map, ← List.filterMap_eq_map]
    rfl
  have hduplicate : duplicateFindingId [] findings = none :=
    duplicateFindingId_eq_none.2 ⟨hids, fun _ _ => List.not_mem_nil⟩
  have hmissing : ((plan.val.publicPayloadItems.map fun item => item.val.id).filter fun id =>
      id ≠ ("summary" : Text) && (findingById findings id).isNone) = [] := by
    rw [hpublic, List.map_map, List.filter_eq_nil_iff]
    intro id hid
    obtain ⟨finding, hfinding, rfl⟩ := List.mem_map.1 hid
    have hfound := findingById_of_mem hids hfinding
    simp [checkedFindingItem, findingItem, hfound]
  obtain ⟨p, hp, -⟩ := exists_buildCandidateIssueCommentPayload reviewTarget plan findings
    (findings.map fun f => (findingLine f.val, some f.val.fingerprint)) hduplicate
    (by rw [hpublic]; exact validatePublicPayloadItems_of_findings hsummary) hmissing
    (by rw [hpublic]; exact mapM_candidateItemLine hids hsummary)
    (by rw [hlines]; exact hfingerprints)
    (by
      rw [hlines]
      intro fingerprint hmem
      obtain ⟨finding, -, rfl⟩ := List.mem_map.1 hmem
      exact (ClassifiedFinding.postInit_eq_ok.1 finding.property).2.2.2.2.2.2.2.2.2.1)
  exact ⟨p, hp⟩

/-- Public items that pass their checks pass them one by one. -/
lemma validatePublicPayloadItem_of_mem {items : List (Checked PostingPlanItem)}
    (h : validatePublicPayloadItems items = .ok ()) {item : Checked PostingPlanItem}
    (hitem : item ∈ items) :
    validatePublicPayloadItem item.val = .ok () := by
  induction items with
  | nil => cases hitem
  | cons first items ih =>
    obtain ⟨hfirst, hrest⟩ := check_bind_eq_ok.1 h
    rcases List.mem_cons.1 hitem with rfl | hitem
    · exact hfirst
    · exact ih hrest hitem

/-- No finding of a candidate is called like the summary. -/
lemma id_ne_summary_of_candidate {reviewTarget : Checked ReviewTarget} {plan : Checked PostingPlan}
    {findings : List (Checked ClassifiedFinding)} {p : Checked CandidateIssueCommentPayload}
    (hpublic : plan.val.publicPayloadItems = findings.map checkedFindingItem)
    (h : buildCandidateIssueCommentPayload reviewTarget plan findings none false
      ArtifactKind.issueComment.value = .ok p) {finding : Checked ClassifiedFinding}
    (hfinding : finding ∈ findings) : finding.val.id ≠ ("summary" : Text) := by
  intro hid
  unfold buildCandidateIssueCommentPayload at h
  obtain ⟨kind, -, h⟩ := bind_eq_ok.1 h
  split at h
  · contradiction
  dsimp only at h
  have hchecked := (check_bind_eq_ok.1 h).1
  rw [hpublic] at hchecked
  have hitem : validatePublicPayloadItem (findingItem finding.val) = .ok () :=
    validatePublicPayloadItem_of_mem hchecked (List.mem_map.2 ⟨finding, hfinding, rfl⟩)
  have hdestination : (findingItem finding.val).destination ≠ .topLevelSummaryItem := by
    simp [findingItem]
  unfold validatePublicPayloadItem at hitem
  rw [if_pos (show (findingItem finding.val).id = ("summary" : Text) from hid), if_pos hdestination]
    at hitem
  contradiction

namespace DryRunArguments

/-- What lets a dry run with some anchored findings come to its end. -/
structure Completes (args : DryRunArguments) (findings : List (Checked ClassifiedFinding)) :
    Prop where
  anchored : attachDiffAnchors args.changedFiles args.reviewTarget.val args.classified.findings =
    .ok findings
  ids : StableIdentities (args.outputs findings).itemIds
  fingerprints : StableIdentities (args.outputs findings).fingerprints
  noSummary : args.Ready findings → ∀ finding ∈ findings, finding.val.id ≠ ("summary" : Text)

/-- A run that completes prepares its findings. -/
lemma Completes.exists_prepare {args : DryRunArguments}
    {findings : List (Checked ClassifiedFinding)}
    (h : args.Completes findings) :
    ∃ r, args.prepare = .ok r ∧ r.classified.findings = findings := by
  have hids : validateOutputItemIds (args.outputs findings) = .ok () :=
    requireStableIdentities_eq_ok.2 ⟨h.ids, fun _ _ => List.not_mem_nil⟩
  have hfingerprints : validateFindingFingerprints (args.outputs findings) = .ok () :=
    requireStableIdentities_eq_ok.2 ⟨h.fingerprints, fun _ _ => List.not_mem_nil⟩
  have hdistinct : ((findings.map fun f => f.val.id) ++
      (args.outputs findings).privateOutputs.ids).Nodup :=
    (args.outputs findings).itemIds_perm.nodup_iff.1 h.ids.nodup
  obtain ⟨plan, hplan, hpublic⟩ := PrivateOutputs.plan_ok (some args.reviewTarget) hdistinct
  obtain ⟨postingPlan, candidate, hposting, hcandidate⟩ : ∃ postingPlan candidate,
      postingPlanIf (computePostEnabled args.errors args.gate findings) plan = .ok postingPlan ∧
        candidatePayloadIf (computePostEnabled args.errors args.gate findings) args.reviewTarget
          postingPlan findings = .ok candidate := by
    cases henabled : computePostEnabled args.errors args.gate findings with
    | false =>
      obtain ⟨plan', hplan', -⟩ := localOnlyPostingPlan_ok plan
      exact ⟨plan', none, hplan', rfl⟩
    | true =>
      obtain ⟨p, hp⟩ := exists_candidate args.reviewTarget hpublic hdistinct.of_append_left
        h.fingerprints.nodup (h.noSummary (postEnabled_iff.1 henabled))
      refine ⟨plan, some p, rfl, ?_⟩
      unfold candidatePayloadIf
      rw [if_pos rfl, hp]
      rfl
  refine ⟨⟨args.outputs findings, computeLocalVerdict findings args.gate args.verdictPowers,
    computePostEnabled args.errors args.gate findings, postingPlan, candidate⟩, ?_, rfl⟩
  unfold prepare
  rw [h.anchored, ok_bind]
  dsimp only
  rw [hids, ok_bind, hfingerprints, ok_bind, hplan, ok_bind, hposting, ok_bind, hcandidate, ok_bind]
  rfl

/-- A dry run comes to its end exactly if its findings take their anchors, the identifiers of its
outputs and the fingerprints of its findings are distinct and no secrets, and no finding of a run
that is ready is called like the summary. -/
theorem exists_prepare_iff (args : DryRunArguments) :
    (∃ r, args.prepare = .ok r) ↔ ∃ findings, args.Completes findings := by
  constructor
  · rintro ⟨r, hr⟩
    obtain ⟨plan, hprepares⟩ := prepare_eq_ok hr
    refine ⟨r.classified.findings, hprepares.anchored, ?_, ?_, ?_⟩
    · rw [← hprepares.outputs]
      exact hprepares.ids
    · rw [← hprepares.outputs]
      exact hprepares.fingerprints
    · intro hready finding hfinding
      have henabled : r.postEnabled = true := by
        rw [hprepares.enabled, postEnabled_iff]
        exact hready
      obtain ⟨p, -, hbuild⟩ := hprepares.candidate henabled
      obtain ⟨rest, hitems⟩ := PrivateOutputs.plan_items hprepares.planned
      exact id_ne_summary_of_candidate hitems.publicPayloadItems hbuild hfinding
  · rintro ⟨findings, h⟩
    obtain ⟨r, hr, -⟩ := h.exists_prepare
    exact ⟨r, hr⟩

/-- A note on the context of a run. -/
def contextNote : Checked LocalNote :=
  ⟨⟨"note", "Context", "A patch was cut short.", "budget", .localNote⟩, by decide +kernel⟩

/-- A dry run with two findings and a note. -/
def pairRun : DryRunArguments where
  changedFiles := []
  reviewTarget := firstPullRequest
  contextNotes := [contextNote]
  agents := []
  classified := ⟨[openingFinding, closingFinding], [], [], [], []⟩
  errors := []

/-- The run with two findings completes. -/
lemma pairRun_completes : pairRun.Completes [openingFinding, closingFinding] := by
  refine ⟨rfl, ⟨by decide +kernel, by decide +kernel⟩, ⟨by decide +kernel, by decide +kernel⟩, ?_⟩
  intro _ finding hfinding
  rcases List.mem_pair.1 hfinding with rfl | rfl
  · show ("opening" : Text) ≠ "summary"
    simp [Text.ofString_eq]
  · show ("closing" : Text) ≠ "summary"
    simp [Text.ofString_eq]

/-- What the dry run with two findings prepares can be approved. -/
theorem prepare_approvable_pair :
    ∃ (r : PreparedReview) (p : Checked CandidateIssueCommentPayload),
    pairRun.prepare = .ok r ∧ r.candidatePayload = some p ∧
      r.postingPlan.val.publicPayloadItems =
        [checkedFindingItem openingFinding, checkedFindingItem closingFinding] ∧
      ∀ request : ApprovalRequest, pairRun.Asks r p request →
        ((∃ proof, buildApprovalProof request = .ok proof ∧ proof.val.status = .pass) ↔
          request.SelectsFindings ∧ isRunId request.runId = true ∧ request.approvedBy ≠ [] ∧
            request.timestamp ≠ [] ∧ containsMarkerLine p.val.body = false) := by
  obtain ⟨r, hr, hfindings⟩ := pairRun_completes.exists_prepare
  obtain ⟨hsome, -, hcandidate⟩ := prepare_approvable hr
  have hready : pairRun.Ready r.classified.findings := by
    refine ⟨rfl, ?_, by simp [hfindings]⟩
    intro request hmem
    cases hmem
  obtain ⟨p, hp⟩ := Option.isSome_iff_exists.1 (hsome.2 hready)
  obtain ⟨hpublic, -, happroves⟩ := hcandidate p hp
  rw [hfindings] at hpublic
  exact ⟨r, p, hr, hp, hpublic, happroves⟩

end DryRunArguments

end ReviewGraph
