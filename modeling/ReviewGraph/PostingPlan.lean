import ReviewGraph.ApprovedPayload
import ReviewGraph.DiffAnchors

/-!
# What a posting plan publishes

`build_posting_plan` mixes the findings with four lists of private outputs.  Only the items of the
findings are public, and they carry the fingerprints of their findings, so the candidate payload is
a function of the findings.
-/

namespace ReviewGraph

/-! ## Private outputs -/

/-- The outputs of a review that a plan keeps local. -/
structure PrivateOutputs where
  localNotes : List (Checked LocalNote)
  suggestedReplies : List (Checked SuggestedReply)
  clarificationRequests : List (Checked ClarificationRequest)
  suppressedOutputs : List (Checked SuppressedOutput)

namespace PrivateOutputs

/-- The identifiers of the outputs, in the order of the plan. -/
def ids (outputs : PrivateOutputs) : List Text :=
  (outputs.localNotes.map fun note => note.val.id) ++
    (outputs.suggestedReplies.map fun reply => reply.val.id) ++
    (outputs.clarificationRequests.map fun request => request.val.id) ++
    outputs.suppressedOutputs.map fun output => output.val.id

/-- The plan that the runner builds for findings and private outputs. -/
def plan (outputs : PrivateOutputs) (findings : List (Checked ClassifiedFinding))
    (reviewTarget : Option (Checked ReviewTarget)) : Result (Checked PostingPlan) :=
  buildPostingPlan findings reviewTarget outputs.localNotes outputs.suggestedReplies
    outputs.clarificationRequests outputs.suppressedOutputs [] false

end PrivateOutputs

/-- An item that is not public is built from an identifier and a body. -/
lemma privateItem_ok {id body : Text} (classification : OutputClassification)
    (destination : PostingDestination) (hid : id ≠ []) (hbody : body ≠ []) :
    ∃ item, privateItem id classification destination body = .ok item ∧
      (item.val.id = id ∧ item.val.publicPayloadEligible = false) := by
  have hvalue : classification.value ≠ [] := by
    cases classification <;> simp [OutputClassification.value, Text.ofString_eq]
  have hpost : Record.postInit ({
      id := id
      sourceClassification := classification.value
      destination := destination
      publicPayloadEligible := false
      fingerprint := none
      body := some body } : PostingPlanItem) = .ok () := by
    simp only [Record.postInit, check_bind_eq_ok, require_eq_ok, requireNonEmpty_eq_ok,
      requireOptionalNonEmpty_eq_ok]
    exact ⟨hid, hvalue, by simp, fun h => hbody (Option.some.inj h), by simp⟩
  exact ⟨⟨_, hpost⟩, construct_eq_ok.2 rfl, rfl, rfl⟩

/-- Items that are related to what they are made of keep the identifiers and are not public. -/
lemma privateItems_of_forall₂ {α : Type} {key : α → Text} {as : List α}
    {items : List (Checked PostingPlanItem)}
    (h : List.Forall₂ (fun a item =>
      item.val.id = key a ∧ item.val.publicPayloadEligible = false) as items) :
    (items.map fun item => item.val.id) = as.map key ∧
      (items.filter fun item => item.val.publicPayloadEligible) = [] := by
  induction h with
  | nil => exact ⟨rfl, rfl⟩
  | cons hhead _ ih =>
    rw [List.map_cons, List.map_cons, hhead.1, ih.1, List.filter_cons, hhead.2, ih.2]
    exact ⟨rfl, rfl⟩

/-- A list of private outputs becomes a list of items that are not public. -/
lemma privateItems_ok {α : Type} [Record α] (key body : α → Text)
    (classification : OutputClassification) (destination : PostingDestination)
    (as : List (Checked α)) (hkey : ∀ a : Checked α, key a.val ≠ [] ∧ body a.val ≠ []) :
    ∃ items, as.mapM (fun a => privateItem (key a.val) classification destination (body a.val)) =
        .ok items ∧
      (items.map fun item => item.val.id) = (as.map fun a => key a.val) ∧
      (items.filter fun item => item.val.publicPayloadEligible) = [] := by
  obtain ⟨items, hitems, hrel⟩ := exists_mapM_eq_ok fun a (_ : a ∈ as) =>
    privateItem_ok classification destination (hkey a).1 (hkey a).2
  exact ⟨items, hitems, privateItems_of_forall₂ hrel⟩

/-! ## The items of the findings -/

/-- The item of a finding that is no inline candidate. -/
def findingItem (finding : ClassifiedFinding) : PostingPlanItem where
  id := finding.id
  sourceClassification := finding.classification.value
  destination := .reviewBodyItem
  publicPayloadEligible := true
  fingerprint := some finding.fingerprint
  body := some finding.body

/-- The item of a finding is valid. -/
lemma findingItem_valid (finding : Checked ClassifiedFinding) :
    Record.postInit (findingItem finding.val) = .ok () := by
  obtain ⟨-, -, hid, -, -, -, hbody, -, -, hfingerprint, -⟩ :=
    ClassifiedFinding.postInit_eq_ok.1 finding.property
  have hvalue : finding.val.classification.value ≠ [] := by
    cases finding.val.classification <;> simp [OutputClassification.value, Text.ofString_eq]
  simp only [Record.postInit, findingItem, check_bind_eq_ok, require_eq_ok, requireNonEmpty_eq_ok,
    requireOptionalNonEmpty_eq_ok]
  refine ⟨hid, hvalue, ?_, ?_, by simp⟩
  · exact fun h => hfingerprint (Option.some.inj h)
  · exact fun h => hbody (Option.some.inj h)

/-- The public item of a finding. -/
def checkedFindingItem (finding : Checked ClassifiedFinding) : Checked PostingPlanItem :=
  ⟨findingItem finding.val, findingItem_valid finding⟩

/-- Without anchored destinations a finding gets its own item. -/
lemma findingPlanItem_nil (reviewTarget : Option (Checked ReviewTarget))
    (finding : Checked ClassifiedFinding) :
    findingPlanItem reviewTarget [] finding = .ok (checkedFindingItem finding) := by
  unfold findingPlanItem
  rw [if_neg List.not_mem_nil]
  exact construct_eq_ok.2 rfl

/-- So do all findings. -/
lemma mapM_findingPlanItem (reviewTarget : Option (Checked ReviewTarget))
    (findings : List (Checked ClassifiedFinding)) :
    findings.mapM (findingPlanItem reviewTarget []) = .ok (findings.map checkedFindingItem) := by
  rw [mapM_eq_ok, List.forall₂_map_right_iff, List.forall₂_same]
  exact fun finding _ => findingPlanItem_nil reviewTarget finding

/-- The plan of findings and private outputs with distinct identifiers is built, and its public
items are those of the findings. -/
lemma PrivateOutputs.plan_ok {outputs : PrivateOutputs}
    {findings : List (Checked ClassifiedFinding)}
    (reviewTarget : Option (Checked ReviewTarget))
    (hids : ((findings.map fun f => f.val.id) ++ outputs.ids).Nodup) :
    ∃ plan, outputs.plan findings reviewTarget = .ok plan ∧
      plan.val.publicPayloadItems = findings.map checkedFindingItem := by
  obtain ⟨notes, hnotes, hnoteIds, hnotePublic⟩ := privateItems_ok LocalNote.id
    LocalNote.body .localNote .localOnly outputs.localNotes fun note => by
      have h := note.property
      simp only [Record.postInit, check_bind_eq_ok, requireNonEmpty_eq_ok] at h
      exact ⟨h.1, h.2.2.1⟩
  obtain ⟨replies, hreplies, hreplyIds, hreplyPublic⟩ := privateItems_ok SuggestedReply.id
    SuggestedReply.proposedBody .suggestedReply .suggestedReply outputs.suggestedReplies
      fun reply => by
      have h := reply.property
      simp only [Record.postInit, check_bind_eq_ok, requireNonEmpty_eq_ok] at h
      exact ⟨h.1, h.2.2⟩
  obtain ⟨requests, hrequests, hrequestIds, hrequestPublic⟩ :=
    privateItems_ok ClarificationRequest.id ClarificationRequest.question .clarificationRequest
      .localOnly outputs.clarificationRequests fun request => by
        have h := request.property
        simp only [Record.postInit, check_bind_eq_ok, requireNonEmpty_eq_ok] at h
        exact ⟨h.1, h.2.2.1⟩
  obtain ⟨suppressed, hsuppressed, hsuppressedIds, hsuppressedPublic⟩ :=
    privateItems_ok SuppressedOutput.id SuppressedOutput.reason .nonFinding .localOnly
      outputs.suppressedOutputs fun output => by
        have h := output.property
        simp only [Record.postInit, check_bind_eq_ok, requireNonEmpty_eq_ok] at h
        exact h
  have hfindingIds : ((findings.map checkedFindingItem).map fun item => item.val.id) =
      findings.map fun f => f.val.id := by
    rw [List.map_map]
    rfl
  have hfindingPublic : ((findings.map checkedFindingItem).filter fun item =>
      item.val.publicPayloadEligible) = findings.map checkedFindingItem := by
    rw [List.filter_eq_self]
    intro item hitem
    obtain ⟨finding, -, rfl⟩ := List.mem_map.1 hitem
    rfl
  have hpost : Record.postInit (⟨findings.map checkedFindingItem ++ notes ++ replies ++ requests ++
      suppressed⟩ : PostingPlan) = .ok () := by
    simp only [Record.postInit, require_eq_ok, PostingPlan.itemIds, List.map_append, hfindingIds,
      hnoteIds, hreplyIds, hrequestIds, hsuppressedIds]
    simpa only [PrivateOutputs.ids, List.append_assoc] using hids
  refine ⟨⟨_, hpost⟩, ?_, ?_⟩
  · unfold PrivateOutputs.plan buildPostingPlan summaryItems
    rw [if_neg Bool.false_ne_true, ok_bind, mapM_findingPlanItem, ok_bind, hnotes, ok_bind,
      hreplies,
      ok_bind, hrequests, ok_bind, hsuppressed, ok_bind]
    exact construct_eq_ok.2 rfl
  · simp only [PostingPlan.publicPayloadItems, List.filter_append, hfindingPublic, hnotePublic,
      hreplyPublic, hrequestPublic, hsuppressedPublic, List.append_nil]

/-! ## The candidate payload of a plan -/

/-- Among findings with distinct identifiers, each is found by its own. -/
lemma findingById_of_mem {findings : List (Checked ClassifiedFinding)}
    (hids : (findings.map fun f => f.val.id).Nodup) {finding : Checked ClassifiedFinding}
    (h : finding ∈ findings) : findingById findings finding.val.id = some finding := by
  obtain ⟨found, hfound⟩ : ∃ found, findingById findings finding.val.id = some found := by
    rw [← Option.isSome_iff_exists, findingById, List.find?_isSome]
    exact ⟨finding, List.mem_reverse.2 h, decide_eq_true rfl⟩
  obtain ⟨hmem, hid⟩ := findingById_eq_some hfound
  rw [hfound, List.inj_on_of_nodup_map hids hmem h hid]

/-- A candidate depends on a plan through its public items. -/
lemma buildCandidateIssueCommentPayload_congr {reviewTarget : Checked ReviewTarget}
    {plan plan' : Checked PostingPlan} {findings : List (Checked ClassifiedFinding)}
    (h : plan.val.publicPayloadItems = plan'.val.publicPayloadItems) (kind : Text) :
    buildCandidateIssueCommentPayload reviewTarget plan findings none false kind =
      buildCandidateIssueCommentPayload reviewTarget plan' findings none false kind := by
  unfold buildCandidateIssueCommentPayload
  rw [h]

/-- The items of findings pass the checks of public items if no finding is called like the
summary. -/
lemma validatePublicPayloadItems_of_findings {findings : List (Checked ClassifiedFinding)}
    (hsummary : ∀ finding ∈ findings, finding.val.id ≠ ("summary" : Text)) :
    validatePublicPayloadItems (findings.map checkedFindingItem) = .ok () := by
  unfold validatePublicPayloadItems
  induction findings with
  | nil => rfl
  | cons finding findings ih =>
    have hclass := (ClassifiedFinding.postInit_eq_ok.1 finding.property).2.1
    have hitem : validatePublicPayloadItem (findingItem finding.val) = .ok () := by
      unfold validatePublicPayloadItem findingItem
      rw [if_neg (hsummary finding List.mem_cons_self), if_neg (by simp), if_neg (by simp [hclass]),
        if_neg (by simp)]
    show (validatePublicPayloadItem (findingItem finding.val) >>= _) = _
    rw [hitem, ok_bind]
    exact ih fun f hf => hsummary f (List.mem_cons_of_mem _ hf)

/-- The lines of the items of findings. -/
lemma mapM_candidateItemLine {findings : List (Checked ClassifiedFinding)}
    (hids : (findings.map fun f => f.val.id).Nodup)
    (hsummary : ∀ finding ∈ findings, finding.val.id ≠ ("summary" : Text)) :
    ((findings.map checkedFindingItem).mapM fun item => candidateItemLine findings item.val) =
      .ok (findings.map fun f => (findingLine f.val, some f.val.fingerprint)) := by
  rw [mapM_eq_ok, List.forall₂_map_left_iff, List.forall₂_map_right_iff, List.forall₂_same]
  intro finding hfinding
  show candidateItemLine findings (findingItem finding.val) = _
  unfold candidateItemLine findingItem
  rw [if_neg (hsummary finding hfinding), findingById_of_mem hids hfinding]
  simp

/-- The candidate covers exactly the findings: for findings with distinct identifiers and
fingerprints, none of them called like the summary, there is one payload, with the sorted
fingerprints of the findings, that the plan of the findings with any private outputs gives. -/
theorem candidatePayload_covers_findings (reviewTarget : Checked ReviewTarget)
    {findings : List (Checked ClassifiedFinding)} (hids : (findings.map fun f => f.val.id).Nodup)
    (hfingerprints : (findings.map fun f => f.val.fingerprint).Nodup)
    (hsummary : ∀ finding ∈ findings, finding.val.id ≠ ("summary" : Text)) :
    ∃ payload : Checked CandidateIssueCommentPayload,
      payload.val.itemFingerprints = Text.sorted (findings.map fun f => f.val.fingerprint) ∧
      ∀ (outputs : PrivateOutputs) (planTarget : Option (Checked ReviewTarget)),
        ((findings.map fun f => f.val.id) ++ outputs.ids).Nodup →
          ∃ plan, outputs.plan findings planTarget = .ok plan ∧
            buildCandidateIssueCommentPayload reviewTarget plan findings none false
              ArtifactKind.issueComment.value = .ok payload := by
  have hlines : (findings.map fun f => (findingLine f.val, some f.val.fingerprint)).filterMap
      Prod.snd = findings.map fun f => f.val.fingerprint := by
    rw [List.filterMap_map, ← List.filterMap_eq_map]
    rfl
  -- The plan without private outputs gives the payload.
  obtain ⟨plan, -, hpublic⟩ := @PrivateOutputs.plan_ok ⟨[], [], [], []⟩ findings none (by
    simpa [PrivateOutputs.ids] using hids)
  obtain ⟨payload, hpayload, -, hcovers⟩ := exists_buildCandidateIssueCommentPayload reviewTarget
      plan
    findings (findings.map fun f => (findingLine f.val, some f.val.fingerprint))
    (duplicateFindingId_eq_none.2 ⟨hids, by simp⟩)
    (by rw [hpublic]; exact validatePublicPayloadItems_of_findings hsummary)
    (by
      rw [hpublic, List.map_map, List.filter_eq_nil_iff]
      intro id hid
      obtain ⟨finding, hfinding, rfl⟩ := List.mem_map.1 hid
      have hfound := findingById_of_mem hids hfinding
      simp [checkedFindingItem, findingItem, hfound])
    (by rw [hpublic]; exact mapM_candidateItemLine hids hsummary)
    (by rw [hlines]; exact hfingerprints)
    (by
      rw [hlines]
      intro fingerprint hmem
      obtain ⟨finding, -, rfl⟩ := List.mem_map.1 hmem
      exact (ClassifiedFinding.postInit_eq_ok.1 finding.property).2.2.2.2.2.2.2.2.2.1)
  refine ⟨payload, by rw [hcovers, hlines], ?_⟩
  intro outputs planTarget hdistinct
  obtain ⟨plan', hplan, hpublic'⟩ := PrivateOutputs.plan_ok planTarget hdistinct
  refine ⟨plan', hplan, ?_⟩
  rw [buildCandidateIssueCommentPayload_congr (hpublic'.trans hpublic.symm)]
  exact hpayload

/-- A finding that is called like the summary. -/
def summaryFinding : Checked ClassifiedFinding :=
  ⟨keyFinding "summary" "Body", by
    rw [ClassifiedFinding.postInit_eq_ok]
    simp [keyFinding, Text.ofString_eq]⟩

/-- The two findings of `keyPlan` have different identifiers. -/
lemma keyFindings_nodup : ([openingFinding, closingFinding].map fun f => f.val.id).Nodup := by
  have hne : ("opening" : Text) ≠ "closing" := by simp [Text.ofString_eq]
  show (["opening", "closing"] : List Text).Nodup
  simp [hne]

/-- A private output of each kind. -/
def eachPrivateOutput : PrivateOutputs where
  localNotes := [⟨⟨"note", "Context", "A file was left out.", "budget", .localNote⟩,
    by decide +kernel⟩]
  suggestedReplies := [⟨⟨"reply", "comment", "Done."⟩, by decide +kernel⟩]
  clarificationRequests := [⟨⟨"question", "security", "Is this key in use?",
    "A key in use must be revoked.", true, [], []⟩, by decide +kernel⟩]
  suppressedOutputs := [⟨⟨"suppressed", "weak-evidence"⟩, by decide +kernel⟩]

/-- The outputs and the two findings of `keyPlan` have different identifiers. -/
lemma eachPrivateOutput_nodup : (([openingFinding, closingFinding].map fun f => f.val.id) ++
    eachPrivateOutput.ids).Nodup := by
  decide +kernel

/-- The candidate of the two findings of `keyPlan` covers both, with private outputs in the plan and
without. -/
theorem candidatePayload_covers_keyFindings :
    ∃ payload : Checked CandidateIssueCommentPayload,
      payload.val.itemFingerprints = Text.sorted ["opening", "closing"] ∧
      ∀ outputs ∈ [⟨[], [], [], []⟩, eachPrivateOutput],
        ∃ plan, outputs.plan [openingFinding, closingFinding] none = .ok plan ∧
          buildCandidateIssueCommentPayload firstPullRequest plan [openingFinding, closingFinding]
            none false ArtifactKind.issueComment.value = .ok payload := by
  obtain ⟨payload, hcovers, hall⟩ := candidatePayload_covers_findings firstPullRequest
    keyFindings_nodup keyFindings_nodup (by
      intro finding hfinding
      rcases List.mem_pair.1 hfinding with rfl | rfl
      · show ("opening" : Text) ≠ "summary"
        simp [Text.ofString_eq]
      · show ("closing" : Text) ≠ "summary"
        simp [Text.ofString_eq])
  refine ⟨payload, hcovers, ?_⟩
  intro outputs houtputs
  rcases List.mem_pair.1 houtputs with rfl | rfl
  · exact hall _ none (by simpa [PrivateOutputs.ids] using keyFindings_nodup)
  · exact hall _ none eachPrivateOutput_nodup

/-- A single finding that is called like the summary has a plan but no candidate. -/
theorem candidatePayload_covers_not_summaryFinding :
    ¬ ∀ (findings : List (Checked ClassifiedFinding)) (outputs : PrivateOutputs),
      (findings.map fun f => f.val.fingerprint).Nodup →
      ((findings.map fun f => f.val.id) ++ outputs.ids).Nodup →
        ∃ plan payload, outputs.plan findings none = .ok plan ∧
          buildCandidateIssueCommentPayload firstPullRequest plan findings none false
            ArtifactKind.issueComment.value = .ok payload := by
  intro hall
  obtain ⟨plan, payload, hplan, hbuild⟩ := hall [summaryFinding] ⟨[], [], [], []⟩ (by simp)
    (by simp [PrivateOutputs.ids])
  obtain ⟨plan', hplan', hpublic⟩ := @PrivateOutputs.plan_ok ⟨[], [], [], []⟩ [summaryFinding] none
    (by simp [PrivateOutputs.ids])
  obtain rfl : plan = plan' := Except.ok.inj (hplan.symm.trans hplan')
  have hid : (findingItem summaryFinding.val).id = "summary" := rfl
  have hitem : validatePublicPayloadItem (findingItem summaryFinding.val) = .error
      (.postingPlanError "summary public item must use top_level_summary_item destination") := by
    unfold validatePublicPayloadItem
    rw [if_pos hid, if_pos (by simp [findingItem])]
  have hduplicate : duplicateFindingId [] [summaryFinding] = none :=
    duplicateFindingId_eq_none.2 ⟨by simp, by simp⟩
  unfold buildCandidateIssueCommentPayload validateMvpArtifactKind at hbuild
  rw [if_pos rfl, ok_bind, hpublic, hduplicate] at hbuild
  have hvalidated := (check_bind_eq_ok.1 hbuild).1
  have hfirst : validatePublicPayloadItem (findingItem summaryFinding.val) = .ok () :=
    (check_bind_eq_ok.1 hvalidated).1
  rw [hitem] at hfirst
  contradiction

end ReviewGraph
