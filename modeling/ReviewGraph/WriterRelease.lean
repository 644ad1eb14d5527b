import ReviewGraph.FakePosts
import ReviewGraph.PostingPlan

/-!
# The release of the writer

Two gates of `finalization.py` decide whether the items of an approval may be published:
`evaluate_writer_release_preflight` on descriptors of the items, and `_approval_preflight` on the
findings.  On a plan that `build_posting_plan` made of the findings both say the same: the approved
items are distinct, public, and have distinct fingerprints.
-/

namespace ReviewGraph

/-! ## Records -/

/-- `WriterReleasePreflightReasonCode`. -/
inductive WriterReleasePreflightReasonCode
  | postDisabled
  | approvalBuildFailed
  | missingApproval
  | rejectedApproval
  | duplicateApprovedItem
  | duplicateApprovedFingerprint
  | unknownApprovedId
  | nonPublicApprovedItem
  deriving DecidableEq, Repr

/-- `WriterReleaseItemReasonCode`. -/
inductive WriterReleaseItemReasonCode
  | missingCurrentItem
  | missingFingerprint
  | notPublicPayloadEligible
  | wrongDestination
  | wrongSourceClassification
  deriving DecidableEq, Repr

/-- `WriterReleaseItemDiagnostic`. -/
structure WriterReleaseItemDiagnostic where
  itemId : Text
  reasonCode : WriterReleaseItemReasonCode
  destination : Option PostingDestination
  sourceClassification : Option Text
  publicPayloadEligible : Option Bool
  deriving DecidableEq

instance : Record WriterReleaseItemDiagnostic where
  postInit d := do
    requireNonEmpty d.itemId "writer release item diagnostic item_id"
    requireOptionalNonEmpty d.sourceClassification
      "writer release item diagnostic source_classification"

/-- `WriterReleasePreflightResult`. -/
structure WriterReleasePreflightResult where
  status : GateStatus
  writerInputReleased : Bool
  eligibleForFinalization : Bool := false
  approvedItemIds : List Text := []
  reasonCode : Option WriterReleasePreflightReasonCode := none
  nestedReasonCode : Option ApprovalDecisionBuildReasonCode := none
  nestedApprovalProofReasonCode : Option ApprovalProofReasonCode := none
  nestedActorPermissionReasonCode : Option ActorPermissionReasonCode := none
  itemDiagnostics : List (Checked WriterReleaseItemDiagnostic) := []
  finalPayloadHash : Option Text := none
  writerResult : Option (Checked GitHubWriterResult) := none

instance : Record WriterReleasePreflightResult where
  postInit r := do
    require (r.status ≠ .unknown) "writer release preflight status must be pass or fail"
    require (r.writerInputReleased = false) "writer release preflight must not release writer input"
    requireStringTuple r.approvedItemIds "writer release preflight approved_item_ids" true
    require (r.finalPayloadHash = none)
      "writer release preflight must not carry final_payload_hash"
    require (r.writerResult.isNone = true) "writer release preflight must not carry writer_result"
    if r.status = .pass then do
      require (r.eligibleForFinalization = true)
        "writer release preflight pass requires eligible_for_finalization"
      requireStringTuple r.approvedItemIds "writer release preflight approved_item_ids" false
      require (r.reasonCode = none) "writer release preflight pass must not include reason_code"
      require (r.nestedReasonCode = none ∧ r.nestedApprovalProofReasonCode = none ∧
          r.nestedActorPermissionReasonCode = none ∧ r.itemDiagnostics = [])
        "writer release preflight pass must not include diagnostics"
    else do
      require (r.eligibleForFinalization = false)
        "writer release preflight failure must not be eligible"
      require (r.approvedItemIds = [])
        "writer release preflight failure must not include approved_item_ids"
      require (r.reasonCode ≠ none) "writer release preflight failure requires reason_code"

/-- `ApprovedItemDescriptor`. -/
structure ApprovedItemDescriptor where
  itemId : Text
  sourceClassification : Text
  destination : PostingDestination
  publicPayloadEligible : Bool
  hasFingerprint : Bool
  deriving DecidableEq

instance : Record ApprovedItemDescriptor where
  postInit d := do
    require (d.itemId ≠ []) "approved item descriptor item_id is required"
    require (d.sourceClassification ≠ [])
      "approved item descriptor source_classification is required"

/-! ## Descriptors of a plan -/

/-- The item of an identifier in a dictionary that is filled in the order of the plan. -/
def PostingPlan.itemById (plan : PostingPlan) (id : Text) : Option (Checked PostingPlanItem) :=
  plan.items.reverse.find? fun item => item.val.id = id

/-- The descriptor of an item. -/
def PostingPlanItem.descriptor (item : PostingPlanItem) : ApprovedItemDescriptor where
  itemId := item.id
  sourceClassification := item.sourceClassification
  destination := item.destination
  publicPayloadEligible := item.publicPayloadEligible
  hasFingerprint := item.fingerprint.isSome

/-- `_descriptors`: the descriptors of the items of a plan by their identifiers. -/
def descriptors (plan : PostingPlan) : Result (Text → Option (Checked ApprovedItemDescriptor)) := do
  let values ← plan.items.mapM fun item => construct item.val.descriptor
  return fun id => values.reverse.find? fun descriptor => descriptor.val.itemId = id

/-! ## The preflight of the writer -/

/-- The search of `_duplicate_value` after some values. -/
def duplicateValueFrom : List Text → List Text → Option Text
  | _, [] => none
  | seen, value :: values =>
    if value ∈ seen then some value else duplicateValueFrom (value :: seen) values

/-- `_duplicate_value`. -/
def duplicateValue (values : List Text) : Option Text := duplicateValueFrom [] values

/-- `_descriptor_matches_plan_item`. -/
def descriptorMatchesPlanItem (descriptor : ApprovedItemDescriptor) (item : PostingPlanItem) :
    Bool :=
  item.id = descriptor.itemId && item.sourceClassification = descriptor.sourceClassification &&
    item.destination = descriptor.destination &&
    item.publicPayloadEligible = descriptor.publicPayloadEligible &&
    item.fingerprint.isSome = descriptor.hasFingerprint

/-- `_plan_item_diagnostic`. -/
def planItemDiagnostic (item : PostingPlanItem) : Result (Checked WriterReleaseItemDiagnostic) :=
  construct {
    itemId := item.id
    reasonCode := if item.publicPayloadEligible then .wrongDestination else
      .notPublicPayloadEligible
    destination := some item.destination
    sourceClassification := some item.sourceClassification
    publicPayloadEligible := some item.publicPayloadEligible }

/-- `_diagnostic`. -/
def itemDiagnostic (descriptor : ApprovedItemDescriptor)
    (reasonCode : WriterReleaseItemReasonCode) :
    Result (Checked WriterReleaseItemDiagnostic) :=
  construct {
    itemId := descriptor.itemId
    reasonCode
    destination := some descriptor.destination
    sourceClassification := some descriptor.sourceClassification
    publicPayloadEligible := some descriptor.publicPayloadEligible }

/-- The reason in `_public_item_diagnostic`. -/
def publicItemReason (descriptor : ApprovedItemDescriptor) : Option WriterReleaseItemReasonCode :=
  if descriptor.publicPayloadEligible = false then some .notPublicPayloadEligible
  else if descriptor.destination ≠ .reviewBodyItem then some .wrongDestination
  else if descriptor.sourceClassification ≠ OutputClassification.postableFinding.value then
    some .wrongSourceClassification
  else if descriptor.hasFingerprint = false then some .missingFingerprint
  else none

/-- One round of the loop over the approved items: a diagnostic or a fingerprint. -/
def releaseItem (plan : PostingPlan)
    (currentItemsById : Text → Option (Checked ApprovedItemDescriptor)) (itemId : Text) :
    Result (Checked WriterReleaseItemDiagnostic ⊕ Text) :=
  match plan.itemById itemId, currentItemsById itemId with
  | some item, some descriptor =>
    if descriptorMatchesPlanItem descriptor.val item.val = false then
      (planItemDiagnostic item.val).map .inl
    else
      match publicItemReason descriptor.val with
      | some reasonCode => (itemDiagnostic descriptor.val reasonCode).map .inl
      | none => .ok (.inr (item.val.fingerprint.getD []))
  | _, _ => (construct {
      itemId
      reasonCode := .missingCurrentItem
      destination := none
      sourceClassification := none
      publicPayloadEligible := none }).map .inl

/-- `_writer_preflight_fail`. -/
def writerPreflightFail (reasonCode : WriterReleasePreflightReasonCode)
    (itemDiagnostics : List (Checked WriterReleaseItemDiagnostic)) :
    Result (Checked WriterReleasePreflightResult) :=
  construct {
    status := .fail
    writerInputReleased := false
    reasonCode := some reasonCode
    itemDiagnostics }

/-- `_writer_preflight_for_approval`. -/
def writerPreflightForApproval (approval : ApprovalDecision) (plan : PostingPlan)
    (currentItemsById : Text → Option (Checked ApprovedItemDescriptor)) :
    Result (Checked WriterReleasePreflightResult) :=
  if duplicateValue approval.approvedItemIds ≠ none then
    writerPreflightFail .duplicateApprovedItem []
  else do
    let outcomes ← approval.approvedItemIds.mapM (releaseItem plan currentItemsById)
    let diagnostics := outcomes.filterMap Sum.getLeft?
    if duplicateValue (outcomes.filterMap Sum.getRight?) ≠ none then
      writerPreflightFail .duplicateApprovedFingerprint []
    else if diagnostics ≠ [] then
      if diagnostics.any fun d => d.val.reasonCode = .missingCurrentItem then
        writerPreflightFail .unknownApprovedId diagnostics
      else writerPreflightFail .nonPublicApprovedItem diagnostics
    else construct {
      status := .pass
      writerInputReleased := false
      eligibleForFinalization := true
      approvedItemIds := approval.approvedItemIds }

/-- What `evaluate_writer_release_preflight` accepts as an approval. -/
inductive ApprovalInput
  | built (result : Checked ApprovalDecisionBuildResult)
  | decision (approval : Checked ApprovalDecision)
  | missing

/-- `evaluate_writer_release_preflight`. -/
def evaluateWriterReleasePreflight (postEnabled : Bool) (approvalResult : ApprovalInput)
    (plan : PostingPlan) (currentItemsById : Text → Option (Checked ApprovedItemDescriptor)) :
    Result (Checked WriterReleasePreflightResult) :=
  if postEnabled = false then writerPreflightFail .postDisabled []
  else
    match approvalResult with
    | .missing => writerPreflightFail .missingApproval []
    | .decision approval => released approval
    | .built result =>
      if result.val.status ≠ .pass then
        construct {
          status := .fail
          writerInputReleased := false
          reasonCode := some .approvalBuildFailed
          nestedReasonCode := result.val.reasonCode
          nestedApprovalProofReasonCode := result.val.approvalProofReasonCode
          nestedActorPermissionReasonCode := result.val.actorPermissionReasonCode }
      else result.val.approval.elim (writerPreflightFail .missingApproval []) released
where
  /-- The rest, for an approval. -/
  released (approval : Checked ApprovalDecision) : Result (Checked WriterReleasePreflightResult) :=
    if approval.val.approved = false then writerPreflightFail .rejectedApproval []
    else writerPreflightForApproval approval.val plan currentItemsById

/-! ## The preflight of the finalization -/

/-- The first loop of `_approval_preflight`: the reason to refuse an approved item. -/
def approvedItemReason (plan : PostingPlan)
    (approvedFindingsById : Text → Option (Checked ClassifiedFinding)) (itemId : Text) :
    Option Text :=
  match plan.itemById itemId with
  | none => some "approval references an unknown approved item id"
  | some item =>
    if item.val.destination ≠ .reviewBodyItem ∨
        item.val.sourceClassification ≠ OutputClassification.postableFinding.value ∨
        item.val.publicPayloadEligible = false then
      some "approval references a non-public approved item"
    else if item.val.fingerprint = none then
      some "approved posting plan item is missing fingerprint"
    else if (approvedFindingsById itemId).isNone then
      some "approval references an unknown approved item id"
    else none

/-- The second loop of `_approval_preflight`: the reason to refuse the finding of an item. -/
def approvedFindingReason (plan : PostingPlan) (finding : ClassifiedFinding) (itemId : Text) :
    Option Text :=
  if finding.classification ≠ .postableFinding then
    some "approval references a non-public approved item"
  else if finding.fingerprint = [] then some "approved finding is missing fingerprint"
  else if (plan.itemById itemId).bind (fun item => item.val.fingerprint) ≠ some
    finding.fingerprint then
    some "approved finding fingerprint does not match posting plan"
  else none

/-- `_approval_preflight`. -/
def approvalPreflight (approval : ApprovalDecision) (plan : PostingPlan)
    (approvedFindingsById : Text → Option (Checked ClassifiedFinding)) : Option Text :=
  if approval.approved = false then some "approval is not approved"
  else if approval.approvedItemIds = [] then some "approval has no approved item ids"
  else if ¬ approval.approvedItemIds.Nodup then some "approval has duplicate approved item ids"
  else
    match approval.approvedItemIds.findSome? (approvedItemReason plan approvedFindingsById) with
    | some reason => some reason
    | none =>
      -- Every approved item has a finding after the first loop.
      let findings := approval.approvedItemIds.filterMap fun itemId =>
        (approvedFindingsById itemId).map fun finding => (itemId, finding.val)
      match findings.findSome? fun entry => approvedFindingReason plan entry.2 entry.1 with
      | some reason => some reason
      | none =>
        if ¬ (findings.map fun entry => entry.2.fingerprint).Nodup then
          some "approval has duplicate approved fingerprints"
        else none

/-! ## Items that may be published -/

/-- The item is a public finding with a fingerprint. -/
def PostingPlanItem.IsPublic (item : PostingPlanItem) : Prop :=
  item.publicPayloadEligible = true ∧ item.destination = .reviewBodyItem ∧
    item.sourceClassification = OutputClassification.postableFinding.value ∧ item.fingerprint ≠ none

/-- The fingerprint that a plan has for an identifier, or the empty text. -/
def PostingPlan.fingerprintById (plan : PostingPlan) (id : Text) : Text :=
  ((plan.itemById id).bind fun item => item.val.fingerprint).getD []

/-- Items that a plan can publish together: they are distinct public findings with distinct
fingerprints. -/
structure Publishable (plan : PostingPlan) (itemIds : List Text) : Prop where
  nodup : itemIds.Nodup
  isPublic : ∀ id ∈ itemIds, ∃ item, plan.itemById id = some item ∧ item.val.IsPublic
  fingerprints : (itemIds.map plan.fingerprintById).Nodup

/-- A list without a duplicate value has distinct values. -/
lemma duplicateValueFrom_eq_none {seen values : List Text} :
    duplicateValueFrom seen values = none ↔ values.Nodup ∧ ∀ value ∈ values, value ∉ seen := by
  induction values generalizing seen with
  | nil => simp [duplicateValueFrom]
  | cons value values ih =>
    rw [duplicateValueFrom]
    split
    · rename_i hseen
      simp [hseen]
    · rename_i hseen
      rw [ih, List.nodup_cons]
      constructor
      · rintro ⟨hnodup, hrest⟩
        refine ⟨⟨fun hmem => hrest value hmem List.mem_cons_self, hnodup⟩, ?_⟩
        intro v hv
        rcases List.mem_cons.1 hv with rfl | hv
        · exact hseen
        · exact fun h => hrest v hv (List.mem_cons_of_mem _ h)
      · rintro ⟨⟨hfirst, hnodup⟩, hrest⟩
        refine ⟨hnodup, fun v hv h => ?_⟩
        rcases List.mem_cons.1 h with rfl | h
        · exact hfirst hv
        · exact hrest v (List.mem_cons_of_mem _ hv) h

/-- There is no duplicate exactly if the values are distinct. -/
lemma duplicateValue_eq_none {values : List Text} : duplicateValue values = none ↔
    values.Nodup := by
  rw [duplicateValue, duplicateValueFrom_eq_none]
  simp

/-! ## The preflight of the writer on the descriptors of a plan -/

/-- Every item of a plan has a descriptor. -/
lemma PostingPlanItem.descriptor_valid (item : Checked PostingPlanItem) :
    Record.postInit item.val.descriptor = .ok () := by
  have h := item.property
  simp only [Record.postInit, check_bind_eq_ok, requireNonEmpty_eq_ok] at h
  simp only [Record.postInit, PostingPlanItem.descriptor, check_bind_eq_ok]
  exact ⟨require_eq_ok.2 h.1, require_eq_ok.2 h.2.1⟩

/-- The descriptors of a plan are those of its items. -/
lemma descriptors_ok (plan : PostingPlan) :
    ∃ currentItemsById, descriptors plan = .ok currentItemsById ∧ ∀ id,
      currentItemsById id = (plan.itemById id).map fun item =>
        ⟨item.val.descriptor, PostingPlanItem.descriptor_valid item⟩ := by
  have hvalues : (plan.items.mapM fun item => construct item.val.descriptor) =
      .ok (plan.items.map fun item =>
        (⟨item.val.descriptor, PostingPlanItem.descriptor_valid item⟩ :
          Checked ApprovedItemDescriptor)) := by
    rw [mapM_eq_ok, List.forall₂_map_right_iff, List.forall₂_same]
    exact fun item _ => construct_of_postInit _
  refine ⟨_, by rw [descriptors, hvalues, ok_bind]; rfl, ?_⟩
  intro id
  rw [← List.map_reverse, List.find?_map]
  rfl

/-- A failure of the preflight is reported. -/
lemma writerPreflightFail_ok (reasonCode : WriterReleasePreflightReasonCode)
    (diagnostics : List (Checked WriterReleaseItemDiagnostic)) :
    ∃ r, writerPreflightFail reasonCode diagnostics = .ok r ∧ r.val.status = .fail := by
  have hpost : Record.postInit ({
      status := .fail
      writerInputReleased := false
      reasonCode := some reasonCode
      itemDiagnostics := diagnostics } : WriterReleasePreflightResult) = .ok () := by
    simp [Record.postInit]
  exact ⟨⟨_, hpost⟩, construct_of_postInit hpost, rfl⟩

/-- An item that may be published gives its fingerprint to the preflight, another one a
diagnostic. -/
inductive ReleaseOutcome (plan : PostingPlan) (id : Text) :
    Checked WriterReleaseItemDiagnostic ⊕ Text → Prop
  | fingerprint {item : Checked PostingPlanItem} (hitem : plan.itemById id = some item)
      (hpublic : item.val.IsPublic) : ReleaseOutcome plan id (.inr (plan.fingerprintById id))
  | diagnostic (hnone : ∀ item, plan.itemById id = some item → ¬ item.val.IsPublic)
      (d : Checked WriterReleaseItemDiagnostic) : ReleaseOutcome plan id (.inl d)

/-- An item is released exactly if it is public. -/
lemma publicItemReason_eq_none {item : PostingPlanItem} :
    publicItemReason item.descriptor = none ↔ item.IsPublic := by
  unfold publicItemReason PostingPlanItem.IsPublic PostingPlanItem.descriptor
  dsimp only
  split
  · simp_all
  split
  · simp_all
  split
  · simp_all
  split <;> simp_all

/-- An item that is found is in the plan and has the identifier. -/
lemma PostingPlan.itemById_id {plan : PostingPlan} {id : Text} {item : Checked PostingPlanItem}
    (h : plan.itemById id = some item) : item ∈ plan.items ∧ item.val.id = id := by
  have hmem := List.mem_of_find?_eq_some h
  have hid := List.find?_some h
  exact ⟨List.mem_reverse.1 hmem, of_decide_eq_true hid⟩

/-- The outcome of one round of the loop. -/
lemma releaseItem_ok {plan : PostingPlan}
    {currentItemsById : Text → Option (Checked ApprovedItemDescriptor)}
    (hdescriptors : ∀ id, currentItemsById id = (plan.itemById id).map fun item =>
      ⟨item.val.descriptor, PostingPlanItem.descriptor_valid item⟩) {id : Text} (hid : id ≠ []) :
    ∃ o, releaseItem plan currentItemsById id = .ok o ∧ ReleaseOutcome plan id o := by
  unfold releaseItem
  rw [hdescriptors id]
  cases hitem : plan.itemById id with
  | none =>
    have hpost : Record.postInit (⟨id, .missingCurrentItem, none, none, none⟩ :
        WriterReleaseItemDiagnostic) = .ok () := by
      simp [Record.postInit, hid]
    refine ⟨.inl ⟨_, hpost⟩, ?_, .diagnostic (by simp [hitem]) _⟩
    dsimp only [Option.map_none]
    rw [construct_of_postInit hpost]
    rfl
  | some item =>
    have hmatches : descriptorMatchesPlanItem item.val.descriptor item.val = true := by
      simp [descriptorMatchesPlanItem, PostingPlanItem.descriptor]
    dsimp only [Option.map_some]
    rw [if_neg (by rw [hmatches]; simp)]
    cases hreason : publicItemReason item.val.descriptor with
    | none =>
      have hpublic := publicItemReason_eq_none.1 hreason
      have hfingerprint : plan.fingerprintById id = item.val.fingerprint.getD [] := by
        rw [PostingPlan.fingerprintById, hitem, Option.bind_some]
      exact ⟨_, rfl, hfingerprint ▸ .fingerprint hitem hpublic⟩
    | some reason =>
      have hvalid := item.property
      simp only [Record.postInit, check_bind_eq_ok, requireNonEmpty_eq_ok] at hvalid
      have hpost : Record.postInit (⟨item.val.id, reason, some item.val.destination,
          some item.val.sourceClassification, some item.val.publicPayloadEligible⟩ :
            WriterReleaseItemDiagnostic) = .ok () := by
        simp only [Record.postInit, check_bind_eq_ok, requireNonEmpty_eq_ok,
          requireOptionalNonEmpty_eq_ok]
        exact ⟨hvalid.1, fun h => hvalid.2.1 (Option.some.inj h)⟩
      refine ⟨.inl ⟨_, hpost⟩, ?_, .diagnostic ?_ _⟩
      · dsimp only
        rw [itemDiagnostic]
        show (construct _).map _ = _
        dsimp only [PostingPlanItem.descriptor]
        rw [construct_of_postInit hpost]
        rfl
      · intro other hother hpublic
        obtain rfl : item = other := Option.some.inj (hitem.symm.trans hother)
        rw [publicItemReason_eq_none.2 hpublic] at hreason
        contradiction

/-- The outcomes of a list of items: there are no diagnostics exactly if all items are public, and
then the fingerprints are those of the items. -/
lemma releaseOutcomes {plan : PostingPlan} {ids : List Text}
    {outcomes : List (Checked WriterReleaseItemDiagnostic ⊕ Text)}
    (h : List.Forall₂ (ReleaseOutcome plan) ids outcomes) :
    (outcomes.filterMap Sum.getLeft? = [] ↔
      ∀ id ∈ ids, ∃ item, plan.itemById id = some item ∧ item.val.IsPublic) ∧
    (outcomes.filterMap Sum.getLeft? = [] →
      outcomes.filterMap Sum.getRight? = ids.map plan.fingerprintById) := by
  induction h with
  | nil => simp
  | @cons id outcome ids outcomes hhead _ ih =>
    cases hhead with
    | fingerprint hitem hpublic =>
      simp only [List.filterMap_cons, Sum.getLeft?_inr, Sum.getRight?_inr, List.forall_mem_cons,
        List.map_cons]
      exact ⟨⟨fun hnil => ⟨⟨_, hitem, hpublic⟩, ih.1.1 hnil⟩, fun hall => ih.1.2 hall.2⟩,
        fun hnil => by rw [ih.2 hnil]⟩
    | diagnostic hnone d =>
      simp only [List.filterMap_cons, Sum.getLeft?_inl, reduceCtorEq, List.forall_mem_cons,
        false_iff,
        false_imp_iff, and_true]
      rintro ⟨⟨item, hitem, hpublic⟩, -⟩
      exact hnone item hitem hpublic

/-- On the descriptors of a plan, the preflight of the writer passes exactly if the approved items
may be published. -/
lemma writerPreflightForApproval_spec {approval : Checked ApprovalDecision} {plan : PostingPlan}
    {currentItemsById : Text → Option (Checked ApprovedItemDescriptor)}
    (hdescriptors : ∀ id, currentItemsById id = (plan.itemById id).map fun item =>
      ⟨item.val.descriptor, PostingPlanItem.descriptor_valid item⟩)
    (hids : ∀ id ∈ approval.val.approvedItemIds, id ≠ [])
    (hne : approval.val.approvedItemIds ≠ []) :
    ∃ r, writerPreflightForApproval approval.val plan currentItemsById = .ok r ∧
      (r.val.status = .pass ↔ Publishable plan approval.val.approvedItemIds) := by
  have hfails : ∀ reasonCode diagnostics, ¬ Publishable plan approval.val.approvedItemIds →
      ∃ r, writerPreflightFail reasonCode diagnostics = .ok r ∧
        (r.val.status = .pass ↔ Publishable plan approval.val.approvedItemIds) := by
    intro reasonCode diagnostics hnot
    obtain ⟨r, hr, hstatus⟩ := writerPreflightFail_ok reasonCode diagnostics
    exact ⟨r, hr, by simp [hstatus, hnot]⟩
  obtain ⟨outcomes, houtcomes, hrel⟩ := exists_mapM_eq_ok fun id hid =>
    releaseItem_ok hdescriptors (hids id hid)
  obtain ⟨hdiagnostics, hfingerprints⟩ := releaseOutcomes hrel
  unfold writerPreflightForApproval
  split
  · rename_i hduplicate
    exact hfails _ _ fun h => hduplicate (duplicateValue_eq_none.2 h.nodup)
  rename_i hnodup
  rw [houtcomes, ok_bind]
  dsimp only
  split
  · rename_i hduplicate
    refine hfails _ _ fun h => hduplicate (duplicateValue_eq_none.2 ?_)
    rw [hfingerprints (hdiagnostics.2 h.isPublic)]
    exact h.fingerprints
  rename_i hdistinct
  split
  · rename_i hsome
    have hnot : ¬ Publishable plan approval.val.approvedItemIds := fun h =>
      hsome (hdiagnostics.2 h.isPublic)
    split
    · exact hfails _ _ hnot
    · exact hfails _ _ hnot
  · rename_i hnil
    have hnil := not_not.1 hnil
    have hpost : Record.postInit ({
        status := .pass
        writerInputReleased := false
        eligibleForFinalization := true
        approvedItemIds := approval.val.approvedItemIds } : WriterReleasePreflightResult) = .ok
          () := by
      simpa [Record.postInit, hne] using hids
    refine ⟨⟨_, hpost⟩, construct_of_postInit hpost, iff_of_true rfl ?_⟩
    refine ⟨duplicateValue_eq_none.1 (not_not.1 hnodup), hdiagnostics.1 hnil, ?_⟩
    rw [← hfingerprints hnil]
    exact duplicateValue_eq_none.1 (not_not.1 hdistinct)

/-! ## The preflight of the finalization on the findings of a plan -/

/-- What an item of a finding has of it. -/
lemma findingPlanItem_eq_ok {reviewTarget : Option (Checked ReviewTarget)}
    {inlineCandidateIds : List Text} {finding : Checked ClassifiedFinding}
    {item : Checked PostingPlanItem}
    (h : findingPlanItem reviewTarget inlineCandidateIds finding = .ok item) :
    item.val.id = finding.val.id ∧
      (item.val.destination = .reviewBodyItem → item.val = findingItem finding.val) := by
  unfold findingPlanItem at h
  split at h
  · split at h
    · contradiction
    · contradiction
    · split at h
      · rw [construct_eq_ok.1 h]
        exact ⟨rfl, by simp⟩
      · contradiction
  · rw [construct_eq_ok.1 h]
    exact ⟨rfl, fun _ => rfl⟩

/-- The items of findings keep the identifiers. -/
lemma map_id_of_findingPlanItems {reviewTarget : Option (Checked ReviewTarget)}
    {inlineCandidateIds : List Text} {findings : List (Checked ClassifiedFinding)}
    {items : List (Checked PostingPlanItem)}
    (h : findings.mapM (findingPlanItem reviewTarget inlineCandidateIds) = .ok items) :
    (items.map fun item => item.val.id) = findings.map fun f => f.val.id := by
  have hrel := mapM_eq_ok.1 h
  clear h
  induction hrel with
  | nil => rfl
  | cons hhead _ ih => rw [List.map_cons, List.map_cons, (findingPlanItem_eq_ok hhead).1, ih]

/-- Private outputs have no item in the body of the review. -/
lemma destination_of_privateItems {α : Type} {as : List α} {items : List (Checked PostingPlanItem)}
    {id body : α → Text} {classification : OutputClassification} {destination : PostingDestination}
    (h : (as.mapM fun a => privateItem (id a) classification destination (body a)) = .ok items) :
    ∀ item ∈ items, item.val.destination = destination := by
  intro item hitem
  obtain ⟨a, -, ha⟩ := (mapM_eq_ok.1 h).exists_of_mem_right hitem
  rw [construct_eq_ok.1 ha]

/-- The summary has a destination of its own. -/
lemma destination_of_summaryItems {includeSummary : Bool} {items : List (Checked PostingPlanItem)}
    (h : summaryItems includeSummary = .ok items) :
    ∀ item ∈ items, item.val.destination = .topLevelSummaryItem := by
  intro item hitem
  unfold summaryItems at h
  split at h
  · cases hconstruct : summaryItem with
    | error e =>
      rw [hconstruct] at h
      contradiction
    | ok built =>
      rw [hconstruct] at h
      obtain rfl : [built] = items := Except.ok.inj h
      rw [List.mem_singleton.1 hitem, construct_eq_ok.1 hconstruct]
  · obtain rfl : [] = items := Except.ok.inj h
    cases hitem

/-- The items that can be published are those of findings. -/
lemma mem_reviewBody_of_buildPostingPlan {findings : List (Checked ClassifiedFinding)}
    {reviewTarget : Option (Checked ReviewTarget)} {localNotes : List (Checked LocalNote)}
    {suggestedReplies : List (Checked SuggestedReply)}
    {clarificationRequests : List (Checked ClarificationRequest)}
    {suppressedOutputs : List (Checked SuppressedOutput)} {inlineCandidateIds : List Text}
    {includeSummary : Bool} {plan : Checked PostingPlan}
    (h : buildPostingPlan findings reviewTarget localNotes suggestedReplies clarificationRequests
      suppressedOutputs inlineCandidateIds includeSummary = .ok plan) :
    (findings.map fun f => f.val.id).Nodup ∧
      ∀ item ∈ plan.val.items, item.val.destination = .reviewBodyItem →
        ∃ finding ∈ findings, item.val = findingItem finding.val := by
  unfold buildPostingPlan at h
  obtain ⟨summary, hsummary, h⟩ := bind_eq_ok.1 h
  obtain ⟨findingItems, hfindings, h⟩ := bind_eq_ok.1 h
  obtain ⟨noteItems, hnotes, h⟩ := bind_eq_ok.1 h
  obtain ⟨replyItems, hreplies, h⟩ := bind_eq_ok.1 h
  obtain ⟨requestItems, hrequests, h⟩ := bind_eq_ok.1 h
  obtain ⟨outputItems, houtputs, h⟩ := bind_eq_ok.1 h
  dsimp only at h
  split at h
  · contradiction
  have hval := construct_eq_ok.1 h
  constructor
  · have hnodup : plan.val.itemIds.Nodup := by
      have hplan := plan.property
      simpa only [Record.postInit, require_eq_ok] using hplan
    rw [← map_id_of_findingPlanItems hfindings]
    refine List.Nodup.sublist ?_ hnodup
    simp only [hval, PostingPlan.itemIds, List.map_append, List.append_assoc]
    exact (List.sublist_append_left _ _).trans (List.sublist_append_right _ _)
  · intro item hitem hbody
    rw [hval] at hitem
    simp only [List.mem_append] at hitem
    rcases hitem with ((((hitem | hitem) | hitem) | hitem) | hitem) | hitem
    · rw [destination_of_summaryItems hsummary item hitem] at hbody
      contradiction
    · obtain ⟨finding, hmem, hok⟩ := (mapM_eq_ok.1 hfindings).exists_of_mem_right hitem
      exact ⟨finding, hmem, (findingPlanItem_eq_ok hok).2 hbody⟩
    · rw [destination_of_privateItems hnotes item hitem] at hbody
      contradiction
    · rw [destination_of_privateItems hreplies item hitem] at hbody
      contradiction
    · rw [destination_of_privateItems hrequests item hitem] at hbody
      contradiction
    · rw [destination_of_privateItems houtputs item hitem] at hbody
      contradiction

/-- The fingerprints of the findings of approved items, when they are those of the plan. -/
lemma map_fingerprint_of_findings {plan : PostingPlan} {ids : List Text}
    {findingsById : Text → Option (Checked ClassifiedFinding)}
    (h : ∀ id ∈ ids, ∃ finding, findingsById id = some finding ∧
      finding.val.fingerprint = plan.fingerprintById id) :
    ((ids.filterMap fun itemId => (findingsById itemId).map fun finding =>
      (itemId, finding.val)).map
      fun entry => entry.2.fingerprint) = ids.map plan.fingerprintById := by
  induction ids with
  | nil => rfl
  | cons id ids ih =>
    obtain ⟨finding, hfinding, hsame⟩ := h id List.mem_cons_self
    rw [List.filterMap_cons, hfinding, Option.map_some, List.map_cons, List.map_cons,
      ih fun id' hid' => h id' (List.mem_cons_of_mem _ hid'), hsame]

/-- On the findings of a plan, the preflight of the finalization accepts exactly approvals of items
that may be published. -/
lemma approvalPreflight_eq_none {approval : ApprovalDecision} {plan : PostingPlan}
    {findings : List (Checked ClassifiedFinding)} (hids : (findings.map fun f => f.val.id).Nodup)
    (hitems : ∀ item ∈ plan.items, item.val.destination = .reviewBodyItem →
      ∃ finding ∈ findings, item.val = findingItem finding.val) :
    approvalPreflight approval plan (findingById findings) = none ↔
      approval.approved = true ∧ approval.approvedItemIds ≠ [] ∧
        Publishable plan approval.approvedItemIds := by
  -- A public item has the finding of its identifier.
  have hfound : ∀ id item, plan.itemById id = some item → item.val.IsPublic →
      ∃ finding, findingById findings id = some finding ∧ item.val = findingItem finding.val := by
    intro id item hitem hpublic
    obtain ⟨hmem, rfl⟩ := PostingPlan.itemById_id hitem
    obtain ⟨finding, hfinding, hval⟩ := hitems item hmem hpublic.2.1
    refine ⟨finding, ?_, hval⟩
    rw [hval]
    exact findingById_of_mem hids hfinding
  have hreason : ∀ id, approvedItemReason plan (findingById findings) id = none ↔
      ∃ item, plan.itemById id = some item ∧ item.val.IsPublic := by
    intro id
    unfold approvedItemReason
    cases hitem : plan.itemById id with
    | none => simp
    | some item =>
      simp only [Option.some.injEq, exists_eq_left']
      constructor
      · intro h
        split at h
        · contradiction
        rename_i hnot
        split at h
        · contradiction
        rename_i hfingerprint
        simp only [not_or, not_not, Bool.not_eq_false] at hnot
        exact ⟨hnot.2.2, hnot.1, hnot.2.1, hfingerprint⟩
      · intro hpublic
        obtain ⟨finding, hfinding, -⟩ := hfound id item hitem hpublic
        obtain ⟨heligible, hdestination, hclass, hfingerprint⟩ := hpublic
        rw [if_neg (by simp [heligible, hdestination, hclass]), if_neg hfingerprint,
          if_neg (by simp [hfinding])]
  unfold approvalPreflight
  split
  · rename_i hrejected
    simp [hrejected]
  rename_i happroved
  split
  · rename_i hnil
    simp [hnil]
  rename_i hne
  split
  · rename_i hduplicate
    simp only [reduceCtorEq, false_iff]
    exact fun h => hduplicate h.2.2.nodup
  rename_i hnodup
  have hnodup := not_not.1 hnodup
  cases hfirst : approval.approvedItemIds.findSome?
    (approvedItemReason plan (findingById findings)) with
  | some reason =>
    simp only [reduceCtorEq, false_iff]
    rintro ⟨-, -, hpublishable⟩
    obtain ⟨id, hid, hsome⟩ := List.exists_of_findSome?_eq_some hfirst
    rw [(hreason id).2 (hpublishable.isPublic id hid)] at hsome
    contradiction
  | none =>
    dsimp only
    have hpublic : ∀ id ∈ approval.approvedItemIds,
        ∃ item, plan.itemById id = some item ∧ item.val.IsPublic := fun id hid =>
      (hreason id).1 (List.findSome?_eq_none_iff.1 hfirst id hid)
    -- The second loop finds the fingerprints of the plan.
    have hentry : ∀ id ∈ approval.approvedItemIds, ∃ finding,
        findingById findings id = some finding ∧
        approvedFindingReason plan finding.val id = none ∧
        finding.val.fingerprint = plan.fingerprintById id := by
      intro id hid
      obtain ⟨item, hitem, hitemPublic⟩ := hpublic id hid
      obtain ⟨finding, hfinding, hval⟩ := hfound id item hitem hitemPublic
      obtain ⟨-, hclass, -, -, -, -, -, -, -, hfingerprint, -⟩ :=
        ClassifiedFinding.postInit_eq_ok.1 finding.property
      refine ⟨finding, hfinding, ?_, ?_⟩
      · unfold approvedFindingReason
        rw [if_neg (by simp [hclass]), if_neg hfingerprint, if_neg]
        simp [hitem, hval, findingItem]
      · simp [PostingPlan.fingerprintById, hitem, hval, findingItem]
    have hsecond : ((approval.approvedItemIds.filterMap fun itemId =>
        (findingById findings itemId).map fun finding => (itemId, finding.val)).findSome?
          fun entry => approvedFindingReason plan entry.2 entry.1) = none := by
      rw [List.findSome?_eq_none_iff]
      intro entry hmem
      obtain ⟨id, hid, hsome⟩ := List.mem_filterMap.1 hmem
      obtain ⟨finding, hfinding, hnone, -⟩ := hentry id hid
      rw [hfinding] at hsome
      obtain rfl := Option.some.inj hsome
      exact hnone
    rw [hsecond, map_fingerprint_of_findings fun id hid => by
      obtain ⟨finding, hfinding, -, hsame⟩ := hentry id hid
      exact ⟨finding, hfinding, hsame⟩]
    dsimp only
    split
    · rename_i hduplicate
      simp only [reduceCtorEq, false_iff]
      exact fun h => hduplicate h.2.2.fingerprints
    · rename_i hdistinct
      refine iff_of_true rfl ⟨Bool.not_eq_false _ ▸ happroved, hne, hnodup, hpublic, ?_⟩
      exact not_not.1 hdistinct

/-! ## Agreement -/

/-- The approval that the preflight of the writer gets. -/
def ApprovalInput.approval : ApprovalInput → Option (Checked ApprovalDecision)
  | .built result => result.val.approval
  | .decision approval => some approval
  | .missing => none

/-- The two gates agree: on a plan that was built from findings, and the descriptors of its items,
the preflight of the writer returns a result, and it passes exactly if the preflight of the
finalization has no reason to refuse the approval. -/
theorem releaseGates_agree {findings : List (Checked ClassifiedFinding)}
    {reviewTarget : Option (Checked ReviewTarget)} {localNotes : List (Checked LocalNote)}
    {suggestedReplies : List (Checked SuggestedReply)}
    {clarificationRequests : List (Checked ClarificationRequest)}
    {suppressedOutputs : List (Checked SuppressedOutput)} {inlineCandidateIds : List Text}
    {includeSummary : Bool} {plan : Checked PostingPlan}
    (hplan : buildPostingPlan findings reviewTarget localNotes suggestedReplies
      clarificationRequests
      suppressedOutputs inlineCandidateIds includeSummary = .ok plan)
    {approvalResult : ApprovalInput} {approval : Checked ApprovalDecision}
    (happroval : approvalResult.approval = some approval) :
    ∃ currentItemsById r, descriptors plan.val = .ok currentItemsById ∧
      evaluateWriterReleasePreflight true approvalResult plan.val currentItemsById = .ok r ∧
      (r.val.status = .pass ↔
        approvalPreflight approval.val plan.val (findingById findings) = none) := by
  obtain ⟨currentItemsById, hdescriptors, hvalues⟩ := descriptors_ok plan.val
  obtain ⟨hids, hitems⟩ := mem_reviewBody_of_buildPostingPlan hplan
  have happroval := approval.property
  simp only [Record.postInit, check_bind_eq_ok, requireStringTuple_eq_ok,
    require_eq_ok] at happroval
  have hreleased : ∃ r, evaluateWriterReleasePreflight.released plan.val currentItemsById approval =
      .ok r ∧ (r.val.status = .pass ↔
        approvalPreflight approval.val plan.val (findingById findings) = none) := by
    rw [approvalPreflight_eq_none hids hitems]
    unfold evaluateWriterReleasePreflight.released
    split
    · rename_i hrejected
      obtain ⟨r, hr, hstatus⟩ := writerPreflightFail_ok .rejectedApproval []
      exact ⟨r, hr, by simp [hstatus, hrejected]⟩
    · rename_i happroved
      have happroved := Bool.eq_true_of_not_eq_false happroved
      have hne : approval.val.approvedItemIds ≠ [] := by
        have hlast : approval.val.approved = true → approval.val.approvedItemIds ≠ [] := by tauto
        exact hlast happroved
      obtain ⟨r, hr, hstatus⟩ := writerPreflightForApproval_spec hvalues happroval.1.1 hne
      exact ⟨r, hr, by simp [hstatus, happroved, hne]⟩
  obtain ⟨r, hr, hagrees⟩ := hreleased
  refine ⟨currentItemsById, r, hdescriptors, ?_, hagrees⟩
  rw [← hr]
  unfold evaluateWriterReleasePreflight
  rw [if_neg (by simp)]
  cases approvalResult with
  | missing => contradiction
  | decision decided =>
    obtain rfl : decided = approval := Option.some.inj happroval
    rfl
  | built result =>
    have hresult : result.val.approval = some approval := happroval
    have hpass : result.val.status = .pass := by
      by_contra hnot
      have hchecks := result.property
      simp only [Record.postInit, check_bind_eq_ok, if_neg hnot, require_eq_ok] at hchecks
      have hnone := hchecks.2.2.2.1
      rw [hresult] at hnone
      contradiction
    dsimp only
    rw [if_neg (not_not.2 hpass), hresult]
    rfl

/-- The gates agree on an approval of the plan of two findings. -/
theorem releaseGates_agree_keyFindings : ∃ plan currentItemsById r,
    (⟨[], [], [], []⟩ : PrivateOutputs).plan [openingFinding, closingFinding] none = .ok plan ∧
      descriptors plan.val = .ok currentItemsById ∧
      evaluateWriterReleasePreflight true (.decision firstApproval) plan.val currentItemsById =
        .ok r ∧
      (r.val.status = .pass ↔ approvalPreflight firstApproval.val plan.val
        (findingById [openingFinding, closingFinding]) = none) := by
  obtain ⟨plan, hplan, -⟩ := @PrivateOutputs.plan_ok ⟨[], [], [], []⟩
    [openingFinding, closingFinding] none (by simpa [PrivateOutputs.ids] using keyFindings_nodup)
  obtain ⟨currentItemsById, r, hdescriptors, hr, hagrees⟩ :=
    @releaseGates_agree _ _ _ _ _ _ _ _ _ hplan (.decision firstApproval) firstApproval rfl
  exact ⟨plan, currentItemsById, r, hplan, hdescriptors, hr, hagrees⟩

end ReviewGraph
