import ReviewGraph.ApprovedPayload

/-!
# What an approved hash binds

The hash of the approved final payload determines the run, the target hash, the approved
fingerprints and the final body, as long as the hash has no collision on the two bodies and on the
two lists of fingerprints: the marker is read back from the last line of the body, and the
fingerprints from the text that the findings hash is taken of.  The order in which items are
approved does not matter.
-/

namespace ReviewGraph

/-- The hash tells two texts apart. -/
def NoCollision (text text' : Text) : Prop := sha256Text text = sha256Text text' → text = text'

/-- The text that the findings hash of sorted fingerprints is taken of. -/
def fingerprintsText (fingerprints : List Text) : Text := (Json.arr (fingerprints.map .str)).dumps

/-- The text of fingerprints determines them. -/
lemma fingerprintsText_injective : Function.Injective fingerprintsText := by
  intro fingerprints fingerprints' h
  have hplain : ∀ fps : List Text, Json.Plain (.arr (fps.map .str)) := by
    intro fps
    refine .arr fun j hj => ?_
    obtain ⟨fp, -, rfl⟩ := List.mem_map.1 hj
    exact .str fp
  have hcanonical : ∀ fps : List Text,
      Json.canonical (.arr (fps.map .str)) = .arr (fps.map .str) := by
    intro fps
    rw [Json.canonical, Json.canonicalItems_eq_map, List.map_map]
    rfl
  have heq := Json.canonical_eq_of_dumps_eq (hplain fingerprints) (hplain fingerprints') h
  rw [hcanonical, hcanonical] at heq
  exact List.map_injective_iff.2 (fun _ _ => Json.str.inj) (Json.arr.inj heq)

/-- Bodies that end with a marker determine the marker. -/
lemma marker_eq_of_bodyWithLine_eq {text text' : Text} {m m' : MarkerFields} (hm : m.WellFormed)
    (hm' : m'.WellFormed) (h : bodyWithLine text m.render = bodyWithLine text' m'.render) :
      m = m' := by
  have hlines := congrArg Text.lines h
  rw [lines_bodyWithLine hm.isFinalLine, lines_bodyWithLine hm'.isFinalLine] at hlines
  obtain ⟨-, hlast⟩ := List.append_inj' hlines rfl
  exact MarkerFields.render_injOn hm hm' (List.cons.inj hlast).1

/-- Markers with the same findings hash are those of the same fingerprints. -/
lemma sorted_eq_of_isMarkerOf {m m' : MarkerFields} {runId runId' visibleBody visibleBody' : Text}
    {reviewTarget reviewTarget' : ReviewTarget} {fingerprints fingerprints' : List Text}
    (hm : IsMarkerOf m runId reviewTarget visibleBody fingerprints)
    (hm' : IsMarkerOf m' runId' reviewTarget' visibleBody' fingerprints')
    (hcollision : NoCollision (fingerprintsText (Text.sorted fingerprints))
      (fingerprintsText (Text.sorted fingerprints')))
    (h : m.findings = m'.findings) : Text.sorted fingerprints = Text.sorted fingerprints' := by
  obtain ⟨-, hhash⟩ := findingsHash_eq_ok.1 hm.findings
  obtain ⟨-, hhash'⟩ := findingsHash_eq_ok.1 hm'.findings
  rw [← hhash, ← hhash'] at h
  exact fingerprintsText_injective (hcollision h)

namespace ApprovalRequest

/-- The final payload that is built for the request. -/
def finalBuild (request : ApprovalRequest) : Result ApprovedFinalIssueCommentBuild :=
  buildApprovedFinalIssueComment request.runId request.reviewTarget (findingById request.findings)
    request.selectedItems request.localVerdict request.includePublicVerdict

/-- The payload of a proof that passes carries a marker of the request. -/
lemma finalBuild_of_pass {request : ApprovalRequest} {proof : Checked ApprovalProofResult}
    {b : ApprovedFinalIssueCommentBuild} (h : buildApprovalProof request = .ok proof)
    (hpass : proof.val.status = .pass) (hb : request.finalBuild = .ok b) :
    proof.val = request.passedProof b ∧
      ∃ (m : MarkerFields) (visibleBody : Text) (fingerprints : List Text),
        IsMarkerOf m request.runId request.reviewTarget.val visibleBody fingerprints ∧
        b.payload.val = payloadWithMarker m request.reviewTarget visibleBody fingerprints
          b.redactionStatus := by
  obtain ⟨findings, b', hpasses, hproof⟩ := buildApprovalProof_pass h hpass
  have hselects := approvedFindings_selects hpasses.approvedFindings
  have hbuild := (buildApprovedFinalIssueComment_eq_build hselects.selected).trans hpasses.build
  obtain rfl : b = b' := Except.ok.inj (hb.symm.trans hbuild)
  obtain ⟨-, -, -, m, hm, hval⟩ := ApprovedContent.build_eq_ok hpasses.build
  exact ⟨hproof, m, _, _, hm, hval⟩

/-! ## The order of approval -/

/-- The selected items depend on the set of approved items only. -/
lemma selectedItems_perm {request : ApprovalRequest} {ids : List Text}
    (hperm : ids.Perm request.approvedItemIds) :
    { request with approvedItemIds := ids }.selectedItems = request.selectedItems := by
  unfold selectedItems
  refine List.filter_congr fun item _ => ?_
  simp only [hperm.mem_iff]

/-- The checks of a request depend on the set of approved items, unless one of these is unknown. -/
lemma approvedFindings_perm {request : ApprovalRequest} {ids : List Text}
    (hperm : ids.Perm request.approvedItemIds)
    (hknown : ∀ id ∈ request.approvedItemIds, id ∈ request.postingPlan.val.itemIds) :
    { request with approvedItemIds := ids }.approvedFindings = request.approvedFindings := by
  have hnil : ids = [] ↔ request.approvedItemIds = [] := by
    rw [← List.length_eq_zero_iff, hperm.length_eq, List.length_eq_zero_iff]
  have hfind : request.approvedItemIds.find? (· ∉ request.postingPlan.val.itemIds) = none :=
    List.find?_eq_none.2 fun id hid => by simpa using hknown id hid
  have hfind' : ids.find? (· ∉ request.postingPlan.val.itemIds) = none :=
    List.find?_eq_none.2 fun id hid => by simpa using hknown id (hperm.mem_iff.1 hid)
  unfold approvedFindings
  rw [selectedItems_perm hperm]
  simp only [hnil, hperm.nodup_iff, hfind, hfind']
  rfl

/-- A request that passes has the same proof for its approved items in any order. -/
lemma buildApprovalProof_perm {request : ApprovalRequest} {proof : Checked ApprovalProofResult}
    (h : buildApprovalProof request = .ok proof) (hpass : proof.val.status = .pass)
    {ids : List Text}
    (hperm : ids.Perm request.approvedItemIds) :
    buildApprovalProof { request with approvedItemIds := ids } = .ok proof := by
  obtain ⟨findings, b, hpasses, -⟩ := buildApprovalProof_pass h hpass
  have hselects := approvedFindings_selects hpasses.approvedFindings
  have hchecks := approvedFindings_perm hperm hselects.subset
  have hproof : ∀ b, { request with approvedItemIds := ids }.passedProof b = request.passedProof
      b := by
    intro b
    unfold passedProof
    rw [selectedItems_perm hperm]
  rw [← h]
  unfold buildApprovalProof
  rw [hchecks, selectedItems_perm hperm]
  simp only [hproof]

/-! ## The binding -/

/-- The approved hash binds the run, the target hash, the approved fingerprints and the final body,
and the approval does not depend on the order of the approved items. -/
theorem approvedFinalPayloadHash_binds (request request' : ApprovalRequest)
    (proof proof' : Checked ApprovalProofResult) (b b' : ApprovedFinalIssueCommentBuild)
    (h : buildApprovalProof request = .ok proof) (hpass : proof.val.status = .pass)
    (hb : request.finalBuild = .ok b)
    (h' : buildApprovalProof request' = .ok proof') (hpass' : proof'.val.status = .pass)
    (hb' : request'.finalBuild = .ok b')
    (hbodies : NoCollision (canonicalTextBody b.payload.val.body)
      (canonicalTextBody b'.payload.val.body))
    (hfingerprints : NoCollision (fingerprintsText b.payload.val.itemFingerprints)
      (fingerprintsText b'.payload.val.itemFingerprints)) :
    (proof.val.approvedFinalPayloadHash = proof'.val.approvedFinalPayloadHash →
      request.runId = request'.runId ∧
      proof.val.approvedReviewTargetHash = proof'.val.approvedReviewTargetHash ∧
      b.payload.val.itemFingerprints = b'.payload.val.itemFingerprints ∧
      canonicalTextBody b.payload.val.body = canonicalTextBody b'.payload.val.body) ∧
    ∀ ids : List Text, ids.Perm request.approvedItemIds →
      buildApprovalProof { request with approvedItemIds := ids } = .ok proof := by
  refine ⟨fun hhash => ?_, fun ids hperm => buildApprovalProof_perm h hpass hperm⟩
  obtain ⟨hproof, m, visibleBody, fingerprints, hm, hval⟩ := finalBuild_of_pass h hpass hb
  obtain ⟨hproof', m', visibleBody', fingerprints', hm', hval'⟩ := finalBuild_of_pass h' hpass' hb'
  have hbody : canonicalTextBody b.payload.val.body = bodyWithLine visibleBody m.render := by
    rw [hval]
    exact canonicalTextBody_bodyWithLine hm.wellFormed.isFinalLine
  have hbody' : canonicalTextBody b'.payload.val.body = bodyWithLine visibleBody' m'.render := by
    rw [hval']
    exact canonicalTextBody_bodyWithLine hm'.wellFormed.isFinalLine
  have hpayload : b.payload.val.finalPayloadHash = b'.payload.val.finalPayloadHash := by
    rw [hproof, hproof'] at hhash
    exact Option.some.inj hhash
  have hsame : canonicalTextBody b.payload.val.body = canonicalTextBody b'.payload.val.body := by
    refine hbodies ?_
    rw [hbody, hbody']
    rw [hval, hval'] at hpayload
    exact hpayload
  have hmarker : m = m' := by
    have hlines := hbody.symm.trans (hsame.trans hbody')
    exact marker_eq_of_bodyWithLine_eq hm.wellFormed hm'.wellFormed hlines
  have hitems : b.payload.val.itemFingerprints = Text.sorted fingerprints := by rw [hval]; rfl
  have hitems' : b'.payload.val.itemFingerprints = Text.sorted fingerprints' := by rw [hval']; rfl
  refine ⟨?_, ?_, ?_, hsame⟩
  · exact hm.runId.symm.trans ((congrArg MarkerFields.runId hmarker).trans hm'.runId)
  · have htarget := hm.target.symm.trans ((congrArg MarkerFields.target hmarker).trans hm'.target)
    rw [hproof, hproof']
    exact congrArg some htarget
  · rw [hitems, hitems'] at hfingerprints ⊢
    exact sorted_eq_of_isMarkerOf hm hm' hfingerprints (congrArg MarkerFields.findings hmarker)

/-! ## One key, approved twice -/

/-- The request to approve both findings of the plan, in some order and by somebody. -/
def jointRequest (ids : List Text) (approvedBy : Text) (p : Checked CandidateIssueCommentPayload) :
    ApprovalRequest :=
  { keyRequest "opening" p with approvedItemIds := ids, approvedBy := approvedBy }

/-- The approved findings stand in the order of the plan. -/
lemma jointRequest_approvedFindings (p : Checked CandidateIssueCommentPayload) :
    (jointRequest ["opening", "closing"] "alice" p).approvedFindings =
      .ok [openingFinding, closingFinding] := by
  have h : (jointRequest ["opening", "closing"] "alice" someCandidate).approvedFindings =
      .ok [openingFinding, closingFinding] := by
    decide +kernel
  exact h

/-- The request passes in both orders and for two approvers, with one final payload. -/
lemma jointRequest_pass :
    ∃ (p : Checked CandidateIssueCommentPayload) (proof proof' : Checked ApprovalProofResult)
      (b : ApprovedFinalIssueCommentBuild),
      buildApprovalProof (jointRequest ["opening", "closing"] "alice" p) = .ok proof ∧
      proof.val.status = .pass ∧
      (jointRequest ["opening", "closing"] "alice" p).finalBuild = .ok b ∧
      buildApprovalProof (jointRequest ["closing", "opening"] "bob" p) = .ok proof' ∧
      proof'.val.status = .pass ∧
      (jointRequest ["closing", "opening"] "bob" p).finalBuild = .ok b ∧
      proof.val.approvedFinalPayloadHash = proof'.val.approvedFinalPayloadHash := by
  obtain ⟨p, hp, hmarker⟩ := exists_keyCandidate
  have hne : openingFinding.val.fingerprint ≠ closingFinding.val.fingerprint := by decide +kernel
  -- The content does not tell the two requests apart.
  obtain ⟨b, hb⟩ : ∃ b, ((jointRequest ["opening", "closing"] "alice" p).content
      [openingFinding, closingFinding]).build ['1'] = .ok b :=
    ApprovedContent.exists_build (by decide +kernel)
      (by simp [ApprovedContent.fingerprints, ApprovalRequest.content, hne])
  have hfindings := jointRequest_approvedFindings p
  have hperm : [("closing" : Text), "opening"].Perm
      (jointRequest ["opening", "closing"] "alice" p).approvedItemIds := List.Perm.swap _ _ _
  have hfindings' : (jointRequest ["closing", "opening"] "bob" p).approvedFindings =
      .ok [openingFinding, closingFinding] :=
    (approvedFindings_perm hperm (approvedFindings_selects hfindings).subset).trans hfindings
  have hpasses : (jointRequest ["opening", "closing"] "alice" p).Passes
      [openingFinding, closingFinding] b :=
    ⟨hfindings, hp, hmarker, hb, by simp [jointRequest], by simp [jointRequest, keyRequest]⟩
  have hpasses' : (jointRequest ["closing", "opening"] "bob" p).Passes
      [openingFinding, closingFinding] b :=
    ⟨hfindings', hp, hmarker, hb, by simp [jointRequest], by simp [jointRequest, keyRequest]⟩
  obtain ⟨proof, hproof, hval⟩ := buildApprovalProof_of_passes hpasses
  obtain ⟨proof', hproof', hval'⟩ := buildApprovalProof_of_passes hpasses'
  have hselects := approvedFindings_selects hfindings
  have hselects' := approvedFindings_selects hfindings'
  refine ⟨p, proof, proof', b, hproof, by rw [hval]; rfl, ?_, hproof', by rw [hval']; rfl, ?_, ?_⟩
  · exact (buildApprovedFinalIssueComment_eq_build hselects.selected).trans hb
  · exact (buildApprovedFinalIssueComment_eq_build hselects'.selected).trans hb
  · rw [hval, hval']
    rfl

/-- Two people approve both findings of a plan, each in another order: the hash binds what they
approved, and each proof is the one for the other order. -/
theorem approvedFinalPayloadHash_binds_joint :
    ∃ (request request' : ApprovalRequest) (proof proof' : Checked ApprovalProofResult),
      request.approvedItemIds = ["opening", "closing"] ∧ request.approvedBy = "alice" ∧
      request'.approvedItemIds = ["closing", "opening"] ∧ request'.approvedBy = "bob" ∧
      buildApprovalProof request = .ok proof ∧ buildApprovalProof request' = .ok proof' ∧
      request.runId = request'.runId ∧
      proof.val.approvedReviewTargetHash = proof'.val.approvedReviewTargetHash ∧
      buildApprovalProof { request with approvedItemIds := ["closing", "opening"] } =
        .ok proof := by
  obtain ⟨p, proof, proof', b, hproof, hpass, hb, hproof', hpass', hb', hhash⟩ := jointRequest_pass
  obtain ⟨hbinds, horder⟩ := approvedFinalPayloadHash_binds _ _ proof proof' b b hproof hpass hb
    hproof' hpass' hb' (fun _ => rfl) (fun _ => rfl)
  obtain ⟨hrun, htarget, -, -⟩ := hbinds hhash
  exact ⟨_, _, proof, proof', rfl, rfl, rfl, rfl, hproof, hproof', hrun, htarget,
    horder _ (List.Perm.swap _ _ _)⟩

end ApprovalRequest

end ReviewGraph
