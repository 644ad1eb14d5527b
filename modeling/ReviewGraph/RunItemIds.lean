import ReviewGraph.DryRun
import ReviewGraph.GeneratedIds
import ReviewGraph.OutputIds
import ReviewGraph.Quality
import ReviewGraph.ReviewerExecution

/-!
# The identifiers of the outputs of a run

`_validate_output_item_ids` looks at everything that a run has classified: what the reviewers return
by their own identifiers, and what the graph adds with identifiers that it makes.  `itemIds_perm`
lists these identifiers by where they come from, and `validateOutputItemIds_iff` says when the
graph's own ones make the run fail.
-/

namespace ReviewGraph

/-! ## Stable identities -/

/-- The order of identities does not matter. -/
lemma StableIdentities.perm {identities identities' : List Text} (h : identities.Perm identities') :
    StableIdentities identities ↔ StableIdentities identities' :=
  ⟨fun hs => ⟨h.nodup_iff.1 hs.nodup, fun i hi => hs.plain i (h.mem_iff.2 hi)⟩,
    fun hs => ⟨h.nodup_iff.2 hs.nodup, fun i hi => hs.plain i (h.mem_iff.1 hi)⟩⟩

/-- Identities of two kinds are stable exactly if those of each kind are and none is of both
kinds. -/
lemma stableIdentities_append {identities identities' : List Text} :
    StableIdentities (identities ++ identities') ↔ StableIdentities identities ∧
      StableIdentities identities' ∧ ∀ i ∈ identities', i ∉ identities := by
  constructor
  · rintro ⟨hnodup, hplain⟩
    obtain ⟨h, h', hdisjoint⟩ := List.nodup_append.1 hnodup
    obtain ⟨hp, hp'⟩ := List.forall_mem_append.1 hplain
    exact ⟨⟨h, hp⟩, ⟨h', hp'⟩, fun i hi hmem => hdisjoint i hmem i hi rfl⟩
  · rintro ⟨⟨h, hp⟩, ⟨h', hp'⟩, hdisjoint⟩
    refine ⟨List.nodup_append.2 ⟨h, h', ?_⟩, List.forall_mem_append.2 ⟨hp, hp'⟩⟩
    rintro i hi j hj rfl
    exact hdisjoint i hj hi

/-! ## The outputs of a reviewer -/

/-- What the quality gate reads of a normalized output. -/
def NormalizationResult.reviewerResult (n : NormalizationResult) : ReviewerResult where
  runKey := n.runKey
  findings := n.findings
  clarificationRequests := n.clarificationRequests.map plainRequest
  localNotes := n.localNotes
  suggestedReplies := n.suggestedReplies
  suppressedOutputs := n.suppressedOutputs

/-- The identifiers of what a reviewer returns. -/
def ReviewerResult.itemIds (r : ReviewerResult) : List Text :=
  (r.findings.map fun f => f.val.id) ++ (r.localNotes.map fun n => n.val.id) ++
    (r.clarificationRequests.map fun q => q.val.id) ++ (r.suggestedReplies.map fun p => p.val.id) ++
      r.suppressedOutputs.map fun s => s.val.id

/-- The identifiers of what is classified. -/
def QualityClassificationResult.itemIds (q : QualityClassificationResult) : List Text :=
  (q.findings.map fun f => f.val.id) ++ (q.localNotes.map fun n => n.val.id) ++
    (q.clarificationRequests.map fun r => r.val.id) ++ (q.suggestedReplies.map fun p => p.val.id) ++
      q.suppressedOutputs.map fun s => s.val.id

/-- The quality gate gets the identifiers of the artifacts. -/
lemma itemIds_reviewerResult (n : NormalizationResult) : n.reviewerResult.itemIds =
    n.artifactIds := by
  simp only [ReviewerResult.itemIds, NormalizationResult.reviewerResult,
    NormalizationResult.artifactIds, List.map_map, Function.comp_def, plainRequest]

/-- The classification gives everything that a reviewer returns the identifier that it had. -/
lemma classifyReviewQuality_itemIds {args : QualityArguments} {q : QualityClassificationResult}
    (h : classifyReviewQuality args = .ok q) : q.itemIds.Perm args.reviewerResult.itemIds := by
  have hkept : q.localNotes = args.reviewerResult.localNotes ∧
      q.suggestedReplies = args.reviewerResult.suggestedReplies := by
    obtain ⟨findings, -, h⟩ := bind_eq_ok.1 h
    obtain ⟨requests, -, h⟩ := bind_eq_ok.1 h
    obtain rfl := pure_eq_ok.1 h
    exact ⟨rfl, rfl⟩
  obtain ⟨q', kept, dropped, droppedRequests, hq', hsplit⟩ := classifyReviewQuality_ok args
  obtain rfl : q = q' := Except.ok.inj (h.symm.trans hq')
  obtain ⟨ofFindings, ofRequests, hsuppressed, hofFindings, hofRequests⟩ := hsplit.suppressed
  have hfindings : (q.findings.map fun f => f.val.id) = kept.map fun raw => raw.val.id := by
    have hsame :
        ∀ {raws : List (Checked RawReviewerFinding)} {findings : List (Checked ClassifiedFinding)},
        List.Forall₂ (fun raw finding => finding.val.id = raw.val.id) raws findings →
          (findings.map fun f => f.val.id) = raws.map fun raw => raw.val.id := by
      intro raws findings hforall
      induction hforall with
      | nil => rfl
      | cons hhead _ ih => rw [List.map_cons, List.map_cons, ih, hhead]
    exact hsame (hsplit.classified.imp fun raw finding h => by rw [h.2]; rfl)
  have hsplitFindings := (hsplit.findings.perm.map fun raw => raw.val.id).symm
  have hsplitRequests := (hsplit.requests.perm.map fun request => request.val.id).symm
  rw [List.perm_iff_count] at hsplitFindings hsplitRequests ⊢
  intro id
  have hf := hsplitFindings id
  have hr := hsplitRequests id
  rw [List.map_append, List.count_append] at hf hr
  simp only [QualityClassificationResult.itemIds, ReviewerResult.itemIds, List.count_append,
    hsuppressed, List.map_append, hofFindings, hofRequests, hfindings, hkept.1, hkept.2]
  omega

/-- A reviewer that completes: its output is normalized without a fatal error, and the quality gate
classifies what it returns. -/
structure CompletedReviewer (repr : Text → Text) where
  rawOutput : List (Text × Json)
  quality : QualityArguments
  normalized : NormalizationResult
  classified : QualityClassificationResult
  normalizes : normalizeReviewerOutput repr rawOutput quality.reviewerResult.runKey = .ok normalized
  completes : normalized.fatalErrors = []
  returns : quality.reviewerResult = normalized.reviewerResult
  classifies : classifyReviewQuality quality = .ok classified

/-- An output without a fatal error has an artifact for each of its items. -/
lemma artifactIds_perm {repr : Text → Text} {rawOutput : List (Text × Json)}
    {runKey : Checked ReviewerRunKey} {n : NormalizationResult}
    (h : normalizeReviewerOutput repr rawOutput runKey = .ok n) (hcompletes : n.fatalErrors = []) :
    n.artifactIds.Perm ((outputItems rawOutput).filterMap expectedId) := by
  have hfatal : ∀ e, MakesFail e → n ≠ fatalResult rawOutput runKey e := by
    rintro e he rfl
    have hmem : e ∈ (fatalResult rawOutput runKey e).fatalErrors :=
      List.mem_filter.2 ⟨List.mem_singleton_self _, he.fatal⟩
    rw [hcompletes] at hmem
    exact absurd hmem List.not_mem_nil
  unfold normalizeReviewerOutput at h
  split at h
  · rename_i items hitems
    have houtput : outputItems rawOutput = items := by
      unfold outputItems
      rw [hitems]
    obtain ⟨r, hr, ⟨-, e, he, rfl⟩ | ⟨-, outcomes, houtcomes, rfl⟩⟩ :=
      normalizeItems_ok repr rawOutput runKey 0 items []
    · exact absurd (Except.ok.inj (h.symm.trans hr)) (hfatal e he)
    · obtain rfl := Except.ok.inj (h.symm.trans hr)
      have hperm := artifactIds_collected rawOutput runKey outcomes
      rw [artifactIds_of_yields houtcomes, List.zipIdx_map_fst] at hperm
      rw [houtput]
      exact hperm
  · obtain ⟨e, he, hfail⟩ := invalidItems_ok rawOutput runKey
    exact absurd (Except.ok.inj (h.symm.trans he)) (hfatal e hfail)

/-- What is classified of a reviewer has the identifiers that its items are expected to get. -/
lemma CompletedReviewer.itemIds_perm {repr : Text → Text} (reviewer : CompletedReviewer repr) :
    reviewer.classified.itemIds.Perm ((outputItems reviewer.rawOutput).filterMap expectedId) := by
  refine (classifyReviewQuality_itemIds reviewer.classifies).trans ?_
  rw [reviewer.returns, itemIds_reviewerResult]
  exact artifactIds_perm reviewer.normalizes reviewer.completes

/-! ## The outputs of a run -/

/-- What is classified of a reviewer that is run. -/
def ReviewerOutcome.outputs? : ReviewerOutcome →
    Option (List (Checked LocalNote) × List (Checked SourcedClarificationRequest))
  | .classified localNotes requests => some (localNotes, requests)
  | _ => none

/-- The notes and requests of the reviewers of rounds, in the order in which they are classified. -/
def roundOutputs (rounds : List StageRound) :
    List (List (Checked LocalNote) × List (Checked SourcedClarificationRequest)) :=
  rounds.flatMap fun round => round.runs.filterMap fun run => run.2.outputs?

/-- The state has the notes of its reviewers besides those of the graph, and their requests, which
may have been answered. -/
structure Collects (rounds : List StageRound) (st : StageRunState) : Prop where
  notes : ((st.localNotes.filter fun note => !note.generated).map fun note => note.note) =
    (roundOutputs rounds).flatMap Prod.fst
  requests : (st.clarificationRequests.map fun request => request.val.request.id) =
    (roundOutputs rounds).flatMap fun outputs => outputs.2.map fun request => request.val.request.id

section Rounds

variable {args : StageRunArguments}

/-- A reviewer adds what is classified of it. -/
lemma recordOutcome_collects {st st' : StageRunState}
    {run : Checked SelectedReviewer × ReviewerOutcome} (h : args.recordOutcome st run = .ok st') :
    ((st'.localNotes.filter fun note => !note.generated).map fun note => note.note) =
        ((st.localNotes.filter fun note => !note.generated).map fun note => note.note) ++
          run.2.outputs?.toList.flatMap Prod.fst ∧
      st'.clarificationRequests = st.clarificationRequests ++
        run.2.outputs?.toList.flatMap Prod.snd := by
  have hadd : ∀ {x : Result (Checked LocalNote)}, x.map st.addGenerated = .ok st' →
      ((st'.localNotes.filter fun note => !note.generated).map fun note => note.note) =
        ((st.localNotes.filter fun note => !note.generated).map fun note => note.note) ∧
      st'.clarificationRequests = st.clarificationRequests := by
    intro x h
    cases x with
    | error e => contradiction
    | ok note =>
      obtain rfl := Except.ok.inj h
      simp [StageRunState.addGenerated]
  obtain ⟨reviewer, outcome⟩ := run
  unfold StageRunArguments.recordOutcome at h
  cases outcome with
  | classified localNotes requests =>
    obtain rfl := Except.ok.inj h
    simp [ReviewerOutcome.outputs?, List.filter_map, Function.comp_def]
  | unclassified reason =>
    dsimp only at h
    split at h
    · contradiction
    · simpa [ReviewerOutcome.outputs?] using hadd h
  | failed reason reported =>
    dsimp only at h
    split at h
    · simpa [ReviewerOutcome.outputs?] using hadd h
    split at h
    · simpa [ReviewerOutcome.outputs?] using hadd h
    · contradiction

/-- The reviewers of a round add what is classified of them. -/
lemma foldlM_recordOutcome_collects {runs : List (Checked SelectedReviewer × ReviewerOutcome)}
    {st st' : StageRunState} (h : runs.foldlM args.recordOutcome st = .ok st') :
    ((st'.localNotes.filter fun note => !note.generated).map fun note => note.note) =
        ((st.localNotes.filter fun note => !note.generated).map fun note => note.note) ++
          (runs.filterMap fun run => run.2.outputs?).flatMap Prod.fst ∧
      st'.clarificationRequests = st.clarificationRequests ++
        (runs.filterMap fun run => run.2.outputs?).flatMap Prod.snd := by
  induction runs generalizing st with
  | nil =>
    obtain rfl := pure_eq_ok.1 h
    simp
  | cons run runs ih =>
    rw [List.foldlM_cons] at h
    obtain ⟨st₁, hstep, h⟩ := bind_eq_ok.1 h
    obtain ⟨hnotes₁, hrequests₁⟩ := recordOutcome_collects hstep
    obtain ⟨hnotes, hrequests⟩ := ih h
    rw [hnotes, hnotes₁, hrequests, hrequests₁]
    cases houtputs : run.2.outputs? <;> simp [houtputs]

/-- An answer changes no identifier of a request. -/
lemma ingestClarificationAnswer_ids {st st' : StageRunState} {id : Text}
    (h : ingestClarificationAnswer st id = .ok st') :
    (st'.clarificationRequests.map fun request => request.val.request.id) =
      st.clarificationRequests.map fun request => request.val.request.id := by
  unfold ingestClarificationAnswer at h
  split at h
  · contradiction
  rename_i index hindex
  split at h
  · contradiction
  rename_i request hrequest
  obtain ⟨-, h⟩ := check_bind_eq_ok.1 h
  obtain ⟨answered, hanswered, h⟩ := bind_eq_ok.1 h
  obtain rfl := pure_eq_ok.1 h
  have hid : answered.val.request.id = request.val.request.id := by rw [construct_eq_ok.1 hanswered]
  dsimp only
  rw [List.map_set, hid]
  refine List.ext_getElem? fun i => ?_
  rw [List.getElem?_set]
  split
  · rename_i heq
    subst heq
    have hlt := (List.getElem?_eq_some_iff.1 hrequest).1
    rw [if_pos (by simpa using hlt), List.getElem?_map, hrequest]
    rfl
  · rfl

/-- The end of a round changes no identifier of a request. -/
lemma closeRound_ids {st st' : StageRunState} (h : args.closeRound st = .ok st') :
    (st'.clarificationRequests.map fun request => request.val.request.id) =
      st.clarificationRequests.map fun request => request.val.request.id := by
  have hfold : ∀ {ids : List Text} {st : StageRunState},
      ids.foldlM ingestClarificationAnswer st = .ok st' →
        (st'.clarificationRequests.map fun request => request.val.request.id) =
          st.clarificationRequests.map fun request => request.val.request.id := by
    intro ids
    induction ids with
    | nil =>
      intro st h
      obtain rfl := pure_eq_ok.1 h
      rfl
    | cons id ids ih =>
      intro st h
      rw [List.foldlM_cons] at h
      obtain ⟨st₁, hstep, h⟩ := bind_eq_ok.1 h
      exact (ih h).trans (ingestClarificationAnswer_ids hstep)
  unfold StageRunArguments.closeRound at h
  dsimp only at h
  split at h
  · obtain rfl := Except.ok.inj h
    rfl
  split at h
  · obtain rfl := Except.ok.inj h
    rfl
  · exact hfold h

/-- Every run collects the outputs of its reviewers. -/
lemma StageRun.collects {rounds : List StageRound} {st : StageRunState}
    (h : StageRun args rounds st) :
    Collects rounds st := by
  induction h with
  | start => exact ⟨rfl, rfl⟩
  | restore run isOpen step reason ih => exact ⟨ih.notes, ih.requests⟩
  | @round rounds st t stage selected kept budgeted runs st₁ st₂ run isOpen step reason active
    select keep
      eligible budget answers record close ih =>
    obtain ⟨hnotes, hrequests⟩ := foldlM_recordOutcome_collects record
    have hkeeps := (closeRound_keeps close).notes
    have hids := closeRound_ids close
    have hround : roundOutputs (rounds ++ [⟨stage, args.roundBudget st kept, runs⟩]) =
        roundOutputs rounds ++ runs.filterMap fun run => run.2.outputs? := by
      simp [roundOutputs]
    refine ⟨?_, ?_⟩
    · rw [hkeeps, hnotes, hround, List.flatMap_append, ← ih.notes]
      simp [List.filter_map, Function.comp_def]
    · rw [hids, hrequests, hround, List.flatMap_append, ← ih.requests, List.map_append,
        List.map_flatMap]

end Rounds

/-- The reviewers whose outputs the rounds have classified, in the order of the run. -/
def ReviewersOf {repr : Text → Text} (rounds : List StageRound)
    (reviewers : List (CompletedReviewer repr)) : Prop :=
  List.Forall₂ (fun outputs reviewer => outputs.1 = reviewer.classified.localNotes ∧
    outputs.2.map plainRequest = reviewer.classified.clarificationRequests) (roundOutputs rounds)
    reviewers

/-- The mapping `classified` at the end of the stages. -/
def StageRunState.classified {repr : Text → Text} (st : StageRunState)
    (reviewers : List (CompletedReviewer repr)) : ClassifiedOutputs where
  findings := reviewers.flatMap fun reviewer => reviewer.classified.findings
  localNotes := st.localNotes.map fun note => note.note
  clarificationRequests := st.clarificationRequests
  suggestedReplies := reviewers.flatMap fun reviewer => reviewer.classified.suggestedReplies
  suppressedOutputs := reviewers.flatMap fun reviewer => reviewer.classified.suppressedOutputs

/-- A dry run up to the check of its outputs: the context budget, the stages with the reviewers that
complete, and the anchors of the findings. -/
structure StagedDryRun (repr : Text → Text) where
  pr : Checked PullRequestContext
  memory : PRConversationMemory
  limits : Checked ContextBudget
  existingTruncation : List (Checked TruncationNotice)
  budgeted : BudgetedInputContext
  budget : applyInputContextBudget pr memory limits existingTruncation = .ok budgeted
  stageArguments : StageRunArguments
  rounds : List StageRound
  state : StageRunState
  stages : StageRun stageArguments rounds state
  reviewers : List (CompletedReviewer repr)
  reviewersOf : ReviewersOf rounds reviewers
  arguments : DryRunArguments
  contextNotes : arguments.contextNotes = budgeted.localNotes
  classified : arguments.classified = state.classified reviewers
  findings : List (Checked ClassifiedFinding)
  anchors : attachDiffAnchors arguments.changedFiles arguments.reviewTarget.val
    arguments.classified.findings = .ok findings

/-- An anchor changes no identifier of a finding. -/
lemma attachDiffAnchors_ids {changedFiles : List GitHubChangedFileLines} {target : ReviewTarget}
    {findings anchored : List (Checked ClassifiedFinding)}
    (h : attachDiffAnchors changedFiles target findings = .ok anchored) :
    (anchored.map fun f => f.val.id) = findings.map fun f => f.val.id := by
  have hforall := mapM_eq_ok.1 h
  clear h
  induction hforall with
  | nil => rfl
  | @cons finding attached _ _ hhead _ ih =>
    have hid : attached.val.id = finding.val.id := by
      unfold attachDiffAnchor at hhead
      split at hhead
      · rw [Except.ok.inj hhead]
      · obtain ⟨anchor, -, hhead⟩ := bind_eq_ok.1 hhead
        split at hhead
        · rw [Except.ok.inj hhead]
        · rw [construct_eq_ok.1 hhead]
          rfl
    rw [List.map_cons, List.map_cons, ih, hid]

/-- The notes and requests that the rounds classify are those of the reviewers. -/
lemma collected_ids {repr : Text → Text} {rounds : List StageRound}
    {reviewers : List (CompletedReviewer repr)} (h : ReviewersOf rounds reviewers) :
    (roundOutputs rounds).flatMap Prod.fst =
        reviewers.flatMap (fun reviewer => reviewer.classified.localNotes) ∧
      ((roundOutputs rounds).flatMap fun outputs => outputs.2.map fun q => q.val.request.id) =
        reviewers.flatMap fun reviewer =>
          reviewer.classified.clarificationRequests.map fun q => q.val.id := by
  unfold ReviewersOf at h
  generalize roundOutputs rounds = outputs at h ⊢
  induction h with
  | nil => exact ⟨rfl, rfl⟩
  | cons hhead _ ih =>
    simp only [List.flatMap_cons, ih.1, ih.2, hhead.1, ← hhead.2, List.map_map]
    exact ⟨trivial, rfl⟩

/-- The identifiers of what is classified of reviewers, by the kinds of outputs. -/
lemma count_itemIds {repr : Text → Text} (reviewers : List (CompletedReviewer repr)) (id : Text) :
    (reviewers.flatMap fun r => r.classified.itemIds).count id =
      ((reviewers.flatMap fun r => r.classified.findings).map fun f => f.val.id).count id +
      ((reviewers.flatMap fun r => r.classified.localNotes).map fun n => n.val.id).count id +
      (reviewers.flatMap fun r => r.classified.clarificationRequests.map fun q => q.val.id).count
        id +
      ((reviewers.flatMap fun r => r.classified.suggestedReplies).map fun p => p.val.id).count id +
      ((reviewers.flatMap fun r => r.classified.suppressedOutputs).map fun s => s.val.id).count
        id := by
  induction reviewers with
  | nil => rfl
  | cons reviewer reviewers ih =>
    simp only [List.flatMap_cons, List.map_append, List.count_append, ih]
    simp only [QualityClassificationResult.itemIds, List.count_append]
    omega

/-- The identifiers that items without fields of the graph have. -/
def ownIds (items : List Json) : List Text :=
  (items.filter fun item => ¬ SetsGraphOwned item).filterMap itemId

/-- The names under which items with fields of the graph are suppressed. -/
def suppressionNames (items : List Json) : List Text :=
  (items.filter fun item => SetsGraphOwned item).map suppressionName

/-- The identifier of an output that is suppressed under a name. -/
def suppressedId (name : Text) : Text := "suppressed-" ++ name

/-- The expected identifiers are those of the items, and those of the suppressed outputs. -/
lemma filterMap_expectedId (items : List Json) :
    (items.filterMap expectedId).Perm
      (ownIds items ++ (suppressionNames items).map suppressedId) := by
  induction items with
  | nil => exact .refl _
  | cons item items ih =>
    unfold ownIds suppressionNames at ih ⊢
    by_cases howned : SetsGraphOwned item
    · rw [List.filterMap_cons_some (show expectedId item = some
        (suppressedId (suppressionName item))
        from if_pos howned), List.filter_cons_of_neg (by simpa using howned),
        List.filter_cons_of_pos (by simpa using howned), List.map_cons, List.map_cons]
      exact (ih.cons _).trans List.perm_middle.symm
    · have hexpected : expectedId item = itemId item := if_neg howned
      rw [List.filter_cons_of_pos (by simpa using howned),
        List.filter_cons_of_neg (by simpa using howned),
        List.filterMap_cons, List.filterMap_cons, hexpected]
      cases itemId item with
      | none => exact ih
      | some id => exact ih.cons id

namespace StagedDryRun

variable {repr : Text → Text} (run : StagedDryRun repr)

/-- The items of the outputs of all reviewers that complete. -/
def items : List Json := run.reviewers.flatMap fun reviewer => outputItems reviewer.rawOutput

/-- What the context budget leaves out with a note. -/
def omissions : List Omission := contextOmissions run.pr.val run.memory run.limits.val

/-- The identifiers that the graph makes: of the notes of the context budget, of the notes of the
stages, and of the outputs that it suppresses. -/
def madeIds : List Text :=
  run.omissions.map Omission.noteId ++
    ((run.stageArguments.allGenerated run.rounds).map GeneratedNote.noteId ++
      (suppressionNames run.items).map suppressedId)

/-- What is classified of the reviewers has the identifiers that their items are expected to get. -/
lemma reviewers_itemIds :
    (run.reviewers.flatMap fun reviewer => reviewer.classified.itemIds).Perm
      (ownIds run.items ++ (suppressionNames run.items).map suppressedId) := by
  refine List.Perm.trans ?_ (filterMap_expectedId run.items)
  unfold items
  rw [List.filterMap_flatMap]
  exact List.Perm.flatMap_left _ fun reviewer _ => reviewer.itemIds_perm

/-- The outputs of a run have their own identifiers and those that the graph makes. -/
lemma itemIds_perm :
    (run.arguments.outputs run.findings).itemIds.Perm (ownIds run.items ++ run.madeIds) := by
  have hcollects := run.stages.collects
  have hcontext := contextNotes_ids run.budget
  have hgenerated := (StageRun.invariant run.stages).ids
  have hfindings := attachDiffAnchors_ids run.anchors
  rw [run.classified] at hfindings
  obtain ⟨hnotes, hrequests⟩ := collected_ids run.reviewersOf
  have hperm := (List.filter_append_perm (fun note => note.generated) run.state.localNotes).map
    fun note => note.note.val.id
  have hreviewers := run.reviewers_itemIds
  rw [List.perm_iff_count] at hperm hreviewers ⊢
  intro id
  have hsplit := count_itemIds run.reviewers id
  have hmade : ((run.stageArguments.allGenerated run.rounds).map GeneratedNote.noteId).count id =
      ((run.state.localNotes.filter fun note => note.generated).map fun note =>
        note.note.val.id).count
        id := by
    rw [← hgenerated]
    simp [StageRunState.generatedIds, StageRunState.generatedNotes, Function.comp_def]
  have hown : ((run.state.localNotes.filter fun note => !note.generated).map
      fun note => note.note.val.id) =
      (run.reviewers.flatMap fun r => r.classified.localNotes).map fun n => n.val.id := by
    rw [← hnotes, ← hcollects.notes, List.map_map]
    rfl
  have hperm := hperm id
  have hreviewers := hreviewers id
  rw [List.map_append, List.count_append, hown] at hperm
  rw [List.count_append] at hreviewers
  simp only [DryRunArguments.outputs, ClassifiedOutputs.itemIds, run.classified, hfindings,
    StageRunState.classified, run.contextNotes, List.map_append, hcontext, madeIds, omissions,
    List.count_append, hcollects.requests, hrequests, List.map_map, Function.comp_def] at *
  omega

/-- The identifiers that the graph makes in a run differ: no reviewer is noted for the same reason
in two clarification reviews, the markers of deferred reviewers and of what is left out differ, and
no two items are suppressed under one name. -/
structure MadeIdsDiffer : Prop where
  resumptions : run.stageArguments.ResumptionsDiffer run.rounds
  deferrals : run.stageArguments.DeferralsDiffer run.rounds
  omissions : OmissionsDiffer run.omissions
  suppressions : (suppressionNames run.items).Nodup

/-- The identifiers of notes and of suppressed outputs begin differently. -/
lemma suppressedId_ne {id : Text} (h : ∃ rest, id = "note-" ++ rest) (name : Text) :
    id ≠ suppressedId name := by
  obtain ⟨rest, rfl⟩ := h
  intro heq
  simp [suppressedId, Text.ofString_eq] at heq

/-- The identifiers that the graph makes are distinct exactly if they differ kind by kind. -/
lemma nodup_madeIds_iff : run.madeIds.Nodup ↔ run.MadeIdsDiffer := by
  have hspaces : ∀ o ∈ run.omissions, o.1 ∈ (["changed-files", "patch", "memory"] : List Text) :=
    fun o ho => space_of_mem_contextOmissions ho
  have hnotes : ∀ g : GeneratedNote, ∃ rest, g.noteId = "note-" ++ rest := by
    intro g
    unfold GeneratedNote.noteId
    cases g.kind with
    | reviewerDeferred => exact ⟨_, rfl⟩
    | liveCallDeferred => exact ⟨_, rfl⟩
    | optionalFailure =>
      exact ⟨"reviewer-failure-" ++ (g.stage ++ ("-" ++ g.name)), by simp [Text.ofString_eq]⟩
    | requiredFailure =>
      exact ⟨"required-reviewer-failure-" ++ (g.stage ++ ("-" ++ g.name)), by
        simp [Text.ofString_eq]⟩
  have hsuppressed : ((suppressionNames run.items).map suppressedId).Nodup ↔
      (suppressionNames run.items).Nodup :=
    List.nodup_map_iff fun _ _ heq => List.append_cancel_left heq
  have hgenerated := generatedIds_nodup_iff run.stages
  rw [(StageRun.invariant run.stages).ids] at hgenerated
  unfold madeIds
  rw [List.nodup_append, List.nodup_append, nodup_omissionIds_iff hspaces, hgenerated, hsuppressed]
  constructor
  · rintro ⟨homissions, ⟨⟨hresumptions, hdeferrals⟩, hnames, -⟩, -⟩
    exact ⟨hresumptions, hdeferrals, homissions, hnames⟩
  · rintro ⟨hresumptions, hdeferrals, homissions, hnames⟩
    refine ⟨homissions, ⟨⟨hresumptions, hdeferrals⟩, hnames, ?_⟩, ?_⟩
    · rintro _ hid _ hname rfl
      obtain ⟨g, -, rfl⟩ := List.mem_map.1 hid
      obtain ⟨name, -, heq⟩ := List.mem_map.1 hname
      exact suppressedId_ne (hnotes g) name heq.symm
    · rintro _ hid _ hmade rfl
      obtain ⟨o, ho, rfl⟩ := List.mem_map.1 hid
      rcases List.mem_append.1 hmade with hmade | hmade
      · obtain ⟨g, -, heq⟩ := List.mem_map.1 hmade
        exact omissionId_ne_noteId (hspaces o ho) g heq.symm
      · obtain ⟨name, -, heq⟩ := List.mem_map.1 hmade
        exact suppressedId_ne ⟨_, rfl⟩ name heq.symm

/-- If the reviewers' own identifiers are no reason to fail, the outputs of a run pass exactly if
the identifiers that the graph makes differ, from each other and from the reviewers' own, and
redaction leaves them alone. -/
lemma validateOutputItemIds_iff (hown : StableIdentities (ownIds run.items)) :
    validateOutputItemIds (run.arguments.outputs run.findings) = .ok () ↔ run.MadeIdsDiffer ∧
      ∀ id ∈ run.madeIds, (redactText id).text = id ∧ id ∉ ownIds run.items := by
  have hchecks : validateOutputItemIds (run.arguments.outputs run.findings) = .ok () ↔
      StableIdentities (run.arguments.outputs run.findings).itemIds := by
    unfold validateOutputItemIds
    rw [requireStableIdentities_eq_ok]
    exact and_iff_left fun _ _ => List.not_mem_nil
  rw [hchecks, StableIdentities.perm run.itemIds_perm, stableIdentities_append]
  constructor
  · rintro ⟨-, ⟨hnodup, hplain⟩, hdisjoint⟩
    exact ⟨run.nodup_madeIds_iff.1 hnodup, fun id hid => ⟨hplain id hid, hdisjoint id hid⟩⟩
  · rintro ⟨hdiffer, hids⟩
    exact ⟨hown, ⟨run.nodup_madeIds_iff.2 hdiffer, fun id hid => (hids id hid).1⟩,
      fun id hid => (hids id hid).2⟩

end StagedDryRun

/-! ## Outputs and runs -/

/-- The artifacts of an output whose items have different identifiers have different identifiers
themselves exactly if no two items clash or an item cannot be read; the notes that the graph
generates in a run of the stages exactly if no reviewer is noted for the same reason in two
clarification reviews and the markers of deferred reviewers differ; and a dry run whose reviewers'
own identifiers are stable passes the check of its outputs exactly if these and the other
identifiers that the graph makes differ, from each other and from the reviewers' own, and redaction
leaves them alone. -/
theorem graphIds_distinct_iff (repr : Text → Text) (rawOutput : List (Text × Json))
    (runKey : Checked ReviewerRunKey) (args : StageRunArguments) (rounds : List StageRound)
    (st : StageRunState) (dryRun : StagedDryRun repr)
    (hids : ((outputItems rawOutput).filterMap itemId).Nodup) (hrun : StageRun args rounds st)
    (hown : StableIdentities (ownIds dryRun.items)) :
    (∃ r, normalizeReviewerOutput repr rawOutput runKey = .ok r ∧
      (r.artifactIds.Nodup ↔ (AllReadable repr runKey 0 (outputItems rawOutput) →
        (outputItems rawOutput).Pairwise fun a b => ¬ Clash a b))) ∧
    (st.generatedIds.Nodup ↔ args.ResumptionsDiffer rounds ∧ args.DeferralsDiffer rounds) ∧
    (validateOutputItemIds (dryRun.arguments.outputs dryRun.findings) = .ok () ↔
      dryRun.MadeIdsDiffer ∧
        ∀ id ∈ dryRun.madeIds, (redactText id).text = id ∧ id ∉ ownIds dryRun.items) :=
  ⟨artifactIds_nodup_iff repr rawOutput runKey hids, generatedIds_nodup_iff hrun,
    dryRun.validateOutputItemIds_iff hown⟩

/-- The fields of a finding without an identifier that claims to be approved. -/
def approvedFields : List (Text × Json) := [("type", .str "finding"), ("approved", .bool true)]

/-- An output with items. -/
def outputOf (items : List Json) : List (Text × Json) := [("items", .arr items)]

/-- The items of an output are read back. -/
@[simp] lemma outputItems_outputOf (items : List Json) : outputItems (outputOf items) = items := by
  simp [outputItems, outputOf, Json.lookup]

/-- The finding is suppressed, not reported. -/
lemma normalizeItem_approved (repr : Text → Text) (runKey : Checked ReviewerRunKey) (index : ℕ)
    (e : Checked NormalizationError) :
    normalizeItem repr runKey index (.obj approvedFields) ≠ .ok (.fatal e) := by
  have howned : ownedFields rawItemGraphOwnedFields approvedFields ≠ [] := by
    have hmem : ("approved" : Text) ∈ ownedFields rawItemGraphOwnedFields approvedFields := by
      refine mem_ownedFields.2 ⟨?_, by simp [approvedFields]⟩
      simp [rawItemGraphOwnedFields, graphOwnedReviewerFields]
    exact List.ne_nil_of_mem hmem
  have htype : requiredStrValue approvedFields "type" "raw reviewer output item" = .ok "finding" :=
    requiredStrValue_eq_ok.2 ⟨by simp [approvedFields, Json.lookup], by simp⟩
  obtain ⟨outcome, hreject, hyields⟩ := rejectItem_ok repr runKey index howned
  have hitem : normalizeItem repr runKey index (.obj approvedFields) = .ok outcome := by
    unfold normalizeItem
    simp only [htype, if_true]
    rw [buildItem, if_pos howned, hreject]
  rw [hitem]
  exact fun he => hyields.not_fatal repr e (Except.ok.inj he)

/-- The finding, and a note with an identifier. -/
def approvedAndNote : List Json :=
  [.obj approvedFields,
    .obj [("type", .str "local_note"), ("id", .str "n1"), ("title", .str "Cache"),
      ("body", .str "The cache is shared."), ("evidence", .str "See line 3.")]]

/-- Both agents are valid. -/
lemma triageAgents_valid : ∃ h : Record.postInit ({ always := true } : ReviewerTriggers) = .ok (),
    Record.postInit (⟨"bugs", [.initialTriage], ⟨_, h⟩⟩ : ReviewerAgentConfig) = .ok () ∧
      Record.postInit (⟨"style", [.initialTriage], ⟨_, h⟩⟩ : ReviewerAgentConfig) = .ok () :=
  ⟨by decide +kernel, by decide +kernel⟩

/-- Two agents that always review, one of which the limits defer. -/
def triageArguments : StageRunArguments where
  languages := ⟨fun _ _ => false, fun _ _ => none⟩
  config := ⟨[⟨_, triageAgents_valid.2.1⟩, ⟨_, triageAgents_valid.2.2⟩], by decide +kernel⟩
  requiredAgents := []
  pr := longPatchPullRequest.val
  memoryReferences := []
  risk := none
  limits := twoByteLimits
  liveAttemptCost := none
  answeredIds := []

/-- The first step of a cursor. -/
def triageStep : StageCursorTransition where
  before := initialStageCursor
  after := ⟨some .initialTriage, none, normalReviewStages.drop 1, [], [], none⟩
  transitionReason := "start_initial_triage"

/-- The state with the notes of the budget of the round. -/
def triageState (budgeted : BudgetedReviewers) : StageRunState where
  cursor := triageStep.after
  clarificationRequests := []
  localNotes := [] ++ budgeted.localNotes.map fun note => ⟨true, note⟩
  retainedReviewerCount := 0 + budgeted.retainedReviewers.length
  plannedLiveCalls := 0 + budgeted.contextBudget.val.plannedLiveCalls
  clarificationNeeded := false

/-- One reviewer is deferred, the other one completes, and the outputs pass. -/
lemma triage_computes : (do
      let context ← applyInputContextBudget longPatchPullRequest ⟨[]⟩ twoByteLimits []
      let selected ← triageArguments.selectReviewersForActiveStage
        { initialStageRunState with cursor := triageStep.after }
      let budgeted ← (triageArguments.roundBudget initialStageRunState selected).applyReviewerBudget
      let n ← normalizeReviewerOutput id (outputOf approvedAndNote) firstRunKey
      let q ← classifyReviewQuality ⟨[], n.reviewerResult, [], [], []⟩
      let findings ← attachDiffAnchors [] firstPullRequest.val q.findings
      validateOutputItemIds ⟨findings,
        context.localNotes ++ ((triageState budgeted).localNotes.map StageNote.note ++
        q.localNotes),
        [], q.suggestedReplies, q.suppressedOutputs⟩
      return (decide (n.runKey = firstRunKey ∧ n.fatalErrors = [] ∧ q.clarificationRequests = [] ∧
        selected ≠ []), budgeted.retainedReviewers.length, budgeted.localNotes.length)) =
        .ok (true, 1, 1) := by
  decide +kernel

/-- A dry run with the two agents, one of which answers with the finding and the note. -/
lemma exists_triageRun : ∃ run : StagedDryRun id, run.items = approvedAndNote ∧
    run.state.generatedIds.length = 1 ∧
    validateOutputItemIds (run.arguments.outputs run.findings) = .ok () := by
  obtain ⟨context, hcontext, h⟩ := bind_eq_ok.1 triage_computes
  obtain ⟨selected, hselected, h⟩ := bind_eq_ok.1 h
  obtain ⟨budgeted, hbudgeted, h⟩ := bind_eq_ok.1 h
  obtain ⟨n, hn, h⟩ := bind_eq_ok.1 h
  obtain ⟨q, hq, h⟩ := bind_eq_ok.1 h
  obtain ⟨findings, hfindings, h⟩ := bind_eq_ok.1 h
  obtain ⟨hvalid, h⟩ := check_bind_eq_ok.1 h
  obtain ⟨hfacts, hlengths⟩ := Prod.mk.inj (Except.ok.inj h)
  obtain ⟨hretained, hdeferred⟩ := Prod.mk.inj hlengths
  obtain ⟨hrunKey, hfatal, hrequests, hnonempty⟩ := of_decide_eq_true hfacts
  obtain ⟨bugs, hbugs⟩ := List.length_eq_one_iff.1 hretained
  let reviewer : CompletedReviewer id := {
    rawOutput := outputOf approvedAndNote
    quality := ⟨[], n.reviewerResult, [], [], []⟩
    normalized := n
    classified := q
    normalizes := by rw [← hn]; exact congrArg _ hrunKey
    completes := hfatal
    returns := rfl
    classifies := hq }
  let runs : List (Checked SelectedReviewer × ReviewerOutcome) :=
    [(bugs, .classified q.localNotes [])]
  let state : StageRunState := { triageState budgeted with
    localNotes := (triageState budgeted).localNotes ++ q.localNotes.map fun note => ⟨false, note⟩ }
  have hstep : advanceOrFinishStage initialStageCursor = .ok triageStep := by decide +kernel
  have hrounds : StageRun triageArguments
      [⟨.initialTriage, triageArguments.roundBudget initialStageRunState selected, runs⟩] state :=
    .round .start ⟨by decide, rfl⟩ hstep (by decide +kernel) rfl hselected (.refl _)
      (fun _ => hnonempty) hbudgeted (by rw [hbugs]; rfl) rfl rfl
  let arguments : DryRunArguments := {
    changedFiles := []
    reviewTarget := firstPullRequest
    contextNotes := context.localNotes
    agents := []
    classified := state.classified [reviewer]
    errors := [] }
  let run : StagedDryRun id := {
    pr := longPatchPullRequest
    memory := ⟨[]⟩
    limits := twoByteLimits
    existingTruncation := []
    budgeted := context
    budget := hcontext
    stageArguments := triageArguments
    rounds := _
    state
    stages := hrounds
    reviewers := [reviewer]
    reviewersOf := .cons ⟨rfl, hrequests.symm⟩ .nil
    arguments
    contextNotes := rfl
    classified := rfl
    findings
    anchors := by simpa [arguments, StageRunState.classified, reviewer] using hfindings }
  refine ⟨run, by simp [StagedDryRun.items, run, reviewer], ?_, ?_⟩
  · simp [StageRunState.generatedIds, StageRunState.generatedNotes, run, state, triageState,
      Function.comp_def, hdeferred, List.filter_map]
  · have houtputs : arguments.outputs findings = ⟨findings,
        context.localNotes ++ ((triageState budgeted).localNotes.map StageNote.note ++
        q.localNotes),
        [], q.suggestedReplies, q.suppressedOutputs⟩ := by
      simp [DryRunArguments.outputs, arguments, StageRunState.classified, state, reviewer,
        triageState,
        Function.comp_def]
    exact (congrArg validateOutputItemIds houtputs).trans hvalid

/-- The agents' dry run passes, and so all that the graph has named differs. -/
theorem graphIds_distinct_approved : ∃ run : StagedDryRun id, run.items = approvedAndNote ∧
    run.state.generatedIds.length = 1 ∧ run.MadeIdsDiffer ∧
    (∃ r, normalizeReviewerOutput id (outputOf approvedAndNote) firstRunKey = .ok r ∧
      r.artifactIds.Nodup) ∧
    run.state.generatedIds.Nodup ∧
    validateOutputItemIds (run.arguments.outputs run.findings) = .ok () := by
  obtain ⟨run, hitems, hgenerated, hvalid⟩ := exists_triageRun
  have hown : ownIds approvedAndNote = [("n1" : Text)] := by decide +kernel
  have hstable : StableIdentities (ownIds run.items) := by
    rw [hitems, hown]
    refine ⟨List.nodup_singleton _, ?_⟩
    intro id hid
    rw [List.mem_singleton.1 hid]
    decide +kernel
  have hids : ((outputItems (outputOf approvedAndNote)).filterMap itemId).Nodup := by
    rw [outputItems_outputOf]
    decide +kernel
  obtain ⟨⟨r, hr, hartifacts⟩, hnotes, houtputs⟩ := graphIds_distinct_iff id
    (outputOf approvedAndNote) firstRunKey run.stageArguments run.rounds run.state run hids
      run.stages
    hstable
  have hdiffer := (houtputs.1 hvalid).1
  refine ⟨run, hitems, hgenerated, hdiffer, ⟨r, hr, hartifacts.2 fun _ => ?_⟩,
    hnotes.2 ⟨hdiffer.resumptions, hdiffer.deferrals⟩, hvalid⟩
  rw [outputItems_outputOf]
  unfold Clash
  decide +kernel

/-- Two such items are suppressed under the same identifier. -/
theorem graphIds_distinct_not : ∃ r : NormalizationResult,
    ((outputItems (outputOf [.obj approvedFields, .obj approvedFields])).filterMap itemId).Nodup ∧
      normalizeReviewerOutput id (outputOf [.obj approvedFields, .obj approvedFields]) firstRunKey =
        .ok r ∧
      ¬ r.artifactIds.Nodup := by
  have hid : itemId (.obj approvedFields) = none := by
    simp [itemId, itemFields, approvedFields, optionalItemId, Json.lookup, Text.ofString_eq]
  have hids : ((outputItems (outputOf [.obj approvedFields, .obj approvedFields])).filterMap
      itemId).Nodup := by simp [hid]
  obtain ⟨r, hr, hiff⟩ := artifactIds_nodup_iff id _ firstRunKey hids
  refine ⟨r, hids, hr, fun hnodup => ?_⟩
  have howned : SetsGraphOwned (.obj approvedFields) := by
    refine ⟨"approved", by simp [itemFields, approvedFields], ?_⟩
    simp [rawItemGraphOwnedFields, graphOwnedReviewerFields]
  have hpairwise := hiff.1 hnodup ?readable
  case readable =>
    intro entry hentry
    have hitem : entry.1 = .obj approvedFields := by
      simp only [outputItems_outputOf, List.zipIdx_cons, List.zipIdx_nil, List.mem_cons,
        List.not_mem_nil, or_false] at hentry
      rcases hentry with rfl | rfl <;> rfl
    rw [hitem]
    exact normalizeItem_approved id firstRunKey entry.2
  rw [outputItems_outputOf] at hpairwise
  refine (List.pairwise_cons.1 hpairwise).1 _ List.mem_cons_self ?_
  exact .inl ⟨howned, howned, rfl⟩

end ReviewGraph
