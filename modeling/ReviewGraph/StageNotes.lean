import ReviewGraph.ReviewStages

/-!
# The notes of the graph

In a run of the review stages the graph generates a note when the budget defers a reviewer and when
a reviewer fails.  `StageRound.generated` lists the notes of a round by what they are about;
`StageRun.invariant` says that no normal stage has two notes about the same, since it is entered
once and selects every agent at most once.  A clarification review is entered for every answer, so
that only there a note can be repeated.
-/

namespace ReviewGraph

/-! ## What notes are about -/

/-- The reasons for which the graph generates a note. -/
inductive NoteKind
  | reviewerDeferred
  | liveCallDeferred
  | optionalFailure
  | requiredFailure
  deriving DecidableEq

/-- What a note of the graph is about. -/
structure GeneratedNote where
  kind : NoteKind
  stage : Text
  name : Text
  deriving DecidableEq

/-- The reviewer key of a note. -/
def GeneratedNote.key (g : GeneratedNote) : Text := g.stage ++ (":" ++ g.name)

/-- The identifier of a note. -/
def GeneratedNote.noteId (g : GeneratedNote) : Text :=
  match g.kind with
  | .reviewerDeferred => "note-" ++ markerId "reviewer" g.key
  | .liveCallDeferred => "note-" ++ markerId "reviewer-live-call" g.key
  | .optionalFailure => "note-reviewer-failure-" ++ (g.stage ++ ("-" ++ g.name))
  | .requiredFailure => "note-required-reviewer-failure-" ++ (g.stage ++ ("-" ++ g.name))

/-- A note of a kind about a reviewer. -/
def SelectedReviewer.generatedNote (reviewer : SelectedReviewer) (kind : NoteKind) :
    GeneratedNote :=
  ⟨kind, reviewer.stage, reviewer.name⟩

/-- The notes about the reviewers that a budget defers, from some number of reviewers that are kept
and live calls that are planned on. -/
def ReviewerBudgetArguments.deferrals (args : ReviewerBudgetArguments) : ℕ → ℕ →
    List (Checked SelectedReviewer) → List GeneratedNote
  | _, _, [] => []
  | kept, planned, reviewer :: reviewers =>
    if args.limits.val.maxReviewers ≤ args.retainedReviewerCount + kept then
      reviewer.val.generatedNote .reviewerDeferred :: args.deferrals kept planned reviewers
    else if args.limits.val.maxLiveCalls < planned + args.liveCallCosts.cost reviewer.val then
      reviewer.val.generatedNote .liveCallDeferred :: args.deferrals kept planned reviewers
    else args.deferrals (kept + 1) (planned + args.liveCallCosts.cost reviewer.val) reviewers

namespace StageRunArguments

variable (args : StageRunArguments)

/-- The note about a reviewer that fails. -/
def failure (run : Checked SelectedReviewer × ReviewerOutcome) : Option GeneratedNote :=
  match run.2 with
  | .classified _ _ => none
  | .unclassified _ => some (run.1.val.generatedNote .optionalFailure)
  | .failed _ _ => some (run.1.val.generatedNote
      (if run.1.val.name ∈ args.requiredAgents then .requiredFailure else .optionalFailure))

/-- The notes that a round generates. -/
def generated (round : StageRound) : List GeneratedNote :=
  round.budget.deferrals 0 round.budget.plannedLiveCalls round.budget.reviewers ++
    round.runs.filterMap args.failure

/-- The notes that rounds generate. -/
def allGenerated (rounds : List StageRound) : List GeneratedNote := rounds.flatMap args.generated

end StageRunArguments

/-- The identifiers of the notes of the graph. -/
def StageRunState.generatedIds (st : StageRunState) : List Text :=
  st.generatedNotes.map fun note => note.val.id

/-! ## The notes of a round -/

section Deferrals

variable {args : ReviewerBudgetArguments}

/-- A cost that is found is the one that is charged. -/
lemma liveCallCost_eq_ok {costs : LiveCallCosts} {reviewer : SelectedReviewer} {n : ℕ}
    (h : liveCallCost costs reviewer = .ok n) : n = costs.cost reviewer := by
  unfold liveCallCost at h
  dsimp only at h
  split at h
  · contradiction
  · exact (Except.ok.inj h).symm

/-- A note of a deferral has the identifier of its marker. -/
lemma deferReviewer_eq_ok {st st' : ReviewerBudgetState} {reviewer : Checked SelectedReviewer}
    {space reasonCode dimension : Text} {counts : MarkerCounts} {liveCallIds : List Text}
    (h : ReviewerBudgetArguments.deferReviewer st reviewer space reasonCode dimension counts
      liveCallIds = .ok st') :
    st'.retained = st.retained ∧ st'.plannedLiveCalls = st.plannedLiveCalls ∧
      ∃ note : Checked LocalNote, st'.localNotes = st.localNotes ++ [note] ∧
        note.val.id = "note-" ++ markerId space (reviewerKey reviewer.val) := by
  obtain ⟨marker, hmarker, h⟩ := bind_eq_ok.1 h
  obtain ⟨note, hnote, h⟩ := bind_eq_ok.1 h
  obtain rfl := pure_eq_ok.1 h
  refine ⟨rfl, rfl, note, rfl, ?_⟩
  rw [construct_eq_ok.1 hnote, construct_eq_ok.1 hmarker]

/-- The loop generates the notes about the deferrals, and keeps some of the reviewers. -/
lemma foldlM_budgetReviewer {reviewers : List (Checked SelectedReviewer)}
    {st st' : ReviewerBudgetState} (h : reviewers.foldlM args.budgetReviewer st = .ok st') :
    (st'.localNotes.map fun note => note.val.id) = (st.localNotes.map fun note => note.val.id) ++
        (args.deferrals st.retained.length st.plannedLiveCalls reviewers).map
          GeneratedNote.noteId ∧
      ∃ kept, st'.retained = st.retained ++ kept ∧ kept.Sublist reviewers := by
  induction reviewers generalizing st with
  | nil =>
    obtain rfl := pure_eq_ok.1 h
    exact ⟨by simp [ReviewerBudgetArguments.deferrals], [], by simp, .slnil⟩
  | cons reviewer reviewers ih =>
    rw [List.foldlM_cons] at h
    obtain ⟨st₁, hstep, h⟩ := bind_eq_ok.1 h
    obtain ⟨hnotes, kept, hkept, hsub⟩ := ih h
    obtain ⟨cost, hcost, hstep⟩ := bind_eq_ok.1 hstep
    obtain rfl := liveCallCost_eq_ok hcost
    rw [ReviewerBudgetArguments.deferrals]
    split at hstep
    · rename_i hcount
      obtain ⟨hretained, hplanned, note, hnote, hid⟩ := deferReviewer_eq_ok hstep
      rw [if_pos hcount]
      rw [hretained, hplanned, hnote, List.map_append] at hnotes
      refine ⟨?_, kept, by rw [hkept, hretained], hsub.cons _⟩
      rw [hnotes, List.map_singleton, hid, List.map_cons, List.append_assoc]
      rfl
    · rename_i hcount
      rw [if_neg hcount]
      split at hstep
      · rename_i hcalls
        obtain ⟨hretained, hplanned, note, hnote, hid⟩ := deferReviewer_eq_ok hstep
        rw [if_pos hcalls]
        rw [hretained, hplanned, hnote, List.map_append] at hnotes
        refine ⟨?_, kept, by rw [hkept, hretained], hsub.cons _⟩
        rw [hnotes, List.map_singleton, hid, List.map_cons, List.append_assoc]
        rfl
      · rename_i hcalls
        obtain rfl := pure_eq_ok.1 hstep
        rw [if_neg hcalls]
        refine ⟨?_, reviewer :: kept, by rw [hkept, List.append_assoc]; rfl, hsub.cons_cons _⟩
        rw [hnotes, List.length_append, List.length_singleton]

/-- The budget of a round generates the notes about its deferrals, and keeps some reviewers. -/
lemma applyReviewerBudget_eq_ok {b : BudgetedReviewers} (h : args.applyReviewerBudget = .ok b) :
    (b.localNotes.map fun note => note.val.id) =
        (args.deferrals 0 args.plannedLiveCalls args.reviewers).map GeneratedNote.noteId ∧
      b.retainedReviewers.Sublist args.reviewers := by
  obtain ⟨st, hloop, h⟩ := bind_eq_ok.1 h
  obtain ⟨costs, -, h⟩ := bind_eq_ok.1 h
  obtain ⟨budget, -, h⟩ := bind_eq_ok.1 h
  obtain rfl := pure_eq_ok.1 h
  obtain ⟨hnotes, kept, hkept, hsub⟩ := foldlM_budgetReviewer hloop
  refine ⟨by simpa [ReviewerBudgetArguments.initialState] using hnotes, ?_⟩
  rw [show st.retained = kept by simpa [ReviewerBudgetArguments.initialState] using hkept]
  exact hsub

/-- The reviewers that are deferred are some of the reviewers. -/
lemma deferrals_sublist (kept planned : ℕ) (reviewers : List (Checked SelectedReviewer)) :
    ((args.deferrals kept planned reviewers).map fun g => (g.stage, g.name)).Sublist
      (reviewers.map fun r => (r.val.stage, r.val.name)) := by
  induction reviewers generalizing kept planned with
  | nil => exact .slnil
  | cons reviewer reviewers ih =>
    rw [ReviewerBudgetArguments.deferrals]
    split
    · exact (ih kept planned).cons_cons _
    · split
      · exact (ih kept planned).cons_cons _
      · exact (ih _ _).cons _

/-- A note about a deferral is of one of two kinds. -/
lemma kind_of_mem_deferrals {kept planned : ℕ} {reviewers : List (Checked SelectedReviewer)}
    {g : GeneratedNote} (h : g ∈ args.deferrals kept planned reviewers) :
    g.kind = .reviewerDeferred ∨ g.kind = .liveCallDeferred := by
  induction reviewers generalizing kept planned with
  | nil => cases h
  | cons reviewer reviewers ih =>
    rw [ReviewerBudgetArguments.deferrals] at h
    split at h
    · rcases List.mem_cons.1 h with rfl | h
      · exact .inl rfl
      · exact ih h
    · split at h
      · rcases List.mem_cons.1 h with rfl | h
        · exact .inr rfl
        · exact ih h
      · exact ih h

end Deferrals

section Rounds

variable {args : StageRunArguments}

/-- One more note of the graph. -/
lemma generatedIds_addGenerated (st : StageRunState) (note : Checked LocalNote) :
    (st.addGenerated note).generatedIds = st.generatedIds ++ [note.val.id] := by
  simp [StageRunState.generatedIds, StageRunState.generatedNotes, StageRunState.addGenerated]

/-- A reviewer generates the note about its failure. -/
lemma recordOutcome_eq_ok {st st' : StageRunState}
    {run : Checked SelectedReviewer × ReviewerOutcome}
    (h : args.recordOutcome st run = .ok st') :
    st'.cursor = st.cursor ∧ st'.generatedIds =
      st.generatedIds ++ (args.failure run).toList.map GeneratedNote.noteId := by
  obtain ⟨reviewer, outcome⟩ := run
  have hadd : ∀ {x : Result (Checked LocalNote)} {id : Text},
      (∀ note, x = .ok note → note.val.id = id) →
      x.map st.addGenerated = .ok st' →
      st'.cursor = st.cursor ∧ st'.generatedIds = st.generatedIds ++ [id] := by
    intro x id hid h
    cases x with
    | error e => contradiction
    | ok note =>
      obtain rfl := Except.ok.inj h
      exact ⟨rfl, by rw [generatedIds_addGenerated, hid note rfl]⟩
  have hoptional : ∀ note, optionalReviewerFailureNote reviewer.val = .ok note →
      note.val.id = (reviewer.val.generatedNote .optionalFailure).noteId := by
    intro note hnote
    rw [construct_eq_ok.1 hnote]
    rfl
  have hrequired : ∀ reason note, requiredReviewerFailureNote reviewer.val reason = .ok note →
      note.val.id = (reviewer.val.generatedNote .requiredFailure).noteId := by
    intro reason note hnote
    rw [construct_eq_ok.1 hnote]
    rfl
  unfold StageRunArguments.recordOutcome at h
  cases outcome with
  | classified localNotes requests =>
    obtain rfl := Except.ok.inj h
    refine ⟨rfl, ?_⟩
    simp [StageRunState.generatedIds, StageRunState.generatedNotes, StageRunArguments.failure,
      List.filter_map, Function.comp_def]
  | unclassified reason =>
    dsimp only at h
    split at h
    · contradiction
    · exact hadd hoptional h
  | failed reason reported =>
    dsimp only at h
    unfold StageRunArguments.failure
    dsimp only
    split at h
    · rename_i hnot
      rw [if_neg hnot]
      exact hadd hoptional h
    · rename_i hrequires
      rw [if_pos (not_not.1 hrequires)]
      split at h
      · exact hadd (hrequired reason) h
      · contradiction

/-- The reviewers of a round generate the notes about their failures. -/
lemma foldlM_recordOutcome {runs : List (Checked SelectedReviewer × ReviewerOutcome)}
    {st st' : StageRunState} (h : runs.foldlM args.recordOutcome st = .ok st') :
    st'.cursor = st.cursor ∧ st'.generatedIds =
      st.generatedIds ++ (runs.filterMap args.failure).map GeneratedNote.noteId := by
  induction runs generalizing st with
  | nil =>
    obtain rfl := pure_eq_ok.1 h
    simp
  | cons run runs ih =>
    rw [List.foldlM_cons] at h
    obtain ⟨st₁, hstep, h⟩ := bind_eq_ok.1 h
    obtain ⟨hcursor₁, hids₁⟩ := recordOutcome_eq_ok hstep
    obtain ⟨hcursor, hids⟩ := ih h
    refine ⟨hcursor.trans hcursor₁, ?_⟩
    rw [hids, hids₁, List.append_assoc, ← List.map_append]
    cases hfailure : args.failure run <;> simp [hfailure]

/-! ## What the steps keep -/

/-- A step keeps the notes, the active stage, the queue and the place of the cursor. -/
structure KeepsStage (st st' : StageRunState) : Prop where
  notes : st'.localNotes = st.localNotes
  active : st'.cursor.activeStage = st.cursor.activeStage
  queue : st'.cursor.stageQueue = st.cursor.stageQueue
  place : st.cursor.At → st.cursor.activeStage ≠ none → st'.cursor.At

/-- A state keeps its own notes. -/
lemma KeepsStage.refl (st : StageRunState) : KeepsStage st st := ⟨rfl, rfl, rfl, fun h _ => h⟩

/-- What is kept twice is kept. -/
lemma KeepsStage.trans {st st₁ st₂ : StageRunState} (h : KeepsStage st st₁)
    (h' : KeepsStage st₁ st₂) :
    KeepsStage st st₂ where
  notes := h'.notes.trans h.notes
  active := h'.active.trans h.active
  queue := h'.queue.trans h.queue
  place := fun hplace hactive => h'.place (h.place hplace hactive) (h.active ▸ hactive)

/-- An answer is ingested for a request whose identifier is not empty. -/
lemma ingestClarificationAnswer_keeps {st st' : StageRunState} {id : Text}
    (h : ingestClarificationAnswer st id = .ok st') : KeepsStage st st' := by
  unfold ingestClarificationAnswer at h
  split at h
  · contradiction
  rename_i index hindex
  split at h
  · contradiction
  rename_i request hrequest
  obtain ⟨-, h⟩ := check_bind_eq_ok.1 h
  obtain ⟨answered, -, h⟩ := bind_eq_ok.1 h
  obtain rfl := pure_eq_ok.1 h
  refine ⟨rfl, rfl, rfl, fun hplace hactive => ?_⟩
  obtain ⟨stage, hstage⟩ := Option.ne_none_iff_exists'.1 hactive
  have hid : id ≠ [] := by
    obtain ⟨hlt, hfound, -⟩ := List.findIdx?_eq_some_iff_getElem.1 hindex
    obtain rfl : st.clarificationRequests[index] = request := by
      rw [List.getElem?_eq_getElem hlt] at hrequest
      exact Option.some.inj hrequest
    have hrecord := st.clarificationRequests[index].property
    simp only [Record.postInit, check_bind_eq_ok, requireNonEmpty_eq_ok] at hrecord
    exact of_decide_eq_true hfound ▸ hrecord.1
  dsimp only
  split
  · exact hplace
  · exact hplace.ready hstage hid

/-- The end of a round keeps its stage. -/
lemma closeRound_keeps {st st' : StageRunState} (h : args.closeRound st = .ok st') :
    KeepsStage st st' := by
  have hfold : ∀ {ids : List Text} {st : StageRunState},
      ids.foldlM ingestClarificationAnswer st = .ok st' → KeepsStage st st' := by
    intro ids
    induction ids with
    | nil =>
      intro st h
      obtain rfl := pure_eq_ok.1 h
      exact .refl st
    | cons id ids ih =>
      intro st h
      rw [List.foldlM_cons] at h
      obtain ⟨st₁, hstep, h⟩ := bind_eq_ok.1 h
      exact (ingestClarificationAnswer_keeps hstep).trans (ih h)
  unfold StageRunArguments.closeRound at h
  dsimp only at h
  split at h
  · obtain rfl := Except.ok.inj h
    exact .refl st
  split at h
  · obtain rfl := Except.ok.inj h
    exact ⟨rfl, rfl, rfl, fun hplace _ => hplace⟩
  · exact hfold h

/-- A step of the cursor leaves the queue alone, unless it starts the first stage of the queue. -/
lemma StageCursor.Advances.stageQueue {cursor after : StageCursor} (h : cursor.Advances after)
    (hbefore : cursor.At) (hafter : after.At) :
    (after.stageQueue = cursor.stageQueue ∧ (after.activeStage = none ∨
        after.activeStage = some .clarificationReview ∨
        cursor.activeStage = some .clarificationReview)) ∨
      ∃ stage, after.activeStage = some stage ∧ stage ≠ .clarificationReview ∧
        cursor.stageQueue = stage :: after.stageQueue := by
  -- The stages that are not completed or under way are those of the queue.
  have hpartition := hbefore.partition.trans hafter.partition.symm
  cases h with
  | idle hactive => exact .inl ⟨rfl, .inl hactive⟩
  | restore suspended hactive => exact .inl ⟨rfl, .inr (.inr hactive)⟩
  | enter active id ready hactive => exact .inl ⟨rfl, .inr (.inl rfl)⟩
  | start stage queue hactive hnormal =>
    refine .inr ⟨stage, rfl, hnormal, ?_⟩
    simpa [StageCursor.currentStage, hactive, hnormal] using hpartition
  | complete active next queue hactive hnormal hready hnext =>
    cases next with
    | none =>
      refine .inl ⟨?_, .inl rfl⟩
      simpa [StageCursor.currentStage, hactive, hnormal] using hpartition.symm
    | some stage =>
      have hstage : stage ≠ .clarificationReview := fun heq => hnext (congrArg some heq)
      refine .inr ⟨stage, rfl, hstage, ?_⟩
      simpa [StageCursor.currentStage, hactive, hnormal, hstage] using hpartition

/-- A clarification review is left with the reason of a restored stage. -/
lemma restoreReason_of_clarification {cursor : StageCursor} {t : StageCursorTransition}
    (hactive : cursor.activeStage = some .clarificationReview)
    (hstep : advanceOrFinishStage cursor = .ok t) : restoreReason <+: t.transitionReason := by
  unfold advanceOrFinishStage StageCursor.move at hstep
  rw [hactive] at hstep
  cases hvalid : validateStageCursor cursor with
  | error e =>
    rw [hvalid] at hstep
    contradiction
  | ok u =>
    rw [hvalid] at hstep
    cases hsuspended : cursor.suspendedStage with
    | none =>
      rw [hsuspended] at hstep
      contradiction
    | some suspended =>
      rw [hsuspended] at hstep
      simp only [bind, Except.bind] at hstep
      split at hstep
      · contradiction
      · obtain rfl := Except.ok.inj hstep
        exact List.prefix_append _ _

/-! ## Selected reviewers -/

/-- The selection names agents in their order. -/
lemma names_filterMap_selectAgent (languages : PatternLanguages) (stage : Text)
    (pr : PullRequestContext) (memoryReferences : List MemoryReference)
    (risk : Option RiskAssessment)
    (agents : List (Checked ReviewerAgentConfig)) :
    ((agents.filterMap fun agent =>
        selectAgent languages stage pr memoryReferences risk agent.val).map fun r => r.name).Sublist
      (agents.map fun agent => agent.val.name) := by
  induction agents with
  | nil => exact .slnil
  | cons agent agents ih =>
    cases hselect : selectAgent languages stage pr memoryReferences risk agent.val with
    | none =>
      simp only [List.filterMap_cons, hselect]
      exact ih.cons _
    | some r =>
      simp only [List.filterMap_cons, hselect, List.map_cons]
      have hname : r.name = agent.val.name := by
        unfold selectAgent at hselect
        split at hselect
        · dsimp only at hselect
          split at hselect
          · contradiction
          · obtain rfl := Option.some.inj hselect
            rfl
        · contradiction
      rw [hname]
      exact ih.cons_cons _

/-- Reviewers are selected for the active stage, and in a normal stage each at most once. -/
lemma selectReviewersForActiveStage_eq_ok {st : StageRunState} {stage : ReviewStage}
    {selected : List (Checked SelectedReviewer)} (hactive : st.cursor.activeStage = some stage)
    (h : args.selectReviewersForActiveStage st = .ok selected) :
    (∀ r ∈ selected, r.val.stage = stage.value) ∧
      (stage ≠ .clarificationReview → (selected.map fun r => r.val.name).Nodup) := by
  have hnormal : selectReviewersForStage args.languages args.config args.pr stage.value
      args.memoryReferences args.risk = .ok selected →
      (∀ r ∈ selected, r.val.stage = stage.value) ∧ (selected.map fun r => r.val.name).Nodup := by
    intro h
    have hvalues : (selected.map fun r => r.val) = (sortedAgents args.config).filterMap fun agent =>
        selectAgent args.languages stage.value args.pr args.memoryReferences args.risk
          agent.val := by
      have hall := (mapM_eq_ok.1 h).imp fun _ _ hr => (construct_eq_ok.1 hr).symm
      rw [← List.forall₂_map_right_iff, List.forall₂_eq_eq_eq] at hall
      exact hall.symm
    constructor
    · intro r hr
      have hmem : r.val ∈ selected.map fun r => r.val := List.mem_map_of_mem hr
      rw [hvalues] at hmem
      obtain ⟨agent, -, hselect⟩ := List.mem_filterMap.1 hmem
      unfold selectAgent at hselect
      split at hselect
      · dsimp only at hselect
        split at hselect
        · contradiction
        · rw [← Option.some.inj hselect]
      · contradiction
    · have hsub := names_filterMap_selectAgent args.languages stage.value args.pr
        args.memoryReferences args.risk (sortedAgents args.config)
      rw [← hvalues, List.map_map] at hsub
      refine List.Nodup.sublist hsub ?_
      exact ((List.perm_insertionSort _ args.config.agents).map _).nodup_iff.2
        args.config.names_nodup
  unfold StageRunArguments.selectReviewersForActiveStage at h
  rw [hactive] at h
  cases stage with
  | initialTriage | specializedReview | logicReview => exact ⟨(hnormal h).1, fun _ => (hnormal h).2⟩
  | clarificationReview =>
    refine ⟨fun r hr => ?_, fun hne => absurd rfl hne⟩
    dsimp only at h
    unfold StageRunArguments.selectClarificationResumeReviewers at h
    split at h
    · contradiction
    split at h
    · contradiction
    obtain ⟨-, h⟩ := check_bind_eq_ok.1 h
    obtain ⟨-, h⟩ := check_bind_eq_ok.1 h
    obtain ⟨name, -, hname⟩ := List.Forall₂.exists_of_mem_right (mapM_eq_ok.1 h) hr
    rw [construct_eq_ok.1 hname]

/-! ## No note of a normal stage is repeated -/

/-- The failures of a round are about reviewers that are run. -/
lemma failures_sublist (runs : List (Checked SelectedReviewer × ReviewerOutcome)) :
    ((runs.filterMap args.failure).map fun g => (g.stage, g.name)).Sublist
      ((runs.map Prod.fst).map fun r => (r.val.stage, r.val.name)) := by
  induction runs with
  | nil => exact .slnil
  | cons run runs ih =>
    obtain ⟨reviewer, outcome⟩ := run
    cases outcome with
    | classified localNotes requests => exact ih.cons _
    | unclassified reason => exact ih.cons_cons _
    | failed reason reported => exact ih.cons_cons _

/-- A note about a failure is of one of two kinds. -/
lemma kind_of_failure {run : Checked SelectedReviewer × ReviewerOutcome} {g : GeneratedNote}
    (h : args.failure run = some g) : g.kind = .optionalFailure ∨ g.kind = .requiredFailure := by
  obtain ⟨reviewer, outcome⟩ := run
  cases outcome with
  | classified localNotes requests => contradiction
  | unclassified reason =>
    obtain rfl := Option.some.inj h
    exact .inl rfl
  | failed reason reported =>
    obtain rfl := Option.some.inj h
    by_cases hrequired : reviewer.val.name ∈ args.requiredAgents
    · exact .inr (if_pos hrequired)
    · exact .inl (if_neg hrequired)

/-- The notes of a round are about its stage. -/
lemma stage_of_mem_generated {round : StageRound}
    (hruns : (round.runs.map Prod.fst).Sublist round.budget.reviewers)
    (hstage : ∀ r ∈ round.budget.reviewers, r.val.stage = round.stage.value) {g : GeneratedNote}
    (h : g ∈ args.generated round) : g.stage = round.stage.value := by
  have hmem : (g.stage, g.name) ∈ round.budget.reviewers.map fun r =>
      (r.val.stage, r.val.name) := by
    rcases List.mem_append.1 h with h | h
    · exact (deferrals_sublist _ _ _).subset (List.mem_map_of_mem h)
    · exact (hruns.map _).subset ((failures_sublist _).subset (List.mem_map_of_mem h))
  obtain ⟨r, hr, heq⟩ := List.mem_map.1 hmem
  rw [← hstage r hr]
  exact (congrArg Prod.fst heq).symm

/-- A round that selects each reviewer once has no two notes about the same. -/
lemma nodup_generated {round : StageRound}
    (hruns : (round.runs.map Prod.fst).Sublist round.budget.reviewers)
    (hnames : (round.budget.reviewers.map fun r => r.val.name).Nodup) :
    (args.generated round).Nodup := by
  have hpairs : (round.budget.reviewers.map fun r => (r.val.stage, r.val.name)).Nodup := by
    refine List.Nodup.of_map Prod.snd ?_
    rw [List.map_map]
    exact hnames
  refine List.nodup_append.2 ⟨?_, ?_, ?_⟩
  · exact List.Nodup.of_map _ (hpairs.sublist (deferrals_sublist _ _ _))
  · exact List.Nodup.of_map _ (hpairs.sublist ((failures_sublist _).trans (hruns.map _)))
  · rintro g hg g' hg' rfl
    obtain ⟨run, -, hfailure⟩ := List.mem_filterMap.1 hg'
    rcases kind_of_mem_deferrals hg with hkind | hkind <;>
      rcases kind_of_failure hfailure with hkind' | hkind' <;>
        rw [hkind] at hkind' <;> contradiction

/-- Different stages have different values. -/
lemma ReviewStage.value_injective : Function.Injective ReviewStage.value := by
  intro stage stage' h
  cases stage <;> cases stage' <;> first
    | rfl
    | simp [ReviewStage.value, Text.ofString_eq] at h

/-- A note about a normal stage. -/
def GeneratedNote.isNormal (g : GeneratedNote) : Bool :=
  g.stage ≠ ReviewStage.clarificationReview.value

/-- What holds in every run. -/
structure StageRun.Invariant (args : StageRunArguments) (rounds : List StageRound)
    (st : StageRunState) : Prop where
  /-- The cursor is at a place. -/
  place : st.cursor.At
  /-- The notes of the graph are those of the rounds. -/
  ids : st.generatedIds = (args.allGenerated rounds).map GeneratedNote.noteId
  /-- Every note is about a stage that has been entered. -/
  entered : ∀ g ∈ args.allGenerated rounds, ∃ stage : ReviewStage, g.stage = stage.value ∧
    stage ∉ st.cursor.stageQueue
  /-- No two notes about normal stages are about the same. -/
  nodup : ((args.allGenerated rounds).filter GeneratedNote.isNormal).Nodup

/-- A clarification review is never queued. -/
lemma StageCursor.At.clarification_not_mem {cursor : StageCursor} (h : cursor.At) :
    ReviewStage.clarificationReview ∉ cursor.stageQueue := by
  intro hmem
  have hnormal : ReviewStage.clarificationReview ∈ normalReviewStages := by
    rw [← h.partition]
    exact List.mem_append_right _ hmem
  exact absurd hnormal (by decide)

/-- No stage is queued twice. -/
lemma StageCursor.At.nodup_stageQueue {cursor : StageCursor} (h : cursor.At) :
    cursor.stageQueue.Nodup := by
  have hnormal : normalReviewStages.Nodup := by decide
  rw [← h.partition] at hnormal
  exact hnormal.sublist (List.sublist_append_right _ _)

/-- Restoring a stage keeps the invariant. -/
lemma StageRun.Invariant.restore {rounds : List StageRound} {st : StageRunState}
    {t : StageCursorTransition} (h : Invariant args rounds st)
    (hstep : advanceOrFinishStage st.cursor = .ok t) :
    Invariant args rounds { st with cursor := t.after } := by
  obtain ⟨t', ht, -, hafter, hadvances⟩ := h.place.advance
  obtain rfl := Except.ok.inj (hstep.symm.trans ht)
  refine ⟨hafter, h.ids, ?_, h.nodup⟩
  intro g hg
  obtain ⟨stage, hstage, hqueue⟩ := h.entered g hg
  refine ⟨stage, hstage, fun hmem => hqueue ?_⟩
  rcases hadvances.stageQueue h.place hafter with ⟨heq, -⟩ | ⟨next, -, -, heq⟩
  · exact heq ▸ hmem
  · exact heq ▸ List.mem_cons_of_mem _ hmem

/-- A round preserves the invariant. -/
lemma StageRun.Invariant.round {rounds : List StageRound} {st st₁ st₂ : StageRunState}
    {t : StageCursorTransition} {stage : ReviewStage}
    {selected kept : List (Checked SelectedReviewer)}
    {budgeted : BudgetedReviewers} {runs : List (Checked SelectedReviewer × ReviewerOutcome)}
    (h : Invariant args rounds st) (hstep : advanceOrFinishStage st.cursor = .ok t)
    (hreason : ¬ restoreReason <+: t.transitionReason) (hactive : t.after.activeStage = some stage)
    (hselect : args.selectReviewersForActiveStage { st with cursor := t.after } = .ok selected)
    (hkeep : kept.Sublist selected)
    (hbudget : (args.roundBudget st kept).applyReviewerBudget = .ok budgeted)
    (hruns : runs.map Prod.fst = budgeted.retainedReviewers)
    (hrecord : runs.foldlM args.recordOutcome {
      cursor := t.after
      clarificationRequests := st.clarificationRequests
      localNotes := st.localNotes ++ budgeted.localNotes.map fun note => ⟨true, note⟩
      retainedReviewerCount := st.retainedReviewerCount + budgeted.retainedReviewers.length
      plannedLiveCalls := st.plannedLiveCalls + budgeted.contextBudget.val.plannedLiveCalls
      clarificationNeeded := false } = .ok st₁)
    (hclose : args.closeRound st₁ = .ok st₂) :
    Invariant args (rounds ++ [⟨stage, args.roundBudget st kept, runs⟩]) st₂ := by
  obtain ⟨t', ht, -, hafter, hadvances⟩ := h.place.advance
  obtain rfl := Except.ok.inj (hstep.symm.trans ht)
  obtain ⟨hstages, hnames⟩ := selectReviewersForActiveStage_eq_ok hactive hselect
  obtain ⟨hbudgetIds, hretained⟩ := applyReviewerBudget_eq_ok hbudget
  obtain ⟨hcursor, hids⟩ := foldlM_recordOutcome hrecord
  have hcloses := closeRound_keeps hclose
  let round : StageRound := ⟨stage, args.roundBudget st kept, runs⟩
  have hsub : (round.runs.map Prod.fst).Sublist round.budget.reviewers := hruns ▸ hretained
  have hround : ∀ r ∈ round.budget.reviewers, r.val.stage = round.stage.value :=
    fun r hr => hstages r (hkeep.subset hr)
  have hall : args.allGenerated (rounds ++ [round]) = args.allGenerated rounds ++
      args.generated round := by
    simp [StageRunArguments.allGenerated]
  have hqueue : st₂.cursor.stageQueue = t.after.stageQueue := by
    rw [hcloses.queue, hcursor]
  -- A stage that is entered is not queued any more, and a normal stage was queued before.
  have hentered : stage ∉ t.after.stageQueue ∧
      (∀ s ∈ t.after.stageQueue, s ∈ st.cursor.stageQueue) ∧
      (stage ≠ .clarificationReview → stage ∈ st.cursor.stageQueue) := by
    rcases hadvances.stageQueue h.place hafter with ⟨heq, hcases⟩ | ⟨next, hnext, hnormal, heq⟩
    · obtain rfl : stage = .clarificationReview := by
        rcases hcases with hnone | hclarification | hbefore
        · rw [hactive] at hnone
          contradiction
        · exact Option.some.inj (hactive.symm.trans hclarification)
        · exact absurd (restoreReason_of_clarification hbefore hstep) hreason
      exact ⟨hafter.clarification_not_mem, fun s hs => heq ▸ hs, fun hne => absurd rfl hne⟩
    · obtain rfl := Option.some.inj (hactive.symm.trans hnext)
      have hnodup := h.place.nodup_stageQueue
      rw [heq] at hnodup
      refine ⟨(List.nodup_cons.1 hnodup).1, fun s hs => ?_, fun _ => ?_⟩
      · rw [heq]
        exact List.mem_cons_of_mem _ hs
      · rw [heq]
        exact List.mem_cons_self
  refine ⟨?place, ?ids, ?entered, ?nodup⟩
  case place =>
    refine hcloses.place (hcursor ▸ hafter) ?_
    rw [hcursor, hactive]
    exact Option.some_ne_none _
  case ids =>
    rw [hall, List.map_append, ← h.ids]
    have hnotes : st₂.generatedIds = st₁.generatedIds := by
      unfold StageRunState.generatedIds StageRunState.generatedNotes
      rw [hcloses.notes]
    rw [hnotes, hids, StageRunArguments.generated, List.map_append, ← List.append_assoc]
    congr 1
    rw [StageRunState.generatedIds, StageRunState.generatedNotes, List.filter_append,
      List.map_append, List.map_append]
    congr 1
    rw [← hbudgetIds]
    simp [List.filter_map, Function.comp_def]
  case entered =>
    intro g hg
    rw [hall] at hg
    rw [hqueue]
    rcases List.mem_append.1 hg with hg | hg
    · obtain ⟨s, hs, hnot⟩ := h.entered g hg
      exact ⟨s, hs, fun hmem => hnot (hentered.2.1 s hmem)⟩
    · exact ⟨stage, stage_of_mem_generated hsub hround hg, hentered.1⟩
  case nodup =>
    rw [hall, List.filter_append]
    by_cases hclarification : stage = .clarificationReview
    · have hnone : (args.generated round).filter GeneratedNote.isNormal = [] := by
        refine List.filter_eq_nil_iff.2 fun g hg => ?_
        have hstage := stage_of_mem_generated hsub hround hg
        simp [GeneratedNote.isNormal, hstage, round, hclarification]
      rw [hnone, List.append_nil]
      exact h.nodup
    · have hnodup : (round.budget.reviewers.map fun r => r.val.name).Nodup :=
        (hnames hclarification).sublist (hkeep.map _)
      refine List.nodup_append.2 ⟨h.nodup, (nodup_generated hsub hnodup).filter _, ?_⟩
      rintro g hg g' hg' rfl
      obtain ⟨s, hs, hnot⟩ := h.entered g (List.mem_filter.1 hg).1
      have hstage := stage_of_mem_generated hsub hround (List.mem_filter.1 hg').1
      obtain rfl := ReviewStage.value_injective (hs.symm.trans hstage)
      exact hnot (hentered.2.2 hclarification)

/-- Every run satisfies the invariant. -/
theorem StageRun.invariant {rounds : List StageRound} {st : StageRunState}
    (h : StageRun args rounds st) : Invariant args rounds st := by
  induction h with
  | start =>
    exact ⟨.start, rfl, fun g hg => absurd hg List.not_mem_nil, List.nodup_nil⟩
  | restore run isOpen step reason ih => exact ih.restore step
  | round run isOpen step reason active select keep eligible budget answers record close ih =>
    exact ih.round step reason active select keep budget answers record close

end Rounds

end ReviewGraph
