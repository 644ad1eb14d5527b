import ReviewGraph.ContextBudget

/-!
# The budget of reviewers and live calls

`apply_reviewer_budget` and `merge_context_budgets` of `context_budget.py`, and how
`_run_review_stages` threads them through the stages of a run.  A stage keeps reviewers as long as
both budgets allow it; `ReviewerBudgetState.Invariant` says what the greedy loop has done so far,
and the run lemma adds up the stages.
-/

namespace ReviewGraph

/-- `reviewer_key`. -/
def reviewerKey (reviewer : SelectedReviewer) : Text := reviewer.stage ++ (":" ++ reviewer.name)

/-- The costs of live calls, by reviewer key or name. -/
abbrev LiveCallCosts : Type := Text → Option ℤ

/-- `_live_call_cost`. -/
def liveCallCost (costs : LiveCallCosts) (reviewer : SelectedReviewer) : Result ℕ :=
  let value := (costs (reviewerKey reviewer)).getD ((costs reviewer.name).getD 0)
  if value < 0 then
    .error (.valueError "reviewer live-call costs must be non-negative integers")
  else .ok value.toNat

/-- `_deferred_reviewer_note`. -/
def deferredReviewerNote (reviewer : SelectedReviewer) (marker : OmittedContextMarker) :
    Result (Checked LocalNote) :=
  markerNote marker "Reviewer deferred by context budget"
    (reviewer.name ++ (" was selected for " ++ (reviewer.stage ++
      " but skipped before execution.")))
    (marker.reasonCode ++ ("; trigger reasons: " ++ Text.join ", " reviewer.reasons))

/-! ## One stage -/

/-- `BudgetedReviewers`. -/
structure BudgetedReviewers where
  contextBudget : Checked ContextBudget
  retainedReviewers : List (Checked SelectedReviewer)
  deferredReviewers : List (Checked SelectedReviewer)
  localNotes : List (Checked LocalNote)
  deriving DecidableEq

/-- The variables of the loop of `apply_reviewer_budget`. -/
structure ReviewerBudgetState where
  retained : List (Checked SelectedReviewer)
  deferred : List (Checked SelectedReviewer)
  plannedLiveCalls : ℕ
  retainedLiveCallIds : List Text
  deferredLiveCallIds : List Text
  localNotes : List (Checked LocalNote)
  markers : List (Checked OmittedContextMarker)
  reasons : List Text

/-- The arguments of `apply_reviewer_budget`. -/
structure ReviewerBudgetArguments where
  reviewers : List (Checked SelectedReviewer)
  limits : Checked ContextBudget
  liveCallCosts : LiveCallCosts
  retainedReviewerCount : ℕ
  plannedLiveCalls : ℕ

namespace ReviewerBudgetArguments

variable (args : ReviewerBudgetArguments)

/-- A reviewer is deferred. -/
def deferReviewer (st : ReviewerBudgetState) (reviewer : Checked SelectedReviewer)
    (space reasonCode dimension : Text) (counts : MarkerCounts) (liveCallIds : List Text) :
    Result ReviewerBudgetState := do
  let marker ← omittedMarker space reasonCode dimension (reviewerKey reviewer.val) counts
  let note ← deferredReviewerNote reviewer.val marker.val
  return {
    retained := st.retained
    deferred := st.deferred ++ [reviewer]
    plannedLiveCalls := st.plannedLiveCalls
    retainedLiveCallIds := st.retainedLiveCallIds
    deferredLiveCallIds := st.deferredLiveCallIds ++ liveCallIds
    localNotes := st.localNotes ++ [note]
    markers := st.markers ++ [marker]
    reasons := st.reasons ++ [reasonCode] }

/-- One round of the loop of `apply_reviewer_budget`. -/
def budgetReviewer (st : ReviewerBudgetState) (reviewer : Checked SelectedReviewer) :
    Result ReviewerBudgetState := do
  let liveCost ← liveCallCost args.liveCallCosts reviewer.val
  if args.limits.val.maxReviewers ≤ args.retainedReviewerCount + st.retained.length then
    deferReviewer st reviewer "reviewer" "reviewer_count_budget_exceeded" "reviewers" {
      originalCount := some (args.retainedReviewerCount + args.reviewers.length)
      retainedCount := some (args.retainedReviewerCount + st.retained.length) } []
  else if args.limits.val.maxLiveCalls < st.plannedLiveCalls + liveCost then
    deferReviewer st reviewer "reviewer-live-call" "live_call_budget_exceeded" "live_calls" {
      originalCount := some (st.plannedLiveCalls + liveCost)
      retainedCount := some st.plannedLiveCalls } [reviewerKey reviewer.val]
  else
    return {
      retained := st.retained ++ [reviewer]
      deferred := st.deferred
      plannedLiveCalls := st.plannedLiveCalls + liveCost
      retainedLiveCallIds := st.retainedLiveCallIds ++
        if liveCost = 0 then [] else [reviewerKey reviewer.val]
      deferredLiveCallIds := st.deferredLiveCallIds
      localNotes := st.localNotes
      markers := st.markers
      reasons := st.reasons }

/-- The variables before the loop. -/
def initialState : ReviewerBudgetState where
  retained := []
  deferred := []
  plannedLiveCalls := args.plannedLiveCalls
  retainedLiveCallIds := []
  deferredLiveCallIds := []
  localNotes := []
  markers := []
  reasons := []

/-- The budget that a stage reports. -/
def stageBudget (st : ReviewerBudgetState) (plannedLiveCalls : ℕ) : ContextBudget where
  maxChangedFiles := args.limits.val.maxChangedFiles
  maxPatchBytes := args.limits.val.maxPatchBytes
  maxMemoryBytes := args.limits.val.maxMemoryBytes
  maxReviewers := args.limits.val.maxReviewers
  maxLiveCalls := args.limits.val.maxLiveCalls
  omittedContext := dedupeMarkers st.markers
  originalReviewerCount := args.reviewers.length
  retainedReviewerCount := st.retained.length
  plannedLiveCalls := plannedLiveCalls
  retainedReviewerIds := st.retained.map fun r => reviewerKey r.val
  deferredReviewerIds := st.deferred.map fun r => reviewerKey r.val
  retainedLiveCallReviewerIds := st.retainedLiveCallIds
  deferredLiveCallReviewerIds := st.deferredLiveCallIds
  generatedLocalNoteIds := st.localNotes.map fun note => note.val.id
  reasons := unique st.reasons

/-- `apply_reviewer_budget`. -/
def applyReviewerBudget : Result BudgetedReviewers := do
  let st ← args.reviewers.foldlM args.budgetReviewer args.initialState
  let costs ← st.retained.mapM fun reviewer => liveCallCost args.liveCallCosts reviewer.val
  let budget ← construct (args.stageBudget st costs.sum)
  return {
    contextBudget := budget
    retainedReviewers := st.retained
    deferredReviewers := st.deferred
    localNotes := st.localNotes }

end ReviewerBudgetArguments

/-! ## The stages of a run -/

/-- `merge_context_budgets`. -/
def mergeContextBudgets (base : ContextBudget) (budgets : List (Checked ContextBudget)) :
    Result (Checked ContextBudget) :=
  construct {
    maxChangedFiles := base.maxChangedFiles
    maxPatchBytes := base.maxPatchBytes
    maxMemoryBytes := base.maxMemoryBytes
    maxReviewers := base.maxReviewers
    maxLiveCalls := base.maxLiveCalls
    truncation := dedupeTruncation (base.truncation ++ budgets.flatMap (·.val.truncation))
    omittedContext := dedupeMarkers (base.omittedContext ++ budgets.flatMap (·.val.omittedContext))
    originalChangedFileCount := base.originalChangedFileCount
    retainedChangedFileCount := base.retainedChangedFileCount
    originalPatchBytes := base.originalPatchBytes
    retainedPatchBytes := base.retainedPatchBytes
    originalMemoryCount := base.originalMemoryCount
    retainedMemoryCount := base.retainedMemoryCount
    originalMemoryBytes := base.originalMemoryBytes
    retainedMemoryBytes := base.retainedMemoryBytes
    originalReviewerCount := base.originalReviewerCount +
      (budgets.map (·.val.originalReviewerCount)).sum
    retainedReviewerCount := base.retainedReviewerCount +
      (budgets.map (·.val.retainedReviewerCount)).sum
    plannedLiveCalls := base.plannedLiveCalls + (budgets.map (·.val.plannedLiveCalls)).sum
    retainedFilePaths := base.retainedFilePaths
    omittedFilePaths := base.omittedFilePaths
    retainedMemoryIds := base.retainedMemoryIds
    omittedMemoryIds := base.omittedMemoryIds
    retainedReviewerIds := base.retainedReviewerIds ++ budgets.flatMap (·.val.retainedReviewerIds)
    deferredReviewerIds := base.deferredReviewerIds ++ budgets.flatMap (·.val.deferredReviewerIds)
    retainedLiveCallReviewerIds := base.retainedLiveCallReviewerIds ++
      budgets.flatMap (·.val.retainedLiveCallReviewerIds)
    deferredLiveCallReviewerIds := base.deferredLiveCallReviewerIds ++
      budgets.flatMap (·.val.deferredLiveCallReviewerIds)
    generatedLocalNoteIds := unique (base.generatedLocalNoteIds ++
      budgets.flatMap (·.val.generatedLocalNoteIds))
    reasons := unique (base.reasons ++ budgets.flatMap (·.val.reasons)) }

/-- What a stage selects, and the costs of its live calls. -/
structure StageSelection where
  reviewers : List (Checked SelectedReviewer)
  liveCallCosts : LiveCallCosts

/-- The budgets of the stages of `_run_review_stages`, given how many reviewers the stages before
have kept and how many live calls they plan. -/
def budgetStages (limits : Checked ContextBudget) : ℕ → ℕ → List StageSelection →
    Result (List BudgetedReviewers)
  | _, _, [] => .ok []
  | retainedReviewerCount, plannedLiveCalls, stage :: stages => do
    let budgeted ← ReviewerBudgetArguments.applyReviewerBudget {
      reviewers := stage.reviewers
      limits
      liveCallCosts := stage.liveCallCosts
      retainedReviewerCount
      plannedLiveCalls }
    let rest ← budgetStages limits (retainedReviewerCount + budgeted.retainedReviewers.length)
      (plannedLiveCalls + budgeted.contextBudget.val.plannedLiveCalls) stages
    return budgeted :: rest

/-! ## What the loop has done so far -/

/-- The costs are what the code accepts. -/
def LiveCallCosts.Valid (costs : LiveCallCosts) : Prop := ∀ key, ∀ cost ∈ costs key, 0 ≤ cost

/-- The number of live calls that a reviewer costs. -/
def LiveCallCosts.cost (costs : LiveCallCosts) (reviewer : SelectedReviewer) : ℕ :=
  ((costs (reviewerKey reviewer)).getD ((costs reviewer.name).getD 0)).toNat

/-- Valid costs are read without an exception. -/
lemma liveCallCost_ok {costs : LiveCallCosts} (h : costs.Valid) (reviewer : SelectedReviewer) :
    liveCallCost costs reviewer = .ok (costs.cost reviewer) := by
  have hdefault : ∀ (key : Text) (default : ℤ), 0 ≤ default → 0 ≤ (costs key).getD default := by
    intro key default hle
    cases hcost : costs key with
    | none => exact hle
    | some cost => exact h key cost hcost
  have hvalue := hdefault (reviewerKey reviewer) _ (hdefault reviewer.name 0 le_rfl)
  unfold liveCallCost LiveCallCosts.cost
  dsimp only
  rw [if_neg (by omega)]

/-- The key of a reviewer is not empty. -/
lemma reviewerKey_ne_nil (reviewer : SelectedReviewer) : reviewerKey reviewer ≠ [] := by
  simp [reviewerKey]

namespace ReviewerBudgetArguments

variable {args : ReviewerBudgetArguments}

/-- The stages before have respected both limits. -/
structure WithinLimits (args : ReviewerBudgetArguments) : Prop where
  /-- The reviewers kept so far. -/
  reviewers : args.retainedReviewerCount ≤ args.limits.val.maxReviewers
  /-- The live calls planned so far. -/
  liveCalls : args.plannedLiveCalls ≤ args.limits.val.maxLiveCalls

/-- The loop after some reviewers. -/
structure Invariant (args : ReviewerBudgetArguments) (processed : List (Checked SelectedReviewer))
    (st : ReviewerBudgetState) : Prop where
  /-- Each reviewer is kept or deferred, in order. -/
  interleaving : List.Interleaving st.retained st.deferred processed
  /-- The limit of reviewers is respected. -/
  reviewers : args.retainedReviewerCount + st.retained.length ≤ args.limits.val.maxReviewers
  /-- The limit of live calls is respected. -/
  liveCalls : st.plannedLiveCalls ≤ args.limits.val.maxLiveCalls
  /-- The planned calls are those of the reviewers that are kept. -/
  planned : st.plannedLiveCalls = args.plannedLiveCalls +
    (st.retained.map fun r => args.liveCallCosts.cost r.val).sum
  /-- The identifiers of kept live calls are not empty. -/
  retainedIds : ∀ id ∈ st.retainedLiveCallIds, id ≠ []
  /-- The identifiers of deferred live calls are not empty. -/
  deferredIds : ∀ id ∈ st.deferredLiveCallIds, id ≠ []
  /-- Every reason is a text. -/
  reasons : ∀ reason ∈ st.reasons, reason ≠ []

/-- The loop starts with nothing done. -/
lemma WithinLimits.invariant (h : args.WithinLimits) : args.Invariant [] args.initialState where
  interleaving := .nil
  reviewers := by simpa [initialState] using h.reviewers
  liveCalls := h.liveCalls
  planned := by simp [initialState]
  retainedIds := by simp [initialState]
  deferredIds := by simp [initialState]
  reasons := by simp [initialState]

/-- Deferring a reviewer keeps the invariant. -/
lemma Invariant.defer {processed : List (Checked SelectedReviewer)} {st : ReviewerBudgetState}
    (h : args.Invariant processed st) (reviewer : Checked SelectedReviewer)
    (space : Text) {reasonCode dimension : Text} (hreason : reasonCode ≠ [])
    (hdimension : dimension ≠ []) (counts : MarkerCounts) {liveCallIds : List Text}
    (hids : ∀ id ∈ liveCallIds, id ≠ []) :
    ∃ st', deferReviewer st reviewer space reasonCode dimension counts liveCallIds = .ok st' ∧
      args.Invariant (processed ++ [reviewer]) st' := by
  obtain ⟨marker, hmarker, -, -, hcode, -⟩ := omittedMarker_ok space hreason hdimension
    (reviewerKey_ne_nil reviewer.val) counts
  obtain ⟨note, hnote⟩ : ∃ note, deferredReviewerNote reviewer.val marker.val = .ok note :=
    markerNote_ok marker.val (by simp) (by simp) (by simp)
  refine ⟨_, bind_eq_ok.2 ⟨marker, hmarker, bind_eq_ok.2 ⟨note, hnote, rfl⟩⟩, ?_⟩
  constructor
  · exact h.interleaving.concat_right reviewer
  · exact h.reviewers
  · exact h.liveCalls
  · exact h.planned
  · exact h.retainedIds
  · intro id hid
    rcases List.mem_append.1 hid with hid | hid
    · exact h.deferredIds id hid
    · exact hids id hid
  · intro reason hmem
    rcases List.mem_append.1 hmem with hmem | hmem
    · exact h.reasons reason hmem
    · rw [List.mem_singleton.1 hmem]
      exact hreason

/-- One round of the loop keeps the invariant. -/
lemma Invariant.budgetReviewer {processed : List (Checked SelectedReviewer)}
    {st : ReviewerBudgetState} (h : args.Invariant processed st) (hcosts : args.liveCallCosts.Valid)
    (reviewer : Checked SelectedReviewer) :
    ∃ st', args.budgetReviewer st reviewer = .ok st' ∧
      args.Invariant (processed ++ [reviewer]) st' := by
  have hkey := reviewerKey_ne_nil reviewer.val
  unfold ReviewerBudgetArguments.budgetReviewer
  rw [liveCallCost_ok hcosts, ok_bind]
  split
  · exact h.defer reviewer _ (by simp) (by simp) _ (by simp)
  rename_i hcount
  split
  · exact h.defer reviewer _ (by simp) (by simp) _ (by simpa using hkey)
  rename_i hcalls
  refine ⟨_, rfl, ?_⟩
  constructor
  · exact h.interleaving.concat_left reviewer
  · rw [List.length_append, List.length_singleton]
    omega
  · exact not_lt.1 hcalls
  · have hplanned := h.planned
    simp only [List.map_append, List.map_singleton, List.sum_append, List.sum_singleton]
    omega
  · intro id hid
    rcases List.mem_append.1 hid with hid | hid
    · exact h.retainedIds id hid
    · split at hid
      · cases hid
      · exact List.mem_singleton.1 hid ▸ hkey
  · exact h.deferredIds
  · exact h.reasons

/-- The loop keeps the invariant. -/
lemma Invariant.foldlM {processed : List (Checked SelectedReviewer)}
    {st : ReviewerBudgetState} (h : args.Invariant processed st)
    (hcosts : args.liveCallCosts.Valid) (reviewers : List (Checked SelectedReviewer)) :
    ∃ st', reviewers.foldlM args.budgetReviewer st = .ok st' ∧
      args.Invariant (processed ++ reviewers) st' := by
  induction reviewers generalizing processed st with
  | nil => exact ⟨st, rfl, by simpa using h⟩
  | cons reviewer reviewers ih =>
    obtain ⟨st₁, hstep, h₁⟩ := h.budgetReviewer hcosts reviewer
    obtain ⟨st₂, hloop, h₂⟩ := ih h₁
    refine ⟨st₂, ?_, by simpa using h₂⟩
    rw [List.foldlM_cons, hstep, ok_bind, hloop]

/-- What one stage reports. -/
structure StageReport (args : ReviewerBudgetArguments) (b : BudgetedReviewers) : Prop where
  /-- Each selected reviewer is kept or deferred, in order. -/
  interleaving : List.Interleaving b.retainedReviewers b.deferredReviewers args.reviewers
  /-- The limit of reviewers is respected. -/
  reviewers : args.retainedReviewerCount + b.retainedReviewers.length ≤ args.limits.val.maxReviewers
  /-- The planned calls are those of the reviewers that are kept. -/
  planned : b.contextBudget.val.plannedLiveCalls =
    (b.retainedReviewers.map fun r => args.liveCallCosts.cost r.val).sum
  /-- The limit of live calls is respected. -/
  liveCalls : args.plannedLiveCalls + b.contextBudget.val.plannedLiveCalls ≤
    args.limits.val.maxLiveCalls
  /-- The report counts the selected reviewers. -/
  originalCount : b.contextBudget.val.originalReviewerCount = args.reviewers.length
  /-- The report counts the reviewers that are kept. -/
  retainedCount : b.contextBudget.val.retainedReviewerCount = b.retainedReviewers.length
  /-- The report names the reviewers that are kept. -/
  retainedIds : b.contextBudget.val.retainedReviewerIds =
    b.retainedReviewers.map fun r => reviewerKey r.val
  /-- The report names the reviewers that are deferred. -/
  deferredIds : b.contextBudget.val.deferredReviewerIds =
    b.deferredReviewers.map fun r => reviewerKey r.val

/-- A stage whose costs are valid is budgeted. -/
theorem WithinLimits.applyReviewerBudget (h : args.WithinLimits)
    (hcosts : args.liveCallCosts.Valid) :
    ∃ b, args.applyReviewerBudget = .ok b ∧ args.StageReport b := by
  obtain ⟨st, hloop, hst⟩ := h.invariant.foldlM hcosts args.reviewers
  have hmap : (st.retained.mapM fun reviewer => liveCallCost args.liveCallCosts reviewer.val) =
      .ok (st.retained.map fun r => args.liveCallCosts.cost r.val) := by
    refine mapM_eq_ok.2 ?_
    rw [List.forall₂_map_right_iff, List.forall₂_same]
    intro r _
    exact liveCallCost_ok hcosts r.val
  have hplanned := hst.planned
  have hcalls := hst.liveCalls
  generalize hsum : (st.retained.map fun r => args.liveCallCosts.cost r.val).sum =
    planned at hplanned
  have hlimits := ContextBudget.postInit_eq_ok.1 args.limits.property
  have hchecks : Record.postInit (args.stageBudget st planned) = .ok () := by
    refine ContextBudget.postInit_eq_ok.2 ⟨hlimits.1, hlimits.2.1, hlimits.2.2.1,
      hlimits.2.2.2.1, by simp [stageBudget], by simp [stageBudget], by simp [stageBudget],
      by simp [stageBudget], ?_, ?_, hst.retainedIds, hst.deferredIds, ?_, ?_⟩
    · intro id hid
      obtain ⟨r, -, rfl⟩ := List.mem_map.1 hid
      exact reviewerKey_ne_nil r.val
    · intro id hid
      obtain ⟨r, -, rfl⟩ := List.mem_map.1 hid
      exact reviewerKey_ne_nil r.val
    · intro id hid
      obtain ⟨note, -, rfl⟩ := List.mem_map.1 hid
      have hnote := note.property
      simp only [Record.postInit, check_bind_eq_ok, requireNonEmpty_eq_ok] at hnote
      exact hnote.1
    · intro reason hmem
      exact hst.reasons reason (mem_of_mem_unique hmem)
  have hbudget : args.applyReviewerBudget = .ok ⟨⟨_, hchecks⟩, st.retained, st.deferred,
      st.localNotes⟩ := by
    unfold ReviewerBudgetArguments.applyReviewerBudget
    rw [hloop, ok_bind, hmap, ok_bind, hsum, construct_of_postInit hchecks]
    rfl
  refine ⟨_, hbudget, ?_⟩
  constructor
  · simpa using hst.interleaving
  · exact hst.reviewers
  · exact hsum.symm
  · dsimp only [stageBudget]
    omega
  · rfl
  · rfl
  · rfl
  · rfl

end ReviewerBudgetArguments

/-! ## What a whole run reports -/

/-- What a run has kept in one of its stages. -/
structure StageKeeps (limits : Checked ContextBudget) (stage : StageSelection)
    (b : BudgetedReviewers) : Prop where
  /-- Each selected reviewer is kept or deferred, in order. -/
  interleaving : List.Interleaving b.retainedReviewers b.deferredReviewers stage.reviewers
  /-- The planned calls are those of the reviewers that are kept. -/
  planned : b.contextBudget.val.plannedLiveCalls =
    (b.retainedReviewers.map fun r => stage.liveCallCosts.cost r.val).sum
  /-- The report counts the selected reviewers. -/
  originalCount : b.contextBudget.val.originalReviewerCount = stage.reviewers.length
  /-- The report counts the reviewers that are kept. -/
  retainedCount : b.contextBudget.val.retainedReviewerCount = b.retainedReviewers.length
  /-- The report names the reviewers that are kept. -/
  retainedIds : b.contextBudget.val.retainedReviewerIds =
    b.retainedReviewers.map fun r => reviewerKey r.val
  /-- The report names the reviewers that are deferred. -/
  deferredIds : b.contextBudget.val.deferredReviewerIds =
    b.deferredReviewers.map fun r => reviewerKey r.val

/-- The stages of a run respect the limits together. -/
lemma budgetStages_ok (limits : Checked ContextBudget) {stages : List StageSelection}
    (hcosts : ∀ stage ∈ stages, stage.liveCallCosts.Valid) (count planned : ℕ)
    (hcount : count ≤ limits.val.maxReviewers) (hplanned : planned ≤ limits.val.maxLiveCalls) :
    ∃ bs, budgetStages limits count planned stages = .ok bs ∧
      count + (bs.map fun b => b.retainedReviewers.length).sum ≤ limits.val.maxReviewers ∧
      planned + (bs.map fun b => b.contextBudget.val.plannedLiveCalls).sum ≤
        limits.val.maxLiveCalls ∧
      List.Forall₂ (StageKeeps limits) stages bs := by
  induction stages generalizing count planned with
  | nil => exact ⟨[], rfl, by simpa using hcount, by simpa using hplanned, .nil⟩
  | cons stage stages ih =>
    have hwithin : ReviewerBudgetArguments.WithinLimits
        ⟨stage.reviewers, limits, stage.liveCallCosts, count, planned⟩ := ⟨hcount, hplanned⟩
    obtain ⟨b, hb, hreport⟩ := hwithin.applyReviewerBudget (hcosts stage List.mem_cons_self)
    have hreviewers := hreport.reviewers
    have hcalls := hreport.liveCalls
    dsimp only at hreviewers hcalls
    obtain ⟨bs, hbs, hsum, hsum', hall⟩ := ih
      (fun stage' hstage' => hcosts stage' (List.mem_cons_of_mem _ hstage')) _ _ hreviewers hcalls
    refine ⟨b :: bs, ?_, ?_, ?_, .cons ?_ hall⟩
    · rw [budgetStages, hb, ok_bind, hbs, ok_bind]
      rfl
    · rw [List.map_cons, List.sum_cons]
      omega
    · rw [List.map_cons, List.sum_cons]
      omega
    · exact ⟨hreport.interleaving, hreport.planned, hreport.originalCount, hreport.retainedCount,
        hreport.retainedIds, hreport.deferredIds⟩

/-- Budgets are always merged. -/
lemma mergeContextBudgets_ok (base : Checked ContextBudget)
    (budgets : List (Checked ContextBudget)) :
    ∃ merged, mergeContextBudgets base.val budgets = .ok merged := by
  have hbase := ContextBudget.postInit_eq_ok.1 base.property
  obtain ⟨h₁, h₂, h₃, h₄, h₅, h₆, h₇, h₈, h₉, h₁₀, h₁₁, h₁₂, h₁₃, h₁₄⟩ := hbase
  have hall : ∀ (f : ContextBudget → List Text), (∀ t ∈ f base.val, t ≠ []) →
      (∀ b : Checked ContextBudget, ∀ t ∈ f b.val, t ≠ []) →
      ∀ t ∈ f base.val ++ budgets.flatMap (fun b => f b.val), t ≠ [] := by
    intro f hf hfs t ht
    rcases List.mem_append.1 ht with ht | ht
    · exact hf t ht
    · obtain ⟨b, -, htb⟩ := List.mem_flatMap.1 ht
      exact hfs b t htb
  have hchecked := fun b : Checked ContextBudget => ContextBudget.postInit_eq_ok.1 b.property
  refine ⟨⟨_, ?checks⟩, construct_of_postInit ?checks⟩
  case checks =>
    refine ContextBudget.postInit_eq_ok.2 ⟨h₁, h₂, h₃, h₄, h₅, h₆, h₇, h₈, ?_, ?_, ?_, ?_, ?_, ?_⟩
    · exact hall ContextBudget.retainedReviewerIds h₉ fun b => (hchecked b).2.2.2.2.2.2.2.2.1
    · exact hall ContextBudget.deferredReviewerIds h₁₀ fun b => (hchecked b).2.2.2.2.2.2.2.2.2.1
    · exact hall ContextBudget.retainedLiveCallReviewerIds h₁₁ fun b =>
        (hchecked b).2.2.2.2.2.2.2.2.2.2.1
    · exact hall ContextBudget.deferredLiveCallReviewerIds h₁₂ fun b =>
        (hchecked b).2.2.2.2.2.2.2.2.2.2.2.1
    · intro t ht
      exact hall ContextBudget.generatedLocalNoteIds h₁₃
        (fun b => (hchecked b).2.2.2.2.2.2.2.2.2.2.2.2.1) t (mem_of_mem_unique ht)
    · intro t ht
      exact hall ContextBudget.reasons h₁₄ (fun b => (hchecked b).2.2.2.2.2.2.2.2.2.2.2.2.2) t
        (mem_of_mem_unique ht)

/-- The sums over the stages of a run. -/
lemma sum_of_forall₂ {limits : Checked ContextBudget} {stages : List StageSelection}
    {bs : List BudgetedReviewers} (h : List.Forall₂ (StageKeeps limits) stages bs) :
    (bs.map fun b => b.contextBudget.val.originalReviewerCount).sum =
        (stages.map fun stage => stage.reviewers.length).sum ∧
      (bs.map fun b => b.contextBudget.val.retainedReviewerCount).sum =
        (bs.map fun b => b.retainedReviewers.length).sum ∧
      (bs.flatMap fun b => b.contextBudget.val.retainedReviewerIds) =
        (bs.flatMap fun b => b.retainedReviewers.map fun r => reviewerKey r.val) ∧
      (bs.flatMap fun b => b.contextBudget.val.deferredReviewerIds) =
        (bs.flatMap fun b => b.deferredReviewers.map fun r => reviewerKey r.val) := by
  induction h with
  | nil => exact ⟨rfl, rfl, rfl, rfl⟩
  | cons hstage _ ih =>
    obtain ⟨h₁, h₂, h₃, h₄⟩ := ih
    simp only [List.map_cons, List.sum_cons, List.flatMap_cons, h₁, h₂, h₃, h₄,
      hstage.originalCount, hstage.retainedCount, hstage.retainedIds, hstage.deferredIds]
    exact ⟨trivial, trivial, trivial, trivial⟩

/-- A whole run keeps at most as many reviewers and plans at most as many live calls as the limits
allow; every stage splits its selection into kept and deferred reviewers, in order; and the merged
budget adds up the stages, with their markers of omitted context once for each identifier. -/
theorem reviewerBudget_run (limits : Checked ContextBudget) (stages : List StageSelection)
    (hcosts : ∀ stage ∈ stages, stage.liveCallCosts.Valid) :
    ∃ (bs : List BudgetedReviewers) (merged : Checked ContextBudget),
      budgetStages limits 0 0 stages = .ok bs ∧
      mergeContextBudgets limits.val (bs.map fun b => b.contextBudget) = .ok merged ∧
      (bs.map fun b => b.retainedReviewers.length).sum ≤ limits.val.maxReviewers ∧
      (bs.map fun b => b.contextBudget.val.plannedLiveCalls).sum ≤ limits.val.maxLiveCalls ∧
      List.Forall₂ (fun stage b =>
        List.Interleaving b.retainedReviewers b.deferredReviewers stage.reviewers ∧
        b.contextBudget.val.plannedLiveCalls =
          (b.retainedReviewers.map fun r => stage.liveCallCosts.cost r.val).sum) stages bs ∧
      merged.val.originalReviewerCount = limits.val.originalReviewerCount +
        (stages.map fun stage => stage.reviewers.length).sum ∧
      merged.val.retainedReviewerCount = limits.val.retainedReviewerCount +
        (bs.map fun b => b.retainedReviewers.length).sum ∧
      merged.val.plannedLiveCalls = limits.val.plannedLiveCalls +
        (bs.map fun b => b.contextBudget.val.plannedLiveCalls).sum ∧
      merged.val.retainedReviewerIds = limits.val.retainedReviewerIds ++
        bs.flatMap (fun b => b.retainedReviewers.map fun r => reviewerKey r.val) ∧
      merged.val.deferredReviewerIds = limits.val.deferredReviewerIds ++
        bs.flatMap (fun b => b.deferredReviewers.map fun r => reviewerKey r.val) ∧
      merged.val.deferredLiveCallReviewerIds = limits.val.deferredLiveCallReviewerIds ++
        bs.flatMap (fun b => b.contextBudget.val.deferredLiveCallReviewerIds) ∧
      merged.val.omittedContext = (limits.val.omittedContext ++
        bs.flatMap fun b => b.contextBudget.val.omittedContext).firstBy (fun m => m.val.id) := by
  obtain ⟨bs, hbs, hreviewers, hcalls, hall⟩ :=
    budgetStages_ok limits hcosts 0 0 (Nat.zero_le _) (Nat.zero_le _)
  obtain ⟨merged, hmerged⟩ := mergeContextBudgets_ok limits (bs.map fun b => b.contextBudget)
  rw [Nat.zero_add] at hreviewers hcalls
  obtain ⟨horiginal, hretained, hretainedIds, hdeferredIds⟩ := sum_of_forall₂ hall
  have hval := construct_eq_ok.1 hmerged
  refine ⟨bs, merged, hbs, hmerged, hreviewers, hcalls,
    hall.imp fun stage b hstage => ⟨hstage.interleaving, hstage.planned⟩, ?_⟩
  rw [hval, ← horiginal, ← hretained, ← hretainedIds, ← hdeferredIds]
  simp only [List.map_map, List.flatMap_map, Function.comp_def, dedupeMarkers, and_self]

/-- Limits that admit one reviewer and no live call. -/
def oneReviewer : Checked ContextBudget :=
  ⟨{ maxChangedFiles := 1, maxPatchBytes := 1, maxMemoryBytes := 1, maxReviewers := 1,
     maxLiveCalls := 0 }, by decide +kernel⟩

/-- The review of clarifications by two reviewers, without live calls. -/
def clarificationStage : StageSelection where
  reviewers :=
    [⟨⟨"logic", "clarification_review", ["resume"]⟩, by decide +kernel⟩,
      ⟨⟨"security", "clarification_review", ["resume"]⟩, by decide +kernel⟩]
  liveCallCosts := fun _ => none

/-- Two rounds of clarification keep one reviewer in total. -/
theorem reviewerBudget_run_clarifications : ∃ bs : List BudgetedReviewers,
    budgetStages oneReviewer 0 0 [clarificationStage, clarificationStage] = .ok bs ∧
      (bs.map fun b => b.retainedReviewers.length).sum ≤ 1 := by
  have hcosts : ∀ stage ∈ [clarificationStage, clarificationStage], stage.liveCallCosts.Valid := by
    intro stage hstage key cost hcost
    simp only [List.mem_cons, List.not_mem_nil, or_false, or_self] at hstage
    rw [hstage] at hcost
    cases hcost
  obtain ⟨bs, -, hbs, -, hreviewers, -⟩ :=
    reviewerBudget_run oneReviewer [clarificationStage, clarificationStage] hcosts
  exact ⟨bs, hbs, hreviewers⟩

/-- A reviewer that is deferred in two rounds of clarification is reported as omitted context once:
the merged report is not the concatenation of the reports of the stages. -/
theorem mergedOmissions_not_concatenated : ∃ (bs : List BudgetedReviewers)
    (merged : Checked ContextBudget),
      budgetStages oneReviewer 0 0 [clarificationStage, clarificationStage] = .ok bs ∧
      mergeContextBudgets oneReviewer.val (bs.map fun b => b.contextBudget) = .ok merged ∧
      merged.val.omittedContext ≠ oneReviewer.val.omittedContext ++
        bs.flatMap fun b => b.contextBudget.val.omittedContext := by
  have hrun : (do
      let bs ← budgetStages oneReviewer 0 0 [clarificationStage, clarificationStage]
      let merged ← mergeContextBudgets oneReviewer.val (bs.map fun b => b.contextBudget)
      return decide (merged.val.omittedContext = oneReviewer.val.omittedContext ++
        bs.flatMap fun b => b.contextBudget.val.omittedContext)) = (.ok false : Result Bool) := by
    decide +kernel
  obtain ⟨bs, hbs, hrest⟩ := bind_eq_ok.1 hrun
  obtain ⟨merged, hmerged, hret⟩ := bind_eq_ok.1 hrest
  exact ⟨bs, merged, hbs, hmerged, of_decide_eq_false (pure_eq_ok.1 hret)⟩

end ReviewGraph
