import ReviewGraph.ConversationMemory
import ReviewGraph.Routing

/-!
# Routing by comments

A selection of reviewers is computed from the comments in three steps: `build_conversation_memory`,
`apply_input_context_budget` and `select_reviewers_for_stage`.  Comments of untrusted authors match
no pattern, but they use up the budget of the memory, so that bodies of trusted comments are left
out.
-/

namespace ReviewGraph

/-! ## The selection -/

/-- What a selection of reviewers reads besides the pull request. -/
structure SelectionArguments where
  languages : PatternLanguages
  config : ReviewConfig
  authors : TrustedAuthors
  limits : Checked ContextBudget
  existingTruncation : List (Checked TruncationNotice)
  stage : Text
  risk : Option RiskAssessment

namespace SelectionArguments

variable (args : SelectionArguments)

/-- The selection of the reviewers of a stage for a pull request. -/
def selectReviewers (pr : Checked PullRequestContext) : Result (List (Checked SelectedReviewer)) :=
  do
  let memory ← buildConversationMemory args.authors pr.val
  let budgeted ← applyInputContextBudget pr memory args.limits args.existingTruncation
  selectReviewersForStage args.languages args.config budgeted.pr.val args.stage
    (budgeted.memory.entries.map fun m => m.val) args.risk

/-! ## Comments of untrusted authors -/

/-- The comments of trusted authors. -/
def trustedComments (comments : List (Checked PullRequestComment)) :
    List (Checked PullRequestComment) :=
  comments.filter fun comment => isTrustedComment args.authors comment.val

/-- The threads with their comments of trusted authors, without the threads that have none. -/
def trustedThreads (threads : List (Checked PullRequestReviewThread)) :
    List (CommentThread × List (Checked PullRequestComment)) :=
  threads.filterMap fun thread =>
    let comments := args.trustedComments thread.val.comments
    if comments = [] then none else some (commentThread thread.val, comments)

/-- The pull requests differ only in comments of untrusted authors. -/
structure DifferInUntrusted (pr pr' : PullRequestContext) : Prop where
  comments : args.trustedComments pr'.comments = args.trustedComments pr.comments
  reviewThreads : args.trustedThreads pr'.reviewThreads = args.trustedThreads pr.reviewThreads
  rest : pr' = { pr with comments := pr'.comments, reviewThreads := pr'.reviewThreads }

variable {args}

/-- A pull request does not differ from itself. -/
lemma DifferInUntrusted.refl (pr : PullRequestContext) : args.DifferInUntrusted pr pr :=
  ⟨rfl, rfl, rfl⟩

/-- The error of the checks of a record. -/
def constructError {α : Type} [Record α] (value : α) : Option PyError :=
  match Record.postInit value with
  | .ok () => none
  | .error e => some e

/-- An error of the checks is the error of the constructor. -/
lemma construct_of_error {α : Type} [Record α] {value : α} {e : PyError}
    (h : constructError value = some e) : construct value = .error e := by
  unfold constructError at h
  unfold construct
  split at h
  · contradiction
  · rename_i e' hcheck
    obtain rfl := Option.some.inj h
    split
    · rename_i hok
      rw [hok] at hcheck
      contradiction
    · rename_i e'' hcheck'
      rw [hcheck] at hcheck'
      rw [Except.error.inj hcheck']

/-- There is no error exactly if the checks pass. -/
lemma constructError_eq_none {α : Type} [Record α] {value : α} :
    constructError value = none ↔ Record.postInit value = .ok () := by
  unfold constructError
  split
  · rename_i h
    simp [h]
  · rename_i e h
    simp [h]

/-- A list of records is built unless one of them fails its checks. -/
lemma mapM_construct {α : Type} [Record α] (values : List α) :
    (∃ e, values.findSome? constructError = some e ∧ values.mapM construct = .error e) ∨
      ∃ records : List (Checked α), values.findSome? constructError = none ∧
        values.mapM construct = .ok records ∧ (records.map fun r => r.val) = values := by
  induction values with
  | nil => exact .inr ⟨[], rfl, rfl, rfl⟩
  | cons value values ih =>
    rw [List.findSome?_cons, List.mapM_cons]
    cases herror : constructError value with
    | some e =>
      refine .inl ⟨e, rfl, ?_⟩
      rw [construct_of_error herror]
      rfl
    | none =>
      have hcheck := constructError_eq_none.1 herror
      rw [construct_of_postInit hcheck, ok_bind]
      rcases ih with ⟨e, he, hmap⟩ | ⟨records, hnone, hmap, hval⟩
      · refine .inl ⟨e, he, ?_⟩
        rw [hmap]
        rfl
      · refine .inr ⟨⟨value, hcheck⟩ :: records, hnone, ?_, ?_⟩
        · rw [hmap]
          rfl
        · rw [List.map_cons, hval]

/-- Elements for which a search finds nothing can be left out. -/
lemma findSome?_filter_of_none {α β : Type} {p : α → Bool} {g : α → Option β}
    (h : ∀ a, p a = false → g a = none) (as : List α) :
    (as.filter p).findSome? g = as.findSome? g := by
  induction as with
  | nil => rfl
  | cons a as ih =>
    rw [List.findSome?_cons]
    cases hp : p a with
    | true => rw [List.filter_cons_of_pos hp, List.findSome?_cons, ih]
    | false =>
      rw [List.filter_cons_of_neg (by simp [hp]), ih, h a hp]

/-! ## Building the memory -/

/-- Whether the memory is built, and the error otherwise, does not depend on comments of untrusted
authors. -/
lemma DifferInUntrusted.findSome?_constructError {pr pr' : PullRequestContext}
    (h : args.DifferInUntrusted pr pr') :
    (conversationEntries args.authors pr').findSome? constructError =
      (conversationEntries args.authors pr).findSome? constructError := by
  have hcomments : ∀ {place : CommentPlace} (hplace : place.Valid)
      (comments : List (Checked PullRequestComment)),
      (comments.map fun c => commentMemory args.authors c.val place).findSome? constructError =
        ((args.trustedComments comments).map fun c =>
          commentMemory args.authors c.val place).findSome? constructError := by
    intro place hplace comments
    rw [List.findSome?_map, List.findSome?_map]
    refine (findSome?_filter_of_none ?_ comments).symm
    intro comment huntrusted
    exact constructError_eq_none.2 (commentMemory_of_untrusted comment hplace huntrusted)
  have hthreads : ∀ threads : List (Checked PullRequestReviewThread),
      (threads.flatMap fun thread => thread.val.comments.map fun c =>
        commentMemory args.authors c.val (commentThread thread.val).place).findSome?
          constructError =
      ((args.trustedThreads threads).flatMap fun p => p.2.map fun c =>
        commentMemory args.authors c.val p.1.place).findSome? constructError := by
    intro threads
    induction threads with
    | nil => rfl
    | cons thread threads ih =>
      rw [List.flatMap_cons, List.findSome?_append, hcomments (commentThread_place_valid thread),
        ih]
      unfold trustedThreads
      dsimp only
      rw [List.filterMap_cons]
      by_cases hnone : args.trustedComments thread.val.comments = []
      · simp [hnone]
      · simp [hnone]
  have hreviews : pr'.reviews = pr.reviews := by rw [h.rest]
  unfold conversationEntries
  rw [List.findSome?_append, List.findSome?_append, List.findSome?_append, List.findSome?_append,
    hcomments issueCommentPlace_valid pr'.comments, hcomments issueCommentPlace_valid pr.comments,
    hthreads pr'.reviewThreads, hthreads pr.reviewThreads, h.comments, h.reviewThreads, hreviews]

/-! ## What fits -/

/-- The bytes of two texts. -/
lemma utf8Length_append (s t : Text) : utf8Length (s ++ t) = utf8Length s + utf8Length t := by
  simp [utf8Length]

/-- The bytes of lines. -/
lemma utf8Length_unlines (t : Text) (ts : List Text) :
    utf8Length (Text.unlines (t :: ts)) = utf8Length t + (ts.map fun t =>
      utf8Length t + 1).sum := by
  induction ts generalizing t with
  | nil => simp [Text.unlines, List.intercalate]
  | cons u us ih =>
    have hcons : Text.unlines (t :: u :: us) = t ++ ('\n' :: Text.unlines (u :: us)) := by
      simp [Text.unlines, List.intercalate]
    have hnewline : utf8Length ('\n' :: Text.unlines (u :: us)) =
        1 + utf8Length (Text.unlines (u :: us)) := by
      rw [← List.singleton_append, utf8Length_append]
      rfl
    rw [hcons, utf8Length_append, hnewline, ih, List.map_cons, List.sum_cons]
    omega

/-- An entry of a memory takes at least as many bytes as its fixed parts. -/
lemma le_memoryBytes (m : MemoryReference) :
    utf8Length m.trustLabel + utf8Length m.resolvedStatus + utf8Length m.sourceType + 10 ≤
      memoryBytes m := by
  unfold memoryBytes
  rw [utf8Length_unlines]
  simp only [List.map_cons, List.map_nil, List.sum_cons, List.sum_nil]
  omega

/-- An entry whose body is kept is an entry that fits. -/
lemma mem_of_mem_fitMemory {remaining : ℕ} {entries : List MemoryReference} {m : MemoryReference}
    (h : m ∈ fitMemory remaining entries) (hactionable : isActionableMemory m = true) :
    m ∈ entries ∧ memoryBytes m ≤ remaining := by
  induction entries generalizing remaining with
  | nil => cases h
  | cons memory rest ih =>
    rw [fitMemory] at h
    split at h
    · rcases List.mem_cons.1 h with rfl | h
      · simp [isActionableMemory] at hactionable
      · obtain ⟨hmem, hle⟩ := ih h
        exact ⟨List.mem_cons_of_mem _ hmem, hle⟩
    · rename_i hfits
      rcases List.mem_cons.1 h with rfl | h
      · exact ⟨List.mem_cons_self, not_lt.1 hfits⟩
      · obtain ⟨hmem, hle⟩ := ih h
        exact ⟨List.mem_cons_of_mem _ hmem, by omega⟩

/-! ## Matching -/

variable (args) in
/-- A memory selects an agent: it is actionable, the agent is one of the stage, its gates pass, and
one of its conversation patterns occurs in the body. -/
structure Matches (pr : PullRequestContext) (m : MemoryReference) (agent : ReviewerAgentConfig) :
    Prop where
  actionable : isActionableMemory m = true
  stage : args.stage ∈ agent.stages.map ReviewStage.value
  gates : gateFailures (triggerGates args.stage agent.triggers.val pr args.risk) = []
  pattern : ∃ pattern ∈ agent.triggers.val.conversationPatterns, matchesBody pattern m = true

/-- Sorting keeps the agents. -/
lemma mem_sortedAgents {config : ReviewConfig} {agent : Checked ReviewerAgentConfig} :
    agent ∈ sortedAgents config ↔ agent ∈ config.agents :=
  (List.perm_insertionSort _ config.agents).mem_iff

/-- Without a match there is no reason. -/
lemma conversationPatternReasons_eq_nil {stage : Text} {patterns : List Text}
    {entries : List MemoryReference} (h : ∀ m ∈ entries, isActionableMemory m = true →
      ∀ pattern ∈ patterns, matchesBody pattern m = false) :
    conversationPatternReasons stage patterns entries = [] := by
  unfold conversationPatternReasons unique
  dsimp only
  have hnil : (patterns.flatMap fun pattern => ((entries.filter isActionableMemory).filter
      (matchesBody pattern)).map (conversationPatternReason stage pattern)) = [] := by
    rw [List.flatMap_eq_nil_iff]
    intro pattern hpattern
    rw [List.map_eq_nil_iff, List.filter_eq_nil_iff]
    intro m hm
    obtain ⟨hmem, hactionable⟩ := List.mem_filter.1 hm
    rw [h m hmem hactionable pattern hpattern]
    exact Bool.false_ne_true
  rw [hnil]
  rfl

/-- With a match there is one. -/
lemma conversationPatternReasons_ne_nil {stage pattern : Text} {patterns : List Text}
    {entries : List MemoryReference} {m : MemoryReference} (hm : m ∈ entries)
    (hactionable : isActionableMemory m = true) (hpattern : pattern ∈ patterns)
    (hmatch : matchesBody pattern m = true) :
    conversationPatternReasons stage patterns entries ≠ [] := by
  have hmem : conversationPatternReason stage pattern m ∈ patterns.flatMap fun pattern =>
      ((entries.filter isActionableMemory).filter (matchesBody pattern)).map
        (conversationPatternReason stage pattern) :=
    List.mem_flatMap.2 ⟨pattern, hpattern, List.mem_map_of_mem (List.mem_filter.2
      ⟨List.mem_filter.2 ⟨hm, hactionable⟩, hmatch⟩)⟩
  exact List.ne_nil_of_mem (mem_unique.2 hmem)

/-- Entries that match nothing do not change the selection. -/
lemma selectReviewersForStage_of_no_match {pr : PullRequestContext} {entries : List MemoryReference}
    (h : ∀ m ∈ entries, ∀ agent ∈ args.config.agents, ¬ args.Matches pr m agent.val) :
    selectReviewersForStage args.languages args.config pr args.stage entries args.risk =
      selectReviewersForStage args.languages args.config pr args.stage [] args.risk := by
  unfold selectReviewersForStage
  congr 1
  refine List.filterMap_congr ?_
  intro agent hagent
  have hmem := mem_sortedAgents.1 hagent
  unfold selectAgent
  by_cases hstage : args.stage ∈ agent.val.stages.map ReviewStage.value
  · rw [if_pos hstage, if_pos hstage]
    have hreasons : triggerReasons args.languages args.stage agent.val.triggers.val pr entries
        args.risk = triggerReasons args.languages args.stage agent.val.triggers.val pr
          [] args.risk := by
      unfold triggerReasons
      by_cases hgates : gateFailures
          (triggerGates args.stage agent.val.triggers.val pr args.risk) = []
      · have hentries : conversationPatternReasons args.stage
            agent.val.triggers.val.conversationPatterns entries = [] := by
          refine conversationPatternReasons_eq_nil ?_
          intro m hm hactionable pattern hpattern
          by_contra hmatch
          exact h m hm agent hmem ⟨hactionable, hstage, hgates, pattern, hpattern,
            Bool.not_eq_false _ ▸ hmatch⟩
        have hempty : conversationPatternReasons args.stage
            agent.val.triggers.val.conversationPatterns [] = [] :=
          conversationPatternReasons_eq_nil (by simp)
        rw [hentries, hempty]
      · simp [hgates]
    rw [hreasons]
  · rw [if_neg hstage, if_neg hstage]

/-- The reasons of triggers with conversation patterns whose gates pass. -/
lemma triggerReasons_of_gates {stage : Text} {triggers : ReviewerTriggers} {pr : PullRequestContext}
    {risk : Option RiskAssessment} (hgates : gateFailures (triggerGates stage triggers pr risk) =
      [])
    (hpatterns : triggers.conversationPatterns ≠ []) (entries : List MemoryReference) :
    triggerReasons args.languages stage triggers pr entries risk =
      if inputSelectorReasons args.languages stage triggers pr ++
          conversationPatternReasons stage triggers.conversationPatterns entries ≠ [] then
        inputSelectorReasons args.languages stage triggers pr ++
          conversationPatternReasons stage triggers.conversationPatterns entries ++
            gateReasons (triggerGates stage triggers pr risk)
      else [] := by
  have hexplicit : hasExplicitSelector triggers = true := by
    simp [hasExplicitSelector, hpatterns]
  unfold triggerReasons
  rw [if_neg (by simp [hgates]), hexplicit, if_neg (by simp)]

/-- Everything that is selected passes the checks of a selected reviewer. -/
lemma selectReviewersForStage_ok (pr : PullRequestContext) (entries : List MemoryReference) :
    ∃ selected, selectReviewersForStage args.languages args.config pr args.stage entries args.risk =
        .ok selected ∧
      (selected.map fun r => r.val) = (sortedAgents args.config).filterMap fun agent =>
        selectAgent args.languages args.stage pr entries args.risk agent.val := by
  rcases mapM_construct ((sortedAgents args.config).filterMap fun agent =>
    selectAgent args.languages args.stage pr entries args.risk agent.val) with
    ⟨e, he, -⟩ | ⟨records, -, hmap, hval⟩
  · obtain ⟨reviewer, hreviewer, herror⟩ := List.exists_of_findSome?_eq_some he
    obtain ⟨agent, -, hselect⟩ := List.mem_filterMap.1 hreviewer
    have hvalid := agent.property
    simp only [Record.postInit, check_bind_eq_ok, requireNonEmpty_eq_ok] at hvalid
    unfold selectAgent at hselect
    split at hselect
    · rename_i hstage
      dsimp only at hselect
      split at hselect
      · contradiction
      rename_i hreasons
      obtain rfl := Option.some.inj hselect
      have hstage : args.stage ≠ [] := by
        obtain ⟨stage, -, hstage⟩ := List.mem_map.1 hstage
        rw [← hstage]
        cases stage <;> simp [ReviewStage.value]
      rw [constructError_eq_none.2] at herror
      · contradiction
      · simp only [Record.postInit, check_bind_eq_ok, require_eq_ok]
        exact ⟨hvalid.1, hstage, hreasons⟩
    · contradiction
  · exact ⟨records, hmap, hval⟩

/-- An entry that matches an agent changes the selection. -/
lemma selectReviewersForStage_of_match {pr : PullRequestContext} {entries : List MemoryReference}
    {m : MemoryReference} (hm : m ∈ entries) {agent : Checked ReviewerAgentConfig}
    (hagent : agent ∈ args.config.agents) (h : args.Matches pr m agent.val) :
    selectReviewersForStage args.languages args.config pr args.stage entries args.risk ≠
      selectReviewersForStage args.languages args.config pr args.stage [] args.risk := by
  intro heq
  obtain ⟨selected, hselected, hval⟩ := @selectReviewersForStage_ok args pr entries
  obtain ⟨selected', hselected', hval'⟩ := @selectReviewersForStage_ok args pr []
  rw [hselected, hselected'] at heq
  obtain rfl := Except.ok.inj heq
  obtain ⟨pattern, hpattern, hmatch⟩ := h.pattern
  have hpatterns := List.ne_nil_of_mem hpattern
  have hconversation : conversationPatternReasons args.stage
      agent.val.triggers.val.conversationPatterns entries ≠ [] :=
    conversationPatternReasons_ne_nil hm h.actionable hpattern hmatch
  have hempty : conversationPatternReasons args.stage
      agent.val.triggers.val.conversationPatterns [] = [] :=
    conversationPatternReasons_eq_nil (by simp)
  have hreasons := @triggerReasons_of_gates args _ _ _ _ h.gates hpatterns entries
  rw [if_pos (by simp [hconversation])] at hreasons
  -- The agent is selected for reasons that include those of the conversation.
  have hmem : (⟨agent.val.name, args.stage, triggerReasons args.languages args.stage
      agent.val.triggers.val pr entries args.risk⟩ : SelectedReviewer) ∈
      selected.map fun r => r.val := by
    rw [hval]
    refine List.mem_filterMap.2 ⟨agent, mem_sortedAgents.2 hagent, ?_⟩
    unfold selectAgent
    rw [if_pos h.stage]
    dsimp only
    rw [if_neg]
    rw [hreasons]
    simp [hconversation]
  rw [hval'] at hmem
  obtain ⟨agent', hagent', hselect⟩ := List.mem_filterMap.1 hmem
  unfold selectAgent at hselect
  split at hselect
  · dsimp only at hselect
    split at hselect
    · contradiction
    have hsame := Option.some.inj hselect
    have hname : agent'.val.name = agent.val.name := congrArg SelectedReviewer.name hsame
    obtain rfl : agent' = agent := List.inj_on_of_nodup_map args.config.names_nodup
      (mem_sortedAgents.1 hagent') hagent hname
    have hboth : triggerReasons args.languages args.stage agent'.val.triggers.val pr [] args.risk =
        triggerReasons args.languages args.stage agent'.val.triggers.val pr entries args.risk :=
      congrArg SelectedReviewer.reasons hsame
    rw [hreasons, triggerReasons_of_gates h.gates hpatterns, hempty] at hboth
    have hlength := congrArg List.length hboth
    have hpositive := List.length_pos_iff.2 hconversation
    split at hlength
    · simp only [List.length_append, List.length_nil] at hlength
      omega
    · simp only [List.length_append, List.length_nil] at hlength
      omega
  · contradiction

/-! ## A comment that uses up the budget -/

/-- A comment of an untrusted author. -/
def fillerComment (bytes : ℕ) : PullRequestComment where
  id := "u"
  author := "a"
  authorAssociation := "a"
  authorType := "a"
  body := List.replicate bytes 'x'
  createdAt := "a"
  trustLabel := "untrusted"
  sourceType := "a"
  url := none
  path := none
  line := none
  side := none
  commitSha := none
  position := none
  sourceProvider := "fixture"

/-- A comment with some bytes is valid. -/
lemma fillerComment_valid {bytes : ℕ} (h : 0 < bytes) :
    Record.postInit (fillerComment bytes) = .ok () := by
  have hbody : List.replicate bytes 'x' ≠ [] := by
    rw [Ne, List.replicate_eq_nil_iff]
    omega
  simp only [Record.postInit, check_bind_eq_ok, requireNonEmpty_eq_ok, fillerComment]
  refine ⟨by simp, by simp, by simp, hbody, by simp, by simp, by simp, by simp, by simp, ?_⟩
  simp [requireOptionalPositiveInt]

/-- It is not trusted. -/
lemma fillerComment_untrusted (bytes : ℕ) :
    isTrustedComment args.authors (fillerComment bytes) = false := by
  have hnot : isTrustEligible (fillerComment bytes).trustLabel
      (fillerComment bytes).sourceProvider =
      false := by
    show isTrustEligible "untrusted" "fixture" = false
    decide +kernel
  unfold isTrustedComment
  rw [hnot, Bool.false_and]

/-- An ASCII letter has one byte. -/
lemma utf8Length_replicate (n : ℕ) : utf8Length (List.replicate n 'x') = n := by
  unfold utf8Length
  rw [List.map_replicate, List.sum_replicate, smul_eq_mul]
  exact Nat.mul_one n

/-- The bytes of the comment in the memory. -/
lemma memoryBytes_fillerComment (bytes : ℕ) :
    memoryBytes (commentMemory args.authors (fillerComment bytes) issueCommentPlace) =
      35 + bytes := by
  have huntrusted := @fillerComment_untrusted args bytes
  have hid : (commentMemory args.authors (fillerComment bytes) issueCommentPlace).id = "u" := by
    unfold commentMemory
    show conversationMemoryId (memorySourceProvider "fixture") "a" "u" _ = "u"
    have hprovider : memorySourceProvider "fixture" = none := by decide +kernel
    rw [hprovider]
    rfl
  have hlabel : (commentMemory args.authors (fillerComment bytes) issueCommentPlace).trustLabel =
      "untrusted" := by
    unfold commentMemory
    rw [huntrusted]
    rfl
  have hone : utf8Length ("a" : Text) = 1 := by decide +kernel
  have hu : utf8Length ("u" : Text) = 1 := by decide +kernel
  have hstatus : utf8Length ("unresolved" : Text) = 10 := by decide +kernel
  have htrust : utf8Length ("untrusted" : Text) = 9 := by decide +kernel
  have hnil : utf8Length [] = 0 := rfl
  unfold memoryBytes
  rw [hid, hlabel, utf8Length_unlines]
  simp only [commentMemory, fillerComment, issueCommentPlace, Option.getD_some, Option.getD_none,
    Option.elim_none, Option.none_or, List.map_cons, List.map_nil, List.sum_cons, List.sum_nil,
    hone,
    hu, hstatus, htrust, hnil, utf8Length_replicate]
  omega

/-- Without any budget every body is left out. -/
lemma not_actionable_of_mem_fitMemory_zero {entries : List MemoryReference} {m : MemoryReference}
    (h : m ∈ fitMemory 0 entries) : isActionableMemory m = false := by
  by_contra hactionable
  obtain ⟨-, hle⟩ := mem_of_mem_fitMemory h (by simpa using hactionable)
  have hpositive := le_memoryBytes m
  omega

/-! ## The selection of a pull request -/

variable (args) in
/-- The pull request with the changed files that the budget keeps. -/
def keptInput (pr : PullRequestContext) : PullRequestContext :=
  match budgetFiles pr args.limits.val args.existingTruncation with
  | .ok files => { pr with changedFiles := files.retainedFiles }
  | .error _ => pr

/-- The comments do not matter for what the budget keeps of the changed files. -/
lemma DifferInUntrusted.selectReviewersForStage_eq {pr pr' : PullRequestContext}
    (h : args.DifferInUntrusted pr pr') (entries : List MemoryReference) :
    selectReviewersForStage args.languages args.config (args.keptInput pr') args.stage entries
        args.risk =
      selectReviewersForStage args.languages args.config (args.keptInput pr) args.stage entries
        args.risk := by
  have hfiles : budgetFiles pr' args.limits.val args.existingTruncation =
      budgetFiles pr args.limits.val args.existingTruncation := by
    rw [h.rest]
    rfl
  unfold keptInput
  rw [hfiles, h.rest]
  split
  · rfl
  · rfl

/-- A selection raises if the memory is not built, and otherwise selects for the memory that
fits. -/
lemma selectReviewers_cases (pr : Checked PullRequestContext) :
    (∃ e, (conversationEntries args.authors pr.val).findSome? constructError = some e ∧
      buildConversationMemory args.authors pr.val = .error e ∧ args.selectReviewers pr = .error e) ∨
    ∃ memory, (conversationEntries args.authors pr.val).findSome? constructError = none ∧
      buildConversationMemory args.authors pr.val = .ok memory ∧
      (memory.entries.map fun m => m.val) = conversationEntries args.authors pr.val ∧
      args.selectReviewers pr = selectReviewersForStage args.languages args.config
        (args.keptInput pr.val) args.stage
        (fitMemory args.limits.val.maxMemoryBytes (conversationEntries args.authors pr.val))
        args.risk := by
  rcases mapM_construct (conversationEntries args.authors pr.val) with
    ⟨e, he, hmap⟩ | ⟨entries, hnone, hmap, hval⟩
  · have hbuild : buildConversationMemory args.authors pr.val = .error e := by
      unfold buildConversationMemory
      rw [hmap]
      rfl
    refine .inl ⟨e, he, hbuild, ?_⟩
    unfold selectReviewers
    rw [hbuild]
    rfl
  · have hbuild : buildConversationMemory args.authors pr.val = .ok ⟨entries⟩ := by
      unfold buildConversationMemory
      rw [hmap]
      rfl
    refine .inr ⟨⟨entries⟩, hnone, hbuild, hval, ?_⟩
    obtain ⟨files, budgeted, hfiles, hbudgeted, hpr, hmemory⟩ :=
      applyInputContextBudget_ok pr ⟨entries⟩ args.limits args.existingTruncation
    have hkept : args.keptInput pr.val = budgeted.pr.val := by
      unfold keptInput
      rw [hfiles, hpr]
    unfold selectReviewers
    rw [hbuild, ok_bind, hbudgeted, ok_bind, hmemory, hval, hkept]

/-- A memory that a pattern can match takes more bytes than the smallest comment. -/
lemma lt_memoryBytes_of_actionable (m : Checked MemoryReference)
    (h : isActionableMemory m.val = true) : 35 < memoryBytes m.val := by
  have hvalid := m.property
  simp only [Record.postInit, check_bind_eq_ok, require_eq_ok] at hvalid
  obtain ⟨-, -, -, -, -, -, -, -, -, -, -, -, -, -, -, htrust, hstatus, hsource, -⟩ := hvalid
  have hactionable : m.val.actionable = true := by
    unfold isActionableMemory at h
    exact (Bool.and_eq_true_iff.1 h).1
  have htrusted : utf8Length ("trusted" : Text) = 7 := by decide +kernel
  have hunresolved : utf8Length ("unresolved" : Text) = 10 := by decide +kernel
  have hsourceType : utf8Length m.val.sourceType = 13 := by
    have hmem := hsource hactionable
    rw [List.mem_cons, List.mem_singleton] at hmem
    rcases hmem with heq | heq
    · rw [heq]
      decide +kernel
    · rw [heq]
      decide +kernel
  have hle := le_memoryBytes m.val
  rw [htrust hactionable, hstatus hactionable, htrusted, hunresolved, hsourceType] at hle
  omega

/-- A pull request with one more comment, before all others. -/
def addComment (pr : Checked PullRequestContext) (comment : Checked PullRequestComment) :
    Checked PullRequestContext :=
  ⟨{ pr.val with comments := comment :: pr.val.comments }, pr.property⟩

/-- A comment of an untrusted author can be added. -/
lemma DifferInUntrusted.addComment {pr : PullRequestContext} {pr' : Checked PullRequestContext}
    (h : args.DifferInUntrusted pr pr'.val) {comment : Checked PullRequestComment}
    (huntrusted : isTrustedComment args.authors comment.val = false) :
    args.DifferInUntrusted pr (addComment pr' comment).val := by
  refine ⟨?_, h.reviewThreads, ?_⟩
  · rw [← h.comments]
    unfold trustedComments SelectionArguments.addComment
    rw [List.filter_cons_of_neg (by simp [huntrusted])]
  · unfold SelectionArguments.addComment
    dsimp only
    rw [h.rest]

/-- A comment of an untrusted author that takes the whole budget keeps every other body out, so that
nothing is selected for the conversation. -/
lemma selectReviewers_addComment {pr : Checked PullRequestContext} {memory : PRConversationMemory}
    (hbuild : buildConversationMemory args.authors pr.val = .ok memory)
    {comment : Checked PullRequestComment}
    (huntrusted : isTrustedComment args.authors comment.val = false)
    (hbytes : memoryBytes (commentMemory args.authors comment.val issueCommentPlace) =
      args.limits.val.maxMemoryBytes) :
    args.selectReviewers (addComment pr comment) = selectReviewersForStage args.languages
      args.config
      (args.keptInput pr.val) args.stage [] args.risk := by
  have hdiffer : args.DifferInUntrusted pr.val (addComment pr comment).val :=
    (DifferInUntrusted.refl pr.val).addComment huntrusted
  have hentries : conversationEntries args.authors (addComment pr comment).val =
      commentMemory args.authors comment.val issueCommentPlace ::
        conversationEntries args.authors pr.val := rfl
  rcases @selectReviewers_cases args pr with ⟨e, -, hbuild', -⟩ | ⟨memory', hok, -⟩
  · rw [hbuild] at hbuild'
    contradiction
  rcases @selectReviewers_cases args (addComment pr comment) with
    ⟨e, he, -⟩ | ⟨memory'', -, -, -, hselect⟩
  · rw [hdiffer.findSome?_constructError, hok] at he
    contradiction
  rw [hselect, hdiffer.selectReviewersForStage_eq, hentries, fitMemory, hbytes,
    if_neg (lt_irrefl _), Nat.sub_self]
  refine selectReviewersForStage_of_no_match ?_
  intro m hm agent _ hmatch
  rcases List.mem_cons.1 hm with rfl | hm
  · have hactionable := hmatch.actionable
    simp [isActionableMemory, commentMemory, huntrusted] at hactionable
  · have hactionable := hmatch.actionable
    rw [not_actionable_of_mem_fitMemory_zero hm] at hactionable
    contradiction

/-- Comments of untrusted authors do not change a selection if and only if, whatever they are, no
entry of the memory that fits into its budget matches an agent. -/
theorem selectReviewers_unaffected_iff (args : SelectionArguments)
    (pr : Checked PullRequestContext) :
    (∀ pr' : Checked PullRequestContext, args.DifferInUntrusted pr.val pr'.val →
      args.selectReviewers pr' = args.selectReviewers pr) ↔
    ∀ pr' : Checked PullRequestContext, args.DifferInUntrusted pr.val pr'.val → ∀ memory,
      buildConversationMemory args.authors pr'.val = .ok memory →
      ∀ m ∈ fitMemory args.limits.val.maxMemoryBytes (memory.entries.map fun m => m.val),
      ∀ agent ∈ args.config.agents, ¬ args.Matches (args.keptInput pr.val) m agent.val := by
  constructor
  · intro hsame pr' hdiffer memory hmemory m hm agent hagent hmatch
    obtain ⟨hmem, hfits⟩ := mem_of_mem_fitMemory hm hmatch.actionable
    obtain ⟨checked, -, rfl⟩ := List.mem_map.1 hmem
    have hbytes := lt_memoryBytes_of_actionable checked hmatch.actionable
    -- The comment takes exactly the budget, which is large enough for it.
    let filler : Checked PullRequestComment :=
      ⟨fillerComment (args.limits.val.maxMemoryBytes - 35), fillerComment_valid (by omega)⟩
    have huntrusted : isTrustedComment args.authors filler.val = false := fillerComment_untrusted _
    have hfiller : memoryBytes (commentMemory args.authors filler.val issueCommentPlace) =
        args.limits.val.maxMemoryBytes := by
      rw [memoryBytes_fillerComment]
      omega
    have hnone := selectReviewers_addComment hmemory huntrusted hfiller
    have hequal : args.selectReviewers (addComment pr' filler) = args.selectReviewers pr' := by
      rw [hsame _ (hdiffer.addComment huntrusted), hsame pr' hdiffer]
    rcases @selectReviewers_cases args pr' with
      ⟨e, -, hbuild, -⟩ | ⟨memory', -, hbuild, hentries, hselect⟩
    · rw [hmemory] at hbuild
      contradiction
    obtain rfl := Except.ok.inj (hmemory.symm.trans hbuild)
    rw [← hentries] at hselect
    rw [hnone, hselect, hdiffer.selectReviewersForStage_eq, hdiffer.selectReviewersForStage_eq]
      at hequal
    exact selectReviewersForStage_of_match hm hagent hmatch hequal.symm
  · intro hnone pr' hdiffer
    rcases @selectReviewers_cases args pr with
      ⟨e, he, -, hselect⟩ | ⟨memory, hok, hbuild, hentries, hselect⟩
    · rcases @selectReviewers_cases args pr' with
        ⟨e', he', -, hselect'⟩ | ⟨memory', hok', -⟩
      · have heq := hdiffer.findSome?_constructError
        rw [he, he'] at heq
        rw [hselect, hselect', Option.some.inj heq]
      · rw [hdiffer.findSome?_constructError, he] at hok'
        contradiction
    · rcases @selectReviewers_cases args pr' with
        ⟨e', he', -⟩ | ⟨memory', -, hbuild', hentries', hselect'⟩
      · rw [hdiffer.findSome?_constructError, hok] at he'
        contradiction
      · have hfit := hnone pr (.refl pr.val) memory hbuild
        have hfit' := hnone pr' hdiffer memory' hbuild'
        rw [hentries] at hfit
        rw [hentries'] at hfit'
        rw [hselect, hselect', hdiffer.selectReviewersForStage_eq,
          selectReviewersForStage_of_no_match hfit', selectReviewersForStage_of_no_match hfit]

/-- A comment of the owner. -/
def ownerComment : Checked PullRequestComment :=
  ⟨{ id := "1"
     author := "o"
     authorAssociation := "OWNER"
     authorType := "User"
     body := "check auth"
     createdAt := "t"
     trustLabel := "untrusted"
     sourceType := "issue_comment"
     url := none
     path := none
     line := none
     side := none
     commitSha := none
     position := none
     sourceProvider := "github" }, by decide +kernel⟩

/-- The fields of the target are valid. -/
lemma ownerTarget_valid :
    Record.postInit (⟨"o/r", 1, "b", "h", none, "d"⟩ : ReviewTarget) = .ok () := by
  decide +kernel

/-- A pull request with this comment. -/
def ownerPullRequest : Checked PullRequestContext :=
  ⟨{ reviewTarget := ⟨⟨"o/r", 1, "b", "h", none, "d"⟩, ownerTarget_valid⟩
     title := "Add login"
     body := none
     labels := []
     changedFiles := [⟨⟨"src/login.py", some "+x", 1, 0, "modified", none, "available"⟩,
       by decide +kernel⟩]
     comments := [ownerComment]
     reviews := []
     reviewThreads := [] }, by decide +kernel⟩

/-- An agent that is selected for what trusted comments say, with a hundred bytes of memory. -/
def authArguments : SelectionArguments where
  languages := ⟨fun path pattern => decide (path = pattern), fun _ _ => none⟩
  config := ⟨[⟨⟨"auth", [.specializedReview],
    ⟨{ conversationPatterns := [("auth" : Text)] }, by decide +kernel⟩⟩, by decide +kernel⟩],
    by decide +kernel⟩
  authors := ⟨[], []⟩
  limits := ⟨{
    maxChangedFiles := 1
    maxPatchBytes := 9
    maxMemoryBytes := 100
    maxReviewers := 1
    maxLiveCalls := 0 }, by decide +kernel⟩
  existingTruncation := []
  stage := "specialized_review"
  risk := none

/-- The agent is selected for the comment of the owner, but no longer with a comment of somebody
else before it. -/
theorem fillerComment_steers : ∃ pr' : Checked PullRequestContext,
    authArguments.DifferInUntrusted ownerPullRequest.val pr'.val ∧
      (authArguments.selectReviewers ownerPullRequest).map (fun selected => selected.length) =
        .ok 1 ∧
      authArguments.selectReviewers pr' = .ok [] := by
  let filler : Checked PullRequestComment := ⟨fillerComment 65, fillerComment_valid (by omega)⟩
  refine ⟨addComment ownerPullRequest filler,
    (DifferInUntrusted.refl _).addComment (fillerComment_untrusted _), by decide +kernel,
    by decide +kernel⟩

end SelectionArguments

end ReviewGraph
