import ReviewGraph.Quality

/-!
# What a published finding rests on

A finding that passes the quality gate, when the gate is given what `apply_input_context_budget` has
kept and left out, stands on a changed line of a file whose patch was kept, and cites only
actionable memory that was kept.  The two loops of the budget agree with the gate through the lists
of what they left out: `FilesKept` and `MemoryKept` say so for the elements that are not on these
lists.
-/

namespace ReviewGraph

/-! ## What the budget keeps -/

/-- What one round of the loop over the changed files does: the file is left out, or something of it
is kept, and it is kept unchanged with its patch if it is not reported. -/
lemma budgetFile_cases {limits : ContextBudget} {fileCount : ℕ} {st st' : FileBudgetState}
    {file : Checked PullRequestChangedFile} (h : budgetFile limits fileCount st file = .ok st') :
    (st'.report.omitted = st.report.omitted ++ [file.val.path] ∧
      (st'.retainedFiles = st.retainedFiles ∨
        ∃ file', file'.val.path = file.val.path ∧ st'.retainedFiles = st.retainedFiles ++
          [file'])) ∨
    st'.report.omitted = st.report.omitted ∧ st'.retainedFiles = st.retainedFiles ++ [file] ∧
      file.val.patch ≠ none := by
  unfold budgetFile at h
  dsimp only at h
  split at h
  · obtain ⟨marker, -, h⟩ := bind_eq_ok.1 h
    obtain ⟨note, -, h⟩ := bind_eq_ok.1 h
    obtain rfl := pure_eq_ok.1 h
    exact .inl ⟨rfl, .inl rfl⟩
  split at h
  · obtain ⟨marker, -, h⟩ := bind_eq_ok.1 h
    obtain rfl := pure_eq_ok.1 h
    exact .inl ⟨rfl, .inr ⟨file, rfl, rfl⟩⟩
  rename_i hpatch
  split at h
  · obtain ⟨stripped, hstripped, h⟩ := bind_eq_ok.1 h
    obtain ⟨marker, -, h⟩ := bind_eq_ok.1 h
    obtain ⟨notice, -, h⟩ := bind_eq_ok.1 h
    obtain ⟨note, -, h⟩ := bind_eq_ok.1 h
    obtain rfl := pure_eq_ok.1 h
    have hpath : stripped.val.path = file.val.path := by rw [construct_eq_ok.1 hstripped]
    exact .inl ⟨rfl, .inr ⟨stripped, hpath, rfl⟩⟩
  · obtain rfl := pure_eq_ok.1 h
    refine .inr ⟨rfl, rfl, ?_⟩
    -- A file without a patch says why, so that it has taken the branch before.
    intro hnone
    have hchecks := file.property
    simp only [Record.postInit, check_bind_eq_ok, require_eq_ok] at hchecks
    exact hpatch ⟨hnone, hchecks.2.2.2.2 hnone⟩

/-- The files that are kept and not reported are files of the pull request with their patch. -/
def FilesKept (processed : List (Checked PullRequestChangedFile)) (st : FileBudgetState) : Prop :=
  ∀ file ∈ st.retainedFiles, file.val.path ∉ st.report.omitted →
    file ∈ processed ∧ file.val.patch ≠ none

/-- The loop over the changed files keeps the files with their patches. -/
lemma FilesKept.foldlM {limits : ContextBudget} {fileCount : ℕ}
    {processed files : List (Checked PullRequestChangedFile)} {st st' : FileBudgetState}
    (h : FilesKept processed st) (hloop : files.foldlM (budgetFile limits fileCount) st = .ok st') :
    FilesKept (processed ++ files) st' := by
  induction files generalizing processed st with
  | nil =>
    obtain rfl := pure_eq_ok.1 hloop
    simpa using h
  | cons file files ih =>
    rw [List.foldlM_cons] at hloop
    obtain ⟨st₁, hstep, hloop⟩ := bind_eq_ok.1 hloop
    have hkept : FilesKept (processed ++ [file]) st₁ := by
      intro kept hmem hpath
      rcases budgetFile_cases hstep with ⟨homitted, hretained⟩ | ⟨homitted, hretained, hpatch⟩
      · rw [homitted, List.mem_append, not_or, List.mem_singleton] at hpath
        have hold : kept ∈ st.retainedFiles := by
          rcases hretained with heq | ⟨file', hfile', heq⟩
          · rwa [heq] at hmem
          · rw [heq, List.mem_append, List.mem_singleton] at hmem
            rcases hmem with hmem | rfl
            · exact hmem
            · exact absurd hfile' hpath.2
        obtain ⟨hprocessed, hsome⟩ := h kept hold hpath.1
        exact ⟨List.mem_append_left _ hprocessed, hsome⟩
      · rw [homitted] at hpath
        rw [hretained, List.mem_append, List.mem_singleton] at hmem
        rcases hmem with hmem | rfl
        · obtain ⟨hprocessed, hsome⟩ := h kept hmem hpath
          exact ⟨List.mem_append_left _ hprocessed, hsome⟩
        · exact ⟨List.mem_append_right _ List.mem_cons_self, hpatch⟩
    have hrest := ih hkept hloop
    rwa [List.append_assoc] at hrest

/-- What one round of the loop over the memory does. -/
lemma budgetMemory_cases {st st' : MemoryBudgetState} {memory : Checked MemoryReference}
    (h : budgetMemory st memory = .ok st') :
    (st.memoryBudgetRemaining < memoryBytes memory.val ∧
      st'.memoryBudgetRemaining = st.memoryBudgetRemaining ∧
      st'.report.omitted = st.report.omitted ++ [memory.val.id] ∧
      ∃ stripped, stripped.val = { memory.val with body := none } ∧
        st'.retainedMemory = st.retainedMemory ++ [stripped]) ∨
    memoryBytes memory.val ≤ st.memoryBudgetRemaining ∧
      st'.memoryBudgetRemaining = st.memoryBudgetRemaining - memoryBytes memory.val ∧
      st'.report.omitted = st.report.omitted ∧
      st'.retainedMemory = st.retainedMemory ++ [memory] := by
  unfold budgetMemory at h
  dsimp only at h
  split at h
  · rename_i hbytes
    obtain ⟨stripped, hstripped, h⟩ := bind_eq_ok.1 h
    obtain ⟨marker, -, h⟩ := bind_eq_ok.1 h
    obtain ⟨notice, -, h⟩ := bind_eq_ok.1 h
    obtain ⟨note, -, h⟩ := bind_eq_ok.1 h
    obtain rfl := pure_eq_ok.1 h
    exact .inl ⟨hbytes, rfl, rfl, stripped, construct_eq_ok.1 hstripped, rfl⟩
  · rename_i hbytes
    obtain rfl := pure_eq_ok.1 h
    exact .inr ⟨not_lt.1 hbytes, rfl, rfl, rfl⟩

/-- The memory that is kept and not reported is unchanged. -/
def MemoryKept (processed : List (Checked MemoryReference)) (st : MemoryBudgetState) : Prop :=
  ∀ memory ∈ st.retainedMemory, memory.val.id ∉ st.report.omitted → memory ∈ processed

/-- The loop over the memory keeps the memory. -/
lemma MemoryKept.foldlM {processed entries : List (Checked MemoryReference)}
    {st st' : MemoryBudgetState} (h : MemoryKept processed st)
    (hloop : entries.foldlM budgetMemory st = .ok st') : MemoryKept (processed ++ entries) st' := by
  induction entries generalizing processed st with
  | nil =>
    obtain rfl := pure_eq_ok.1 hloop
    simpa using h
  | cons entry entries ih =>
    rw [List.foldlM_cons] at hloop
    obtain ⟨st₁, hstep, hloop⟩ := bind_eq_ok.1 hloop
    have hkept : MemoryKept (processed ++ [entry]) st₁ := by
      intro kept hmem hid
      rcases budgetMemory_cases hstep with
        ⟨-, -, homitted, stripped, hstripped, hretained⟩ | ⟨-, -, homitted, hretained⟩
      · rw [homitted, List.mem_append, not_or, List.mem_singleton] at hid
        rw [hretained, List.mem_append, List.mem_singleton] at hmem
        rcases hmem with hmem | rfl
        · exact List.mem_append_left _ (h kept hmem hid.1)
        · exact absurd (by rw [hstripped]) hid.2
      · rw [homitted] at hid
        rw [hretained, List.mem_append, List.mem_singleton] at hmem
        rcases hmem with hmem | rfl
        · exact List.mem_append_left _ (h kept hmem hid)
        · exact List.mem_append_right _ List.mem_cons_self
    have hrest := ih hkept hloop
    rwa [List.append_assoc] at hrest

/-- What the budget keeps of a pull request and its memory. -/
structure BudgetKeeps (pr : PullRequestContext) (memory : PRConversationMemory)
    (budgeted : BudgetedInputContext) : Prop where
  /-- A file that is kept and not reported is a file of the pull request with its patch. -/
  files : ∀ file ∈ budgeted.pr.val.changedFiles,
    file.val.path ∉ budgeted.contextBudget.val.omittedFilePaths →
      file ∈ pr.changedFiles ∧ file.val.patch ≠ none
  /-- A memory that is kept and not reported is unchanged. -/
  memory : ∀ m ∈ budgeted.memory.entries,
    m.val.id ∉ budgeted.contextBudget.val.omittedMemoryIds → m ∈ memory.entries

/-- The budget reports everything that it does not keep. -/
lemma budgetKeeps {pr : Checked PullRequestContext} {memory : PRConversationMemory}
    {limits : Checked ContextBudget} {existingTruncation : List (Checked TruncationNotice)}
    {budgeted : BudgetedInputContext}
    (h : applyInputContextBudget pr memory limits existingTruncation = .ok budgeted) :
    BudgetKeeps pr.val memory budgeted := by
  unfold applyInputContextBudget at h
  obtain ⟨files, hfiles, h⟩ := bind_eq_ok.1 h
  obtain ⟨kept, hkept, h⟩ := bind_eq_ok.1 h
  obtain ⟨budget, hbudget, h⟩ := bind_eq_ok.1 h
  obtain ⟨budgetedPr, hpr, h⟩ := bind_eq_ok.1 h
  obtain rfl := pure_eq_ok.1 h
  have hfilesKept : FilesKept ([] ++ pr.val.changedFiles) files :=
    FilesKept.foldlM (by intro file hfile; cases hfile) hfiles
  have hmemoryKept : MemoryKept ([] ++ memory.entries) kept :=
    MemoryKept.foldlM (by intro m hm; cases hm) hkept
  have hbudget := construct_eq_ok.1 hbudget
  have hpr := construct_eq_ok.1 hpr
  constructor
  · intro file hfile hpath
    simp only [hpr] at hfile
    simp only [hbudget, inputBudget, mem_unique] at hpath
    simpa using hfilesKept file hfile hpath
  · intro m hm hid
    simp only [hbudget, inputBudget, mem_unique] at hid
    simpa using hmemoryKept m hm hid

/-- The files that the gate sees are files that were kept. -/
lemma path_of_mem_view {originals view : List ChangedLines}
    {budgetedFiles : List (Checked PullRequestChangedFile)}
    (h : budgetedDryRunInputView originals budgetedFiles = .ok view) {lines : ChangedLines}
    (hlines : lines ∈ view) :
    ∃ original ∈ originals, ∃ file ∈ budgetedFiles, file.val.path = lines.path ∧
      original.path = lines.path ∧ original.changedRanges = lines.changedRanges := by
  obtain ⟨files, hfiles, h⟩ := bind_eq_ok.1 h
  obtain rfl := pure_eq_ok.1 h
  have hmem := List.reduceOption_mem_iff.1 hlines
  obtain ⟨original, horiginal, hresult⟩ :=
    (mapM_eq_ok.1 hfiles).exists_of_mem_right hmem
  unfold budgetedChangedLines at hresult
  split at hresult
  · cases Except.ok.inj hresult
  rename_i budgeted hfind
  have hfile : budgeted ∈ budgetedFiles := List.mem_reverse.1 (List.mem_of_find?_eq_some hfind)
  have hpath : budgeted.val.path = original.path := by
    simpa using List.find?_some hfind
  cases original with
  | github file =>
    obtain rfl : ChangedLines.github file = lines := Option.some.inj (Except.ok.inj hresult)
    exact ⟨_, horiginal, budgeted, hfile, hpath, rfl, rfl⟩
  | fixture file =>
    obtain ⟨updated, hupdated, hret⟩ := bind_eq_ok.1 hresult
    obtain rfl : ChangedLines.fixture updated = lines := Option.some.inj (pure_eq_ok.1 hret)
    have hval := construct_eq_ok.1 hupdated
    have hsame : updated.val.path = file.val.path ∧
        updated.val.changedRanges = file.val.changedRanges := by
      rw [hval]
      exact ⟨rfl, rfl⟩
    exact ⟨_, horiginal, budgeted, hfile, hpath.trans hsame.1.symm, hsame.1.symm, hsame.2.symm⟩

/-! ## What the gate requires -/

/-- A finding that passes the gate is on no list of what was left out. -/
lemma QualityArguments.PassesGate.notOmitted_iff {args : QualityArguments}
    {raw : RawReviewerFinding}
    (h : args.PassesGate raw) :
    raw.path ∉ args.omittedFilePaths ∧ (∀ id ∈ raw.evidenceMemoryIds, id ∉ args.omittedMemoryIds) ∧
      ∃ lines ∈ args.changedFiles, lines.path = raw.path ∧ lines.containsLine raw.line = true ∧
        lines.patchStatus = "available" := by
  have homitted := h.notOmitted
  unfold findingDependsOnOmittedContext usesOmittedMemory at homitted
  rw [Bool.or_eq_false_iff, Bool.or_eq_false_iff] at homitted
  obtain ⟨⟨hpath, hmemory⟩, hstatus⟩ := homitted
  have hids : ∀ id ∈ raw.evidenceMemoryIds, id ∉ args.omittedMemoryIds := by
    intro id hid
    have hfalse := List.any_eq_false.1 hmemory id hid
    simpa using hfalse
  refine ⟨of_decide_eq_false hpath, hids, ?_⟩
  obtain ⟨lines, hlines, hmatch⟩ := List.any_eq_true.1 h.location
  have hsome : (args.changedFiles.find? fun file =>
      decide (file.path = raw.path) && file.containsLine raw.line).isSome = true := by
    rw [List.find?_isSome]
    exact ⟨lines, hlines, hmatch⟩
  obtain ⟨first, hfirst⟩ := Option.isSome_iff_exists.1 hsome
  rw [hfirst] at hstatus
  have hfirstMatch := List.find?_some hfirst
  rw [Bool.and_eq_true, decide_eq_true_eq] at hfirstMatch
  exact ⟨first, List.mem_of_find?_eq_some hfirst, hfirstMatch.1, hfirstMatch.2,
    not_not.1 (of_decide_eq_false hstatus)⟩

/-- The memory that a passing finding cites is actionable. -/
lemma QualityArguments.PassesGate.actionable {args : QualityArguments} {raw : RawReviewerFinding}
    (h : args.PassesGate raw) {id : Text} (hid : id ∈ raw.evidenceMemoryIds) :
    ∃ m ∈ args.memoryReferences, m.val.id = id ∧ m.val.actionable = true := by
  have hsafe := h.safe
  unfold findingHasUnsafeEvidenceProvenance unsafeEvidenceProvenance at hsafe
  split at hsafe
  · contradiction
  split at hsafe
  · contradiction
  split at hsafe
  · contradiction
  split at hsafe
  · contradiction
  rename_i hmemory
  rw [Bool.not_eq_true, List.any_eq_false] at hmemory
  have hfind := hmemory id hid
  split at hfind
  · simp at hfind
  · rename_i m hm
    unfold memoryById at hm
    have hmem := List.mem_reverse.1 (List.mem_of_find?_eq_some hm)
    have hsame : m.val.id = id := by simpa using List.find?_some hm
    exact ⟨m, hmem, hsame, by simpa using hfind⟩

/-- Actionable memory is trusted and unresolved. -/
lemma trusted_of_actionable (m : Checked MemoryReference) (h : m.val.actionable = true) :
    m.val.trustLabel = "trusted" ∧ m.val.resolvedStatus = "unresolved" := by
  have hchecks := m.property
  simp only [Record.postInit, check_bind_eq_ok, require_eq_ok] at hchecks
  obtain ⟨-, -, -, -, -, -, -, -, -, -, -, -, -, -, -, htrust, hresolved, -⟩ := hchecks
  exact ⟨htrust h, hresolved h⟩

/-- What a published finding rests on: a changed line of a file that was kept with its patch, and
memory that was kept, is trusted and is unresolved. -/
structure SupportedFinding (pr : PullRequestContext) (memory : PRConversationMemory)
    (budgeted : BudgetedInputContext) (view : List ChangedLines) (raw : RawReviewerFinding) :
    Prop where
  /-- The finding stands on a changed line of a file whose patch the reviewer has seen. -/
  line : ∃ lines ∈ view, lines.path = raw.path ∧ lines.containsLine raw.line = true ∧
    lines.patchStatus = "available"
  /-- The file was kept. -/
  file : ∃ file ∈ budgeted.pr.val.changedFiles, file.val.path = raw.path
  /-- The file was kept as it is, with its patch. -/
  patch : ∀ file ∈ budgeted.pr.val.changedFiles, file.val.path = raw.path →
    file ∈ pr.changedFiles ∧ file.val.patch ≠ none
  /-- The memory that is cited was kept as it is, and is actionable. -/
  memory : ∀ id ∈ raw.evidenceMemoryIds, id ∉ budgeted.contextBudget.val.omittedMemoryIds ∧
    ∃ m ∈ budgeted.memory.entries, m.val.id = id ∧ m ∈ memory.entries ∧ m.val.actionable = true ∧
      m.val.trustLabel = "trusted" ∧ m.val.resolvedStatus = "unresolved"

/-- The quality gate, on what the budget keeps and leaves out: every published finding is supported;
every finding and clarification request goes on or is suppressed once, in order; and the other
suppressed outputs are those of the reviewer. -/
theorem qualityGate_supported {pr : Checked PullRequestContext} {memory : PRConversationMemory}
    {limits : Checked ContextBudget} {existingTruncation : List (Checked TruncationNotice)}
    {budgeted : BudgetedInputContext}
    (hbudget : applyInputContextBudget pr memory limits existingTruncation = .ok budgeted)
    {originals view : List ChangedLines}
    (hview : budgetedDryRunInputView originals budgeted.pr.val.changedFiles = .ok view)
    (result : ReviewerResult) :
    ∃ q kept dropped droppedRequests,
      classifyReviewQuality ⟨view, result, budgeted.memory.entries,
        budgeted.contextBudget.val.omittedFilePaths,
        budgeted.contextBudget.val.omittedMemoryIds⟩ = .ok q ∧
      List.Interleaving kept dropped result.findings ∧
      List.Interleaving q.clarificationRequests droppedRequests result.clarificationRequests ∧
      List.Forall₂ (fun raw finding => finding.val = classifiedFields result.runKey.val raw.val ∧
        SupportedFinding pr.val memory budgeted view raw.val) kept q.findings ∧
      ∃ ofFindings ofRequests : List (Checked SuppressedOutput),
        q.suppressedOutputs = ofFindings ++ ofRequests ++ result.suppressedOutputs ∧
        ofFindings.map (fun o => o.val.id) = dropped.map (fun raw => raw.val.id) ∧
        ofRequests.map (fun o => o.val.id) = droppedRequests.map (fun request =>
          request.val.id) := by
  obtain ⟨q, kept, dropped, droppedRequests, hq, hsplit⟩ := classifyReviewQuality_ok
    ⟨view, result, budgeted.memory.entries, budgeted.contextBudget.val.omittedFilePaths,
      budgeted.contextBudget.val.omittedMemoryIds⟩
  have hkeeps := budgetKeeps hbudget
  refine ⟨q, kept, dropped, droppedRequests, hq, hsplit.findings, hsplit.requests,
    hsplit.classified.imp ?_, hsplit.suppressed⟩
  rintro raw finding ⟨hpasses, hfinding⟩
  refine ⟨hfinding, ?_⟩
  obtain ⟨hpath, hids, lines, hlines, hsame, hline, hstatus⟩ := hpasses.notOmitted_iff
  obtain ⟨original, -, file, hfile, hfilePath, -, -⟩ := path_of_mem_view hview hlines
  constructor
  · exact ⟨lines, hlines, hsame, hline, hstatus⟩
  · exact ⟨file, hfile, hfilePath.trans hsame⟩
  · intro file' hfile' hpath'
    exact hkeeps.files file' hfile' (hpath' ▸ hpath)
  · intro id hid
    obtain ⟨m, hm, hmid, hactionable⟩ := hpasses.actionable hid
    refine ⟨hids id hid, m, hm, hmid, hkeeps.memory m hm (hmid ▸ hids id hid), hactionable, ?_⟩
    exact trusted_of_actionable m hactionable

/-- The fields of the target are valid. -/
lemma oneFileTarget_valid :
    Record.postInit (⟨"o/r", 1, "b", "h", none, "d"⟩ : ReviewTarget) = .ok () := by
  decide +kernel

/-- A pull request that changes one file, with its patch. -/
def oneFilePullRequest : Checked PullRequestContext :=
  ⟨{ reviewTarget := ⟨⟨"o/r", 1, "b", "h", none, "d"⟩, oneFileTarget_valid⟩
     title := "Add retries"
     body := none
     labels := []
     changedFiles := [⟨⟨"src/cache.py", some "+x", 1, 0, "modified", none, "available"⟩,
       by decide +kernel⟩]
     comments := []
     reviews := []
     reviewThreads := [] }, by decide +kernel⟩

/-- The limits of one file, one patch byte more than it has, eighty bytes of memory and one
reviewer. -/
def oneFileLimits : Checked ContextBudget :=
  ⟨{ maxChangedFiles := 1
     maxPatchBytes := 3
     maxMemoryBytes := 80
     maxReviewers := 1
     maxLiveCalls := 0 }, by decide +kernel⟩

/-- An unresolved comment of a trusted author on the file. -/
def trustedComment (id body : Text) : MemoryReference where
  id := id
  trustLabel := "trusted"
  resolvedStatus := "unresolved"
  sourceType := "review_thread"
  body := some body
  author := none
  authorAssociation := none
  authorType := some "User"
  createdAt := none
  url := none
  path := some "src/cache.py"
  line := none
  actionable := true
  passiveReason := none
  sourceProvider := none
  sourceId := none
  threadId := none

/-- The fields of both comments are valid. -/
lemma twoComments_valid :
    Record.postInit (trustedComment "m1" "Keep the key.") = .ok () ∧
    Record.postInit (trustedComment "m2" "Please keep all the flags too.") = .ok () := by
  decide +kernel

/-- A comment that the limits keep, and one that they leave out. -/
def twoComments : PRConversationMemory :=
  ⟨[⟨_, twoComments_valid.1⟩, ⟨_, twoComments_valid.2⟩]⟩

/-- A finding on the third line of the file that cites a comment. -/
def citingFinding (id memoryId : Text) : RawReviewerFinding where
  id := id
  severity := .warning
  confidence := .high
  path := "src/cache.py"
  line := 3
  title := "Cache key is dropped"
  rationale := "The new branch drops the key when it is empty."
  evidence := "Changed line 3 now drops the flags."
  lineEnd := none
  suggestedFix := none
  evidenceSources := ["diff", "trusted_memory"]
  evidenceMemoryIds := [memoryId]

/-- The fields of the run key and of both findings are valid. -/
lemma twoFindings_valid : Record.postInit
    (⟨"t", "c", .specializedReview, "bugs", 1, none, none⟩ : ReviewerRunKey) = .ok () ∧
    Record.postInit (citingFinding "f1" "m1") = .ok () ∧
    Record.postInit (citingFinding "f2" "m2") = .ok () := by
  decide +kernel

/-- A reviewer with two findings, one for each comment. -/
def twoFindingsResult : ReviewerResult where
  runKey := ⟨_, twoFindings_valid.1⟩
  findings := [⟨_, twoFindings_valid.2.1⟩, ⟨_, twoFindings_valid.2.2⟩]
  clarificationRequests := []
  localNotes := []
  suggestedReplies := []
  suppressedOutputs := []

/-- The changed lines of the file. -/
def oneFileLines : List ChangedLines :=
  [.github ⟨"src/cache.py", [⟨1, 5⟩], "modified", none, "available"⟩]

/-- The budget keeps the file and one of two comments: the finding that cites the other one is
suppressed, the finding that cites the kept one is published and supported. -/
theorem qualityGate_supported_twoFindings : ∃ budgeted view,
    applyInputContextBudget oneFilePullRequest twoComments oneFileLimits [] = .ok budgeted ∧
    budgetedDryRunInputView oneFileLines budgeted.pr.val.changedFiles = .ok view ∧
    ∃ q kept dropped, classifyReviewQuality ⟨view, twoFindingsResult, budgeted.memory.entries,
        budgeted.contextBudget.val.omittedFilePaths,
        budgeted.contextBudget.val.omittedMemoryIds⟩ = .ok q ∧
      (q.findings.map fun f => f.val.id) = [("f1" : Text)] ∧
      (q.suppressedOutputs.map fun o => o.val.id) = [("f2" : Text)] ∧
      List.Interleaving kept dropped twoFindingsResult.findings ∧
      List.Forall₂ (fun raw finding =>
        finding.val = classifiedFields twoFindingsResult.runKey.val raw.val ∧
        SupportedFinding oneFilePullRequest.val twoComments budgeted view raw.val) kept
          q.findings := by
  have hruns : (do
      let budgeted ← applyInputContextBudget oneFilePullRequest twoComments oneFileLimits []
      let view ← budgetedDryRunInputView oneFileLines budgeted.pr.val.changedFiles
      let q ← classifyReviewQuality ⟨view, twoFindingsResult, budgeted.memory.entries,
        budgeted.contextBudget.val.omittedFilePaths, budgeted.contextBudget.val.omittedMemoryIds⟩
      return (q.findings.map fun (f : Checked ClassifiedFinding) => f.val.id,
        q.suppressedOutputs.map fun (o : Checked SuppressedOutput) => o.val.id)) =
        .ok ([("f1" : Text)], [("f2" : Text)]) := by decide +kernel
  obtain ⟨budgeted, hbudget, hruns⟩ := bind_eq_ok.1 hruns
  obtain ⟨view, hview, hruns⟩ := bind_eq_ok.1 hruns
  obtain ⟨q', hq', hruns⟩ := bind_eq_ok.1 hruns
  obtain ⟨hids, hsuppressed⟩ := Prod.mk.inj (Except.ok.inj hruns)
  obtain ⟨q, kept, dropped, -, hq, hfindings, -, hsupported, -⟩ :=
    qualityGate_supported hbudget hview twoFindingsResult
  obtain rfl : q' = q := Except.ok.inj (hq'.symm.trans hq)
  exact ⟨budgeted, view, hbudget, hview, q', kept, dropped, hq, hids, hsuppressed, hfindings,
    hsupported⟩

end ReviewGraph
