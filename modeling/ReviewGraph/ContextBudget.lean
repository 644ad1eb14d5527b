import ReviewGraph.Foundation.Lists
import ReviewGraph.Models.Context

/-!
# The budget of the input context

`apply_input_context_budget` of `context_budget.py`.  It keeps changed files up to a number, patches
and memory up to a number of bytes each, in the order of the input, and reports what it leaves out.
-/

namespace ReviewGraph

/-! ## Markers and notes -/

/-- The runs of ASCII letters and digits of a text. -/
def alphanumericRuns (value : Text) : List Text :=
  (value.splitOnP fun c => !Unicode.isAsciiAlphanumeric c).filter (· ≠ [])

/-- The lower-case form of an ASCII character. -/
def asciiLower (c : Char) : Char := if Unicode.isUpper c then Char.ofNat (c.toNat + 32) else c

/-- `_slug`. -/
def slug (value : Text) : Text :=
  let slug := (Text.join ['-'] (alphanumericRuns value)).map asciiLower
  if slug = [] then "context" else slug

/-- `_stable_suffix`.  It is irreducible, so that proofs do not compute digests. -/
@[irreducible] def stableSuffix (value : Text) : Text := (Sha256.hexDigest value).take 12

/-- What a marker counts. -/
structure MarkerCounts where
  originalCount : Option ℕ := none
  retainedCount : Option ℕ := none
  originalBytes : Option ℕ := none
  retainedBytes : Option ℕ := none

/-- The identifier of a marker. -/
def markerId (space affectedId : Text) : Text :=
  "budget-" ++ (slug space ++ ("-" ++ (slug affectedId ++ ("-" ++ stableSuffix affectedId))))

/-- `_marker`. -/
def omittedMarker (space reasonCode dimension affectedId : Text) (counts : MarkerCounts) :
    Result (Checked OmittedContextMarker) :=
  construct {
    id := markerId space affectedId
    source := "budget"
    reasonCode
    dimension
    affectedId
    originalCount := counts.originalCount
    retainedCount := counts.retainedCount
    originalBytes := counts.originalBytes
    retainedBytes := counts.retainedBytes }

/-- A local note about a marker. -/
def markerNote (marker : OmittedContextMarker) (title body evidence : Text) :
    Result (Checked LocalNote) :=
  construct {
    id := "note-" ++ marker.id
    title
    body
    evidence
    classification := .localNote }

/-- `_omitted_note`. -/
def omittedNote (marker : OmittedContextMarker) (body : Text) : Result (Checked LocalNote) :=
  markerNote marker "Context budget omitted input context" body
    (marker.reasonCode ++ (" on " ++ (marker.dimension ++ ".")))

/-- `_dedupe_markers`. -/
def dedupeMarkers (markers : List (Checked OmittedContextMarker)) :
    List (Checked OmittedContextMarker) :=
  markers.firstBy fun marker => marker.val.id

/-- `_dedupe_truncation`. -/
def dedupeTruncation (notices : List (Checked TruncationNotice)) :
    List (Checked TruncationNotice) :=
  notices.firstBy fun notice => (notice.val.resource, notice.val.note)

/-- `_unique`. -/
def unique (values : List Text) : List Text := values.firstBy id

/-- A marker of an affected identifier is built. -/
lemma omittedMarker_ok (space : Text) {reasonCode dimension affectedId : Text}
    (hreason : reasonCode ≠ [])
    (hdimension : dimension ≠ []) (haffected : affectedId ≠ []) (counts : MarkerCounts) :
    ∃ marker, omittedMarker space reasonCode dimension affectedId counts = .ok marker ∧
      marker.val.id = markerId space affectedId ∧ marker.val.affectedId = affectedId ∧
      marker.val.reasonCode = reasonCode ∧ marker.val.dimension = dimension := by
  refine ⟨⟨_, ?checks⟩, construct_of_postInit ?checks, rfl, rfl, rfl, rfl⟩
  case checks =>
    simp only [Record.postInit, check_bind_eq_ok, requireNonEmpty_eq_ok]
    exact ⟨by simp [markerId], by simp, hreason, hdimension, haffected⟩

/-- A note about a marker is built. -/
lemma markerNote_ok {title body evidence : Text} (marker : OmittedContextMarker)
    (htitle : title ≠ [])
    (hbody : body ≠ []) (hevidence : evidence ≠ []) :
    ∃ note, markerNote marker title body evidence = .ok note := by
  refine ⟨⟨_, ?checks⟩, construct_of_postInit ?checks⟩
  case checks =>
    simp only [Record.postInit, check_bind_eq_ok, requireNonEmpty_eq_ok, require_eq_ok]
    exact ⟨by simp, htitle, hbody, hevidence, trivial⟩

/-- The texts that are kept are texts of the list. -/
lemma mem_of_mem_unique {values : List Text} {value : Text} (h : value ∈ unique values) :
    value ∈ values :=
  (List.firstBy_sublist id values).subset h

/-- Removing repetitions removes no value. -/
lemma mem_unique {values : List Text} {value : Text} : value ∈ unique values ↔ value ∈ values := by
  refine ⟨mem_of_mem_unique, fun h => ?_⟩
  obtain ⟨kept, hkept, rfl⟩ := List.exists_mem_firstBy id values h
  exact hkept

/-! ## Bytes -/

/-- The length of a text in UTF-8. -/
def utf8Length (t : Text) : ℕ := (t.map Char.utf8Size).sum

/-- `_patch_bytes`. -/
def patchBytes (file : PullRequestChangedFile) : ℕ := utf8Length (file.patch.getD [])

/-- `_memory_bytes`. -/
def memoryBytes (memory : MemoryReference) : ℕ :=
  utf8Length (Text.unlines [memory.id, memory.trustLabel, memory.resolvedStatus, memory.sourceType,
    memory.author.getD [], memory.authorAssociation.getD [], memory.authorType.getD [],
    memory.createdAt.getD [], memory.path.getD [], memory.line.elim [] Text.ofInt,
    memory.body.getD []])

/-! ## Keeping files and memory -/

/-- What a loop of `apply_input_context_budget` reports. -/
structure OmissionReport where
  omitted : List Text := []
  markers : List (Checked OmittedContextMarker) := []
  truncation : List (Checked TruncationNotice) := []
  localNotes : List (Checked LocalNote) := []
  reasons : List Text := []

/-- The variables of the loop over the changed files. -/
structure FileBudgetState where
  retainedFiles : List (Checked PullRequestChangedFile)
  retainedPatchBytes : ℕ
  patchBudgetRemaining : ℕ
  report : OmissionReport

/-- The variables of the loop over the memory. -/
structure MemoryBudgetState where
  retainedMemory : List (Checked MemoryReference)
  retainedMemoryBytes : ℕ
  memoryBudgetRemaining : ℕ
  report : OmissionReport

/-- The notice of a patch or body that is left out. -/
def byteTruncation (resource note : Text) (bytes : ℕ) : Result (Checked TruncationNotice) :=
  construct {
    resource
    truncated := true
    note
    originalCount := none
    retainedCount := none
    originalBytes := some bytes
    retainedBytes := some 0 }

/-- One round of the loop over the changed files. -/
def budgetFile (limits : ContextBudget) (fileCount : ℕ) (st : FileBudgetState)
    (file : Checked PullRequestChangedFile) : Result FileBudgetState := do
  let path := file.val.path
  let report := st.report
  if limits.maxChangedFiles ≤ st.retainedFiles.length then
    let marker ← omittedMarker "changed-files" "changed_file_count_exceeded" "changed_files" path {
      originalCount := some fileCount
      retainedCount := some st.retainedFiles.length }
    let note ← omittedNote marker.val ("Changed file omitted: " ++ path)
    return { st with
      report := { report with
        omitted := report.omitted ++ [path]
        markers := report.markers ++ [marker]
        localNotes := report.localNotes ++ [note]
        reasons := report.reasons ++ [("changed_file_count_exceeded" : Text)] } }
  else if file.val.patch = none ∧ file.val.patchStatus ≠ "available" then
    let marker ← omittedMarker "patch" "fixture_patch_truncated" "patch_bytes" path {
      retainedBytes := some 0 }
    return { st with
      retainedFiles := st.retainedFiles ++ [file]
      report := { report with
        omitted := report.omitted ++ [path]
        markers := report.markers ++ [marker]
        reasons := report.reasons ++ [("fixture_patch_truncated" : Text)] } }
  else
    let bytes := patchBytes file.val
    if st.patchBudgetRemaining < bytes then
      let stripped ← construct { file.val with patch := none, patchStatus := "budget_truncated" }
      let marker ← omittedMarker "patch" "patch_byte_budget_exceeded" "patch_bytes" path {
        originalBytes := some bytes
        retainedBytes := some 0 }
      let notice ← byteTruncation ("patch:" ++ path) "Patch omitted by context budget." bytes
      let note ← omittedNote marker.val ("Patch omitted: " ++ path)
      return { st with
        retainedFiles := st.retainedFiles ++ [stripped]
        report := {
          omitted := report.omitted ++ [path]
          markers := report.markers ++ [marker]
          truncation := report.truncation ++ [notice]
          localNotes := report.localNotes ++ [note]
          reasons := report.reasons ++ [("patch_byte_budget_exceeded" : Text)] } }
    else
      return {
        retainedFiles := st.retainedFiles ++ [file]
        retainedPatchBytes := st.retainedPatchBytes + bytes
        patchBudgetRemaining := st.patchBudgetRemaining - bytes
        report }

/-- One round of the loop over the memory. -/
def budgetMemory (st : MemoryBudgetState) (memory : Checked MemoryReference) :
    Result MemoryBudgetState := do
  let id := memory.val.id
  let bytes := memoryBytes memory.val
  let report := st.report
  if st.memoryBudgetRemaining < bytes then
    let stripped ← construct { memory.val with body := none }
    let marker ← omittedMarker "memory" "memory_byte_budget_exceeded" "memory_bytes" id {
      originalBytes := some bytes
      retainedBytes := some 0 }
    let notice ← byteTruncation ("memory:" ++ id)
      "Conversation memory body omitted by context budget." bytes
    let note ← omittedNote marker.val ("Conversation memory omitted: " ++ id)
    return { st with
      retainedMemory := st.retainedMemory ++ [stripped]
      report := {
        omitted := report.omitted ++ [id]
        markers := report.markers ++ [marker]
        truncation := report.truncation ++ [notice]
        localNotes := report.localNotes ++ [note]
        reasons := report.reasons ++ [("memory_byte_budget_exceeded" : Text)] } }
  else
    return {
      retainedMemory := st.retainedMemory ++ [memory]
      retainedMemoryBytes := st.retainedMemoryBytes + bytes
      memoryBudgetRemaining := st.memoryBudgetRemaining - bytes
      report }

/-- `BudgetedInputContext`. -/
structure BudgetedInputContext where
  contextBudget : Checked ContextBudget
  pr : Checked PullRequestContext
  memory : PRConversationMemory
  localNotes : List (Checked LocalNote)
  deriving DecidableEq

/-- The budget that is reported after both loops.  The memory loop continues the report of the file
loop, except for the identifiers that are left out. -/
def inputBudget (pr : PullRequestContext) (memory : PRConversationMemory) (limits : ContextBudget)
    (files : FileBudgetState) (kept : MemoryBudgetState) : ContextBudget where
  maxChangedFiles := limits.maxChangedFiles
  maxPatchBytes := limits.maxPatchBytes
  maxMemoryBytes := limits.maxMemoryBytes
  maxReviewers := limits.maxReviewers
  maxLiveCalls := limits.maxLiveCalls
  truncation := dedupeTruncation kept.report.truncation
  omittedContext := dedupeMarkers kept.report.markers
  originalChangedFileCount := pr.changedFiles.length
  retainedChangedFileCount := files.retainedFiles.length
  originalPatchBytes := (pr.changedFiles.map fun f => patchBytes f.val).sum
  retainedPatchBytes := files.retainedPatchBytes
  originalMemoryCount := memory.entries.length
  retainedMemoryCount := kept.retainedMemory.length
  originalMemoryBytes := (memory.entries.map fun m => memoryBytes m.val).sum
  retainedMemoryBytes := kept.retainedMemoryBytes
  retainedFilePaths := files.retainedFiles.map fun f => f.val.path
  omittedFilePaths := unique files.report.omitted
  retainedMemoryIds := kept.retainedMemory.map fun m => m.val.id
  omittedMemoryIds := unique kept.report.omitted
  generatedLocalNoteIds := kept.report.localNotes.map fun note => note.val.id
  reasons := unique kept.report.reasons

/-- The loop over the changed files. -/
def budgetFiles (pr : PullRequestContext) (limits : ContextBudget)
    (existingTruncation : List (Checked TruncationNotice)) : Result FileBudgetState :=
  pr.changedFiles.foldlM (budgetFile limits pr.changedFiles.length)
    ⟨[], 0, limits.maxPatchBytes, { truncation := existingTruncation }⟩

/-- The loop over the memory, after the one over the changed files. -/
def budgetMemories (memory : PRConversationMemory) (limits : ContextBudget)
    (report : OmissionReport) :
    Result MemoryBudgetState :=
  memory.entries.foldlM budgetMemory
    ⟨[], 0, limits.maxMemoryBytes, { report with omitted := [] }⟩

/-- `apply_input_context_budget`. -/
def applyInputContextBudget (pr : Checked PullRequestContext) (memory : PRConversationMemory)
    (limits : Checked ContextBudget) (existingTruncation : List (Checked TruncationNotice)) :
    Result BudgetedInputContext := do
  let files ← budgetFiles pr.val limits.val existingTruncation
  let kept ← budgetMemories memory limits.val files.report
  let budget ← construct (inputBudget pr.val memory limits.val files kept)
  let budgetedPr ← construct { pr.val with changedFiles := files.retainedFiles }
  return {
    contextBudget := budget
    pr := budgetedPr
    memory := ⟨kept.retainedMemory⟩
    localNotes := kept.report.localNotes }

/-! ## The budget never fails -/

/-- Every text that a loop reports is non-empty. -/
structure OmissionReport.Valid (report : OmissionReport) : Prop where
  omitted : ∀ t ∈ report.omitted, t ≠ []
  reasons : ∀ t ∈ report.reasons, t ≠ []

/-- The notice of a patch or body is built. -/
lemma byteTruncation_ok {resource note : Text} (bytes : ℕ) (hresource : resource ≠ [])
    (hnote : note ≠ []) : ∃ notice, byteTruncation resource note bytes = .ok notice := by
  refine ⟨⟨_, ?checks⟩, construct_of_postInit ?checks⟩
  case checks =>
    simp only [Record.postInit, check_bind_eq_ok, require_eq_ok]
    exact ⟨hresource, hnote⟩

/-- The note about a marker with a reason is built. -/
lemma omittedNote_ok (marker : OmittedContextMarker) {body : Text} (hbody : body ≠ []) :
    ∃ note, omittedNote marker body = .ok note :=
  markerNote_ok marker (by simp) hbody (by simp)

/-- A memory without its body is still a memory. -/
lemma stripped_ok (memory : Checked MemoryReference) :
    construct { memory.val with body := none } =
      .ok ⟨{ memory.val with body := none }, memory.property⟩ :=
  construct_of_postInit
    (show Record.postInit { memory.val with body := none } = .ok () from memory.property)

/-- A file without its patch is still a file. -/
lemma stripPatch_ok (file : Checked PullRequestChangedFile) :
    ∃ stripped, construct { file.val with patch := none, patchStatus := "budget_truncated" } =
      .ok stripped := by
  have hvalid := file.property
  simp only [Record.postInit, check_bind_eq_ok, requireNonEmpty_eq_ok, require_eq_ok] at hvalid
  obtain ⟨hpath, hstatus, hprevious, -, -⟩ := hvalid
  refine ⟨⟨_, ?checks⟩, construct_of_postInit ?checks⟩
  case checks =>
    simp only [Record.postInit, check_bind_eq_ok, requireNonEmpty_eq_ok, require_eq_ok]
    exact ⟨hpath, hstatus, hprevious, by simp, fun _ => by decide +kernel⟩

/-- A changed file has a path. -/
lemma path_ne_nil (file : Checked PullRequestChangedFile) : file.val.path ≠ [] := by
  have hvalid := file.property
  simp only [Record.postInit, check_bind_eq_ok, requireNonEmpty_eq_ok] at hvalid
  exact hvalid.1

/-- A memory has an identifier. -/
lemma memoryId_ne_nil (memory : Checked MemoryReference) : memory.val.id ≠ [] := by
  have hvalid := memory.property
  simp only [Record.postInit, check_bind_eq_ok, require_eq_ok] at hvalid
  exact hvalid.1

/-- A note has an identifier. -/
lemma noteId_ne_nil (note : Checked LocalNote) : note.val.id ≠ [] := by
  have hvalid := note.property
  simp only [Record.postInit, check_bind_eq_ok, requireNonEmpty_eq_ok] at hvalid
  exact hvalid.1

/-- A report that also names one more omission is valid. -/
lemma OmissionReport.Valid.append {report : OmissionReport} (h : report.Valid) {id reason : Text}
    (hid : id ≠ []) (hreason : reason ≠ []) {markers : List (Checked OmittedContextMarker)}
    {truncation : List (Checked TruncationNotice)} {localNotes : List (Checked LocalNote)} :
    (OmissionReport.mk (report.omitted ++ [id]) markers truncation localNotes
      (report.reasons ++ [reason])).Valid := by
  constructor
  · intro t ht
    rcases List.mem_append.1 ht with ht | ht
    · exact h.omitted t ht
    · rwa [List.mem_singleton.1 ht]
  · intro t ht
    rcases List.mem_append.1 ht with ht | ht
    · exact h.reasons t ht
    · rwa [List.mem_singleton.1 ht]

/-- One round over the files succeeds, and a file has been kept after it. -/
lemma budgetFile_ok {limits : ContextBudget} (hlimits : 0 < limits.maxChangedFiles) (fileCount : ℕ)
    {st : FileBudgetState} (h : st.report.Valid) (file : Checked PullRequestChangedFile) :
    ∃ st', budgetFile limits fileCount st file = .ok st' ∧ st'.report.Valid ∧
      st'.retainedFiles ≠ [] := by
  have hpath := path_ne_nil file
  unfold budgetFile
  dsimp only
  split
  · obtain ⟨marker, hmarker, -, -, -, -⟩ := omittedMarker_ok "changed-files"
      (show ("changed_file_count_exceeded" : Text) ≠ [] by simp)
      (show ("changed_files" : Text) ≠ [] by simp) hpath {
        originalCount := some fileCount
        retainedCount := some st.retainedFiles.length }
    obtain ⟨note, hnote⟩ := omittedNote_ok marker.val
      (show ("Changed file omitted: " : Text) ++ file.val.path ≠ [] by simp)
    rw [hmarker, ok_bind, hnote, ok_bind]
    refine ⟨_, rfl, h.append hpath (by simp), ?_⟩
    rename_i hfull
    exact List.ne_nil_of_length_pos (hlimits.trans_le hfull)
  split
  · obtain ⟨marker, hmarker, -, -, -, -⟩ := omittedMarker_ok "patch"
      (show ("fixture_patch_truncated" : Text) ≠ [] by simp)
      (show ("patch_bytes" : Text) ≠ [] by simp) hpath { retainedBytes := some 0 }
    rw [hmarker, ok_bind]
    exact ⟨_, rfl, h.append hpath (by simp), by simp⟩
  split
  · obtain ⟨stripped, hstripped⟩ := stripPatch_ok file
    obtain ⟨marker, hmarker, -, -, -, -⟩ := omittedMarker_ok "patch"
      (show ("patch_byte_budget_exceeded" : Text) ≠ [] by simp)
      (show ("patch_bytes" : Text) ≠ [] by simp) hpath {
        originalBytes := some (patchBytes file.val)
        retainedBytes := some 0 }
    obtain ⟨notice, hnotice⟩ := byteTruncation_ok (patchBytes file.val)
      (show ("patch:" : Text) ++ file.val.path ≠ [] by simp)
      (show ("Patch omitted by context budget." : Text) ≠ [] by simp)
    obtain ⟨note, hnote⟩ := omittedNote_ok marker.val
      (show ("Patch omitted: " : Text) ++ file.val.path ≠ [] by simp)
    rw [hstripped, ok_bind, hmarker, ok_bind, hnotice, ok_bind, hnote, ok_bind]
    exact ⟨_, rfl, h.append hpath (by simp), by simp⟩
  · exact ⟨_, rfl, h, by simp⟩

/-- What the loop over the memory keeps of the entries: the body of an entry is left out if the
entry does not fit into what remains of the budget. -/
def fitMemory : ℕ → List MemoryReference → List MemoryReference
  | _, [] => []
  | remaining, memory :: rest =>
    if remaining < memoryBytes memory then { memory with body := none } :: fitMemory remaining rest
    else memory :: fitMemory (remaining - memoryBytes memory) rest

/-- One round over the memory succeeds. -/
lemma budgetMemory_ok {st : MemoryBudgetState} (h : st.report.Valid)
    (memory : Checked MemoryReference) :
    ∃ st', budgetMemory st memory = .ok st' ∧ st'.report.Valid ∧
      ∀ rest, (st'.retainedMemory.map fun m => m.val) ++ fitMemory st'.memoryBudgetRemaining rest =
        (st.retainedMemory.map fun m => m.val) ++
          fitMemory st.memoryBudgetRemaining (memory.val :: rest) := by
  have hid := memoryId_ne_nil memory
  unfold budgetMemory
  dsimp only
  split
  · rename_i hbytes
    obtain ⟨marker, hmarker, -, -, -, -⟩ := omittedMarker_ok "memory"
      (show ("memory_byte_budget_exceeded" : Text) ≠ [] by simp)
      (show ("memory_bytes" : Text) ≠ [] by simp) hid {
        originalBytes := some (memoryBytes memory.val)
        retainedBytes := some 0 }
    obtain ⟨notice, hnotice⟩ := byteTruncation_ok (memoryBytes memory.val)
      (show ("memory:" : Text) ++ memory.val.id ≠ [] by simp)
      (show ("Conversation memory body omitted by context budget." : Text) ≠ [] by simp)
    obtain ⟨note, hnote⟩ := omittedNote_ok marker.val
      (show ("Conversation memory omitted: " : Text) ++ memory.val.id ≠ [] by simp)
    rw [stripped_ok, ok_bind, hmarker, ok_bind, hnotice, ok_bind, hnote, ok_bind]
    refine ⟨_, rfl, h.append hid (by simp), ?_⟩
    intro rest
    simp [fitMemory, hbytes]
  · rename_i hbytes
    refine ⟨_, rfl, h, ?_⟩
    intro rest
    simp [fitMemory, hbytes]

/-- The loop over the files succeeds, and keeps a file if there is one. -/
lemma budgetFiles_ok {limits : ContextBudget} (hlimits : 0 < limits.maxChangedFiles) (fileCount : ℕ)
    (files : List (Checked PullRequestChangedFile)) {st : FileBudgetState} (h : st.report.Valid)
    (hfiles : files ≠ [] ∨ st.retainedFiles ≠ []) :
    ∃ st', files.foldlM (budgetFile limits fileCount) st = .ok st' ∧ st'.report.Valid ∧
      st'.retainedFiles ≠ [] := by
  induction files generalizing st with
  | nil => exact ⟨st, rfl, h, hfiles.resolve_left (by simp)⟩
  | cons file files ih =>
    obtain ⟨next, hnext, hvalid, hkept⟩ := budgetFile_ok hlimits fileCount h file
    obtain ⟨st', hst', hvalid', hkept'⟩ := ih hvalid (.inr hkept)
    refine ⟨st', ?_, hvalid', hkept'⟩
    rw [List.foldlM_cons, hnext]
    exact hst'

/-- The loop over the memory succeeds, and keeps the entries that fit. -/
lemma budgetMemories_ok (entries : List (Checked MemoryReference)) {st : MemoryBudgetState}
    (h : st.report.Valid) :
    ∃ st', entries.foldlM budgetMemory st = .ok st' ∧ st'.report.Valid ∧
      (st'.retainedMemory.map fun m => m.val) = (st.retainedMemory.map fun m => m.val) ++
        fitMemory st.memoryBudgetRemaining (entries.map fun m => m.val) := by
  induction entries generalizing st with
  | nil => exact ⟨st, rfl, h, by simp [fitMemory]⟩
  | cons memory entries ih =>
    obtain ⟨next, hnext, hvalid, hkept⟩ := budgetMemory_ok h memory
    obtain ⟨st', hst', hvalid', heq⟩ := ih hvalid
    refine ⟨st', ?_, hvalid', ?_⟩
    · rw [List.foldlM_cons, hnext]
      exact hst'
    · rw [heq, hkept, List.map_cons]

/-- The budget of a valid context is computed.  Its changed files depend only on those of the
context, and its memory is what fits of the memory. -/
theorem applyInputContextBudget_ok (pr : Checked PullRequestContext) (memory : PRConversationMemory)
    (limits : Checked ContextBudget) (existingTruncation : List (Checked TruncationNotice)) :
    ∃ files budgeted, budgetFiles pr.val limits.val existingTruncation = .ok files ∧
      applyInputContextBudget pr memory limits existingTruncation = .ok budgeted ∧
      budgeted.pr.val = { pr.val with changedFiles := files.retainedFiles } ∧
      (budgeted.memory.entries.map fun m => m.val) =
        fitMemory limits.val.maxMemoryBytes (memory.entries.map fun m => m.val) := by
  have hcontext := pr.property
  simp only [Record.postInit, check_bind_eq_ok, require_eq_ok, requireNonEmpty_eq_ok] at hcontext
  obtain ⟨htitle, hlabels, hchanged⟩ := hcontext
  have hlimits := ContextBudget.postInit_eq_ok.1 limits.property
  obtain ⟨hfilesMax, hpatchMax, hmemoryMax, hreviewersMax, -⟩ := hlimits
  obtain ⟨files, hfiles, hfilesValid, hfilesKept⟩ := budgetFiles_ok hfilesMax
    pr.val.changedFiles.length pr.val.changedFiles (show FileBudgetState.report
      ⟨[], 0, limits.val.maxPatchBytes, { truncation := existingTruncation }⟩ |>.Valid from
        ⟨by simp, by simp⟩) (.inl hchanged)
  obtain ⟨kept, hkept, hkeptValid, hentries⟩ := budgetMemories_ok memory.entries
    (show MemoryBudgetState.report
      ⟨[], 0, limits.val.maxMemoryBytes, { files.report with omitted := [] }⟩ |>.Valid from
        ⟨by simp, hfilesValid.reasons⟩)
  have hbudget : Record.postInit (inputBudget pr.val memory limits.val files kept) = .ok () := by
    rw [ContextBudget.postInit_eq_ok]
    refine ⟨hfilesMax, hpatchMax, hmemoryMax, hreviewersMax, ?_, ?_, ?_, ?_, by simp [inputBudget],
      by simp [inputBudget], by simp [inputBudget], by simp [inputBudget], ?_, ?_⟩
    · intro t ht
      obtain ⟨file, -, rfl⟩ := List.mem_map.1 ht
      exact path_ne_nil file
    · intro t ht
      exact hfilesValid.omitted t (mem_of_mem_unique ht)
    · intro t ht
      obtain ⟨m, -, rfl⟩ := List.mem_map.1 ht
      exact memoryId_ne_nil m
    · intro t ht
      exact hkeptValid.omitted t (mem_of_mem_unique ht)
    · intro t ht
      obtain ⟨note, -, rfl⟩ := List.mem_map.1 ht
      exact noteId_ne_nil note
    · intro t ht
      exact hkeptValid.reasons t (mem_of_mem_unique ht)
  have hpr : Record.postInit { pr.val with changedFiles := files.retainedFiles } = .ok () := by
    simp only [Record.postInit, check_bind_eq_ok, require_eq_ok, requireNonEmpty_eq_ok]
    exact ⟨htitle, hlabels, hfilesKept⟩
  have hrun : applyInputContextBudget pr memory limits existingTruncation = .ok {
      contextBudget := ⟨_, hbudget⟩
      pr := ⟨_, hpr⟩
      memory := ⟨kept.retainedMemory⟩
      localNotes := kept.report.localNotes } := by
    unfold applyInputContextBudget budgetFiles budgetMemories
    rw [hfiles, ok_bind, hkept, ok_bind, construct_of_postInit hbudget, ok_bind,
      construct_of_postInit hpr, ok_bind]
    rfl
  exact ⟨files, _, hfiles, hrun, rfl, by simpa using hentries⟩

end ReviewGraph
