import ReviewGraph.ContextBudget

/-!
# What the input budget leaves out

Both loops of `apply_input_context_budget` pass an item on as it is, or report it and pass on at
most its metadata.  `FileRound` and `MemoryRound` say what one round can do; `FilesBudgeted` and
`MemoryBudgeted` are the invariants of the loops over the items that are processed.
-/

namespace ReviewGraph

/-! ## Markers -/

/-- A suffix has twelve digits. -/
lemma length_stableSuffix (value : Text) : (stableSuffix value).length = 12 := by
  unfold stableSuffix
  rw [List.length_take, Sha256.length_hexDigest]
  rfl

/-- The identifier of a marker determines the suffix of the affected identifier. -/
lemma stableSuffix_eq_of_markerId {space space' affectedId affectedId' : Text}
    (h : markerId space affectedId = markerId space' affectedId') :
    stableSuffix affectedId = stableSuffix affectedId' := by
  unfold markerId at h
  simp only [← List.append_assoc] at h
  exact List.append_inj_right' h (by rw [length_stableSuffix, length_stableSuffix])

/-- The markers are named after what they affect, and affect only the given identifiers. -/
def MarkersOf (affected : List Text) (markers : List (Checked OmittedContextMarker)) : Prop :=
  ∀ marker ∈ markers, marker.val.affectedId ∈ affected ∧
    ∃ space, marker.val.id = markerId space marker.val.affectedId

/-- A marker of one more omission belongs to the markers. -/
lemma MarkersOf.append {affected : List Text} {markers : List (Checked OmittedContextMarker)}
    (h : MarkersOf affected markers) {marker : Checked OmittedContextMarker} {space : Text}
    (hid : marker.val.id = markerId space marker.val.affectedId) :
    MarkersOf (affected ++ [marker.val.affectedId]) (markers ++ [marker]) := by
  intro m hm
  rcases List.mem_append.1 hm with hm | hm
  · obtain ⟨hmem, hspace⟩ := h m hm
    exact ⟨List.mem_append_left _ hmem, hspace⟩
  · obtain rfl := List.mem_singleton.1 hm
    exact ⟨by simp, space, hid⟩

/-- Markers of omissions are markers of more omissions. -/
lemma MarkersOf.mono {affected affected' : List Text}
    {markers : List (Checked OmittedContextMarker)}
    (h : MarkersOf affected markers) (hsub : affected ⊆ affected') : MarkersOf affected' markers :=
  fun m hm => ⟨hsub (h m hm).1, (h m hm).2⟩

/-- If the suffixes tell the identifiers apart, a marker survives the removal of duplicates. -/
lemma MarkersOf.exists_dedupe {affected : List Text} {markers : List (Checked OmittedContextMarker)}
    (h : MarkersOf affected markers) (hsuffix : Set.InjOn stableSuffix {t | t ∈ affected})
    {marker : Checked OmittedContextMarker} (hmarker : marker ∈ markers) :
    ∃ kept ∈ dedupeMarkers markers, kept.val.affectedId = marker.val.affectedId := by
  obtain ⟨kept, hkept, hid⟩ := List.exists_mem_firstBy
    (fun m : Checked OmittedContextMarker => m.val.id) markers hmarker
  refine ⟨kept, hkept, ?_⟩
  obtain ⟨hmem, space, hspace⟩ := h marker hmarker
  obtain ⟨hmem', space', hspace'⟩ := h kept ((List.firstBy_sublist _ _).subset hkept)
  rw [hspace, hspace'] at hid
  exact hsuffix hmem' hmem (stableSuffix_eq_of_markerId hid)

/-! ## One round over the files -/

/-- What one round of the loop over the changed files does. -/
inductive FileRound (limits : ContextBudget) (st : FileBudgetState)
    (file : Checked PullRequestChangedFile) : FileBudgetState → Prop
  /-- The file is passed on with its patch. -/
  | intact (hcount : st.retainedFiles.length < limits.maxChangedFiles)
    (hpatch : file.val.patch ≠ none)
      (hbytes : patchBytes file.val ≤ st.patchBudgetRemaining) :
      FileRound limits st file {
        retainedFiles := st.retainedFiles ++ [file]
        retainedPatchBytes := st.retainedPatchBytes + patchBytes file.val
        patchBudgetRemaining := st.patchBudgetRemaining - patchBytes file.val
        report := st.report }
  /-- The file is reported, and passed on without a patch if there is room. -/
  | reported (passed : List (Checked PullRequestChangedFile)) (report : OmissionReport)
      (marker : Checked OmittedContextMarker) (space : Text)
      (hcount : st.retainedFiles.length + passed.length ≤ limits.maxChangedFiles ∨ passed = [])
      (hpassed : passed = [] ∨ ∃ stripped, passed = [stripped] ∧ stripped.val.path = file.val.path ∧
        stripped.val.patch = none)
      (homitted : report.omitted = st.report.omitted ++ [file.val.path])
      (hmarkers : report.markers = st.report.markers ++ [marker])
      (hid : marker.val.id = markerId space marker.val.affectedId)
      (haffected : marker.val.affectedId = file.val.path) :
      FileRound limits st file
        { st with retainedFiles := st.retainedFiles ++ passed, report := report }

/-- What a marker is about. -/
lemma omittedMarker_val {space reasonCode dimension affectedId : Text} {counts : MarkerCounts}
    {marker : Checked OmittedContextMarker}
    (h : omittedMarker space reasonCode dimension affectedId counts = .ok marker) :
    marker.val.id = markerId space marker.val.affectedId ∧ marker.val.affectedId = affectedId := by
  have hval := construct_eq_ok.1 h
  rw [hval]
  exact ⟨rfl, rfl⟩

/-- One round over the files. -/
lemma fileRound_of_budgetFile {limits : ContextBudget} {fileCount : ℕ} {st st' : FileBudgetState}
    {file : Checked PullRequestChangedFile} (h : budgetFile limits fileCount st file = .ok st') :
    FileRound limits st file st' := by
  unfold budgetFile at h
  dsimp only at h
  split at h
  · obtain ⟨marker, hmarker, h⟩ := bind_eq_ok.1 h
    obtain ⟨note, -, h⟩ := bind_eq_ok.1 h
    obtain rfl := pure_eq_ok.1 h
    obtain ⟨hid, haffected⟩ := omittedMarker_val hmarker
    simpa using FileRound.reported [] _ marker _ (.inr rfl) (.inl rfl) rfl rfl hid haffected
  rename_i hcount
  rw [not_le] at hcount
  split at h
  · rename_i hpatch
    obtain ⟨marker, hmarker, h⟩ := bind_eq_ok.1 h
    obtain rfl := pure_eq_ok.1 h
    obtain ⟨hid, haffected⟩ := omittedMarker_val hmarker
    exact .reported [file] _ marker _ (.inl hcount) (.inr ⟨file, rfl, rfl, hpatch.1⟩) rfl rfl hid
      haffected
  rename_i hpatch
  have hsome : file.val.patch ≠ none := by
    intro hnone
    have hvalid := file.property
    simp only [Record.postInit, check_bind_eq_ok, require_eq_ok] at hvalid
    exact hpatch ⟨hnone, hvalid.2.2.2.2 hnone⟩
  split at h
  · obtain ⟨stripped, hstripped, h⟩ := bind_eq_ok.1 h
    obtain ⟨marker, hmarker, h⟩ := bind_eq_ok.1 h
    obtain ⟨notice, -, h⟩ := bind_eq_ok.1 h
    obtain ⟨note, -, h⟩ := bind_eq_ok.1 h
    obtain rfl := pure_eq_ok.1 h
    obtain ⟨hid, haffected⟩ := omittedMarker_val hmarker
    have hval := construct_eq_ok.1 hstripped
    exact .reported [stripped] _ marker _ (.inl hcount)
      (.inr ⟨stripped, rfl, by rw [hval], by rw [hval]⟩) rfl rfl hid haffected
  · rename_i hbytes
    rw [not_lt] at hbytes
    obtain rfl := pure_eq_ok.1 h
    exact .intact hcount hsome hbytes

/-! ## The loop over the files -/

/-- The invariant of the loop over the changed files, for the files that are processed. -/
structure FilesBudgeted (limits : ContextBudget) (files : List (Checked PullRequestChangedFile))
    (st : FileBudgetState) : Prop where
  /-- The order of the input is kept. -/
  order : (st.retainedFiles.map fun f => f.val.path).Sublist (files.map fun f => f.val.path)
  /-- Not more files are kept than allowed. -/
  count : st.retainedFiles.length ≤ limits.maxChangedFiles
  /-- The bytes that are kept and those that remain are those allowed. -/
  bytes : st.retainedPatchBytes + st.patchBudgetRemaining = limits.maxPatchBytes
  /-- The bytes that are kept are those of the patches that are kept. -/
  retained : st.retainedPatchBytes = (st.retainedFiles.map fun f => patchBytes f.val).sum
  /-- Every file is passed on with its patch or reported. -/
  accounted : ∀ f ∈ files, (f ∈ st.retainedFiles ∧ f.val.patch ≠ none) ∨
    (f.val.path ∈ st.report.omitted ∧
      ∃ marker ∈ st.report.markers, marker.val.affectedId = f.val.path)
  /-- A patch that is kept is that of a file that is not reported. -/
  withPatch : ∀ f ∈ st.retainedFiles, f.val.patch ≠ none →
    f ∈ files ∧ f.val.path ∉ st.report.omitted
  /-- Only files are reported. -/
  omitted : st.report.omitted ⊆ files.map fun f => f.val.path
  /-- The markers are about files. -/
  markers : MarkersOf (files.map fun f => f.val.path) st.report.markers

/-- Before the loop nothing is processed. -/
lemma FilesBudgeted.initial (limits : ContextBudget)
    (truncation : List (Checked TruncationNotice)) :
    FilesBudgeted limits [] ⟨[], 0, limits.maxPatchBytes, { truncation := truncation }⟩ where
  order := List.Sublist.refl _
  count := Nat.zero_le _
  bytes := Nat.zero_add _
  retained := rfl
  accounted := by simp
  withPatch := by simp
  omitted := by simp
  markers := by simp [MarkersOf]

/-- One round keeps the invariant, if the file is none of those before. -/
lemma FilesBudgeted.round {limits : ContextBudget} {files : List (Checked PullRequestChangedFile)}
    {st st' : FileBudgetState} {file : Checked PullRequestChangedFile}
    (h : FilesBudgeted limits files st) (hround : FileRound limits st file st')
    (hnew : file.val.path ∉ files.map fun f => f.val.path) :
    FilesBudgeted limits (files ++ [file]) st' := by
  have hunreported : file.val.path ∉ st.report.omitted := fun hmem => hnew (h.omitted hmem)
  cases hround with
  | intact hcount hpatch hbytes =>
    constructor
    · simpa using h.order
    · simpa using hcount
    · have htotal := h.bytes
      show st.retainedPatchBytes + patchBytes file.val +
        (st.patchBudgetRemaining - patchBytes file.val) = limits.maxPatchBytes
      omega
    · simpa using h.retained
    · intro f hf
      rcases List.mem_append.1 hf with hf | hf
      · rcases h.accounted f hf with ⟨hmem, hsome⟩ | hreported
        · exact .inl ⟨List.mem_append_left _ hmem, hsome⟩
        · exact .inr hreported
      · obtain rfl := List.mem_singleton.1 hf
        exact .inl ⟨by simp, hpatch⟩
    · intro f hf hsome
      rcases List.mem_append.1 hf with hf | hf
      · obtain ⟨hmem, hnot⟩ := h.withPatch f hf hsome
        exact ⟨List.mem_append_left _ hmem, hnot⟩
      · obtain rfl := List.mem_singleton.1 hf
        exact ⟨by simp, hunreported⟩
    · intro t ht
      rw [List.map_append]
      exact List.mem_append_left _ (h.omitted ht)
    · refine h.markers.mono ?_
      rw [List.map_append]
      exact List.subset_append_left _ _
  | reported passed report marker space hcount hpassed homitted hmarkers hid haffected =>
    constructor
    · rw [List.map_append, List.map_append]
      refine h.order.append ?_
      rcases hpassed with rfl | ⟨stripped, rfl, hpath, -⟩
      · exact List.nil_sublist _
      · simp [hpath]
    · show (st.retainedFiles ++ passed).length ≤ limits.maxChangedFiles
      rw [List.length_append]
      rcases hcount with hcount | rfl
      · exact hcount
      · exact h.count
    · exact h.bytes
    · show st.retainedPatchBytes = ((st.retainedFiles ++ passed).map fun f => patchBytes f.val).sum
      rw [h.retained, List.map_append, List.sum_append]
      rcases hpassed with rfl | ⟨stripped, rfl, -, hnone⟩
      · rfl
      · simp [patchBytes, hnone, utf8Length]
    · intro f hf
      rw [homitted, hmarkers]
      rcases List.mem_append.1 hf with hf | hf
      · rcases h.accounted f hf with ⟨hmem, hsome⟩ | ⟨hmem, m, hm, haff⟩
        · exact .inl ⟨List.mem_append_left _ hmem, hsome⟩
        · exact .inr ⟨List.mem_append_left _ hmem, m, List.mem_append_left _ hm, haff⟩
      · obtain rfl := List.mem_singleton.1 hf
        exact .inr ⟨by simp, marker, by simp, haffected⟩
    · intro f hf hsome
      rcases List.mem_append.1 hf with hf | hf
      · obtain ⟨hmem, hnot⟩ := h.withPatch f hf hsome
        refine ⟨List.mem_append_left _ hmem, ?_⟩
        rw [homitted]
        intro hreported
        rcases List.mem_append.1 hreported with hreported | hreported
        · exact hnot hreported
        · exact hnew (List.mem_singleton.1 hreported ▸ List.mem_map_of_mem hmem)
      · rcases hpassed with rfl | ⟨stripped, rfl, -, hnone⟩
        · cases hf
        · obtain rfl := List.mem_singleton.1 hf
          exact absurd hnone hsome
    · rw [homitted, List.map_append]
      exact List.append_subset.2 ⟨fun t ht => List.mem_append_left _ (h.omitted ht), by simp⟩
    · rw [hmarkers, List.map_append]
      have happend := h.markers.append hid
      rw [haffected] at happend
      exact happend

/-- The whole loop keeps the invariant, if no path occurs twice. -/
lemma FilesBudgeted.foldlM {limits : ContextBudget} {fileCount : ℕ}
    {files processed : List (Checked PullRequestChangedFile)} {st st' : FileBudgetState}
    (h : FilesBudgeted limits processed st)
    (hnodup : ((processed ++ files).map fun f => f.val.path).Nodup)
    (hloop : files.foldlM (budgetFile limits fileCount) st = .ok st') :
    FilesBudgeted limits (processed ++ files) st' := by
  induction files generalizing processed st with
  | nil =>
    obtain rfl := pure_eq_ok.1 hloop
    simpa using h
  | cons file files ih =>
    rw [List.foldlM_cons] at hloop
    obtain ⟨next, hnext, hloop⟩ := bind_eq_ok.1 hloop
    have hnew : file.val.path ∉ processed.map fun f => f.val.path := by
      rw [List.map_append, List.map_cons] at hnodup
      intro hmem
      exact (List.nodup_append.1 hnodup).2.2 _ hmem _ List.mem_cons_self rfl
    have hprocessed := h.round (fileRound_of_budgetFile hnext) hnew
    have hrest := ih hprocessed (by simpa using hnodup) hloop
    simpa using hrest

/-! ## One round over the memory -/

/-- What one round of the loop over the memory does. -/
inductive MemoryRound (st : MemoryBudgetState) (memory : Checked MemoryReference) :
    MemoryBudgetState → Prop
  /-- The entry is passed on as it is. -/
  | whole (hbytes : memoryBytes memory.val ≤ st.memoryBudgetRemaining) : MemoryRound st memory {
      retainedMemory := st.retainedMemory ++ [memory]
      retainedMemoryBytes := st.retainedMemoryBytes + memoryBytes memory.val
      memoryBudgetRemaining := st.memoryBudgetRemaining - memoryBytes memory.val
      report := st.report }
  /-- The entry is reported, and passed on without its body. -/
  | reported (stripped : Checked MemoryReference) (report : OmissionReport)
      (marker : Checked OmittedContextMarker) (space : Text)
      (hstripped : stripped.val = { memory.val with body := none })
      (homitted : report.omitted = st.report.omitted ++ [memory.val.id])
      (hmarkers : report.markers = st.report.markers ++ [marker])
      (hid : marker.val.id = markerId space marker.val.affectedId)
      (haffected : marker.val.affectedId = memory.val.id)
      (hbytes : st.memoryBudgetRemaining < memoryBytes memory.val) :
      MemoryRound st memory
        { st with retainedMemory := st.retainedMemory ++ [stripped], report := report }

/-- One round over the memory. -/
lemma memoryRound_of_budgetMemory {st st' : MemoryBudgetState} {memory : Checked MemoryReference}
    (h : budgetMemory st memory = .ok st') : MemoryRound st memory st' := by
  unfold budgetMemory at h
  dsimp only at h
  split at h
  · rename_i hbytes
    obtain ⟨stripped, hstripped, h⟩ := bind_eq_ok.1 h
    obtain ⟨marker, hmarker, h⟩ := bind_eq_ok.1 h
    obtain ⟨notice, -, h⟩ := bind_eq_ok.1 h
    obtain ⟨note, -, h⟩ := bind_eq_ok.1 h
    obtain rfl := pure_eq_ok.1 h
    obtain ⟨hid, haffected⟩ := omittedMarker_val hmarker
    exact .reported stripped _ marker _ (construct_eq_ok.1 hstripped) rfl rfl hid haffected hbytes
  · rename_i hbytes
    rw [not_lt] at hbytes
    obtain rfl := pure_eq_ok.1 h
    exact .whole hbytes

/-! ## The loop over the memory -/

/-- The invariant of the loop over the memory, for the entries that are processed; the markers that
were there before affect some given identifiers. -/
structure MemoryBudgeted (affected : List Text) (earlier : List (Checked OmittedContextMarker))
    (entries : List (Checked MemoryReference)) (st : MemoryBudgetState) : Prop where
  /-- The markers that were there before are kept. -/
  earlier : earlier ⊆ st.report.markers
  /-- Every entry is passed on, in order. -/
  order : (st.retainedMemory.map fun m => m.val.id) = entries.map fun m => m.val.id
  /-- Every entry is passed on as it is or reported. -/
  accounted : ∀ m ∈ entries, (m ∈ st.retainedMemory ∧ m.val.id ∉ st.report.omitted) ∨
    (m.val.id ∈ st.report.omitted ∧
      ∃ marker ∈ st.report.markers, marker.val.affectedId = m.val.id)
  /-- A body that is kept is that of an entry that is not reported. -/
  withBody : ∀ m ∈ st.retainedMemory, m.val.body ≠ none →
    m ∈ entries ∧ m.val.id ∉ st.report.omitted
  /-- Only entries are reported. -/
  omitted : st.report.omitted ⊆ entries.map fun m => m.val.id
  /-- The new markers are about entries. -/
  markers : MarkersOf (affected ++ entries.map fun m => m.val.id) st.report.markers

/-- One round keeps the invariant, if the entry is none of those before. -/
lemma MemoryBudgeted.round {affected : List Text} {earlier : List (Checked OmittedContextMarker)}
    {entries : List (Checked MemoryReference)} {st st' : MemoryBudgetState}
    {memory : Checked MemoryReference} (h : MemoryBudgeted affected earlier entries st)
    (hround : MemoryRound st memory st') (hnew : memory.val.id ∉ entries.map fun m => m.val.id) :
    MemoryBudgeted affected earlier (entries ++ [memory]) st' := by
  have hunreported : memory.val.id ∉ st.report.omitted := fun hmem => hnew (h.omitted hmem)
  cases hround with
  | whole hbytes =>
    constructor
    · exact h.earlier
    · simpa using h.order
    · intro m hm
      rcases List.mem_append.1 hm with hm | hm
      · rcases h.accounted m hm with ⟨hmem, hnot⟩ | hreported
        · exact .inl ⟨List.mem_append_left _ hmem, hnot⟩
        · exact .inr hreported
      · obtain rfl := List.mem_singleton.1 hm
        exact .inl ⟨by simp, hunreported⟩
    · intro m hm hsome
      rcases List.mem_append.1 hm with hm | hm
      · obtain ⟨hmem, hnot⟩ := h.withBody m hm hsome
        exact ⟨List.mem_append_left _ hmem, hnot⟩
      · obtain rfl := List.mem_singleton.1 hm
        exact ⟨by simp, hunreported⟩
    · intro t ht
      rw [List.map_append]
      exact List.mem_append_left _ (h.omitted ht)
    · refine h.markers.mono ?_
      rw [List.map_append, ← List.append_assoc]
      exact List.subset_append_left _ _
  | reported stripped report marker space hstripped homitted hmarkers hid haffected _ =>
    constructor
    · rw [hmarkers]
      exact fun m hm => List.mem_append_left _ (h.earlier hm)
    · show (st.retainedMemory ++ [stripped]).map (fun m => m.val.id) = _
      rw [List.map_append, List.map_append, h.order]
      simp [hstripped]
    · intro m hm
      rw [homitted, hmarkers]
      rcases List.mem_append.1 hm with hm | hm
      · rcases h.accounted m hm with ⟨hmem, hnot⟩ | ⟨hmem, marker', hmarker', haff⟩
        · refine .inl ⟨List.mem_append_left _ hmem, ?_⟩
          intro hreported
          rcases List.mem_append.1 hreported with hreported | hreported
          · exact hnot hreported
          · exact hnew (List.mem_singleton.1 hreported ▸ List.mem_map_of_mem hm)
        · exact .inr ⟨List.mem_append_left _ hmem, marker', List.mem_append_left _ hmarker', haff⟩
      · obtain rfl := List.mem_singleton.1 hm
        exact .inr ⟨by simp, marker, by simp, haffected⟩
    · intro m hm hsome
      rcases List.mem_append.1 hm with hm | hm
      · obtain ⟨hmem, hnot⟩ := h.withBody m hm hsome
        refine ⟨List.mem_append_left _ hmem, ?_⟩
        rw [homitted]
        intro hreported
        rcases List.mem_append.1 hreported with hreported | hreported
        · exact hnot hreported
        · exact hnew (List.mem_singleton.1 hreported ▸ List.mem_map_of_mem hmem)
      · obtain rfl := List.mem_singleton.1 hm
        rw [hstripped] at hsome
        exact absurd rfl hsome
    · rw [homitted, List.map_append]
      exact List.append_subset.2 ⟨fun t ht => List.mem_append_left _ (h.omitted ht), by simp⟩
    · rw [hmarkers, List.map_append, ← List.append_assoc]
      have happend := h.markers.append hid
      rw [haffected] at happend
      exact happend

/-- The whole loop keeps the invariant, if no identifier occurs twice. -/
lemma MemoryBudgeted.foldlM {affected : List Text} {earlier : List (Checked OmittedContextMarker)}
    {entries processed : List (Checked MemoryReference)} {st st' : MemoryBudgetState}
    (h : MemoryBudgeted affected earlier processed st)
    (hnodup : ((processed ++ entries).map fun m => m.val.id).Nodup)
    (hloop : entries.foldlM budgetMemory st = .ok st') :
    MemoryBudgeted affected earlier (processed ++ entries) st' := by
  induction entries generalizing processed st with
  | nil =>
    obtain rfl := pure_eq_ok.1 hloop
    simpa using h
  | cons memory entries ih =>
    rw [List.foldlM_cons] at hloop
    obtain ⟨next, hnext, hloop⟩ := bind_eq_ok.1 hloop
    have hnew : memory.val.id ∉ processed.map fun m => m.val.id := by
      rw [List.map_append, List.map_cons] at hnodup
      intro hmem
      exact (List.nodup_append.1 hnodup).2.2 _ hmem _ List.mem_cons_self rfl
    have hprocessed := h.round (memoryRound_of_budgetMemory hnext) hnew
    have hrest := ih hprocessed (by simpa using hnodup) hloop
    simpa using hrest

/-! ## Nothing is left out silently -/

/-- What the budget says about the data that it passes on. -/
structure OmissionReported (pr : PullRequestContext) (memory : PRConversationMemory)
    (limits : ContextBudget) (budgeted : BudgetedInputContext) : Prop where
  /-- The files keep their order. -/
  fileOrder : (budgeted.pr.val.changedFiles.map fun f => f.val.path).Sublist
    (pr.changedFiles.map fun f => f.val.path)
  /-- The entries keep their order. -/
  memoryOrder : (budgeted.memory.entries.map fun m => m.val.id) = memory.entries.map fun m =>
    m.val.id
  /-- A file is passed on with its patch, or reported with a marker and passed on without a
  patch. -/
  files : ∀ f ∈ pr.changedFiles,
    (f ∈ budgeted.pr.val.changedFiles ∧ f.val.patch ≠ none ∧
      f.val.path ∉ budgeted.contextBudget.val.omittedFilePaths) ∨
    (f.val.path ∈ budgeted.contextBudget.val.omittedFilePaths ∧
      (∃ marker ∈ budgeted.contextBudget.val.omittedContext, marker.val.affectedId = f.val.path) ∧
      ∀ g ∈ budgeted.pr.val.changedFiles, g.val.path = f.val.path → g.val.patch = none)
  /-- An entry is passed on as it is, or reported with a marker and passed on without a body. -/
  entries : ∀ m ∈ memory.entries,
    (m ∈ budgeted.memory.entries ∧ m.val.id ∉ budgeted.contextBudget.val.omittedMemoryIds) ∨
    (m.val.id ∈ budgeted.contextBudget.val.omittedMemoryIds ∧
      (∃ marker ∈ budgeted.contextBudget.val.omittedContext, marker.val.affectedId = m.val.id) ∧
      ∀ n ∈ budgeted.memory.entries, n.val.id = m.val.id → n.val.body = none)
  /-- A file that is passed on with a patch is a file of the input that is not reported. -/
  patches : ∀ f ∈ budgeted.pr.val.changedFiles, f.val.patch ≠ none →
    f ∈ pr.changedFiles ∧ f.val.path ∉ budgeted.contextBudget.val.omittedFilePaths
  /-- An entry that is passed on with a body is an entry of the input that is not reported. -/
  bodies : ∀ m ∈ budgeted.memory.entries, m.val.body ≠ none →
    m ∈ memory.entries ∧ m.val.id ∉ budgeted.contextBudget.val.omittedMemoryIds
  /-- The files are not more than allowed. -/
  fileCount : budgeted.pr.val.changedFiles.length ≤ limits.maxChangedFiles
  /-- The patches are not longer than allowed. -/
  patchLimit : (budgeted.pr.val.changedFiles.map fun f =>
    patchBytes f.val).sum ≤ limits.maxPatchBytes
  /-- The numbers that are reported are those of the data. -/
  counts : budgeted.contextBudget.val.originalChangedFileCount = pr.changedFiles.length ∧
    budgeted.contextBudget.val.retainedChangedFileCount = budgeted.pr.val.changedFiles.length ∧
    budgeted.contextBudget.val.originalMemoryCount = memory.entries.length ∧
    budgeted.contextBudget.val.retainedMemoryCount = budgeted.memory.entries.length ∧
    budgeted.contextBudget.val.originalPatchBytes =
      (pr.changedFiles.map fun f => patchBytes f.val).sum ∧
    budgeted.contextBudget.val.retainedPatchBytes =
      (budgeted.pr.val.changedFiles.map fun f => patchBytes f.val).sum

/-- The budget leaves nothing out silently. -/
theorem inputBudget_omissionReported (pr : Checked PullRequestContext)
    (memory : PRConversationMemory)
    (limits : Checked ContextBudget) (existingTruncation : List (Checked TruncationNotice))
    (hpaths : (pr.val.changedFiles.map fun f => f.val.path).Nodup)
    (hids : (memory.entries.map fun m => m.val.id).Nodup)
    (hsuffix : Set.InjOn stableSuffix {t | t ∈ (pr.val.changedFiles.map fun f => f.val.path) ++
      memory.entries.map fun m => m.val.id}) :
    ∃ budgeted, applyInputContextBudget pr memory limits existingTruncation = .ok budgeted ∧
      OmissionReported pr.val memory limits.val budgeted := by
  obtain ⟨-, budgeted, -, hbudgeted, -⟩ :=
    applyInputContextBudget_ok pr memory limits existingTruncation
  refine ⟨budgeted, hbudgeted, ?_⟩
  unfold applyInputContextBudget at hbudgeted
  obtain ⟨files, hfiles, h⟩ := bind_eq_ok.1 hbudgeted
  obtain ⟨kept, hkept, h⟩ := bind_eq_ok.1 h
  obtain ⟨budget, hbudget, h⟩ := bind_eq_ok.1 h
  obtain ⟨budgetedPr, hpr, h⟩ := bind_eq_ok.1 h
  obtain rfl := pure_eq_ok.1 h
  have hbudget := construct_eq_ok.1 hbudget
  have hpr := construct_eq_ok.1 hpr
  have hfilesBudgeted : FilesBudgeted limits.val ([] ++ pr.val.changedFiles) files :=
    (FilesBudgeted.initial limits.val existingTruncation).foldlM (by simpa using hpaths) hfiles
  rw [List.nil_append] at hfilesBudgeted
  have hinitial : MemoryBudgeted (pr.val.changedFiles.map fun f => f.val.path) files.report.markers
      []
      ⟨[], 0, limits.val.maxMemoryBytes, { files.report with omitted := [] }⟩ :=
    ⟨List.Subset.refl _, rfl, by simp, by simp, by simp, by simpa using hfilesBudgeted.markers⟩
  have hmemoryBudgeted := hinitial.foldlM (by simpa using hids) hkept
  rw [List.nil_append] at hmemoryBudgeted
  have hmarker : ∀ t, (∃ marker ∈ kept.report.markers, marker.val.affectedId = t) →
      ∃ marker ∈ dedupeMarkers kept.report.markers, marker.val.affectedId = t := by
    rintro t ⟨marker, hmem, rfl⟩
    exact hmemoryBudgeted.markers.exists_dedupe hsuffix hmem
  constructor
  · simpa [hpr] using hfilesBudgeted.order
  · exact hmemoryBudgeted.order
  · intro f hf
    simp only [hpr, hbudget, inputBudget, mem_unique]
    rcases hfilesBudgeted.accounted f hf with ⟨hmem, hsome⟩ | ⟨hmem, marker, hm, haffected⟩
    · exact .inl ⟨hmem, hsome, (hfilesBudgeted.withPatch f hmem hsome).2⟩
    · refine .inr ⟨hmem, hmarker _ ⟨marker, hmemoryBudgeted.earlier hm, haffected⟩, ?_⟩
      intro g hg hpath
      by_contra hsome
      exact (hfilesBudgeted.withPatch g hg hsome).2 (hpath ▸ hmem)
  · intro m hm
    simp only [hbudget, inputBudget, mem_unique]
    rcases hmemoryBudgeted.accounted m hm with hkeeps | ⟨hmem, hreported⟩
    · exact .inl hkeeps
    · refine .inr ⟨hmem, hmarker _ hreported, ?_⟩
      intro n hn hid
      by_contra hsome
      exact (hmemoryBudgeted.withBody n hn hsome).2 (hid ▸ hmem)
  · intro f hf hsome
    simp only [hpr] at hf
    simpa only [hbudget, inputBudget, mem_unique] using hfilesBudgeted.withPatch f hf hsome
  · intro m hm hsome
    simpa only [hbudget, inputBudget, mem_unique] using hmemoryBudgeted.withBody m hm hsome
  · simpa [hpr] using hfilesBudgeted.count
  · have hbytes := hfilesBudgeted.bytes
    have hretained := hfilesBudgeted.retained
    simp only [hpr]
    omega
  · simp only [hpr, hbudget, inputBudget]
    exact ⟨trivial, trivial, trivial, trivial, trivial, hfilesBudgeted.retained⟩

/-- The fields of the target are valid. -/
lemma longPatchTarget_valid :
    Record.postInit (⟨"o/r", 2, "b", "h", none, "d"⟩ : ReviewTarget) = .ok () := by
  decide +kernel

/-- A pull request whose only patch has four bytes. -/
def longPatchPullRequest : Checked PullRequestContext :=
  ⟨{ reviewTarget := ⟨⟨"o/r", 2, "b", "h", none, "d"⟩, longPatchTarget_valid⟩
     title := "Add retries"
     body := none
     labels := []
     changedFiles := [⟨⟨"a.py", some "+abc", 1, 0, "modified", none, "available"⟩,
       by decide +kernel⟩]
     comments := []
     reviews := []
     reviewThreads := [] }, by decide +kernel⟩

/-- Limits of two bytes. -/
def twoByteLimits : Checked ContextBudget :=
  ⟨{ maxChangedFiles := 1
     maxPatchBytes := 2
     maxMemoryBytes := 2
     maxReviewers := 1
     maxLiveCalls := 0 }, by decide +kernel⟩

/-- A pull request of three files, of which the second has a longer patch. -/
def widePullRequest : Checked PullRequestContext :=
  ⟨{ longPatchPullRequest.val with
     changedFiles := [⟨⟨"a.py", some "+abc", 1, 0, "modified", none, "available"⟩,
         by decide +kernel⟩,
       ⟨⟨"b.py", some "+abcdefgh", 1, 0, "modified", none, "available"⟩, by decide +kernel⟩,
       ⟨⟨"c.py", some "+d", 1, 0, "modified", none, "available"⟩, by decide +kernel⟩] },
    by decide +kernel⟩

/-- An unresolved comment with some text. -/
def shownComment (id body : Text) : MemoryReference where
  id := id
  trustLabel := "untrusted"
  resolvedStatus := "unresolved"
  sourceType := "issue_comment"
  body := some body
  author := none
  authorAssociation := none
  authorType := none
  createdAt := none
  url := none
  path := none
  line := none
  actionable := false
  passiveReason := none
  sourceProvider := none
  sourceId := none
  threadId := none

/-- A short comment and a longer one. -/
def unequalComments : PRConversationMemory :=
  ⟨[⟨shownComment "m1" "Why?", by decide +kernel⟩,
    ⟨shownComment "m2" "Please add a test for the retries, and one for the time limit.",
      by decide +kernel⟩]⟩

/-- Limits for one of the patches and one of the comments. -/
def wideLimits : Checked ContextBudget :=
  ⟨{ maxChangedFiles := 2
     maxPatchBytes := 4
     maxMemoryBytes := 80
     maxReviewers := 1
     maxLiveCalls := 0 }, by decide +kernel⟩

/-- No two of the paths and ids have one suffix. -/
lemma wide_suffixes : ((widePullRequest.val.changedFiles.map fun f => f.val.path) ++
    unequalComments.entries.map fun m => m.val.id).map stableSuffix |>.Nodup := by
  decide +kernel

/-- Under limits for one patch and one comment, what is left out of three files and two comments is
reported. -/
theorem inputBudget_omissionReported_wide :
    ∃ budgeted,
      applyInputContextBudget widePullRequest unequalComments wideLimits [] = .ok budgeted ∧
      OmissionReported widePullRequest.val unequalComments wideLimits.val budgeted :=
  inputBudget_omissionReported widePullRequest unequalComments wideLimits [] (by decide +kernel)
    (by decide +kernel) fun _ ha _ hb heq => List.inj_on_of_nodup_map wide_suffixes ha hb heq

/-! ## The bytes of the memory -/

/-- An entry as it is passed on, whole or without its body. -/
def passMemory (whole : Bool) (memory : MemoryReference) : MemoryReference :=
  if whole then memory else { memory with body := none }

/-- The entries that are marked. -/
def markedEntries (marks : List Bool) (entries : List (Checked MemoryReference)) :
    List (Checked MemoryReference) :=
  ((marks.zip entries).filter Prod.fst).map Prod.snd

/-- One more entry gets one more mark. -/
lemma markedEntries_append {marks : List Bool} {entries : List (Checked MemoryReference)}
    (h : marks.length = entries.length) (mark : Bool) (memory : Checked MemoryReference) :
    markedEntries (marks ++ [mark]) (entries ++ [memory]) =
      markedEntries marks entries ++ if mark then [memory] else [] := by
  unfold markedEntries
  rw [List.zip_append h, List.filter_append, List.map_append]
  cases mark <;> simp

/-- Marks behind those of the entries do not count. -/
lemma markedEntries_append_left {marks : List Bool} {entries : List (Checked MemoryReference)}
    (h : entries.length ≤ marks.length) (others : List Bool) :
    markedEntries (marks ++ others) entries = markedEntries marks entries := by
  have hzip : (marks ++ others).zip entries = marks.zip entries := by
    induction entries generalizing marks with
    | nil => simp
    | cons memory entries ih =>
      cases marks with
      | nil => simp at h
      | cons mark marks =>
        rw [List.cons_append, List.zip_cons_cons, List.zip_cons_cons, ih (Nat.le_of_succ_le_succ h)]
  unfold markedEntries
  rw [hzip]

/-- The bytes of the entries that are marked. -/
def markedBytes (marks : List Bool) (entries : List (Checked MemoryReference)) : ℕ :=
  ((markedEntries marks entries).map fun m => memoryBytes m.val).sum

/-- An entry is marked exactly if it fits into what the marked entries before it leave of the
limit. -/
def MarksFitting (maxMemoryBytes : ℕ) (entries : List (Checked MemoryReference))
    (marks : List Bool) : Prop :=
  ∀ before memory after, entries = before ++ memory :: after →
    marks[before.length]? =
      some (decide (markedBytes marks before + memoryBytes memory.val ≤ maxMemoryBytes))

/-- The next entry is marked if it fits. -/
lemma MarksFitting.concat {maxMemoryBytes : ℕ} {entries : List (Checked MemoryReference)}
    {marks : List Bool} (h : MarksFitting maxMemoryBytes entries marks)
    (hlength : marks.length = entries.length) {mark : Bool} {memory : Checked MemoryReference}
    (hmark : mark = decide (markedBytes marks entries + memoryBytes memory.val ≤ maxMemoryBytes)) :
    MarksFitting maxMemoryBytes (entries ++ [memory]) (marks ++ [mark]) := by
  intro before last after heq
  rcases List.eq_nil_or_concat after with rfl | ⟨after, other, rfl⟩
  · obtain ⟨rfl, hlast⟩ := List.append_inj' heq rfl
    obtain rfl := (List.cons.inj hlast).1
    unfold markedBytes at hmark ⊢
    rw [markedEntries_append_left hlength.ge, List.getElem?_append_right hlength.le, hlength,
      Nat.sub_self, hmark]
    rfl
  · have hentries : entries = before ++ last :: after := by
      rw [List.concat_eq_append, ← List.cons_append, ← List.append_assoc] at heq
      exact (List.append_inj' heq rfl).1
    have hlt : before.length < marks.length := by
      rw [hlength, hentries, List.length_append, List.length_cons]
      omega
    have hbefore := h before last after hentries
    unfold markedBytes at hbefore ⊢
    rw [List.getElem?_append_left hlt, markedEntries_append_left hlt.le]
    exact hbefore

/-- The invariant of the loop over the memory about its bytes: the entries that fit are passed on
whole, the others are passed on without a body. -/
structure MemoryFits (maxMemoryBytes : ℕ) (entries : List (Checked MemoryReference))
    (st : MemoryBudgetState) (fits : List Bool) : Prop where
  /-- There is one mark for every entry. -/
  length : fits.length = entries.length
  /-- The marked entries are those that fit. -/
  fitting : MarksFitting maxMemoryBytes entries fits
  /-- The bytes that are kept and those that remain are those allowed. -/
  bytes : st.retainedMemoryBytes + st.memoryBudgetRemaining = maxMemoryBytes
  /-- The entries are passed on as marked. -/
  passed : (st.retainedMemory.map fun m => m.val) =
    List.zipWith passMemory fits (entries.map fun m => m.val)
  /-- The bytes that are kept are those of the entries that fit. -/
  retained : st.retainedMemoryBytes = markedBytes fits entries
  /-- The entries that do not fit are reported. -/
  omitted : st.report.omitted = (markedEntries (fits.map not) entries).map fun m => m.val.id

/-- One round marks the next entry. -/
lemma MemoryFits.round {maxMemoryBytes : ℕ} {entries : List (Checked MemoryReference)}
    {st st' : MemoryBudgetState} {fits : List Bool} {memory : Checked MemoryReference}
    (h : MemoryFits maxMemoryBytes entries st fits) (hround : MemoryRound st memory st') :
    ∃ mark, MemoryFits maxMemoryBytes (entries ++ [memory]) st' (fits ++ [mark]) := by
  have hlength : (fits.map not).length = entries.length := by rw [List.length_map, h.length]
  have hzip : fits.length = (entries.map fun m => m.val).length := by rw [List.length_map, h.length]
  have htotal := h.bytes
  have hretained := h.retained
  cases hround with
  | whole hbytes =>
    refine ⟨true, ?_, h.fitting.concat h.length ?_, ?_, ?_, ?_, ?_⟩
    · simp [h.length]
    · rw [← hretained, eq_comm, decide_eq_true_eq]
      omega
    · show st.retainedMemoryBytes + memoryBytes memory.val +
        (st.memoryBudgetRemaining - memoryBytes memory.val) = maxMemoryBytes
      omega
    · rw [List.map_append, List.map_append, h.passed, List.zipWith_append hzip]
      rfl
    · unfold markedBytes at hretained ⊢
      rw [markedEntries_append h.length, List.map_append, List.sum_append, ← hretained]
      simp
    · rw [List.map_append, List.map_singleton, markedEntries_append hlength]
      simpa using h.omitted
  | reported stripped report marker space hstripped homitted hmarkers hid haffected hbytes =>
    refine ⟨false, ?_, h.fitting.concat h.length ?_, htotal, ?_, ?_, ?_⟩
    · simp [h.length]
    · rw [← hretained, eq_comm, decide_eq_false_iff_not]
      omega
    · rw [List.map_append, List.map_append, h.passed, List.zipWith_append hzip, List.map_singleton,
        hstripped]
      rfl
    · unfold markedBytes at hretained ⊢
      rw [markedEntries_append h.length]
      simpa using hretained
    · rw [homitted, h.omitted, List.map_append, List.map_singleton, markedEntries_append hlength]
      simp

/-- The whole loop marks every entry. -/
lemma MemoryFits.foldlM {maxMemoryBytes : ℕ} {entries processed : List (Checked MemoryReference)}
    {st st' : MemoryBudgetState} {fits : List Bool}
    (h : MemoryFits maxMemoryBytes processed st fits)
    (hloop : entries.foldlM budgetMemory st = .ok st') :
    ∃ fits', MemoryFits maxMemoryBytes (processed ++ entries) st' fits' := by
  induction entries generalizing processed st fits with
  | nil =>
    obtain rfl := pure_eq_ok.1 hloop
    exact ⟨fits, by simpa using h⟩
  | cons memory entries ih =>
    rw [List.foldlM_cons] at hloop
    obtain ⟨next, hnext, hloop⟩ := bind_eq_ok.1 hloop
    obtain ⟨mark, hmark⟩ := h.round (memoryRound_of_budgetMemory hnext)
    obtain ⟨fits', hfits'⟩ := ih hmark hloop
    exact ⟨fits', by simpa using hfits'⟩

/-- Exactly the entries that fit into what is left of the limit are passed on whole, and their bytes
are reported; the others are passed on without their body, beyond the limit, and are reported as
omitted. -/
theorem inputBudget_memoryBytes (pr : Checked PullRequestContext) (memory : PRConversationMemory)
    (limits : Checked ContextBudget) (existingTruncation : List (Checked TruncationNotice)) :
    ∃ budgeted fits, applyInputContextBudget pr memory limits existingTruncation = .ok budgeted ∧
      fits.length = memory.entries.length ∧
      MarksFitting limits.val.maxMemoryBytes memory.entries fits ∧
      (budgeted.memory.entries.map fun m => m.val) =
        fitMemory limits.val.maxMemoryBytes (memory.entries.map fun m => m.val) ∧
      (budgeted.memory.entries.map fun m => m.val) =
        List.zipWith passMemory fits (memory.entries.map fun m => m.val) ∧
      markedBytes fits memory.entries = budgeted.contextBudget.val.retainedMemoryBytes ∧
      budgeted.contextBudget.val.retainedMemoryBytes ≤ limits.val.maxMemoryBytes ∧
      budgeted.contextBudget.val.omittedMemoryIds =
        unique ((markedEntries (fits.map not) memory.entries).map fun m => m.val.id) := by
  obtain ⟨-, budgeted, -, hbudgeted, -, hentries⟩ :=
    applyInputContextBudget_ok pr memory limits existingTruncation
  have h := hbudgeted
  unfold applyInputContextBudget at h
  obtain ⟨files, hfiles, h⟩ := bind_eq_ok.1 h
  obtain ⟨kept, hkept, h⟩ := bind_eq_ok.1 h
  obtain ⟨budget, hbudget, h⟩ := bind_eq_ok.1 h
  obtain ⟨budgetedPr, hpr, h⟩ := bind_eq_ok.1 h
  obtain rfl := pure_eq_ok.1 h
  have hbudget := construct_eq_ok.1 hbudget
  have hinitial : MemoryFits limits.val.maxMemoryBytes []
      ⟨[], 0, limits.val.maxMemoryBytes, { files.report with omitted := [] }⟩ [] :=
    ⟨rfl, fun before memory after heq => by simp at heq, Nat.zero_add _, rfl, rfl, rfl⟩
  obtain ⟨fits, hfits⟩ := hinitial.foldlM hkept
  rw [List.nil_append] at hfits
  refine ⟨_, fits, hbudgeted, hfits.length, hfits.fitting, hentries, hfits.passed, ?_, ?_, ?_⟩
  · simp only [hbudget, inputBudget]
    exact hfits.retained.symm
  · have hbytes := hfits.bytes
    simp only [hbudget, inputBudget]
    omega
  · simp only [hbudget, inputBudget]
    rw [hfits.omitted]

/-- A comment by an untrusted author. -/
def strippedMemory : Checked MemoryReference :=
  ⟨shownComment "m1" "Please add a test.", by decide +kernel⟩

/-- An entry that does not fit is passed on without its body, and what is left of it is still longer
than the limit. -/
theorem inputBudget_memoryBytes_exceeded :
    ∃ budgeted, applyInputContextBudget longPatchPullRequest ⟨[strippedMemory]⟩ twoByteLimits [] =
        .ok budgeted ∧
      twoByteLimits.val.maxMemoryBytes <
        (budgeted.memory.entries.map fun m => memoryBytes m.val).sum := by
  obtain ⟨-, budgeted, -, hbudgeted, -, hentries⟩ :=
    applyInputContextBudget_ok longPatchPullRequest ⟨[strippedMemory]⟩ twoByteLimits []
  refine ⟨budgeted, hbudgeted, ?_⟩
  have hsum : (budgeted.memory.entries.map fun m => memoryBytes m.val).sum =
      ((budgeted.memory.entries.map fun m => m.val).map memoryBytes).sum := by
    rw [List.map_map]
    rfl
  rw [hsum, hentries]
  decide +kernel

end ReviewGraph
