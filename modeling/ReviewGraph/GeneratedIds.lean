import ReviewGraph.ContextOmission
import ReviewGraph.StageNotes

/-!
# The identifiers of the notes that the graph generates

The identifiers of the notes of a run are made from the stage and the reviewer alone, and those of
the notes of the context budget from what it leaves out.  They differ exactly as far as these do: a
reviewer that fails or is deferred in two clarification reviews gets the same identifier twice.
-/

namespace ReviewGraph

/-! ## The identifiers of notes -/

/-- A key determines its stage and its reviewer. -/
lemma GeneratedNote.key_injective {g g' : GeneratedNote}
    (hg : ∃ stage : ReviewStage, g.stage = stage.value)
    (hg' : ∃ stage : ReviewStage, g'.stage = stage.value) {separator : Text}
    (h : g.stage ++ (separator ++ g.name) = g'.stage ++ (separator ++ g'.name)) :
    g.stage = g'.stage ∧ g.name = g'.name := by
  obtain ⟨stage, hstage⟩ := hg
  obtain ⟨stage', hstage'⟩ := hg'
  rw [hstage, hstage'] at h ⊢
  obtain rfl : stage = stage' := by
    cases stage <;> cases stage' <;> first
      | rfl
      | simp [ReviewStage.value, Text.ofString_eq] at h
  exact ⟨rfl, List.append_cancel_left (List.append_cancel_left h)⟩

/-- The slug of a text whose first character that is neither a letter nor a digit follows a word
starts with the word. -/
lemma slug_append {word : Text} (hne : word ≠ [])
    (hword : word.all Unicode.isAsciiAlphanumeric = true) {separator : Char}
    (hseparator : Unicode.isAsciiAlphanumeric separator = false) (rest : Text) :
    word.map asciiLower <+: slug (word ++ separator :: rest) := by
  have hruns : alphanumericRuns (word ++ separator :: rest) = word :: alphanumericRuns rest := by
    unfold alphanumericRuns
    rw [List.splitOnP_append_cons_of_forall_mem (fun c hc => by
      simp [List.all_eq_true.1 hword c hc])
      separator (by simp [hseparator])]
    simp [hne]
  have hjoin : ∃ tail, Text.join ['-'] (word :: alphanumericRuns rest) = word ++ tail := by
    cases alphanumericRuns rest with
    | nil => exact ⟨[], by simp [Text.join]⟩
    | cons run runs => exact ⟨_, by rw [Text.join, List.intercalate_cons_cons, List.append_assoc]⟩
  obtain ⟨tail, htail⟩ := hjoin
  unfold slug
  rw [hruns, htail]
  dsimp only
  rw [List.map_append, if_neg (by simp [hne])]
  exact List.prefix_append _ _

/-- The slug of a reviewer key starts with a word of its stage. -/
lemma slug_key (stage : ReviewStage) (name : Text) :
    ∃ word ∈ (["initial", "specialized", "logic", "clarification"] : List Text),
      word <+: slug (stage.value ++ (":" ++ name)) := by
  have hprefix : ∀ word rest : Text, stage.value = word ++ '_' :: rest → word ≠ [] →
      word.all Unicode.isAsciiAlphanumeric = true →
      (word.all fun c => !Unicode.isUpper c) = true →
      word <+: slug (stage.value ++ (":" ++ name)) := by
    intro word rest hvalue hne hword hupper
    have hlower : word.map asciiLower = word := by
      refine (List.map_congr_left fun c hc => ?_).trans (List.map_id word)
      have hc := List.all_eq_true.1 hupper c hc
      exact if_neg (by simpa using hc)
    have h := slug_append hne hword (show Unicode.isAsciiAlphanumeric '_' = false by decide)
      (rest ++ (":" ++ name))
    rw [hlower] at h
    rw [hvalue, List.append_assoc]
    exact h
  cases stage with
  | initialTriage =>
    exact ⟨"initial", by simp, hprefix "initial" "triage"
      (by simp [ReviewStage.value, Text.ofString_eq]) (by simp) (by rw [Text.ofString_eq]; rfl)
      (by rw [Text.ofString_eq]; rfl)⟩
  | specializedReview =>
    exact ⟨"specialized", by simp, hprefix "specialized" "review"
      (by simp [ReviewStage.value, Text.ofString_eq]) (by simp) (by rw [Text.ofString_eq]; rfl)
      (by rw [Text.ofString_eq]; rfl)⟩
  | logicReview =>
    exact ⟨"logic", by simp, hprefix "logic" "review"
      (by simp [ReviewStage.value, Text.ofString_eq]) (by simp) (by rw [Text.ofString_eq]; rfl)
      (by rw [Text.ofString_eq]; rfl)⟩
  | clarificationReview =>
    exact ⟨"clarification", by simp, hprefix "clarification" "review"
      (by simp [ReviewStage.value, Text.ofString_eq]) (by simp) (by rw [Text.ofString_eq]; rfl)
      (by rw [Text.ofString_eq]; rfl)⟩

/-- The marker of a deferred reviewer is not one of a deferred live call. -/
lemma markerId_ne (stage : ReviewStage) (name key : Text) :
    markerId "reviewer" (stage.value ++ (":" ++ name)) ≠ markerId "reviewer-live-call" key := by
  intro h
  have hsuffix := stableSuffix_eq_of_markerId h
  unfold markerId at h
  rw [hsuffix, ← List.append_assoc (slug (stage.value ++ (":" ++ name))),
    ← List.append_assoc (slug key)] at h
  have hreviewer : slug "reviewer" = ("reviewer" : Text) := by decide +kernel
  have hlive : slug "reviewer-live-call" = ("reviewer" : Text) ++ "-live-call" := by decide +kernel
  rw [hreviewer, hlive] at h
  simp only [List.append_assoc] at h
  have h := List.append_cancel_left (List.append_cancel_left h)
  obtain ⟨word, hword, tail, htail⟩ := slug_key stage name
  rw [← htail] at h
  simp only [List.mem_cons, List.not_mem_nil, or_false] at hword
  rcases hword with rfl | rfl | rfl | rfl <;> simp [Text.ofString_eq] at h

/-- Markers of one name space are the same only for texts with one slug and one suffix. -/
lemma slug_eq_of_markerId {space key key' : Text} (h : markerId space key = markerId space key') :
    slug key = slug key' ∧ stableSuffix key = stableSuffix key' := by
  have hsuffix := stableSuffix_eq_of_markerId h
  unfold markerId at h
  rw [hsuffix] at h
  have hslug := List.append_cancel_left (List.append_cancel_left (List.append_cancel_left h))
  exact ⟨List.append_cancel_right hslug, hsuffix⟩

/-- A note is about a reviewer that is deferred. -/
def GeneratedNote.IsDeferral (g : GeneratedNote) : Prop :=
  g.kind = .reviewerDeferred ∨ g.kind = .liveCallDeferred

/-- Notes with the same identifier are the same, or about deferred reviewers whose keys have the
same slug and the same suffix. -/
lemma GeneratedNote.noteId_eq {g g' : GeneratedNote}
    (hg : ∃ stage : ReviewStage, g.stage = stage.value)
    (hg' : ∃ stage : ReviewStage, g'.stage = stage.value) (h : g.noteId = g'.noteId) :
    g = g' ∨ g.IsDeferral ∧ g.kind = g'.kind ∧ slug g.key = slug g'.key ∧
      stableSuffix g.key = stableSuffix g'.key := by
  have hfailure : ∀ {text : Text}, text ++ (g.stage ++ ("-" ++ g.name)) =
      text ++ (g'.stage ++ ("-" ++ g'.name)) → g.stage = g'.stage ∧ g.name = g'.name :=
    fun h => key_injective hg hg' (List.append_cancel_left h)
  obtain ⟨stage, hstage⟩ := hg
  obtain ⟨stage', hstage'⟩ := hg'
  obtain ⟨kind, text, name⟩ := g
  obtain ⟨kind', text', name'⟩ := g'
  dsimp only at hstage hstage'
  cases kind with
  | reviewerDeferred =>
    cases kind' with
    | reviewerDeferred =>
      exact .inr ⟨.inl rfl, rfl, slug_eq_of_markerId (List.append_cancel_left h)⟩
    | liveCallDeferred =>
      subst hstage
      exact absurd (List.append_cancel_left h) (markerId_ne stage name _)
    | optionalFailure | requiredFailure =>
      simp [noteId, markerId, Text.ofString_eq] at h
  | liveCallDeferred =>
    cases kind' with
    | reviewerDeferred =>
      subst hstage'
      exact absurd (List.append_cancel_left h).symm (markerId_ne stage' name' _)
    | liveCallDeferred =>
      exact .inr ⟨.inr rfl, rfl, slug_eq_of_markerId (List.append_cancel_left h)⟩
    | optionalFailure | requiredFailure =>
      simp [noteId, markerId, Text.ofString_eq] at h
  | optionalFailure =>
    cases kind' with
    | optionalFailure =>
      obtain ⟨rfl, rfl⟩ := hfailure h
      exact .inl rfl
    | reviewerDeferred | liveCallDeferred | requiredFailure =>
      simp [noteId, markerId, Text.ofString_eq] at h
  | requiredFailure =>
    cases kind' with
    | requiredFailure =>
      obtain ⟨rfl, rfl⟩ := hfailure h
      exact .inl rfl
    | reviewerDeferred | liveCallDeferred | optionalFailure =>
      simp [noteId, markerId, Text.ofString_eq] at h

/-! ## The notes of a run -/

namespace StageRunArguments

variable (args : StageRunArguments) (rounds : List StageRound)

/-- No reviewer is deferred for the same reason, or fails, more than once in clarification
reviews. -/
def ResumptionsDiffer : Prop :=
  ((args.allGenerated rounds).filter fun g => !g.isNormal).Nodup

/-- No two reviewers that are deferred for the same reason have keys with the same slug and the same
first digits of their digests. -/
def DeferralsDiffer : Prop :=
  ∀ g ∈ args.allGenerated rounds, ∀ g' ∈ args.allGenerated rounds, g.IsDeferral → g.kind = g'.kind →
    slug g.key = slug g'.key → stableSuffix g.key = stableSuffix g'.key → g.key = g'.key

end StageRunArguments

/-- A list has no repetition if neither part of it has. -/
lemma nodup_of_nodup_filter {α : Type} {l : List α} {p : α → Bool} (h : (l.filter p).Nodup)
    (h' : (l.filter fun a => !p a).Nodup) : l.Nodup := by
  refine (List.filter_append_perm p l).nodup_iff.1 (List.nodup_append.2 ⟨h, h', ?_⟩)
  rintro a ha b hb rfl
  have hp := (List.mem_filter.1 ha).2
  have hnot := (List.mem_filter.1 hb).2
  rw [hp] at hnot
  contradiction

/-- After every run the notes of the graph have different identifiers exactly if no note about a
clarification review is repeated and the markers of deferred reviewers differ. -/
lemma generatedIds_nodup_iff {args : StageRunArguments} {rounds : List StageRound}
    {st : StageRunState} (h : StageRun args rounds st) :
    st.generatedIds.Nodup ↔ args.ResumptionsDiffer rounds ∧ args.DeferralsDiffer rounds := by
  have hinvariant := StageRun.invariant h
  have hstage : ∀ g ∈ args.allGenerated rounds, ∃ stage : ReviewStage, g.stage = stage.value := by
    intro g hg
    obtain ⟨stage, hstage, -⟩ := hinvariant.entered g hg
    exact ⟨stage, hstage⟩
  rw [hinvariant.ids]
  constructor
  · intro hnodup
    refine ⟨(List.Nodup.of_map _ hnodup).filter _, ?_⟩
    intro g hg g' hg' hdeferral hkind hslug hsuffix
    have hid : g.noteId = g'.noteId := by
      unfold GeneratedNote.noteId markerId
      rw [← hkind, ← hslug, ← hsuffix]
      rcases hdeferral with hkind | hkind <;> rw [hkind]
    rw [List.inj_on_of_nodup_map hnodup hg hg' hid]
  · rintro ⟨hresumptions, hdeferrals⟩
    refine List.Nodup.map_on ?_ (nodup_of_nodup_filter hinvariant.nodup hresumptions)
    intro g hg g' hg' hid
    rcases GeneratedNote.noteId_eq (hstage g hg) (hstage g' hg') hid with
      heq | ⟨hdeferral, hkind, hslug, hsuffix⟩
    · exact heq
    · have hkey := hdeferrals g hg g' hg' hdeferral hkind hslug hsuffix
      obtain ⟨hstages, hnames⟩ := GeneratedNote.key_injective (hstage g hg) (hstage g' hg') hkey
      obtain ⟨kind, stage, name⟩ := g
      obtain ⟨kind', stage', name'⟩ := g'
      simp only [GeneratedNote.mk.injEq]
      exact ⟨hkind, hstages, hnames⟩

/-! ## The notes of the context budget -/

/-- What the budget leaves out with a note: the name space of its marker, and the file or memory. -/
abbrev Omission : Type := Text × Text

/-- The identifier of the note about an omission. -/
def Omission.noteId (o : Omission) : Text := "note-" ++ markerId o.1 o.2

/-- The files that are noted, from some number of files that are kept and patch bytes that remain
on. -/
def fileOmissions (limits : ContextBudget) : ℕ → ℕ → List (Checked PullRequestChangedFile) →
    List Omission
  | _, _, [] => []
  | kept, remaining, file :: files =>
    if limits.maxChangedFiles ≤ kept then
      ("changed-files", file.val.path) :: fileOmissions limits kept remaining files
    else if file.val.patch = none ∧ file.val.patchStatus ≠ "available" then
      fileOmissions limits (kept + 1) remaining files
    else if remaining < patchBytes file.val then
      ("patch", file.val.path) :: fileOmissions limits (kept + 1) remaining files
    else fileOmissions limits (kept + 1) (remaining - patchBytes file.val) files

/-- The entries of the memory that are noted, from some number of bytes that remain on. -/
def memoryOmissions : ℕ → List (Checked MemoryReference) → List Omission
  | _, [] => []
  | remaining, memory :: entries =>
    if remaining < memoryBytes memory.val then
      ("memory", memory.val.id) :: memoryOmissions remaining entries
    else memoryOmissions (remaining - memoryBytes memory.val) entries

/-- What a budget leaves out of a pull request and its memory with a note. -/
def contextOmissions (pr : PullRequestContext) (memory : PRConversationMemory)
    (limits : ContextBudget) :
    List Omission :=
  fileOmissions limits 0 limits.maxPatchBytes pr.changedFiles ++
    memoryOmissions limits.maxMemoryBytes memory.entries

/-- No two omissions of one kind are about texts with the same slug and the same first digits of
their digests. -/
def OmissionsDiffer (omissions : List Omission) : Prop :=
  omissions.Pairwise fun o o' =>
    ¬ (o.1 = o'.1 ∧ slug o.2 = slug o'.2 ∧ stableSuffix o.2 = stableSuffix o'.2)

/-- A note about a marker has the identifier of the marker. -/
lemma omittedNote_id {space reasonCode dimension affectedId body : Text} {counts : MarkerCounts}
    {marker : Checked OmittedContextMarker} {note : Checked LocalNote}
    (hmarker : omittedMarker space reasonCode dimension affectedId counts = .ok marker)
    (hnote : omittedNote marker.val body = .ok note) :
    note.val.id = Omission.noteId (space, affectedId) := by
  rw [construct_eq_ok.1 hnote, construct_eq_ok.1 hmarker]
  rfl

/-- The loop over the files notes the omissions. -/
lemma foldlM_budgetFile_notes {limits : ContextBudget} {fileCount : ℕ}
    {files : List (Checked PullRequestChangedFile)} {st st' : FileBudgetState}
    (h : files.foldlM (budgetFile limits fileCount) st = .ok st') :
    (st'.report.localNotes.map fun note => note.val.id) =
      (st.report.localNotes.map fun note => note.val.id) ++
        (fileOmissions limits st.retainedFiles.length st.patchBudgetRemaining files).map
          Omission.noteId := by
  induction files generalizing st with
  | nil =>
    obtain rfl := pure_eq_ok.1 h
    simp [fileOmissions]
  | cons file files ih =>
    rw [List.foldlM_cons] at h
    obtain ⟨st₁, hstep, h⟩ := bind_eq_ok.1 h
    rw [ih h, fileOmissions]
    unfold budgetFile at hstep
    dsimp only at hstep
    split at hstep
    · rename_i hcount
      obtain ⟨marker, hmarker, hstep⟩ := bind_eq_ok.1 hstep
      obtain ⟨note, hnote, hstep⟩ := bind_eq_ok.1 hstep
      obtain rfl := pure_eq_ok.1 hstep
      rw [if_pos hcount, List.map_append, List.map_singleton, omittedNote_id hmarker hnote,
        List.append_assoc]
      rfl
    rename_i hcount
    rw [if_neg hcount]
    split at hstep
    · rename_i hpatch
      obtain ⟨marker, -, hstep⟩ := bind_eq_ok.1 hstep
      obtain rfl := pure_eq_ok.1 hstep
      rw [if_pos hpatch, List.length_append, List.length_singleton]
    rename_i hpatch
    rw [if_neg hpatch]
    split at hstep
    · rename_i hbytes
      obtain ⟨stripped, -, hstep⟩ := bind_eq_ok.1 hstep
      obtain ⟨marker, hmarker, hstep⟩ := bind_eq_ok.1 hstep
      obtain ⟨notice, -, hstep⟩ := bind_eq_ok.1 hstep
      obtain ⟨note, hnote, hstep⟩ := bind_eq_ok.1 hstep
      obtain rfl := pure_eq_ok.1 hstep
      rw [if_pos hbytes, List.map_append, List.map_singleton, omittedNote_id hmarker hnote,
        List.append_assoc, List.length_append, List.length_singleton]
      rfl
    · rename_i hbytes
      obtain rfl := pure_eq_ok.1 hstep
      rw [if_neg hbytes, List.length_append, List.length_singleton]

/-- The loop over the memory notes the omissions. -/
lemma foldlM_budgetMemory_notes {entries : List (Checked MemoryReference)}
    {st st' : MemoryBudgetState} (h : entries.foldlM budgetMemory st = .ok st') :
    (st'.report.localNotes.map fun note => note.val.id) =
      (st.report.localNotes.map fun note => note.val.id) ++
        (memoryOmissions st.memoryBudgetRemaining entries).map Omission.noteId := by
  induction entries generalizing st with
  | nil =>
    obtain rfl := pure_eq_ok.1 h
    simp [memoryOmissions]
  | cons memory entries ih =>
    rw [List.foldlM_cons] at h
    obtain ⟨st₁, hstep, h⟩ := bind_eq_ok.1 h
    rw [ih h, memoryOmissions]
    unfold budgetMemory at hstep
    dsimp only at hstep
    split at hstep
    · rename_i hbytes
      obtain ⟨stripped, -, hstep⟩ := bind_eq_ok.1 hstep
      obtain ⟨marker, hmarker, hstep⟩ := bind_eq_ok.1 hstep
      obtain ⟨notice, -, hstep⟩ := bind_eq_ok.1 hstep
      obtain ⟨note, hnote, hstep⟩ := bind_eq_ok.1 hstep
      obtain rfl := pure_eq_ok.1 hstep
      rw [if_pos hbytes, List.map_append, List.map_singleton, omittedNote_id hmarker hnote,
        List.append_assoc]
      rfl
    · rename_i hbytes
      obtain rfl := pure_eq_ok.1 hstep
      rw [if_neg hbytes]

/-- The notes of a budget have the identifiers of its omissions. -/
lemma contextNotes_ids {pr : Checked PullRequestContext} {memory : PRConversationMemory}
    {limits : Checked ContextBudget} {existingTruncation : List (Checked TruncationNotice)}
    {budgeted : BudgetedInputContext}
    (h : applyInputContextBudget pr memory limits existingTruncation = .ok budgeted) :
    (budgeted.localNotes.map fun note => note.val.id) =
      (contextOmissions pr.val memory limits.val).map Omission.noteId := by
  obtain ⟨files, hfiles, h⟩ := bind_eq_ok.1 h
  obtain ⟨kept, hkept, h⟩ := bind_eq_ok.1 h
  obtain ⟨budget, -, h⟩ := bind_eq_ok.1 h
  obtain ⟨budgetedPr, -, h⟩ := bind_eq_ok.1 h
  obtain rfl := pure_eq_ok.1 h
  rw [contextOmissions, List.map_append]
  refine (foldlM_budgetMemory_notes hkept).trans (congrArg (· ++ _) ?_)
  exact foldlM_budgetFile_notes hfiles

/-- The name spaces of the markers of a budget. -/
lemma space_of_mem_contextOmissions {pr : PullRequestContext} {memory : PRConversationMemory}
    {limits : ContextBudget} {o : Omission} (h : o ∈ contextOmissions pr memory limits) :
    o.1 ∈ (["changed-files", "patch", "memory"] : List Text) := by
  have hfiles : ∀ {files kept remaining}, o ∈ fileOmissions limits kept remaining files →
      o.1 ∈ (["changed-files", "patch", "memory"] : List Text) := by
    intro files
    induction files with
    | nil => exact fun h => absurd h List.not_mem_nil
    | cons file files ih =>
      intro kept remaining h
      rw [fileOmissions] at h
      split at h
      · rcases List.mem_cons.1 h with rfl | h
        · simp
        · exact ih h
      split at h
      · exact ih h
      split at h
      · rcases List.mem_cons.1 h with rfl | h
        · simp
        · exact ih h
      · exact ih h
  have hmemory : ∀ {entries remaining}, o ∈ memoryOmissions remaining entries →
      o.1 ∈ (["changed-files", "patch", "memory"] : List Text) := by
    intro entries
    induction entries with
    | nil => exact fun h => absurd h List.not_mem_nil
    | cons memory entries ih =>
      intro remaining h
      rw [memoryOmissions] at h
      split at h
      · rcases List.mem_cons.1 h with rfl | h
        · simp
        · exact ih h
      · exact ih h
  exact (List.mem_append.1 h).elim hfiles hmemory

/-- The slugs of these name spaces. -/
lemma slug_spaces : slug "changed-files" = "changed-files" ∧ slug "patch" = "patch" ∧
    slug "memory" = "memory" ∧ slug "reviewer" = "reviewer" ∧
    slug "reviewer-live-call" = "reviewer-live-call" := by
  decide +kernel

/-- The identifiers of the notes about omissions differ exactly if the omissions do. -/
lemma nodup_omissionIds_iff {omissions : List Omission}
    (h : ∀ o ∈ omissions, o.1 ∈ (["changed-files", "patch", "memory"] : List Text)) :
    (omissions.map Omission.noteId).Nodup ↔ OmissionsDiffer omissions := by
  rw [List.Nodup, List.pairwise_map]
  unfold OmissionsDiffer
  refine List.Pairwise.iff_of_mem fun {o o'} ho ho' => not_congr ?_
  constructor
  · intro heq
    have hid := List.append_cancel_left heq
    have hspace : o.1 = o'.1 := by
      obtain ⟨hfiles, hpatch, hmemory, -, -⟩ := slug_spaces
      have hslugs := List.append_cancel_left hid
      have hs := h o ho
      have hs' := h o' ho'
      simp only [List.mem_cons, List.not_mem_nil, or_false] at hs hs'
      rcases hs with hs | hs | hs <;> rcases hs' with hs' | hs' | hs' <;> rw [hs, hs'] <;>
        simp only [hs, hs', hfiles, hpatch, hmemory] at hslugs <;>
        simp [Text.ofString_eq] at hslugs
    rw [hspace] at hid
    obtain ⟨hslug, hsuffix⟩ := slug_eq_of_markerId hid
    exact ⟨hspace, hslug, hsuffix⟩
  · rintro ⟨hspace, hslug, hsuffix⟩
    unfold Omission.noteId markerId
    rw [hspace, hslug, hsuffix]

/-- A note about an omission is none about a reviewer. -/
lemma omissionId_ne_noteId {o : Omission}
    (h : o.1 ∈ (["changed-files", "patch", "memory"] : List Text)) (g : GeneratedNote) :
    o.noteId ≠ g.noteId := by
  obtain ⟨hfiles, hpatch, hmemory, hreviewer, hlive⟩ := slug_spaces
  obtain ⟨space, id⟩ := o
  intro heq
  simp only [List.mem_cons, List.not_mem_nil, or_false] at h
  unfold Omission.noteId GeneratedNote.noteId markerId at heq
  dsimp only at heq h
  rcases h with rfl | rfl | rfl <;> cases hkind : g.kind <;>
    simp only [hkind, hfiles, hpatch, hmemory, hreviewer, hlive] at heq <;>
    simp [Text.ofString_eq] at heq

end ReviewGraph
