import ReviewGraph.Models.Context
import ReviewGraph.Models.Reviewers
import ReviewGraph.PatchRanges

/-!
# Diff anchors

Three modules judge where a finding stands: the reader of `github.py` turns the patches of changed
files into ranges, `diff_anchor.py` picks the range that a finding lies in, and the posting plan of
`posting.py` checks the anchor again.  The ranges of a file are separated, so a span that they cover
together lies in one of them, and the three agree.
-/

namespace ReviewGraph

/-! ## Changed files that are read -/

/-- `_required_str`. -/
def requiredStr (data : List (Text × Json)) (key label : Text) : Result Text :=
  match Json.lookup data key with
  | some (.str (c :: text)) => .ok (c :: text)
  | _ => .error (.valueError (label ++ (" " ++ (key ++ " must be a non-empty string"))))

/-- `_optional_str`. -/
def optionalStr (data : List (Text × Json)) (key label : Text) : Result (Option Text) :=
  match Json.lookup data key with
  | none | some .null => .ok none
  | some (.str (c :: text)) => .ok (some (c :: text))
  | some _ =>
    .error (.valueError (label ++ (" " ++ (key ++ " must be a non-empty string or null"))))

/-- `_optional_non_negative_int`. -/
def optionalNonNegativeInt (data : List (Text × Json)) (key : Text) : Result ℕ :=
  match Json.lookup data key with
  | none => .ok 0
  | some (.int (.ofNat n)) => .ok n
  | some _ => .error (.valueError ("changed file " ++ (key ++ " must be a non-negative integer")))

/-- What `_changed_files_from_payload` reads from one file: the file, its lines, and why there are
none. -/
structure ReadFile where
  changedFile : Checked PullRequestChangedFile
  changedLine : GitHubChangedFileLines
  unavailableReason : Option Text
  deriving DecidableEq

/-- The body of the loop of `_changed_files_from_payload`. -/
def readFile : Json × ℕ → Result ReadFile
  | (.obj payload, _) => do
    let path ← requiredStr payload "path" "changed file"
    let patch ← optionalStr payload "patch" "changed file"
    let givenStatus ← optionalStr payload "status" "changed file"
    let status := givenStatus.getD "modified"
    let givenPatchStatus ← optionalStr payload "patch_status" "changed file"
    let patchStatus := givenPatchStatus.getD (if patch.isSome then "available" else "unavailable")
    let previousPath ← optionalStr payload "previous_path" "changed file"
    let additions ← optionalNonNegativeInt payload "additions"
    let deletions ← optionalNonNegativeInt payload "deletions"
    let changedFile ← construct {
      path, patch, additions, deletions, status, previousPath, patchStatus :
        PullRequestChangedFile }
    let (ranges, unavailableReason) ← changedRangesFromPatch path patch status patchStatus
    return {
      changedFile
      changedLine := {
        path
        changedRanges := ranges
        status
        previousPath
        patchStatus }
      unavailableReason }
  | (_, index) =>
    .error (.valueError ("changed file " ++ (Text.ofNat index ++ " must be an object")))

/-- `_changed_files_from_payload`: the files, their lines, and the paths of the files without lines
with the reasons. -/
def changedFilesFromPayload (payloads : List Json) :
    Result (List (Checked PullRequestChangedFile) × List GitHubChangedFileLines × List
      (Text × Text)) := do
  let files ← payloads.zipIdx.mapM readFile
  return (files.map ReadFile.changedFile, files.map ReadFile.changedLine,
    files.filterMap fun file => file.unavailableReason.map fun reason =>
    (file.changedLine.path, reason))

/-! ## Anchors -/

/-- `INLINEABLE_FILE_STATUSES` of `diff_anchor.py`. -/
def anchorableFileStatuses : List Text := ["added", "modified", "renamed"]

/-- `contains_line`. -/
def GitHubChangedFileLines.containsLine (file : GitHubChangedFileLines) (line : ℤ) : Bool :=
  file.changedRanges.any fun range => range.contains line

/-- The last line of a finding. -/
def ClassifiedFinding.lastLine (finding : ClassifiedFinding) : ℤ :=
  finding.lineEnd.getD finding.line

/-- A finding with another anchor. -/
def ClassifiedFinding.withAnchor (finding : ClassifiedFinding)
    (anchor : Option (Checked DiffAnchor)) :
    ClassifiedFinding :=
  { finding with diffAnchor := anchor }

/-- `_changed_file_for_finding`. -/
def changedFileForFinding (changedFiles : List GitHubChangedFileLines)
    (finding : ClassifiedFinding) :
    Option GitHubChangedFileLines :=
  changedFiles.find? fun file => file.path = finding.path && file.containsLine finding.line

/-- `_changed_range_for_finding`. -/
def changedRangeForFinding (file : GitHubChangedFileLines) (finding : ClassifiedFinding) :
    Option ChangedRange :=
  file.changedRanges.find? fun range =>
    range.first ≤ finding.line && finding.line ≤ finding.lastLine && finding.lastLine ≤ range.last

/-- The anchor of a finding in a range of a file. -/
def anchorInRange (file : GitHubChangedFileLines) (range : ChangedRange) (target : ReviewTarget)
    (finding : ClassifiedFinding) : DiffAnchor where
  path := file.path
  line := finding.line
  targetCommitSha := target.headSha
  hunkStart := range.first
  hunkEnd := range.last
  side := "RIGHT"
  fileStatus := file.status
  hunkId := file.path ++ (":" ++ (Text.ofInt range.first ++ ("-" ++ Text.ofInt range.last)))
  startLine := some finding.line
  startSide := "RIGHT"
  oldPath := file.previousPath

/-- `derive_diff_anchor`. -/
def deriveDiffAnchor (changedFiles : List GitHubChangedFileLines) (target : ReviewTarget)
    (finding : ClassifiedFinding) : Result (Option (Checked DiffAnchor)) :=
  match changedFileForFinding changedFiles finding with
  | none => .ok none
  | some file =>
    if file.patchStatus ≠ "available" then .ok none
    else if file.status ∉ anchorableFileStatuses then .ok none
    else
      match changedRangeForFinding file finding with
      | none => .ok none
      | some range => do return some (← construct (anchorInRange file range target finding))

/-- The body of the loop of `attach_diff_anchors`. -/
def attachDiffAnchor (changedFiles : List GitHubChangedFileLines) (target : ReviewTarget)
    (finding : Checked ClassifiedFinding) : Result (Checked ClassifiedFinding) :=
  match finding.val.diffAnchor with
  | some _ => .ok finding
  | none => do
    match ← deriveDiffAnchor changedFiles target finding.val with
    | none => .ok finding
    | some anchor => construct (finding.val.withAnchor (some anchor))

/-- `attach_diff_anchors`. -/
def attachDiffAnchors (changedFiles : List GitHubChangedFileLines) (target : ReviewTarget)
    (findings : List (Checked ClassifiedFinding)) : Result (List (Checked ClassifiedFinding)) :=
  findings.mapM (attachDiffAnchor changedFiles target)

/-! ## The posting plan -/

/-- The item of a finding in `build_posting_plan`. -/
def findingPlanItem (reviewTarget : Option (Checked ReviewTarget)) (inlineCandidateIds : List Text)
    (finding : Checked ClassifiedFinding) : Result (Checked PostingPlanItem) :=
  if finding.val.id ∈ inlineCandidateIds then
    match finding.val.diffAnchor, reviewTarget with
    | none, _ => .error (.postingPlanError
        "inline candidates require a diff anchor overlapping changed target code")
    | some _, none => .error (.postingPlanError "inline candidates require a review target")
    | some anchor, some target =>
      if anchor.val.validatesFindingLocation finding.val.path finding.val.line target.val.headSha
          finding.val.lineEnd then
        item .inlineCandidate false
      else .error (.postingPlanError
        "inline candidates require a diff anchor overlapping changed target code")
  else item .reviewBodyItem true
where
  /-- The item with its destination. -/
  item (destination : PostingDestination) (publicPayloadEligible : Bool) :
      Result (Checked PostingPlanItem) :=
    construct {
      id := finding.val.id
      sourceClassification := finding.val.classification.value
      destination
      publicPayloadEligible
      fingerprint := some finding.val.fingerprint
      body := some finding.val.body }

/-- An item that is not public, `_local_item` for a local destination. -/
def privateItem (id : Text) (classification : OutputClassification)
    (destination : PostingDestination)
    (body : Text) : Result (Checked PostingPlanItem) :=
  construct {
    id
    sourceClassification := classification.value
    destination
    publicPayloadEligible := false
    fingerprint := none
    body := some body }

/-- The item of the summary. -/
def summaryItem : Result (Checked PostingPlanItem) :=
  construct {
    id := "summary"
    sourceClassification := "summary"
    destination := .topLevelSummaryItem
    publicPayloadEligible := true
    fingerprint := none
    body := none }

/-- The items in front of the findings. -/
def summaryItems (includeSummary : Bool) : Result (List (Checked PostingPlanItem)) :=
  if includeSummary then summaryItem.map fun item => [item] else .ok []

/-- `build_posting_plan`. -/
def buildPostingPlan (findings : List (Checked ClassifiedFinding))
    (reviewTarget : Option (Checked ReviewTarget)) (localNotes : List (Checked LocalNote))
    (suggestedReplies : List (Checked SuggestedReply))
    (clarificationRequests : List (Checked ClarificationRequest))
    (suppressedOutputs : List (Checked SuppressedOutput)) (inlineCandidateIds : List Text)
    (includeSummary : Bool) : Result (Checked PostingPlan) := do
  let summary ← summaryItems includeSummary
  let findingItems ← findings.mapM (findingPlanItem reviewTarget inlineCandidateIds)
  let noteItems ← localNotes.mapM fun note =>
    privateItem note.val.id .localNote .localOnly note.val.body
  let replyItems ← suggestedReplies.mapM fun reply =>
    privateItem reply.val.id .suggestedReply .suggestedReply reply.val.proposedBody
  let requestItems ← clarificationRequests.mapM fun request =>
    privateItem request.val.id .clarificationRequest .localOnly request.val.question
  let outputItems ← suppressedOutputs.mapM fun output =>
    privateItem output.val.id .nonFinding .localOnly output.val.reason
  let unknown := Text.sorted
    (inlineCandidateIds.filter (· ∉ findings.map fun finding => finding.val.id)).dedup
  if unknown ≠ [] then
    .error (.postingPlanError ("unknown inline candidate ids: " ++ Text.join ", " unknown))
  else construct ⟨summary ++ findingItems ++ noteItems ++ replyItems ++ requestItems ++ outputItems⟩

/-! ## Ranges of files that are read -/

/-- The ranges of a file as the anchors need them. -/
structure AnchorRanges (ranges : List ChangedRange) : Prop where
  /-- There is a line between two ranges. -/
  separated : Separated ranges
  /-- Lines count from one. -/
  positive : ∀ range ∈ ranges, 0 < range.first

/-- Coalesced ranges start where the first of the ranges does, or later. -/
lemma anchorRanges_coalesce {lines : List Text} (h : ValidHunks lines) :
    AnchorRanges (coalesceChangedRanges (additionSpans lines)) := by
  have hvalid := additionSpans_valid h
  refine ⟨separated_coalesce hvalid, ?_⟩
  have hpositive : ∀ range ∈ additionSpans lines, 0 < range.first := by
    intro range hrange
    obtain ⟨hunk, hhunk, hrange⟩ := List.mem_flatMap.1 hrange
    obtain ⟨numbers, hnumbers⟩ := h hunk hhunk
    unfold Hunk.additionSpans at hrange
    rw [hnumbers.header] at hrange
    split at hrange
    · obtain rfl : range = Hunk.span numbers := by simpa using hrange
      exact Int.natCast_pos.2 hnumbers.targetStart
    · cases hrange
  cases hspans : additionSpans lines with
  | nil => simp [coalesceChangedRanges]
  | cons first ranges =>
    rw [hspans] at hvalid hpositive
    intro range hrange
    have hfirst := (separated_coalesceFrom (hvalid first List.mem_cons_self) fun r hr =>
      hvalid r (List.mem_cons_of_mem _ hr)).2 range hrange
    exact (hpositive first List.mem_cons_self).trans_le hfirst

/-- The ranges of every patch, accepted or not. -/
lemma anchorRanges_of_patch {path status patchStatus : Text} {patch reason : Option Text}
    {ranges : List ChangedRange}
    (h : changedRangesFromPatch path patch status patchStatus = .ok (ranges, reason)) :
    AnchorRanges ranges := by
  have hnil : AnchorRanges [] :=
    ⟨⟨fun _ h => absurd h List.not_mem_nil, List.Pairwise.nil⟩, fun _ h =>
      absurd h List.not_mem_nil⟩
  cases reason with
  | none =>
    obtain ⟨text, -, hvalid, -, rfl⟩ := changedRangesFromPatch_accepted h
    exact anchorRanges_coalesce hvalid
  | some reason =>
    have hranges : ranges = [] := by
      unfold changedRangesFromPatch at h
      split at h
      · exact (Prod.mk.inj (Except.ok.inj h)).1.symm
      split at h
      · exact (Prod.mk.inj (Except.ok.inj h)).1.symm
      split at h
      · exact (Prod.mk.inj (Except.ok.inj h)).1.symm
      split at h
      · contradiction
      · exact (Prod.mk.inj (Except.ok.inj h)).1.symm
      · exact absurd (Prod.mk.inj (Except.ok.inj h)).2 (by simp)
    rw [hranges]
    exact hnil

/-- The ranges of every file that is read. -/
lemma anchorRanges_of_read {payloads : List Json} {files : List (Checked PullRequestChangedFile)}
    {lines : List GitHubChangedFileLines} {unavailable : List (Text × Text)}
    (h : changedFilesFromPayload payloads = .ok (files, lines, unavailable)) :
    ∀ file ∈ lines, AnchorRanges file.changedRanges := by
  obtain ⟨read, hread, h⟩ := bind_eq_ok.1 h
  obtain ⟨-, hlines⟩ := Prod.mk.inj (pure_eq_ok.1 h)
  obtain ⟨rfl, -⟩ := Prod.mk.inj hlines
  intro file hfile
  obtain ⟨readFileResult, hmem, rfl⟩ := List.mem_map.1 hfile
  obtain ⟨⟨payload, index⟩, -, hfileRead⟩ := (mapM_eq_ok.1 hread).exists_of_mem_right hmem
  unfold readFile at hfileRead
  split at hfileRead
  · obtain ⟨_, -, hfileRead⟩ := bind_eq_ok.1 hfileRead
    obtain ⟨_, -, hfileRead⟩ := bind_eq_ok.1 hfileRead
    obtain ⟨_, -, hfileRead⟩ := bind_eq_ok.1 hfileRead
    obtain ⟨_, -, hfileRead⟩ := bind_eq_ok.1 hfileRead
    obtain ⟨_, -, hfileRead⟩ := bind_eq_ok.1 hfileRead
    obtain ⟨_, -, hfileRead⟩ := bind_eq_ok.1 hfileRead
    obtain ⟨_, -, hfileRead⟩ := bind_eq_ok.1 hfileRead
    obtain ⟨_, -, hfileRead⟩ := bind_eq_ok.1 hfileRead
    obtain ⟨⟨ranges, reason⟩, hranges, hfileRead⟩ := bind_eq_ok.1 hfileRead
    rw [← pure_eq_ok.1 hfileRead]
    exact anchorRanges_of_patch hranges
  · contradiction

/-- Lines that separated ranges cover without a gap lie in one of the ranges. -/
lemma Separated.exists_range {ranges : List ChangedRange} (h : Separated ranges) {first last : ℤ}
    (hle : first ≤ last) :
    (∀ line, first ≤ line → line ≤ last → Covered ranges line) ↔
      ∃ range ∈ ranges, range.first ≤ first ∧ last ≤ range.last := by
  constructor
  · intro hcovered
    obtain ⟨range, hrange, hfirst, hlast⟩ := hcovered first le_rfl hle
    by_cases hend : last ≤ range.last
    · exact ⟨range, hrange, hfirst, hend⟩
    · -- the line behind the range would lie in a range that touches it
      rw [not_le] at hend
      obtain ⟨other, hother, hotherFirst, hotherLast⟩ := hcovered (range.last + 1) (by omega) hend
      have hne : range ≠ other := by
        rintro rfl
        omega
      have hget := List.pairwise_iff_getElem.1 h.2
      obtain ⟨i, hi, rfl⟩ := List.getElem_of_mem hrange
      obtain ⟨j, hj, rfl⟩ := List.getElem_of_mem hother
      rcases lt_trichotomy i j with hij | rfl | hji
      · have hgap := hget i j hi hj hij
        omega
      · exact absurd rfl hne
      · have hgap := hget j i hj hi hji
        omega
  · rintro ⟨range, hrange, hfirst, hlast⟩ line hline hline'
    exact ⟨range, hrange, hfirst.trans hline, hline'.trans hlast⟩

/-! ## Findings that get an anchor -/

/-- The lines of a finding lie in the changed lines of a file. -/
def SpanCovered (ranges : List ChangedRange) (finding : ClassifiedFinding) : Prop :=
  finding.line ≤ finding.lastLine ∧
    ∀ line, finding.line ≤ line → line ≤ finding.lastLine → Covered ranges line

/-- The lines of a finding lie in the changed lines of a file that can have anchors. -/
def Anchorable (changedFiles : List GitHubChangedFileLines) (finding : ClassifiedFinding) : Prop :=
  ∃ file ∈ changedFiles, file.path = finding.path ∧ file.status ∈ anchorableFileStatuses ∧
    file.patchStatus = "available" ∧ SpanCovered file.changedRanges finding

/-- A file contains the lines that its ranges cover. -/
lemma containsLine_iff {file : GitHubChangedFileLines} {line : ℤ} :
    file.containsLine line = true ↔ Covered file.changedRanges line := by
  simp [GitHubChangedFileLines.containsLine, Covered, ChangedRange.contains]

/-- There is no range for a finding exactly if its span is not covered. -/
lemma changedRangeForFinding_eq_none {file : GitHubChangedFileLines} {finding : ClassifiedFinding}
    (hranges : AnchorRanges file.changedRanges) :
    changedRangeForFinding file finding = none ↔ ¬ SpanCovered file.changedRanges finding := by
  unfold changedRangeForFinding SpanCovered
  rw [List.find?_eq_none]
  constructor
  · rintro hnone ⟨hle, hcovered⟩
    obtain ⟨range, hrange, hfirst, hlast⟩ := (hranges.separated.exists_range hle).1 hcovered
    exact hnone range hrange (by simp [hfirst, hle, hlast])
  · intro hnot range hrange hin
    simp only [Bool.and_eq_true, decide_eq_true_eq] at hin
    exact hnot ⟨hin.1.2, (hranges.separated.exists_range hin.1.2).2 ⟨range, hrange, hin.1.1, hin.2⟩⟩

/-- The anchor in a range that a finding lies in passes its checks. -/
lemma postInit_anchorInRange {file : GitHubChangedFileLines} {range : ChangedRange}
    {finding : Checked ClassifiedFinding} (target : Checked ReviewTarget)
    (hpath : file.path = finding.val.path) (hpositive : 0 < range.first)
    (hfirst : range.first ≤ finding.val.line) (hlast : finding.val.line ≤ range.last) :
    Record.postInit (anchorInRange file range target.val finding.val) = .ok () := by
  have hfinding := ClassifiedFinding.postInit_eq_ok.1 finding.property
  obtain ⟨-, -, -, -, -, -, -, -, hne, -, hline⟩ := hfinding
  have htarget := target.property
  simp only [Record.postInit, check_bind_eq_ok, require_eq_ok] at htarget ⊢
  refine ⟨?_, hline, rfl, ⟨hpositive, hfirst.trans hlast⟩, htarget.2.2.2.1, ?_, ⟨_, rfl, hline⟩,
    rfl⟩
  · rw [anchorInRange, hpath]
    exact hne
  · simp [anchorInRange]

/-- The anchor in a range that a finding lies in is valid for the finding. -/
lemma validates_anchorInRange {file : GitHubChangedFileLines} {range : ChangedRange}
    {finding : ClassifiedFinding} {target : ReviewTarget} (hpath : file.path = finding.path)
    (hfirst : range.first ≤ finding.line) (hle : finding.line ≤ finding.lastLine)
    (hlast : finding.lastLine ≤ range.last) :
    (anchorInRange file range target finding).validatesFindingLocation finding.path finding.line
      target.headSha finding.lineEnd = true := by
  have hend : finding.lineEnd.getD finding.line = finding.lastLine := rfl
  simp [DiffAnchor.validatesFindingLocation, DiffAnchor.overlapsChangedTarget, anchorInRange, hpath,
    hfirst, hle, hlast, hend, hle.trans hlast]

/-- An anchor is derived exactly for the findings that can have one, and it is valid. -/
lemma deriveDiffAnchor_spec {changedFiles : List GitHubChangedFileLines}
    (hpaths : (changedFiles.map GitHubChangedFileLines.path).Nodup)
    (hranges : ∀ file ∈ changedFiles, AnchorRanges file.changedRanges)
    (target : Checked ReviewTarget)
    (finding : Checked ClassifiedFinding) :
    ∃ anchor, deriveDiffAnchor changedFiles target.val finding.val = .ok anchor ∧
      (anchor.isSome = true ↔ Anchorable changedFiles finding.val) ∧
      ∀ a ∈ anchor, a.val.validatesFindingLocation finding.val.path finding.val.line
        target.val.headSha finding.val.lineEnd = true := by
  have hnone : ∀ a ∈ (none : Option (Checked DiffAnchor)), a.val.validatesFindingLocation
      finding.val.path finding.val.line target.val.headSha finding.val.lineEnd = true := by simp
  unfold deriveDiffAnchor
  cases hfile : changedFileForFinding changedFiles finding.val with
  | none =>
    refine ⟨none, rfl, ?_, hnone⟩
    rw [Option.isSome_none]
    refine iff_of_false (by simp) ?_
    rintro ⟨file, hmem, hpath, -, -, hle, hcovered⟩
    have hline := hcovered _ le_rfl hle
    refine List.find?_eq_none.1 hfile file hmem ?_
    simp [hpath, containsLine_iff.2 hline]
  | some file =>
    have hmem := List.mem_of_find?_eq_some hfile
    have hfound := List.find?_some hfile
    simp only [Bool.and_eq_true, decide_eq_true_eq] at hfound
    have honly : Anchorable changedFiles finding.val ↔ file.status ∈ anchorableFileStatuses ∧
        file.patchStatus = "available" ∧ SpanCovered file.changedRanges finding.val := by
      constructor
      · rintro ⟨other, hother, hpath, hrest⟩
        obtain rfl := List.inj_on_of_nodup_map hpaths hother hmem (hpath.trans hfound.1.symm)
        exact hrest
      · intro hrest
        exact ⟨file, hmem, hfound.1, hrest⟩
    rw [honly]
    dsimp only
    split
    · rename_i hpatch
      exact ⟨none, rfl, iff_of_false (by simp) fun h => hpatch h.2.1, hnone⟩
    rename_i hpatch
    split
    · rename_i hstatus
      exact ⟨none, rfl, iff_of_false (by simp) fun h => hstatus h.1, hnone⟩
    rename_i hstatus
    rw [not_not] at hpatch hstatus
    cases hrange : changedRangeForFinding file finding.val with
    | none =>
      have hspan := (changedRangeForFinding_eq_none (hranges file hmem)).1 hrange
      exact ⟨none, rfl, iff_of_false (by simp) fun h => hspan h.2.2, hnone⟩
    | some range =>
      have hrangeMem := List.mem_of_find?_eq_some hrange
      have hin := List.find?_some hrange
      simp only [Bool.and_eq_true, decide_eq_true_eq] at hin
      obtain ⟨⟨hfirst, hle⟩, hlast⟩ := hin
      have hpositive := (hranges file hmem).positive range hrangeMem
      have hpost := postInit_anchorInRange target hfound.1 hpositive hfirst (hle.trans hlast)
      refine ⟨some ⟨_, hpost⟩, ?_, ?_, ?_⟩
      · have hconstruct : construct (anchorInRange file range target.val finding.val) =
            .ok ⟨_, hpost⟩ := construct_eq_ok.2 rfl
        dsimp only
        rw [hconstruct]
        rfl
      · refine iff_of_true rfl ⟨hstatus, hpatch, hle, ?_⟩
        exact ((hranges file hmem).separated.exists_range hle).2 ⟨range, hrangeMem, hfirst, hlast⟩
      · intro a ha
        obtain rfl := Option.some.inj ha
        exact validates_anchorInRange hfound.1 hfirst hle hlast

/-- A finding after anchors were attached. -/
structure AttachedTo (changedFiles : List GitHubChangedFileLines) (target : ReviewTarget)
    (finding attached : Checked ClassifiedFinding) : Prop where
  /-- Nothing but the anchor has changed. -/
  unchanged : attached.val.withAnchor none = finding.val
  /-- There is an anchor if the finding can have one. -/
  anchored : attached.val.diffAnchor.isSome = true ↔ Anchorable changedFiles finding.val
  /-- The anchor is valid for the finding. -/
  valid : ∀ anchor ∈ attached.val.diffAnchor,
    anchor.val.validatesFindingLocation finding.val.path finding.val.line target.headSha
      finding.val.lineEnd = true

/-- A finding with another anchor passes its checks. -/
lemma postInit_withAnchor (finding : Checked ClassifiedFinding)
    (anchor : Option (Checked DiffAnchor)) :
    Record.postInit (finding.val.withAnchor anchor) = .ok () :=
  ClassifiedFinding.postInit_eq_ok.2 (ClassifiedFinding.postInit_eq_ok.1 finding.property)

/-- A finding gets an anchor exactly if its span is covered, and stays as it is otherwise. -/
lemma attachDiffAnchor_spec {changedFiles : List GitHubChangedFileLines}
    (hpaths : (changedFiles.map GitHubChangedFileLines.path).Nodup)
    (hranges : ∀ file ∈ changedFiles, AnchorRanges file.changedRanges)
    (target : Checked ReviewTarget)
    {finding : Checked ClassifiedFinding} (hnone : finding.val.diffAnchor = none) :
    ∃ attached, attachDiffAnchor changedFiles target.val finding = .ok attached ∧
      AttachedTo changedFiles target.val finding attached := by
  obtain ⟨anchor, hderive, hsome, hvalid⟩ := deriveDiffAnchor_spec hpaths hranges target finding
  have hsame : finding.val.withAnchor none = finding.val := by
    unfold ClassifiedFinding.withAnchor
    rw [← hnone]
  unfold attachDiffAnchor
  rw [hnone, hderive]
  cases anchor with
  | none =>
    refine ⟨finding, rfl, hsame, ?_, ?_⟩
    · rw [hnone]
      exact hsome
    · rw [hnone]
      exact hvalid
  | some anchor =>
    exact ⟨⟨_, postInit_withAnchor finding (some anchor)⟩, construct_eq_ok.2 rfl, hsame, hsome,
      hvalid⟩

/-- A list is mapped if each of its elements is. -/
lemma exists_mapM_eq_ok {α β : Type} {R : α → β → Prop} {f : α → Result β} {as : List α}
    (h : ∀ a ∈ as, ∃ b, f a = .ok b ∧ R a b) : ∃ bs, as.mapM f = .ok bs ∧ List.Forall₂ R as bs := by
  induction as with
  | nil => exact ⟨[], rfl, .nil⟩
  | cons a as ih =>
    obtain ⟨b, hb, hrel⟩ := h a List.mem_cons_self
    obtain ⟨bs, hbs, hrels⟩ := ih fun a' ha' => h a' (List.mem_cons_of_mem _ ha')
    refine ⟨b :: bs, ?_, .cons hrel hrels⟩
    rw [List.mapM_cons, hb, hbs]
    rfl

/-! ## Inline candidates -/

/-- The item of a finding that is no inline candidate, or that has a valid anchor. -/
lemma findingPlanItem_spec {target : Checked ReviewTarget} {ids : List Text}
    {finding : Checked ClassifiedFinding}
    (hanchor : finding.val.id ∈ ids → ∃ anchor, finding.val.diffAnchor = some anchor ∧
      anchor.val.validatesFindingLocation finding.val.path finding.val.line target.val.headSha
        finding.val.lineEnd = true) :
    ∃ item, findingPlanItem (some target) ids finding = .ok item ∧
      (item.val.id = finding.val.id ∧
        item.val.publicPayloadEligible = decide (finding.val.id ∉ ids)) := by
  have hfinding := ClassifiedFinding.postInit_eq_ok.1 finding.property
  obtain ⟨-, -, hid, -, -, -, hbody, -, -, hfingerprint, -⟩ := hfinding
  have hvalue : finding.val.classification.value ≠ [] := by
    cases finding.val.classification <;> decide +kernel
  have hitem : ∀ destination eligible,
      (eligible = true → destination = .topLevelSummaryItem ∨ destination = .reviewBodyItem) →
        ∃ item, findingPlanItem.item finding destination eligible = .ok item ∧
          item.val.id = finding.val.id ∧ item.val.publicPayloadEligible = eligible := by
    intro destination eligible hdestination
    have hpost : Record.postInit ({
        id := finding.val.id
        sourceClassification := finding.val.classification.value
        destination := destination
        publicPayloadEligible := eligible
        fingerprint := some finding.val.fingerprint
        body := some finding.val.body } : PostingPlanItem) = .ok () := by
      simp only [Record.postInit, check_bind_eq_ok, require_eq_ok, requireNonEmpty_eq_ok,
        requireOptionalNonEmpty_eq_ok]
      refine ⟨hid, hvalue, ?_, ?_, hdestination⟩
      · exact fun h => hfingerprint (Option.some.inj h)
      · exact fun h => hbody (Option.some.inj h)
    exact ⟨⟨_, hpost⟩, construct_eq_ok.2 rfl, rfl, rfl⟩
  unfold findingPlanItem
  by_cases hmem : finding.val.id ∈ ids
  · obtain ⟨anchor, hsome, hvalid⟩ := hanchor hmem
    obtain ⟨item, hok, hsame, heligible⟩ := hitem .inlineCandidate false (by simp)
    rw [if_pos hmem, hsome]
    dsimp only
    rw [if_pos hvalid]
    exact ⟨item, hok, hsame, by rw [heligible]; simp [hmem]⟩
  · obtain ⟨item, hok, hsame, heligible⟩ := hitem .reviewBodyItem true (by simp)
    rw [if_neg hmem]
    exact ⟨item, hok, hsame, by rw [heligible]; simp [hmem]⟩

/-- The plan of findings whose inline candidates have valid anchors. -/
lemma buildPostingPlan_spec {target : Checked ReviewTarget} {ids : List Text}
    {findings : List (Checked ClassifiedFinding)}
    (hnodup : (findings.map fun f => f.val.id).Nodup)
    (hids : ∀ id ∈ ids, id ∈ findings.map fun f => f.val.id)
    (hanchors : ∀ finding ∈ findings, finding.val.id ∈ ids → ∃ anchor,
      finding.val.diffAnchor = some anchor ∧ anchor.val.validatesFindingLocation finding.val.path
        finding.val.line target.val.headSha finding.val.lineEnd = true) :
    ∃ plan, buildPostingPlan findings (some target) [] [] [] [] ids false = .ok plan ∧
      (plan.val.publicPayloadItems.map fun item => item.val.id) =
        (findings.filter fun f => f.val.id ∉ ids).map fun f => f.val.id := by
  obtain ⟨items, hitems, hrel⟩ := exists_mapM_eq_ok fun finding hfinding =>
    findingPlanItem_spec (hanchors finding hfinding)
  have hunknown : Text.sorted
      (ids.filter (· ∉ findings.map fun finding => finding.val.id)).dedup = [] := by
    have hfilter : ids.filter (· ∉ findings.map fun finding => finding.val.id) = [] := by
      rw [List.filter_eq_nil_iff]
      intro id hid
      simpa using hids id hid
    rw [hfilter]
    rfl
  have hitemIds : (items.map fun item => item.val.id) = findings.map fun f => f.val.id := by
    clear hitems hunknown hnodup hids hanchors
    induction hrel with
    | nil => rfl
    | cons h _ ih => rw [List.map_cons, List.map_cons, h.1, ih]
  have hpublic : ((items.filter fun item => item.val.publicPayloadEligible).map fun item =>
      item.val.id) =
      (findings.filter fun f => f.val.id ∉ ids).map fun f => f.val.id := by
    clear hitems hunknown hnodup hids hanchors hitemIds
    induction hrel with
    | nil => rfl
    | cons h _ ih =>
      rw [List.filter_cons, List.filter_cons, h.2]
      split
      · rw [List.map_cons, List.map_cons, h.1, ih]
      · exact ih
  have hpost : Record.postInit (⟨items⟩ : PostingPlan) = .ok () := by
    simp only [Record.postInit, require_eq_ok, PostingPlan.itemIds, hitemIds]
    exact hnodup
  refine ⟨⟨⟨items⟩, hpost⟩, ?_, hpublic⟩
  unfold buildPostingPlan summaryItems
  rw [if_neg Bool.false_ne_true, hitems]
  simp only [ok_bind, List.mapM_nil, pure, Except.pure, hunknown, ne_eq, not_true_eq_false,
    if_false,
    List.nil_append, List.append_nil]
  exact construct_eq_ok.2 rfl

/-! ## Results -/

/-- Findings with anchors keep their identifiers. -/
lemma map_id_of_attached {changedFiles : List GitHubChangedFileLines} {target : ReviewTarget}
    {findings anchored : List (Checked ClassifiedFinding)}
    (h : List.Forall₂ (AttachedTo changedFiles target) findings anchored) :
    (anchored.map fun f => f.val.id) = findings.map fun f => f.val.id := by
  induction h with
  | nil => rfl
  | @cons finding attached _ _ hhead _ ih =>
    have hsame := congrArg ClassifiedFinding.id hhead.unchanged
    have hid : attached.val.id = finding.val.id := hsame
    rw [List.map_cons, List.map_cons, ih, hid]

/-- An anchor that was attached is valid for the finding that has it. -/
lemma AttachedTo.valid_self {changedFiles : List GitHubChangedFileLines} {target : ReviewTarget}
    {finding attached : Checked ClassifiedFinding}
    (h : AttachedTo changedFiles target finding attached)
    {anchor : Checked DiffAnchor} (hanchor : attached.val.diffAnchor = some anchor) :
    anchor.val.validatesFindingLocation attached.val.path attached.val.line target.headSha
      attached.val.lineEnd = true := by
  have hvalid := h.valid anchor hanchor
  rw [← h.unchanged] at hvalid
  exact hvalid

/-- Anchors are complete, and valid for posting: on changed files that the reader produces, findings
without anchors get one exactly if their lines are changed lines of a file that can have anchors. 
Nothing else changes, and any of the findings with an anchor can be inline candidates of a posting
plan, which makes the other findings public. -/
theorem attachDiffAnchors_complete {payloads : List Json}
    {files : List (Checked PullRequestChangedFile)}
    {lines : List GitHubChangedFileLines} {unavailable : List (Text × Text)}
    (hread : changedFilesFromPayload payloads = .ok (files, lines, unavailable))
    (hpaths : (lines.map GitHubChangedFileLines.path).Nodup) (target : Checked ReviewTarget)
    {findings : List (Checked ClassifiedFinding)} (hids : (findings.map fun f => f.val.id).Nodup)
    (hnone : ∀ finding ∈ findings, finding.val.diffAnchor = none) :
    ∃ anchored, attachDiffAnchors lines target.val findings = .ok anchored ∧
      List.Forall₂ (AttachedTo lines target.val) findings anchored ∧
      ∀ ids : List Text,
        (∀ id ∈ ids, ∃ finding ∈ anchored, finding.val.id = id ∧ finding.val.diffAnchor ≠ none) →
          ∃ plan, buildPostingPlan anchored (some target) [] [] [] [] ids false = .ok plan ∧
            (plan.val.publicPayloadItems.map fun item => item.val.id) =
              (anchored.filter fun f => f.val.id ∉ ids).map fun f => f.val.id := by
  have hranges := anchorRanges_of_read hread
  obtain ⟨anchored, hattach, hrel⟩ := exists_mapM_eq_ok fun finding hfinding =>
    attachDiffAnchor_spec hpaths hranges target (hnone finding hfinding)
  have hmap := map_id_of_attached hrel
  have hnodup : (anchored.map fun f => f.val.id).Nodup := hmap ▸ hids
  refine ⟨anchored, hattach, hrel, ?_⟩
  intro ids hanchored
  refine buildPostingPlan_spec hnodup ?_ ?_
  · intro id hid
    obtain ⟨finding, hfinding, rfl, -⟩ := hanchored id hid
    exact List.mem_map_of_mem hfinding
  · intro finding hfinding hid
    obtain ⟨other, hother, hsame, hanchor⟩ := hanchored _ hid
    obtain rfl : other = finding := List.inj_on_of_nodup_map hnodup hother hfinding hsame
    obtain ⟨anchor, hsome⟩ := Option.ne_none_iff_exists'.1 hanchor
    obtain ⟨before, -, hattached⟩ := hrel.exists_of_mem_right hfinding
    exact ⟨anchor, hsome, hattached.valid_self hsome⟩

/-- The payload of a new file with two lines. -/
def newFilePayload : Json :=
  .obj [("path", .str "a.py"), ("patch", .str "@@ -0,0 +1,2 @@\n+a\n+b"), ("status", .str "added")]

/-- The payload of a file with a line that was replaced. -/
def editedFilePayload : Json :=
  .obj [("path", .str "b.py"), ("patch", .str "@@ -1,3 +1,3 @@\n a\n-b\n+c\n d"),
    ("status", .str "modified")]

/-- A target of a review. -/
def newFileTarget : ReviewTarget := ⟨"owner/repo", 1, "base", "head", none, "merge_base"⟩

/-- The fields of the target are valid. -/
lemma newFileTarget_valid : Record.postInit newFileTarget = .ok () := by decide +kernel

/-- A finding on both lines of the new file. -/
def newFileFinding : ClassifiedFinding where
  id := "finding"
  sourceReviewer := "security"
  sourceStage := "review"
  title := "title"
  body := "body"
  evidence := "evidence"
  path := "a.py"
  line := 1
  priority := 1
  severity := .warning
  confidence := .high
  fingerprint := "fingerprint"
  classification := .postableFinding
  blocking := false
  lineEnd := some 2
  diffAnchor := none

/-- The fields of the finding are valid. -/
lemma newFileFinding_valid : Record.postInit newFileFinding = .ok () := by decide +kernel

/-- A finding on one line of the edited file. -/
def editedFileFinding (id : Text) (line : Nat) : ClassifiedFinding :=
  { newFileFinding with id := id, path := "b.py", line := line, lineEnd := none, fingerprint := id }

/-- A finding on the new file, one on the replaced line and one outside of the patch. -/
def spreadFindings : List (Checked ClassifiedFinding) :=
  [⟨newFileFinding, newFileFinding_valid⟩, ⟨editedFileFinding "edited" 2, by decide +kernel⟩,
    ⟨editedFileFinding "stray" 9, by decide +kernel⟩]

/-- The ids of the findings, with whether they can be anchored. -/
def spreadAnchors : List (Text × Bool) := [("finding", true), ("edited", true), ("stray", false)]

/-- The first two of the findings get anchors. -/
lemma spreadFindings_anchored : ∃ files lines unavailable anchored,
    changedFilesFromPayload [newFilePayload, editedFilePayload] = .ok (files, lines, unavailable) ∧
      (lines.map GitHubChangedFileLines.path).Nodup ∧
      attachDiffAnchors lines newFileTarget spreadFindings = .ok anchored ∧
      (anchored.map fun f => (f.val.id, f.val.diffAnchor.isSome)) = spreadAnchors := by
  have hcheck : (changedFilesFromPayload [newFilePayload, editedFilePayload]).toOption.any
      (fun read => (attachDiffAnchors read.2.1 newFileTarget spreadFindings).toOption.any
        fun anchored => (read.2.1.map GitHubChangedFileLines.path).Nodup ∧
          (anchored.map fun f => (f.val.id, f.val.diffAnchor.isSome)) = spreadAnchors) = true := by
    decide +kernel
  cases hread : changedFilesFromPayload [newFilePayload, editedFilePayload] with
  | error e =>
    rw [hread] at hcheck
    contradiction
  | ok read =>
    obtain ⟨files, lines, unavailable⟩ := read
    rw [hread] at hcheck
    change (attachDiffAnchors lines newFileTarget spreadFindings).toOption.any _ = true at hcheck
    cases hattach : attachDiffAnchors lines newFileTarget spreadFindings with
    | error e =>
      rw [hattach] at hcheck
      contradiction
    | ok anchored =>
      rw [hattach] at hcheck
      obtain ⟨hpaths, hanchored⟩ := of_decide_eq_true hcheck
      exact ⟨files, lines, unavailable, anchored, rfl, hpaths, hattach, hanchored⟩

/-- The finding on the new file becomes an inline candidate, the other two become public. -/
theorem attachDiffAnchors_complete_spread : ∃ files lines unavailable anchored plan,
    changedFilesFromPayload [newFilePayload, editedFilePayload] = .ok (files, lines, unavailable) ∧
      attachDiffAnchors lines newFileTarget spreadFindings = .ok anchored ∧
      List.Forall₂ (AttachedTo lines newFileTarget) spreadFindings anchored ∧
      buildPostingPlan anchored (some ⟨newFileTarget, newFileTarget_valid⟩) [] [] [] []
        ["finding"] false = .ok plan ∧
      (plan.val.publicPayloadItems.map fun item => item.val.id) = ["edited", "stray"] := by
  obtain ⟨files, lines, unavailable, anchored, hread, hpaths, hattach, hanchored⟩ :=
    spreadFindings_anchored
  have hids : (spreadFindings.map fun f => f.val.id).Nodup := by decide +kernel
  have hnone : ∀ finding ∈ spreadFindings, finding.val.diffAnchor = none := by decide +kernel
  obtain ⟨anchored', hattach', hrel, hplan⟩ := attachDiffAnchors_complete hread hpaths
    ⟨newFileTarget, newFileTarget_valid⟩ hids hnone
  obtain rfl : anchored' = anchored := Except.ok.inj (hattach'.symm.trans hattach)
  have hinline : ∀ id ∈ [("finding" : Text)], ∃ finding ∈ anchored', finding.val.id = id ∧
      finding.val.diffAnchor ≠ none := by
    intro id hid
    rw [List.mem_singleton.1 hid]
    have hmem : (("finding" : Text), true) ∈ spreadAnchors := List.mem_cons_self
    rw [← hanchored] at hmem
    obtain ⟨finding, hfinding, heq⟩ := List.mem_map.1 hmem
    obtain ⟨hfindingId, hanchor⟩ := Prod.mk.inj heq
    exact ⟨finding, hfinding, hfindingId, Option.isSome_iff_ne_none.1 hanchor⟩
  obtain ⟨plan, hbuild, hpublic⟩ := hplan _ hinline
  have hids' : (anchored'.map fun f => f.val.id) = spreadAnchors.map Prod.fst := by
    rw [← hanchored, List.map_map]
    rfl
  have hothers : (anchored'.filter fun f => f.val.id ∉ [("finding" : Text)]).map
      (fun f => f.val.id) = (anchored'.map fun f => f.val.id).filter
        (· ∉ [("finding" : Text)]) := by
    rw [List.filter_map]
    rfl
  refine ⟨files, lines, unavailable, _, plan, hread, hattach, hrel, hbuild, ?_⟩
  rw [hpublic, hothers, hids']
  decide +kernel

end ReviewGraph
