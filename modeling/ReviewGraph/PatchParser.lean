import ReviewGraph.Foundation.Lines
import ReviewGraph.Models.Gates
import ReviewGraph.Quality

/-!
# The patch parser

`_changed_ranges_from_patch` and `_coalesce_changed_ranges` of `github.py`: the target lines of the
hunks of a patch that add something.  `patchHunks` cuts the lines of a patch into hunks without any
state; `collectRanges_eq_ok` says that the line-by-line parser accepts exactly if every hunk is
valid.
-/

namespace ReviewGraph

/-! ## Hunk headers -/

/-- `(\d+)`: the digits at the start of a text and what follows them. -/
def takeNumber (t : Text) : Option (Text × Text) :=
  if t.takeWhile Unicode.isDecimal = [] then none
  else some (t.takeWhile Unicode.isDecimal, t.dropWhile Unicode.isDecimal)

/-- `(?:,(\d+))?`. -/
def takeCount (t : Text) : Option Text × Text :=
  match (",": Text).isPrefixOf? t with
  | none => (none, t)
  | some rest =>
    match takeNumber rest with
    | none => (none, t)
    | some (digits, rest) => (some digits, rest)

/-- The groups of a match of `_HUNK_RE`. -/
structure HunkGroups where
  sourceStart : Text
  sourceCount : Option Text
  targetStart : Text
  targetCount : Option Text
  deriving DecidableEq

/-- `_HUNK_RE.match`, on a text without line boundaries. -/
def matchHunk (line : Text) : Option HunkGroups := do
  let t ← ("@@ -" : Text).isPrefixOf? line
  let (sourceStart, t) ← takeNumber t
  let (sourceCount, t) := takeCount t
  let t ← (" +" : Text).isPrefixOf? t
  let (targetStart, t) ← takeNumber t
  let (targetCount, t) := takeCount t
  let t ← (" @@" : Text).isPrefixOf? t
  if t = [] ∨ t.head? = some ' ' then some ⟨sourceStart, sourceCount, targetStart, targetCount⟩
  else none

/-- The number of digits that `int` reads at most. -/
def maxIntDigits : ℕ := 4300

/-- `int`, of decimal digits. -/
def intOfDigits (digits : Text) : Result ℕ :=
  if maxIntDigits < digits.length then
    .error (.valueError
      ("Exceeds the limit (4300 digits) for integer string conversion: value has " ++
      (Text.ofInt digits.length ++
        " digits; use sys.set_int_max_str_digits() to increase the limit")))
  else .ok (decimalNat digits)

/-- The numbers of a hunk header. -/
structure HunkHeader where
  sourceStart : ℕ
  sourceCount : ℕ
  targetStart : ℕ
  targetCount : ℕ
  deriving DecidableEq

/-- The numbers of the groups. -/
def readHunkHeader (groups : HunkGroups) : Result HunkHeader := do
  let sourceStart ← intOfDigits groups.sourceStart
  let sourceCount ← intOfDigits (groups.sourceCount.getD "1")
  let targetStart ← intOfDigits groups.targetStart
  let targetCount ← intOfDigits (groups.targetCount.getD "1")
  return ⟨sourceStart, sourceCount, targetStart, targetCount⟩

/-! ## The parser -/

/-- Why the parser stops before the end: it reports a reason, or a conversion raises. -/
inductive PatchStop
  | unavailable (reason : Text)
  | raised (error : PyError)
  deriving DecidableEq

/-- The variables of a hunk that is read. -/
structure HunkState where
  sourceRemaining : ℕ
  targetLine : ℕ
  targetRemaining : ℕ
  hunkStart : ℤ
  hunkEnd : ℤ
  hunkHasAddition : Bool
  deriving DecidableEq

/-- The variables of the parser; there is no hunk before the first header. -/
structure PatchState where
  changedRanges : List ChangedRange
  hunk : Option HunkState
  deriving DecidableEq

/-- The range of a hunk that is read completely, if it adds something. -/
def HunkState.ranges (hunk : HunkState) : List ChangedRange :=
  if hunk.hunkHasAddition then [⟨hunk.hunkStart, hunk.hunkEnd⟩] else []

/-- A reason that names the file. -/
def patchReason (reason path : Text) : PatchStop := .unavailable (reason ++ (" in " ++ path))

/-- A header starts a hunk. -/
def openHunk (path : Text) (groups : HunkGroups) : Except PatchStop HunkState :=
  match readHunkHeader groups with
  | .error e => .error (.raised e)
  | .ok header =>
    if header.sourceStart = 0 ∧ 0 < header.sourceCount then
      .error (patchReason "hunk source start must be positive" path)
    else if header.targetStart = 0 then
      .error (patchReason "hunk target start must be positive" path)
    else if header.targetCount = 0 then
      .error (patchReason "hunk has no target lines" path)
    else .ok {
      sourceRemaining := header.sourceCount
      targetLine := header.targetStart
      targetRemaining := header.targetCount
      hunkStart := header.targetStart
      hunkEnd := header.targetStart + header.targetCount - 1
      hunkHasAddition := false }

/-- A line of a hunk. -/
def hunkLine (path : Text) (hunk : HunkState) : Text → Except PatchStop HunkState
  | '\\' :: _ => .ok hunk
  | '+' :: _ =>
    if hunk.targetRemaining = 0 then .error (patchReason "hunk target line count overflow" path)
    else .ok { hunk with
      hunkHasAddition := true
      targetLine := hunk.targetLine + 1
      targetRemaining := hunk.targetRemaining - 1 }
  | '-' :: _ =>
    if hunk.sourceRemaining = 0 then .error (patchReason "hunk source line count overflow" path)
    else .ok { hunk with sourceRemaining := hunk.sourceRemaining - 1 }
  | ' ' :: _ =>
    if hunk.sourceRemaining = 0 then .error (patchReason "hunk source line count overflow" path)
    else if hunk.targetRemaining = 0 then
      .error (patchReason "hunk target line count overflow" path)
    else .ok { hunk with
      sourceRemaining := hunk.sourceRemaining - 1
      targetLine := hunk.targetLine + 1
      targetRemaining := hunk.targetRemaining - 1 }
  | _ => .error (patchReason "unsupported hunk body line" path)

/-- The ranges after the last line of a hunk. -/
def closeHunk (path : Text) (st : PatchState) (hunk : HunkState) :
    Except PatchStop (List ChangedRange) :=
  if hunk.sourceRemaining ≠ 0 ∨ hunk.targetRemaining ≠ 0 then
    .error (patchReason "hunk target line count mismatch" path)
  else .ok (st.changedRanges ++ hunk.ranges)

/-- One round of the loop over the lines. -/
def patchLine (path : Text) (st : PatchState) (line : Text) : Except PatchStop PatchState :=
  match matchHunk line with
  | some groups => do
    let changedRanges ← match st.hunk with
      | some hunk => closeHunk path st hunk
      | none => .ok st.changedRanges
    let hunk ← openHunk path groups
    return ⟨changedRanges, some hunk⟩
  | none =>
    if line.startsWith "@@" then .error (patchReason "unsupported hunk header" path)
    else
      match st.hunk with
      | none => .ok st
      | some hunk => do
        let hunk ← hunkLine path hunk line
        return { st with hunk := some hunk }

/-- The ranges after the loop. -/
def collectRanges (path : Text) (st : PatchState) (lines : List Text) :
    Except PatchStop (List ChangedRange) := do
  let st ← lines.foldlM (patchLine path) st
  match st.hunk with
  | none => .error (patchReason "patch has no supported hunks" path)
  | some hunk => closeHunk path st hunk

/-- The loop of `_coalesce_changed_ranges`, with the range that may still grow. -/
def coalesceFrom (current : ChangedRange) : List ChangedRange → List ChangedRange
  | [] => [current]
  | range :: ranges =>
    if range.first ≤ current.last + 1 then
      coalesceFrom ⟨current.first, max current.last range.last⟩ ranges
    else current :: coalesceFrom range ranges

/-- `_coalesce_changed_ranges`; it is only called with at least one range. -/
def coalesceChangedRanges : List ChangedRange → List ChangedRange
  | [] => []
  | range :: ranges => coalesceFrom range ranges

/-- `_INLINEABLE_FILE_STATUSES`. -/
def inlineableFileStatuses : List Text := ["added", "modified", "renamed"]

/-- The parser on the lines of a patch. -/
def parsePatchLines (path : Text) (lines : List Text) : Except PatchStop (List ChangedRange) := do
  let ranges ← collectRanges path ⟨[], none⟩ lines
  if ranges = [] then .error (patchReason "patch has no target changed lines" path)
  else .ok (coalesceChangedRanges ranges)

/-- `_changed_ranges_from_patch`: the changed ranges, and the reason why there are none. -/
def changedRangesFromPatch (path : Text) (patch : Option Text) (status patchStatus : Text) :
    Result (List ChangedRange × Option Text) :=
  if status ∉ inlineableFileStatuses then
    .ok ([], some ("file status " ++ (status ++ " is not anchorable")))
  else
    match patch with
    | none => .ok ([], some ("patch is " ++ patchStatus))
    | some patch =>
      if patchStatus ≠ "available" then .ok ([], some ("patch is " ++ patchStatus))
      else
        match parsePatchLines path patch.splitLines with
        | .error (.raised e) => .error e
        | .error (.unavailable reason) => .ok ([], some reason)
        | .ok ranges => .ok (ranges, none)

/-! ## Hunks -/

/-- A hunk of a patch: its header line and the lines up to the next header. -/
structure Hunk where
  headerLine : Text
  body : List Text
  deriving DecidableEq

/-- Whether a line has the form of a header. -/
def isHeaderLine (line : Text) : Bool := line.startsWith "@@"

/-- The hunks of the lines of a patch; lines before the first header belong to none. -/
def patchHunks : List Text → List Hunk
  | [] => []
  | line :: lines =>
    if isHeaderLine line then ⟨line, lines.takeWhile fun l => !isHeaderLine l⟩ :: patchHunks lines
    else patchHunks lines

/-- The lines that a body has in the source: context and deletions. -/
def sourceLineCount (body : List Text) : ℕ :=
  body.countP fun l => l.head? = some ' ' || l.head? = some '-'

/-- The lines that a body has in the target: context and additions. -/
def targetLineCount (body : List Text) : ℕ :=
  body.countP fun l => l.head? = some ' ' || l.head? = some '+'

/-- Whether a body adds a line. -/
def hasAddition (body : List Text) : Bool := body.any fun l => l.head? = some '+'

/-- The lines of a body. -/
def IsBodyLine (line : Text) : Prop :=
  ∃ c ∈ ([' ', '+', '-', '\\'] : List Char), line.head? = some c

namespace Hunk

/-- The numbers of the header. -/
def header (hunk : Hunk) : Option HunkHeader :=
  (matchHunk hunk.headerLine).bind fun groups => (readHunkHeader groups).toOption

/-- The target lines of the hunk. -/
def span (header : HunkHeader) : ChangedRange :=
  ⟨header.targetStart, header.targetStart + header.targetCount - 1⟩

/-- The target lines of the hunk, if it adds something. -/
def additionSpans (hunk : Hunk) : List ChangedRange :=
  if hasAddition hunk.body then (hunk.header.map span).toList else []

/-- A hunk that the parser can read, with the numbers of its header. -/
structure Valid (hunk : Hunk) (numbers : HunkHeader) : Prop where
  /-- The header can be read. -/
  header : hunk.header = some numbers
  /-- The source lines have numbers from one on, if there are any. -/
  sourceStart : 0 < numbers.sourceStart ∨ numbers.sourceCount = 0
  /-- The target lines have numbers from one on. -/
  targetStart : 0 < numbers.targetStart
  /-- There are target lines. -/
  targetCount : 0 < numbers.targetCount
  /-- The body consists of lines of a body. -/
  body : ∀ line ∈ hunk.body, IsBodyLine line
  /-- The number of source lines is that of the header. -/
  sourceLineCount : sourceLineCount hunk.body = numbers.sourceCount
  /-- The number of target lines is that of the header. -/
  targetLineCount : targetLineCount hunk.body = numbers.targetCount

end Hunk

/-- The target lines of the hunks that add something. -/
def additionSpans (lines : List Text) : List ChangedRange :=
  (patchHunks lines).flatMap Hunk.additionSpans

/-- The hunks of a patch that the parser can read. -/
def ValidHunks (lines : List Text) : Prop :=
  ∀ hunk ∈ patchHunks lines, ∃ numbers, hunk.Valid numbers

/-! ## What the parser accepts -/

/-- A sequence succeeds if both of its parts do. -/
lemma except_bind_eq_ok {ε α β : Type} {x : Except ε α} {f : α → Except ε β} {b : β} :
    x >>= f = .ok b ↔ ∃ a, x = .ok a ∧ f a = .ok b := by
  cases x with
  | error e => simp [bind, Except.bind]
  | ok a => simp [bind, Except.bind]

/-- The lines up to the next header. -/
def bodyLines (lines : List Text) : List Text := lines.takeWhile fun l => !isHeaderLine l

/-- The body that completes a hunk. -/
structure Completes (hunk : HunkState) (body : List Text) : Prop where
  /-- The body consists of lines of a body. -/
  lines : ∀ line ∈ body, IsBodyLine line
  /-- The source lines are those that remain. -/
  source : sourceLineCount body = hunk.sourceRemaining
  /-- The target lines are those that remain. -/
  target : targetLineCount body = hunk.targetRemaining

/-- The range of a hunk after a body. -/
def rangesAfter (hunk : HunkState) (body : List Text) : List ChangedRange :=
  if hunk.hunkHasAddition || hasAddition body then [⟨hunk.hunkStart, hunk.hunkEnd⟩] else []

/-- Nothing completes a hunk without remaining lines. -/
lemma completes_nil {hunk : HunkState} :
    Completes hunk [] ↔ hunk.sourceRemaining = 0 ∧ hunk.targetRemaining = 0 := by
  constructor
  · intro h
    exact ⟨h.source.symm, h.target.symm⟩
  · rintro ⟨hsource, htarget⟩
    exact ⟨by simp, hsource.symm, htarget.symm⟩

/-- The end of a hunk. -/
lemma closeHunk_eq_ok {path : Text} {st : PatchState} {hunk : HunkState}
    {ranges : List ChangedRange} :
    closeHunk path st hunk = .ok ranges ↔
      Completes hunk [] ∧ ranges = st.changedRanges ++ rangesAfter hunk [] := by
  have hranges : rangesAfter hunk [] = hunk.ranges := by
    simp [rangesAfter, HunkState.ranges, hasAddition]
  unfold closeHunk
  rw [completes_nil, hranges]
  by_cases h : hunk.sourceRemaining = 0 ∧ hunk.targetRemaining = 0
  · rw [if_neg (by tauto)]
    simp [h, eq_comm]
  · rw [if_pos (by tauto)]
    simp [h]

/-- A body completes a hunk exactly if it has the remaining lines. -/
lemma completes_iff {hunk : HunkState} {body : List Text} : Completes hunk body ↔
    (∀ line ∈ body, IsBodyLine line) ∧ sourceLineCount body = hunk.sourceRemaining ∧
      targetLineCount body = hunk.targetRemaining :=
  ⟨fun h => ⟨h.lines, h.source, h.target⟩, fun h => ⟨h.1, h.2.1, h.2.2⟩⟩

/-- A line is read exactly if it can be part of the body that completes the hunk. -/
lemma hunkLine_spec {path : Text} {hunk : HunkState} {line : Text} {body : List Text}
    {ranges : List ChangedRange} :
    (∃ hunk', hunkLine path hunk line = .ok hunk' ∧ Completes hunk' body ∧
      rangesAfter hunk' body = ranges) ↔
      Completes hunk (line :: body) ∧ rangesAfter hunk (line :: body) = ranges := by
  have hcount : ∀ {m n : ℕ}, n ≠ 0 → (m = n - 1 ↔ m + 1 = n) := by
    intro m n hn
    omega
  have hrefuse : ∀ {reason : PatchStop}, (∃ hunk',
      (Except.error reason : Except PatchStop HunkState) =
      .ok hunk' ∧ Completes hunk' body ∧ rangesAfter hunk' body = ranges) ↔ False := by simp
  unfold hunkLine
  split
  · simp [completes_iff, IsBodyLine, sourceLineCount, targetLineCount, rangesAfter, hasAddition,
      and_assoc]
  · by_cases htarget : hunk.targetRemaining = 0
    · rw [if_pos htarget, hrefuse]
      simp [completes_iff, targetLineCount, htarget]
    · rw [if_neg htarget]
      simp [completes_iff, IsBodyLine, sourceLineCount, targetLineCount, rangesAfter, hasAddition,
        and_assoc,
        hcount htarget]
  · by_cases hsource : hunk.sourceRemaining = 0
    · rw [if_pos hsource, hrefuse]
      simp [completes_iff, sourceLineCount, hsource]
    · rw [if_neg hsource]
      simp [completes_iff, IsBodyLine, sourceLineCount, targetLineCount, rangesAfter, hasAddition,
        and_assoc,
        hcount hsource]
  · by_cases hsource : hunk.sourceRemaining = 0
    · rw [if_pos hsource, hrefuse]
      simp [completes_iff, sourceLineCount, hsource]
    by_cases htarget : hunk.targetRemaining = 0
    · rw [if_neg hsource, if_pos htarget, hrefuse]
      simp [completes_iff, targetLineCount, htarget]
    · rw [if_neg hsource, if_neg htarget]
      simp [completes_iff, IsBodyLine, sourceLineCount, targetLineCount, rangesAfter, hasAddition,
        and_assoc,
        hcount hsource, hcount htarget]
  · rename_i hslash hplus hminus hblank
    rw [hrefuse, false_iff]
    rintro ⟨hcompletes, -⟩
    obtain ⟨c, hc, hhead⟩ := hcompletes.lines line List.mem_cons_self
    obtain ⟨rest, rfl⟩ : ∃ rest, line = c :: rest := by
      cases line with
      | nil => simp at hhead
      | cons d rest => exact ⟨rest, by simpa using hhead⟩
    simp only [List.mem_cons, List.not_mem_nil, or_false] at hc
    rcases hc with rfl | rfl | rfl | rfl
    · exact hblank _ rfl
    · exact hplus _ rfl
    · exact hminus _ rfl
    · exact hslash _ rfl

/-- A header line starts with two at signs. -/
lemma isHeaderLine_of_matchHunk {line : Text} {groups : HunkGroups}
    (h : matchHunk line = some groups) :
    isHeaderLine line = true := by
  unfold matchHunk at h
  obtain ⟨rest, hrest, -⟩ := Option.bind_eq_some_iff.1 h
  rw [Text.isPrefixOf?_eq_some_iff] at hrest
  unfold isHeaderLine
  rw [Text.startsWith_iff, hrest]
  simp [Text.ofString_eq]

/-- A hunk is opened exactly by a header that can be read and has positive numbers. -/
lemma openHunk_eq_ok {path : Text} {groups : HunkGroups} {hunk : HunkState} :
    openHunk path groups = .ok hunk ↔ ∃ header, readHunkHeader groups = .ok header ∧
      (0 < header.sourceStart ∨ header.sourceCount = 0) ∧ 0 < header.targetStart ∧
      0 < header.targetCount ∧ hunk = ⟨header.sourceCount, header.targetStart, header.targetCount,
        header.targetStart, header.targetStart + header.targetCount - 1, false⟩ := by
  unfold openHunk
  cases readHunkHeader groups with
  | error e => simp
  | ok header =>
    simp only [Except.ok.injEq, exists_eq_left']
    by_cases hsource : header.sourceStart = 0 ∧ 0 < header.sourceCount
    · rw [if_pos hsource]
      simp
      omega
    by_cases htarget : header.targetStart = 0
    · rw [if_neg hsource, if_pos htarget]
      simp
      omega
    by_cases hcount : header.targetCount = 0
    · rw [if_neg hsource, if_neg htarget, if_pos hcount]
      simp
      omega
    · rw [if_neg hsource, if_neg htarget, if_neg hcount]
      constructor
      · intro h
        exact ⟨by omega, by omega, by omega, (Except.ok.inj h).symm⟩
      · rintro ⟨-, -, -, rfl⟩
        rfl

/-- The loop over one more line. -/
lemma collectRanges_cons {path : Text} {st : PatchState} {line : Text} {lines : List Text} :
    collectRanges path st (line :: lines) =
      patchLine path st line >>= fun st => collectRanges path st lines := by
  unfold collectRanges
  rw [List.foldlM_cons]
  cases patchLine path st line <;> rfl

/-- A header line begins a hunk. -/
lemma patchHunks_header {line : Text} (h : isHeaderLine line = true) (lines : List Text) :
    patchHunks (line :: lines) = ⟨line, bodyLines lines⟩ :: patchHunks lines := by
  rw [patchHunks, if_pos h]
  rfl

/-- A line in front of the first header is skipped. -/
lemma patchHunks_body {line : Text} (h : isHeaderLine line = false) (lines : List Text) :
    patchHunks (line :: lines) = patchHunks lines := by
  rw [patchHunks, if_neg (by simp [h])]

/-- A header line opens a hunk that the rest of the lines must complete. -/
lemma opened_iff {path line : Text} {groups : HunkGroups} (hgroups : matchHunk line = some groups)
    {lines : List Text} {done ranges : List ChangedRange} :
    (∃ hunk, openHunk path groups = .ok hunk ∧ Completes hunk (bodyLines lines) ∧
      ValidHunks lines ∧ ranges = done ++ (rangesAfter hunk (bodyLines lines) ++ additionSpans
        lines)) ↔
      ValidHunks (line :: lines) ∧ ranges = done ++ additionSpans (line :: lines) := by
  have hheader := isHeaderLine_of_matchHunk hgroups
  have hread : ∀ numbers, Hunk.header ⟨line, bodyLines lines⟩ = some numbers ↔
      readHunkHeader groups = .ok numbers := by
    intro numbers
    unfold Hunk.header
    rw [hgroups, Option.bind_some]
    cases readHunkHeader groups <;> simp [Except.toOption]
  unfold ValidHunks additionSpans
  rw [patchHunks_header hheader, List.flatMap_cons]
  constructor
  · rintro ⟨hunk, hopen, hcompletes, hvalid, rfl⟩
    obtain ⟨numbers, hnumbers, hsource, htarget, hcount, rfl⟩ := openHunk_eq_ok.1 hopen
    rw [← hread] at hnumbers
    refine ⟨?_, ?_⟩
    · intro hunk hmem
      rcases List.mem_cons.1 hmem with rfl | hmem
      · exact ⟨numbers, hnumbers, hsource, htarget, hcount, hcompletes.lines, hcompletes.source,
          hcompletes.target⟩
      · exact hvalid hunk hmem
    · simp [Hunk.additionSpans, rangesAfter, hnumbers, Hunk.span]
  · rintro ⟨hvalid, rfl⟩
    obtain ⟨numbers, hnumbers⟩ := hvalid _ List.mem_cons_self
    refine ⟨_, openHunk_eq_ok.2 ⟨numbers, (hread numbers).1 hnumbers.header, hnumbers.sourceStart,
      hnumbers.targetStart, hnumbers.targetCount, rfl⟩, ?_, ?_, ?_⟩
    · exact ⟨hnumbers.body, hnumbers.sourceLineCount, hnumbers.targetLineCount⟩
    · intro hunk hmem
      exact hvalid hunk (List.mem_cons_of_mem _ hmem)
    · simp [Hunk.additionSpans, rangesAfter, hnumbers.header, Hunk.span]

/-- What the loop collects from the remaining lines. -/
def Collected (st : PatchState) (lines : List Text) (ranges : List ChangedRange) : Prop :=
  ValidHunks lines ∧
    match st.hunk with
    | none => patchHunks lines ≠ [] ∧ ranges = st.changedRanges ++ additionSpans lines
    | some hunk => Completes hunk (bodyLines lines) ∧
        ranges = st.changedRanges ++ (rangesAfter hunk (bodyLines lines) ++ additionSpans lines)

/-- At the end of the lines the open hunk must be complete. -/
lemma collectRanges_nil {path : Text} {st : PatchState} {ranges : List ChangedRange} :
    collectRanges path st [] = .ok ranges ↔ Collected st [] ranges := by
  obtain ⟨done, hunk⟩ := st
  have hvalid : ValidHunks [] := by simp [ValidHunks, patchHunks]
  unfold collectRanges Collected
  rw [List.foldlM_nil, except_bind_eq_ok]
  cases hunk with
  | none => simp [patchHunks, pure, Except.pure]
  | some hunk =>
    simp only [pure, Except.pure, Except.ok.injEq, exists_eq_left', closeHunk_eq_ok]
    simp [hvalid, bodyLines, additionSpans, patchHunks]

section Step

variable {path line : Text} {lines : List Text} {done ranges : List ChangedRange}

/-- A header line that does not match is refused. -/
lemma patchLine_malformedHeader (hheader : isHeaderLine line = true)
    (hgroups : matchHunk line = none) (st : PatchState) :
    (∃ st', patchLine path st line = .ok st' ∧ Collected st' lines ranges) ↔
      Collected st (line :: lines) ranges := by
  have hinvalid : ¬ ValidHunks (line :: lines) := by
    intro hvalid
    rw [ValidHunks, patchHunks_header hheader] at hvalid
    obtain ⟨numbers, hnumbers⟩ := hvalid _ List.mem_cons_self
    have hread := hnumbers.header
    simp [Hunk.header, hgroups] at hread
  have herror : patchLine path st line =
      .error (patchReason "unsupported hunk header" path) := by
    unfold patchLine
    rw [hgroups]
    exact if_pos hheader
  simp [herror, Collected, hinvalid]

/-- What is collected once a header has opened its hunk. -/
lemma openHunk_collected {groups : HunkGroups} (hgroups : matchHunk line = some groups) :
    (∃ st', (do
      let hunk ← openHunk path groups
      return (⟨done, some hunk⟩ : PatchState)) = Except.ok st' ∧ Collected st' lines ranges) ↔
      ValidHunks (line :: lines) ∧ ranges = done ++ additionSpans (line :: lines) := by
  rw [← opened_iff hgroups]
  constructor
  · rintro ⟨st', hst', hvalid, hcollected⟩
    obtain ⟨hunk', hopen, hst'⟩ := except_bind_eq_ok.1 hst'
    obtain rfl := Except.ok.inj hst'
    exact ⟨hunk', hopen, hcollected.1, hvalid, hcollected.2⟩
  · rintro ⟨hunk', hopen, hcompletes, hvalid, hranges⟩
    exact ⟨_, except_bind_eq_ok.2 ⟨hunk', hopen, rfl⟩, hvalid, hcompletes, hranges⟩

/-- A header ends the hunk before it and opens a new one. -/
lemma patchLine_header {groups : HunkGroups} (hgroups : matchHunk line = some groups)
    (st : PatchState) :
    (∃ st', patchLine path st line = .ok st' ∧ Collected st' lines ranges) ↔
      Collected st (line :: lines) ranges := by
  obtain ⟨done, hunk⟩ := st
  have hheader := isHeaderLine_of_matchHunk hgroups
  have hopens := fun done => @openHunk_collected path line lines done ranges groups hgroups
  cases hunk with
  | none =>
    have hline : patchLine path ⟨done, none⟩ line = do
        let hunk ← openHunk path groups
        return (⟨done, some hunk⟩ : PatchState) := by
      unfold patchLine
      rw [hgroups]
      rfl
    rw [hline, hopens]
    simp [Collected, patchHunks_header hheader]
  | some hunk =>
    have hbody : bodyLines (line :: lines) = [] := by
      unfold bodyLines
      rw [List.takeWhile_cons_of_neg (by simp [hheader])]
    have hline : patchLine path ⟨done, some hunk⟩ line = do
        let done' ← closeHunk path ⟨done, some hunk⟩ hunk
        let hunk ← openHunk path groups
        return (⟨done', some hunk⟩ : PatchState) := by
      unfold patchLine
      rw [hgroups]
    rw [hline]
    unfold Collected
    rw [hbody]
    constructor
    · rintro ⟨st', hst', hcollected⟩
      obtain ⟨done', hclose, hst'⟩ := except_bind_eq_ok.1 hst'
      obtain ⟨hcompletes, rfl⟩ := closeHunk_eq_ok.1 hclose
      obtain ⟨hvalid, hranges⟩ := (hopens _).1 ⟨st', hst', hcollected⟩
      exact ⟨hvalid, hcompletes, by rw [hranges, List.append_assoc]⟩
    · rintro ⟨hvalid, hcompletes, hranges⟩
      rw [← List.append_assoc] at hranges
      obtain ⟨st', hst', hcollected⟩ := (hopens _).2 ⟨hvalid, hranges⟩
      exact ⟨st', except_bind_eq_ok.2 ⟨_, closeHunk_eq_ok.2 ⟨hcompletes, rfl⟩, hst'⟩,
        hcollected⟩

/-- Any other line belongs to the hunk that is open, if there is one. -/
lemma patchLine_body (hheader : isHeaderLine line = false) (st : PatchState) :
    (∃ st', patchLine path st line = .ok st' ∧ Collected st' lines ranges) ↔
      Collected st (line :: lines) ranges := by
  obtain ⟨done, hunk⟩ := st
  have hgroups : matchHunk line = none := by
    cases hgroups : matchHunk line with
    | none => rfl
    | some groups =>
      rw [isHeaderLine_of_matchHunk hgroups] at hheader
      contradiction
  have hbody : bodyLines (line :: lines) = line :: bodyLines lines := by
    unfold bodyLines
    rw [List.takeWhile_cons_of_pos (by simp [hheader])]
  have hspans : additionSpans (line :: lines) = additionSpans lines := by
    unfold additionSpans
    rw [patchHunks_body hheader]
  have hvalid : ValidHunks (line :: lines) ↔ ValidHunks lines := by
    unfold ValidHunks
    rw [patchHunks_body hheader]
  have hheader' : line.startsWith "@@" = false := hheader
  unfold Collected
  rw [hvalid, hspans, hbody]
  cases hunk with
  | none =>
    have hline : patchLine path ⟨done, none⟩ line = .ok ⟨done, none⟩ := by
      unfold patchLine
      rw [hgroups]
      simp [hheader']
    rw [hline, patchHunks_body hheader]
    simp
  | some hunk =>
    have hline : patchLine path ⟨done, some hunk⟩ line = do
        let hunk ← hunkLine path hunk line
        return (⟨done, some hunk⟩ : PatchState) := by
      unfold patchLine
      rw [hgroups]
      simp [hheader']
    rw [hline]
    constructor
    · rintro ⟨st', hst', hvalid, hcollected⟩
      obtain ⟨hunk', hread, hst'⟩ := except_bind_eq_ok.1 hst'
      obtain rfl := Except.ok.inj hst'
      obtain ⟨hcompletes, hranges⟩ := hunkLine_spec.1 ⟨hunk', hread, hcollected.1, rfl⟩
      exact ⟨hvalid, hcompletes, by rw [hranges]; exact hcollected.2⟩
    · rintro ⟨hvalid, hcompletes, hranges⟩
      obtain ⟨hunk', hread, hcompletes', hranges'⟩ := hunkLine_spec.2 ⟨hcompletes, rfl⟩
      exact ⟨_, except_bind_eq_ok.2 ⟨hunk', hread, rfl⟩, hvalid, hcompletes', by
        rw [hranges, hranges']⟩

end Step

/-- The loop accepts exactly the lines whose hunks are valid. -/
theorem collectRanges_eq_ok {path : Text} {st : PatchState} {lines : List Text}
    {ranges : List ChangedRange} :
    collectRanges path st lines = .ok ranges ↔ Collected st lines ranges := by
  induction lines generalizing st with
  | nil => exact collectRanges_nil
  | cons line lines ih =>
    rw [collectRanges_cons, except_bind_eq_ok]
    simp only [ih]
    cases hheader : isHeaderLine line with
    | false => exact patchLine_body hheader st
    | true =>
      cases hgroups : matchHunk line with
      | none => exact patchLine_malformedHeader hheader hgroups st
      | some groups => exact patchLine_header hgroups st

/-- The parser accepts exactly the lines whose hunks are valid and add something. -/
theorem parsePatchLines_eq_ok {path : Text} {lines : List Text} {ranges : List ChangedRange} :
    parsePatchLines path lines = .ok ranges ↔ ValidHunks lines ∧ additionSpans lines ≠ [] ∧
      ranges = coalesceChangedRanges (additionSpans lines) := by
  unfold parsePatchLines
  rw [except_bind_eq_ok]
  simp only [collectRanges_eq_ok, Collected, List.nil_append]
  constructor
  · rintro ⟨spans, ⟨hvalid, -, rfl⟩, h⟩
    split at h
    · contradiction
    rename_i hspans
    exact ⟨hvalid, hspans, (Except.ok.inj h).symm⟩
  · rintro ⟨hvalid, hspans, rfl⟩
    have hhunks : patchHunks lines ≠ [] := by
      intro hnil
      unfold additionSpans at hspans
      rw [hnil] at hspans
      exact hspans rfl
    exact ⟨_, ⟨hvalid, hhunks, rfl⟩, by rw [if_neg hspans]⟩

end ReviewGraph
