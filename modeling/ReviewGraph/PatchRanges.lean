import ReviewGraph.PatchParser

/-!
# The ranges of a patch

`_coalesce_changed_ranges` compares a range with the one before it only, and keeps the first line of
that one.  A run of hunks is opened by a hunk that starts behind everything before it; of the other
hunks, the lines before the first line of the run are lost, unless another hunk keeps them.
-/

namespace ReviewGraph

/-! ## Lines of ranges -/

/-- A line lies in one of the ranges. -/
def Covered (ranges : List ChangedRange) (line : ℤ) : Prop :=
  ∃ range ∈ ranges, range.first ≤ line ∧ line ≤ range.last

/-- A line is covered by the first range or by another one. -/
lemma covered_cons {range : ChangedRange} {ranges : List ChangedRange} {line : ℤ} :
    Covered (range :: ranges) line ↔ (range.first ≤ line ∧ line ≤ range.last) ∨
      Covered ranges line := by
  simp [Covered]

/-- The ranges follow each other with at least one line between them. -/
def Separated (ranges : List ChangedRange) : Prop :=
  (∀ range ∈ ranges, range.first ≤ range.last) ∧
    ranges.Pairwise fun range next => range.last + 1 < next.first

/-- A range opens a run if it starts behind all ranges before it, with a line between. -/
def OpensRun (before : List ChangedRange) (range : ChangedRange) : Prop :=
  ∀ earlier ∈ before, earlier.last + 1 < range.first

/-- No run that is opened among the ranges starts after the line. -/
def RunsStartBy (ranges : List ChangedRange) (line : ℤ) : Prop :=
  ∀ before range after, ranges = before ++ range :: after → OpensRun before range →
    range.first ≤ line

/-- A range keeps a line of its own if no run up to it starts after the line. -/
def KeepsLine (before : List ChangedRange) (range : ChangedRange) (line : ℤ) : Prop :=
  range.first ≤ line ∧ line ≤ range.last ∧ RunsStartBy (before ++ [range]) line

/-- Every line of the ranges is kept by one of them. -/
def KeepsLines (ranges : List ChangedRange) : Prop :=
  ∀ line, Covered ranges line → ∃ before range after, ranges = before ++ range :: after ∧
    KeepsLine before range line

/-- The runs of the ranges with one more. -/
lemma runsStartBy_append {ranges : List ChangedRange} {range : ChangedRange} {line : ℤ} :
    RunsStartBy (ranges ++ [range]) line ↔
      RunsStartBy ranges line ∧ (OpensRun ranges range → range.first ≤ line) := by
  constructor
  · intro h
    refine ⟨?_, fun hopens => h ranges range [] rfl hopens⟩
    rintro before r after rfl hopens
    exact h before r (after ++ [range]) (by simp) hopens
  · rintro ⟨hruns, hlast⟩ before r after heq hopens
    rcases List.eq_nil_or_concat after with rfl | ⟨after, last, rfl⟩
    · obtain ⟨rfl, hr⟩ := List.append_inj' heq rfl
      obtain rfl := (List.cons.inj hr).1
      exact hlast hopens
    · have hinit : ranges = before ++ r :: after := by
        rw [List.concat_eq_append, ← List.cons_append, ← List.append_assoc] at heq
        exact (List.append_inj' heq rfl).1
      exact hruns before r after hinit hopens

/-! ## Coalescing -/

/-- The range that may still grow, after some ranges. -/
structure CurrentRange (before : List ChangedRange) (current : ChangedRange) : Prop where
  /-- The range is not empty. -/
  valid : current.first ≤ current.last
  /-- No range reaches further. -/
  last : ∀ range ∈ before, range.last ≤ current.last
  /-- A range reaches as far. -/
  reached : ∃ range ∈ before, range.last = current.last
  /-- The range starts with the last run that was opened. -/
  first : ∀ line, RunsStartBy before line ↔ current.first ≤ line

/-- The first range opens a run. -/
lemma CurrentRange.singleton {range : ChangedRange} (h : range.first ≤ range.last) :
    CurrentRange [range] range where
  valid := h
  last := by simp
  reached := ⟨range, by simp, rfl⟩
  first line := by
    rw [show [range] = [] ++ [range] from rfl, runsStartBy_append]
    constructor
    · rintro ⟨-, hfirst⟩
      exact hfirst (by simp [OpensRun])
    · intro hfirst
      refine ⟨?_, fun _ => hfirst⟩
      intro before r after heq
      simp at heq

/-- A range that touches the current one is merged into it. -/
lemma CurrentRange.merge {before : List ChangedRange} {current range : ChangedRange}
    (h : CurrentRange before current) (htouch : range.first ≤ current.last + 1) :
    CurrentRange (before ++ [range]) ⟨current.first, max current.last range.last⟩ := by
  have hvalid := h.valid
  obtain ⟨furthest, hmem, hfurthest⟩ := h.reached
  have hnot : ¬ OpensRun before range := by
    intro hopens
    have hbehind := hopens furthest hmem
    omega
  constructor
  · exact hvalid.trans (le_max_left _ _)
  · intro r hr
    rcases List.mem_append.1 hr with hr | hr
    · exact (h.last r hr).trans (le_max_left _ _)
    · obtain rfl := List.mem_singleton.1 hr
      exact le_max_right _ _
  · rcases le_total current.last range.last with hle | hle
    · exact ⟨range, by simp, (max_eq_right hle).symm⟩
    · exact ⟨furthest, List.mem_append_left _ hmem, by rw [hfurthest, max_eq_left hle]⟩
  · intro line
    rw [runsStartBy_append, h.first]
    simp [hnot]

/-- A range behind the current one opens a run. -/
lemma CurrentRange.open {before : List ChangedRange} {current range : ChangedRange}
    (h : CurrentRange before current) (hbehind : current.last + 1 < range.first)
    (hrange : range.first ≤ range.last) : CurrentRange (before ++ [range]) range := by
  have hvalid := h.valid
  have hopens : OpensRun before range := by
    intro earlier hearlier
    have hlast := h.last earlier hearlier
    omega
  constructor
  · exact hrange
  · intro r hr
    rcases List.mem_append.1 hr with hr | hr
    · have hlast := h.last r hr
      omega
    · obtain rfl := List.mem_singleton.1 hr
      exact le_rfl
  · exact ⟨range, by simp, rfl⟩
  · intro line
    rw [runsStartBy_append, h.first]
    constructor
    · rintro ⟨-, hfirst⟩
      exact hfirst hopens
    · intro hfirst
      exact ⟨by omega, fun _ => hfirst⟩

/-- Coalescing covers the lines of the current range and those that the next ranges keep. -/
lemma covered_coalesceFrom {before ranges : List ChangedRange} {current : ChangedRange}
    (h : CurrentRange before current) (hranges : ∀ range ∈ ranges, range.first ≤ range.last)
    (line : ℤ) : Covered (coalesceFrom current ranges) line ↔
      (current.first ≤ line ∧ line ≤ current.last) ∨
        ∃ middle range after, ranges = middle ++ range :: after ∧
          KeepsLine (before ++ middle) range line := by
  induction ranges generalizing before current with
  | nil => simp [coalesceFrom, Covered]
  | cons range ranges ih =>
    have hvalid := h.valid
    have hrange := hranges range List.mem_cons_self
    have hrest := fun r hr => hranges r (List.mem_cons_of_mem range hr)
    have hsplit : (∃ middle r after, range :: ranges = middle ++ r :: after ∧
        KeepsLine (before ++ middle) r line) ↔ KeepsLine before range line ∨
        ∃ middle r after, ranges = middle ++ r :: after ∧
          KeepsLine (before ++ [range] ++ middle) r line := by
      constructor
      · rintro ⟨middle, r, after, heq, hkeeps⟩
        cases middle with
        | nil =>
          obtain ⟨rfl, rfl⟩ := List.cons.inj heq
          exact .inl (by simpa using hkeeps)
        | cons first middle =>
          obtain ⟨rfl, rfl⟩ := List.cons.inj heq
          exact .inr ⟨middle, r, after, rfl, by simpa using hkeeps⟩
      · rintro (hkeeps | ⟨middle, r, after, rfl, hkeeps⟩)
        · exact ⟨[], range, ranges, rfl, by simpa using hkeeps⟩
        · exact ⟨range :: middle, r, after, rfl, by simpa using hkeeps⟩
    rw [hsplit, coalesceFrom]
    split
    · rename_i htouch
      have hmerge := h.merge htouch
      rw [ih hmerge hrest, ← or_assoc]
      have hlines : (current.first ≤ line ∧ line ≤ max current.last range.last) ↔
          (current.first ≤ line ∧ line ≤ current.last) ∨ KeepsLine before range line := by
        unfold KeepsLine
        rw [hmerge.first, le_max_iff]
        constructor
        · rintro ⟨hfirst, hlast | hlast⟩
          · exact .inl ⟨hfirst, hlast⟩
          · by_cases hinside : line ≤ current.last
            · exact .inl ⟨hfirst, hinside⟩
            · exact .inr ⟨by omega, hlast, hfirst⟩
        · rintro (⟨hfirst, hlast⟩ | ⟨-, hlast, hfirst⟩)
          · exact ⟨hfirst, .inl hlast⟩
          · exact ⟨hfirst, .inr hlast⟩
      exact or_congr hlines Iff.rfl
    · rename_i htouch
      rw [not_le] at htouch
      have hopen := h.open htouch hrange
      rw [covered_cons, ih hopen hrest]
      refine or_congr Iff.rfl (or_congr ?_ Iff.rfl)
      unfold KeepsLine
      rw [hopen.first]
      tauto

/-- Coalescing covers the lines that the ranges keep. -/
lemma covered_coalesce {ranges : List ChangedRange} (h : ∀ range ∈ ranges, range.first ≤ range.last)
    (line : ℤ) : Covered (coalesceChangedRanges ranges) line ↔
      ∃ before range after, ranges = before ++ range :: after ∧ KeepsLine before range line := by
  cases ranges with
  | nil => simp [coalesceChangedRanges, Covered]
  | cons range ranges =>
    have hrange := h range List.mem_cons_self
    have hsingleton := CurrentRange.singleton hrange
    rw [coalesceChangedRanges, covered_coalesceFrom hsingleton fun r hr =>
      h r (List.mem_cons_of_mem _ hr)]
    constructor
    · rintro (⟨hfirst, hlast⟩ | ⟨middle, r, after, rfl, hkeeps⟩)
      · exact ⟨[], range, ranges, rfl, hfirst, hlast, (hsingleton.first line).2 hfirst⟩
      · exact ⟨range :: middle, r, after, rfl, hkeeps⟩
    · rintro ⟨before, r, after, heq, hkeeps⟩
      cases before with
      | nil =>
        obtain ⟨rfl, rfl⟩ := List.cons.inj heq
        exact .inl ⟨hkeeps.1, hkeeps.2.1⟩
      | cons first before =>
        obtain ⟨rfl, rfl⟩ := List.cons.inj heq
        exact .inr ⟨before, r, after, rfl, hkeeps⟩

/-- Coalesced ranges start at or after the current one, and are separated. -/
lemma separated_coalesceFrom {current : ChangedRange} {ranges : List ChangedRange}
    (hcurrent : current.first ≤ current.last) (h : ∀ range ∈ ranges, range.first ≤ range.last) :
    Separated (coalesceFrom current ranges) ∧
      ∀ range ∈ coalesceFrom current ranges, current.first ≤ range.first := by
  induction ranges generalizing current with
  | nil => simp [coalesceFrom, Separated, hcurrent]
  | cons range ranges ih =>
    have hrange := h range List.mem_cons_self
    have hrest := fun r hr => h r (List.mem_cons_of_mem range hr)
    rw [coalesceFrom]
    split
    · exact ih (hcurrent.trans (le_max_left _ _)) hrest
    · rename_i htouch
      rw [not_le] at htouch
      obtain ⟨⟨hvalid, hpairwise⟩, hfirst⟩ := ih hrange hrest
      refine ⟨⟨?_, ?_⟩, ?_⟩
      · intro r hr
        rcases List.mem_cons.1 hr with rfl | hr
        · exact hcurrent
        · exact hvalid r hr
      · refine List.pairwise_cons.2 ⟨?_, hpairwise⟩
        intro r hr
        exact htouch.trans_le (hfirst r hr)
      · intro r hr
        rcases List.mem_cons.1 hr with rfl | hr
        · exact le_rfl
        · have hbehind := hfirst r hr
          omega

/-- Coalesced ranges are separated. -/
lemma separated_coalesce {ranges : List ChangedRange}
    (h : ∀ range ∈ ranges, range.first ≤ range.last) :
      Separated (coalesceChangedRanges ranges) := by
  cases ranges with
  | nil => exact ⟨by simp [coalesceChangedRanges], by simp [coalesceChangedRanges]⟩
  | cons range ranges =>
    exact (separated_coalesceFrom (h range List.mem_cons_self) fun r hr =>
      h r (List.mem_cons_of_mem _ hr)).1

/-- Ranges in the order of their first lines keep all their lines. -/
lemma keepsLines_of_sorted {ranges : List ChangedRange}
    (h : ranges.Pairwise fun range next => range.first ≤ next.first) : KeepsLines ranges := by
  rintro line ⟨range, hrange, hfirst, hlast⟩
  obtain ⟨before, after, rfl⟩ := List.append_of_mem hrange
  refine ⟨before, range, after, rfl, hfirst, hlast, ?_⟩
  intro before' r after' heq _
  have hmem : r ∈ before ++ [range] := by rw [heq]; simp
  rcases List.mem_append.1 hmem with hmem | hmem
  · have hle := (List.pairwise_append.1 h).2.2 r hmem range List.mem_cons_self
    exact hle.trans hfirst
  · obtain rfl := List.mem_singleton.1 hmem
    exact hfirst

/-! ## The ranges of a patch -/

/-- The target lines of a valid hunk are not empty. -/
lemma additionSpans_valid {lines : List Text} (h : ValidHunks lines) :
    ∀ range ∈ additionSpans lines, range.first ≤ range.last := by
  intro range hrange
  obtain ⟨hunk, hhunk, hrange⟩ := List.mem_flatMap.1 hrange
  obtain ⟨numbers, hnumbers⟩ := h hunk hhunk
  unfold Hunk.additionSpans at hrange
  rw [hnumbers.header] at hrange
  split at hrange
  · obtain rfl : range = Hunk.span numbers := by simpa using hrange
    have hcount := hnumbers.targetCount
    show (numbers.targetStart : ℤ) ≤ numbers.targetStart + numbers.targetCount - 1
    omega
  · cases hrange

/-- A patch that is accepted, with its ranges. -/
lemma changedRangesFromPatch_accepted {path status patchStatus : Text} {patch : Option Text}
    {ranges : List ChangedRange}
    (h : changedRangesFromPatch path patch status patchStatus = .ok (ranges, none)) :
    ∃ text, patch = some text ∧ ValidHunks text.splitLines ∧
      additionSpans text.splitLines ≠ [] ∧
      ranges = coalesceChangedRanges (additionSpans text.splitLines) := by
  unfold changedRangesFromPatch at h
  split at h
  · simp at h
  split at h
  · simp at h
  rename_i text
  split at h
  · simp at h
  split at h
  · contradiction
  · simp at h
  rename_i ranges' hparse
  obtain rfl : ranges' = ranges := by simpa using h
  exact ⟨text, rfl, parsePatchLines_eq_ok.1 hparse⟩

/-- The ranges of an accepted patch are separated, and they cover the target lines of the hunks that
add something exactly if these hunks keep their lines. -/
theorem changedRangesFromPatch_covered_iff {path status patchStatus : Text} {patch : Option Text}
    {ranges : List ChangedRange}
    (h : changedRangesFromPatch path patch status patchStatus = .ok (ranges, none)) :
    ∃ text, patch = some text ∧ Separated ranges ∧
      ((∀ line, Covered ranges line ↔ Covered (additionSpans text.splitLines) line) ↔
        KeepsLines (additionSpans text.splitLines)) := by
  obtain ⟨text, rfl, hvalid, -, rfl⟩ := changedRangesFromPatch_accepted h
  have hspans := additionSpans_valid hvalid
  refine ⟨text, rfl, separated_coalesce hspans, ?_⟩
  constructor
  · intro hcovered line hline
    exact (covered_coalesce hspans line).1 ((hcovered line).2 hline)
  · intro hkeeps line
    rw [covered_coalesce hspans]
    constructor
    · rintro ⟨before, range, after, heq, hfirst, hlast, -⟩
      exact ⟨range, by rw [heq]; simp, hfirst, hlast⟩
    · exact hkeeps line

/-- A patch whose second hunk stands before the first. -/
def unsortedPatch : Text := "@@ -9,0 +10,1 @@\n+b\n@@ -0,0 +1,1 @@\n+a"

/-- The first line of the file is lost. -/
theorem changedRangesFromPatch_unsorted :
    ∃ ranges, changedRangesFromPatch "a.py" (some unsortedPatch) "modified" "available" =
        .ok (ranges, none) ∧
      ¬ ∀ line, Covered ranges line ↔ Covered (additionSpans unsortedPatch.splitLines) line := by
  refine ⟨[⟨10, 10⟩], by decide +kernel, ?_⟩
  have hspans : additionSpans unsortedPatch.splitLines = [⟨10, 10⟩, ⟨1, 1⟩] := by decide +kernel
  intro hcovered
  have hline : Covered [⟨10, 10⟩] 1 := (hcovered 1).2 (by rw [hspans]; exact ⟨⟨1, 1⟩, by simp⟩)
  obtain ⟨range, hrange, hfirst, -⟩ := hline
  obtain rfl := List.mem_singleton.1 hrange
  exact absurd hfirst (by decide)

/-- A patch with three hunks, of which the second only deletes. -/
def threeHunkPatch : Text :=
  "@@ -1,1 +1,2 @@\n a\n+b\n@@ -5,2 +6,1 @@\n c\n-d\n@@ -9,0 +9,2 @@\n+e\n+f"

/-- A patch with three hunks covers the lines of those that add something. -/
theorem changedRangesFromPatch_covered_iff_hunks : ∃ text,
    some threeHunkPatch = some text ∧ Separated [⟨1, 2⟩, ⟨9, 10⟩] ∧
      ((∀ line, Covered [⟨1, 2⟩, ⟨9, 10⟩] line ↔
          Covered (additionSpans text.splitLines) line) ↔
        KeepsLines (additionSpans text.splitLines)) :=
  @changedRangesFromPatch_covered_iff "a.py" "modified" "available" _ [⟨1, 2⟩, ⟨9, 10⟩]
    (by decide +kernel)

end ReviewGraph
