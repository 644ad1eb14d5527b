import ReviewGraph.Markers
import ReviewGraph.PayloadRoundTrip

/-!
# The final line of a body, for the scan and for the hashes

`_body_final_line` of `markers.py` drops one line end before it takes the last line, while
`canonical_visible_body` of `hashing.py` drops them all.  The two see the same marker exactly in
bodies with at most one line end at their end, whatever the encoding of the line ends is.
-/

namespace ReviewGraph

/-! ## Line ends -/

/-- The number of line ends at the end of a body. -/
def trailingLineEnds (body : Text) : ℕ :=
  body.normalizeLineEndings.length - body.normalizeLineEndings.rstripNewlines.length

/-- A body consists of its canonical text and the line ends behind it. -/
lemma normalizeLineEndings_eq_append (body : Text) : body.normalizeLineEndings =
    body.normalizeLineEndings.rstripNewlines ++ List.replicate (trailingLineEnds body) '\n' := by
  obtain ⟨k, hk⟩ := Text.exists_eq_rstripNewlines_append body.normalizeLineEndings
  have hlength := congrArg List.length hk
  rw [List.length_append, List.length_replicate] at hlength
  have htrailing : trailingLineEnds body = k := by
    unfold trailingLineEnds
    omega
  rw [htrailing]
  exact hk

/-- A text that does not end with a line feed, and line feeds behind it. -/
lemma trailingLineEnds_eq {body text : Text} {k : ℕ} (htext : text.rstripNewlines = text)
    (h : body.normalizeLineEndings = text ++ List.replicate k '\n') :
    body.normalizeLineEndings.rstripNewlines = text ∧ trailingLineEnds body = k := by
  have hstrip : ∀ k, (text ++ List.replicate k '\n').rstripNewlines = text := by
    intro k
    induction k with
    | zero => rwa [List.replicate_zero, List.append_nil]
    | succ k ih =>
      rwa [List.replicate_succ', ← List.append_assoc, Text.rstripNewlines_append_newline]
  refine ⟨by rw [h, hstrip], ?_⟩
  unfold trailingLineEnds
  rw [h, hstrip, List.length_append, List.length_replicate]
  omega

/-- The final line of a body with at most one line end behind it is the last line of its text. -/
lemma bodyFinalLine_of_le_one {body : Text} (hne : body ≠ []) (h : trailingLineEnds body ≤ 1) :
    bodyFinalLine body = body.normalizeLineEndings.rstripNewlines.lines.getLast? := by
  have happend := normalizeLineEndings_eq_append body
  have hdropped : (if body.normalizeLineEndings.getLast? = some '\n' then
      body.normalizeLineEndings.dropLast else body.normalizeLineEndings) =
      body.normalizeLineEndings.rstripNewlines := by
    rcases Nat.le_one_iff_eq_zero_or_eq_one.1 h with hzero | hone
    · rw [hzero, List.replicate_zero, List.append_nil] at happend
      rw [if_neg, ← happend]
      intro hlast
      obtain ⟨before, hbefore⟩ := List.getLast?_eq_some_iff.1 hlast
      have hlength := congrArg List.length happend
      rw [hbefore, Text.rstripNewlines_append_newline, List.length_append,
        List.length_singleton] at hlength
      have hle := (Text.rstripNewlines_prefix before).length_le
      omega
    · rw [hone, List.replicate_one] at happend
      rw [if_pos (by rw [happend]; simp), happend, List.dropLast_concat, ← happend]
  unfold bodyFinalLine
  rw [if_neg hne]
  dsimp only
  rw [hdropped]
  split
  · rename_i hnil
    rw [hnil]
    rfl
  · rfl

/-- The final line of a body with more line ends behind it is empty. -/
lemma bodyFinalLine_of_one_lt {body : Text} (h : 1 < trailingLineEnds body) :
    bodyFinalLine body = some [] := by
  have happend := normalizeLineEndings_eq_append body
  obtain ⟨k, hk⟩ : ∃ k, trailingLineEnds body = k + 2 := ⟨trailingLineEnds body - 2, by omega⟩
  rw [hk, List.replicate_succ', ← List.append_assoc] at happend
  have hne : body ≠ [] := by
    rintro rfl
    simp [trailingLineEnds, Text.normalizeLineEndings, Text.replaceCrLf, Text.replaceCr] at h
  have hlast : body.normalizeLineEndings.getLast? = some '\n' := by
    rw [happend]
    simp
  unfold bodyFinalLine
  rw [if_neg hne]
  dsimp only
  rw [if_pos hlast]
  have hdropped : body.normalizeLineEndings.dropLast =
      body.normalizeLineEndings.rstripNewlines ++ List.replicate (k + 1) '\n' := by
    conv_lhs => rw [happend]
    rw [List.dropLast_concat]
  rw [hdropped, if_neg (by simp), Text.lines_append_replicate,
    List.replicate_succ', ← List.append_assoc]
  simp

/-! ## The marker that is stripped -/

/-- A text is not what is left of it without its last line. -/
lemma rstripNewlines_unlines_ne {text line : Text} {above : List Text}
    (hlines : text.lines = above ++ [line]) (hne : line ≠ []) :
    (Text.unlines above).rstripNewlines ≠ text := by
  intro heq
  have htext : Text.unlines (above ++ [line]) = text := hlines ▸ Text.unlines_lines text
  by_cases habove : above = []
  · subst habove
    have hline : line = text := List.intercalate_singleton.symm.trans htext
    rw [← heq] at hline
    exact hne hline
  · have hlinesAbove : (Text.unlines above).lines = above := by
      refine Text.lines_unlines habove fun l hl => @Text.newline_not_mem_of_mem_lines text l ?_
      rw [hlines]
      exact List.mem_append_left _ hl
    obtain ⟨k, hk⟩ := Text.exists_eq_rstripNewlines_append (Text.unlines above)
    rw [heq] at hk
    rw [hk, Text.lines_append_replicate, hlines] at hlinesAbove
    have hlength := congrArg List.length hlinesAbove
    simp only [List.length_append, List.length_singleton] at hlength
    omega

/-- `canonical_visible_body` changes the canonical body exactly if the last line of its text is a
marker. -/
lemma canonicalVisibleBody_ne_iff {body : Text} : canonicalVisibleBody body ≠ canonicalTextBody
    body ↔
    ∃ line ∈ body.normalizeLineEndings.rstripNewlines.lines.getLast?,
      isExactReviewgraphV1MarkerLine line = true := by
  set text := body.normalizeLineEndings.rstripNewlines with htext
  have hcanonical : (canonicalTextBody body).lines = text.lines ++ [[]] := by
    unfold canonicalTextBody
    rw [← htext, Text.lines_append_newline]
    rfl
  obtain ⟨above, line, hlines⟩ : ∃ above line, text.lines = above ++ [line] :=
    ⟨_, _, (List.dropLast_append_getLast (Text.lines_ne_nil text)).symm⟩
  have hvisible : canonicalVisibleBody body =
      if isExactReviewgraphV1MarkerLine line then
        (Text.unlines above).rstripNewlines ++ ['\n'] else canonicalTextBody body := by
    unfold canonicalVisibleBody
    simp only [hcanonical, hlines, List.reverse_append, List.reverse_cons, List.reverse_nil,
      List.nil_append, List.cons_append, List.reverse_reverse]
  rw [hvisible, hlines, List.getLast?_concat]
  simp only [Option.mem_def, Option.some.injEq, exists_eq_left']
  by_cases hexact : isExactReviewgraphV1MarkerLine line = true
  · rw [if_pos hexact]
    refine iff_of_true (fun heq => ?_) hexact
    have hline : line ≠ [] := by
      rintro rfl
      exact absurd hexact (by decide +kernel)
    refine rstripNewlines_unlines_ne hlines hline ?_
    exact List.append_cancel_right heq
  · rw [if_neg hexact]
    exact iff_of_false (fun h => h rfl) hexact

/-- The scan finds the marker that is stripped, in a body with at most one line end behind it. -/
lemma scanFinalLineMarker_isSome_iff (body : Text) : (scanFinalLineMarker body).isSome = true ↔
    canonicalVisibleBody body ≠ canonicalTextBody body ∧ trailingLineEnds body ≤ 1 := by
  unfold scanFinalLineMarker
  rw [canonicalVisibleBody_ne_iff]
  by_cases htrailing : trailingLineEnds body ≤ 1
  · by_cases hne : body = []
    · subst hne
      refine iff_of_false (by simp [bodyFinalLine]) fun h => ?_
      obtain ⟨⟨line, hline, hexact⟩, -⟩ := h
      have hnil : line = [] := (Option.some.inj hline).symm
      subst hnil
      exact absurd hexact (by decide +kernel)
    · rw [bodyFinalLine_of_le_one hne htrailing, and_iff_left htrailing]
      cases body.normalizeLineEndings.rstripNewlines.lines.getLast? with
      | none => simp
      | some line => simp [isExactReviewgraphV1MarkerLine]
  · rw [bodyFinalLine_of_one_lt (Nat.not_le.1 htrailing)]
    refine iff_of_false ?_ fun h => htrailing h.2
    have hnone : parseReviewgraphV1MarkerLine [] = none := by decide +kernel
    rw [Option.bind_some, hnone]
    simp

/-! ## Encodings -/

/-- How a line end is encoded. -/
inductive LineEnding
  | lf
  | cr
  | crlf
  deriving DecidableEq, Repr

/-- The characters of a line end. -/
def LineEnding.text : LineEnding → Text
  | .lf => ['\n']
  | .cr => ['\r']
  | .crlf => ['\r', '\n']

/-- A text with its line feeds encoded as other line ends. -/
def reencode (ending : LineEnding) (t : Text) : Text :=
  t.flatMap fun c => if c = '\n' then ending.text else [c]

/-- Another line ending is put in for each line feed. -/
lemma reencode_cons (ending : LineEnding) (c : Char) (t : Text) :
    reencode ending (c :: t) = (if c = '\n' then ending.text else [c]) ++ reencode ending t :=
  List.flatMap_cons

/-- The characters of an encoded text are no line feeds behind a single carriage return. -/
lemma newline_not_mem_reencode_cr (t : Text) : '\n' ∉ reencode .cr t := by
  unfold reencode
  rw [List.mem_flatMap]
  rintro ⟨c, -, hc⟩
  split at hc
  · exact absurd hc (by decide)
  · rename_i hne
    exact hne (List.mem_singleton.1 hc).symm

/-- A text without line feeds has no two-character line end. -/
lemma replaceCrLf_of_newline_not_mem {t : Text} (h : '\n' ∉ t) : Text.replaceCrLf t = t := by
  fun_induction Text.replaceCrLf t with
  | case1 rest ih => simp at h
  | case2 c rest hc ih => rw [ih fun hmem => h (List.mem_cons_of_mem _ hmem)]
  | case3 => rfl

/-- Encoding the line ends of a text and normalising them is the identity. -/
lemma normalizeLineEndings_reencode (ending : LineEnding) {t : Text} (h : '\r' ∉ t) :
    (reencode ending t).normalizeLineEndings = t := by
  unfold Text.normalizeLineEndings
  cases ending with
  | lf =>
    have hself : reencode .lf t = t := by
      induction t with
      | nil => rfl
      | cons c t ih =>
        rw [reencode_cons, ih fun hmem => h (List.mem_cons_of_mem _ hmem)]
        split
        · rename_i hc
          rw [hc]
          rfl
        · rfl
    rw [hself]
    exact Text.normalizeLineEndings_of_not_mem h
  | cr =>
    rw [replaceCrLf_of_newline_not_mem (newline_not_mem_reencode_cr t)]
    induction t with
    | nil => rfl
    | cons c t ih =>
      have htail := ih fun hmem => h (List.mem_cons_of_mem _ hmem)
      have hc : c ≠ '\r' := fun heq => h (heq ▸ List.mem_cons_self)
      rw [reencode_cons]
      unfold Text.replaceCr at htail ⊢
      rw [List.map_append, htail]
      split
      · rename_i hnewline
        rw [hnewline]
        rfl
      · simp [hc]
  | crlf =>
    induction t with
    | nil => rfl
    | cons c t ih =>
      have htail := ih fun hmem => h (List.mem_cons_of_mem _ hmem)
      have hc : c ≠ '\r' := fun heq => h (heq ▸ List.mem_cons_self)
      unfold Text.replaceCr at htail ⊢
      rw [reencode_cons]
      split
      · rename_i hnewline
        rw [LineEnding.text, List.cons_append, List.cons_append, List.nil_append, Text.replaceCrLf,
          List.map_cons, htail, hnewline]
        rfl
      · rw [List.singleton_append, Text.replaceCrLf, List.map_cons, htail, if_neg hc]
        rintro rest rfl
        exact absurd rfl hc

/-! ## Built bodies -/

section Built

variable {runId visibleBody : Text} {reviewTarget : Checked ReviewTarget} {fingerprints : List Text}
  {redactionStatus : Checked RedactionStatus} {p : Checked FinalIssueCommentPayload}

/-- A built body, encoded otherwise and with other line ends behind it. -/
lemma scanFinalLineMarker_reencode
    (h : buildFinalIssueCommentPayload runId reviewTarget visibleBody fingerprints redactionStatus =
      .ok p)
    (ending : LineEnding) (k : ℕ) :
    scanFinalLineMarker (reencode ending (p.val.body.rstripNewlines ++ List.replicate k '\n')) =
      if k ≤ 1 then some ⟨p.val.markerRunId, p.val.markerTargetHash, p.val.markerPayloadHash,
        p.val.markerFindingsHash⟩ else none := by
  obtain ⟨m, hm, -, hval⟩ := buildFinalIssueCommentPayload_eq_ok.1 h
  have hfinal := hm.wellFormed.isFinalLine
  have htext : p.val.body.rstripNewlines = canonicalTextBody visibleBody ++ m.render := by
    rw [hval]
    exact rstripNewlines_bodyWithLine hfinal
  have hcr : '\r' ∉ p.val.body.rstripNewlines ++ List.replicate k '\n' := by
    rw [htext]
    simp only [List.mem_append, List.mem_replicate, not_or, not_and]
    exact ⟨⟨cr_not_mem_canonicalTextBody _, hm.wellFormed.cr_not_mem⟩, fun _ => by decide⟩
  have hnormalized := normalizeLineEndings_reencode ending hcr
  obtain ⟨hstrip, htrailing⟩ := trailingLineEnds_eq (Text.rstripNewlines_idem _) hnormalized
  unfold scanFinalLineMarker
  split
  · rename_i hk
    have hne : reencode ending (p.val.body.rstripNewlines ++ List.replicate k '\n') ≠ [] := by
      intro hnil
      rw [hnil] at hstrip
      have hlength := congrArg List.length (hstrip.trans htext)
      rw [List.length_append, canonicalTextBody, List.length_append] at hlength
      simp [Text.normalizeLineEndings, Text.replaceCrLf, Text.replaceCr,
        Text.rstripNewlines] at hlength
      omega
    have hlast : p.val.body.rstripNewlines.lines.getLast? = some m.render := by
      rw [htext, canonicalTextBody, List.append_assoc, List.singleton_append,
        Text.lines_append_newline,
        Text.lines_of_not_mem hfinal.newline, List.getLast?_concat]
    rw [bodyFinalLine_of_le_one hne (by omega), hstrip, hlast, Option.bind_some, hval]
    exact parse_eq_some_iff.2 ⟨rfl, hm.wellFormed⟩
  · rename_i hk
    rw [bodyFinalLine_of_one_lt (by omega), Option.bind_some]
    decide +kernel

end Built

/-- The scan finds a marker exactly if the canonical visible body is without one and at most one
line end stands behind it; so it finds the marker of a built body in every encoding of its line
ends. -/
theorem scanFinalLineMarker_exact :
    (∀ body : Text, (scanFinalLineMarker body).isSome = true ↔
      canonicalVisibleBody body ≠ canonicalTextBody body ∧ trailingLineEnds body ≤ 1) ∧
    ∀ (runId visibleBody : Text) (reviewTarget : Checked ReviewTarget) (fingerprints : List Text)
      (redactionStatus : Checked RedactionStatus) (p : Checked FinalIssueCommentPayload),
      buildFinalIssueCommentPayload runId reviewTarget visibleBody fingerprints redactionStatus =
        .ok p →
      ∀ (ending : LineEnding) (k : ℕ),
        scanFinalLineMarker (reencode ending (p.val.body.rstripNewlines ++ List.replicate k '\n')) =
          if k ≤ 1 then some ⟨p.val.markerRunId, p.val.markerTargetHash, p.val.markerPayloadHash,
            p.val.markerFindingsHash⟩ else none :=
  ⟨scanFinalLineMarker_isSome_iff, fun _ _ _ _ _ _ h => scanFinalLineMarker_reencode h⟩

/-- The marker of a built body with two findings is found behind a carriage return and a line feed,
with one line end behind it but not with two. -/
theorem scanFinalLineMarker_exact_built : ∃ p : Checked FinalIssueCommentPayload,
    buildFinalIssueCommentPayload ['1'] firstPullRequest "Two findings:\nfirst\nsecond"
      ["first", "second"] nothingRedacted = .ok p ∧
    scanFinalLineMarker (reencode .crlf (p.val.body.rstripNewlines ++ ['\n'])) =
      some ⟨p.val.markerRunId, p.val.markerTargetHash, p.val.markerPayloadHash,
        p.val.markerFindingsHash⟩ ∧
    scanFinalLineMarker (reencode .crlf (p.val.body.rstripNewlines ++ ['\n', '\n'])) = none := by
  have hnodup : [("first" : Text), "second"].Nodup := by decide +kernel
  have hne : ∀ fp ∈ [("first" : Text), "second"], fp ≠ [] := by decide +kernel
  obtain ⟨p, -, hbuild, -, -⟩ := buildFinalIssueCommentPayload_valid ['1'] firstPullRequest
    "Two findings:\nfirst\nsecond" ["first", "second"] nothingRedacted (by decide +kernel) hnodup
      hne
    (by decide +kernel) rfl
  have hscan := scanFinalLineMarker_exact.2 _ _ _ _ _ p hbuild .crlf
  exact ⟨p, hbuild, hscan 1, hscan 2⟩

/-- A built body with two line ends behind it: the hashes strip its marker, and the scan finds
none. -/
theorem scanFinalLineMarker_twoLineEnds : ∃ p : Checked FinalIssueCommentPayload,
    buildFinalIssueCommentPayload ['1'] firstPullRequest ['x'] [] nothingRedacted = .ok p ∧
    canonicalVisibleBody (p.val.body ++ ['\n']) ≠ canonicalTextBody (p.val.body ++ ['\n']) ∧
    scanFinalLineMarker (p.val.body ++ ['\n']) = none := by
  obtain ⟨p, -, hbuild, -, -⟩ := buildFinalIssueCommentPayload_valid ['1'] firstPullRequest ['x'] []
    nothingRedacted (by decide +kernel) List.nodup_nil (by simp) (by decide +kernel) rfl
  obtain ⟨m, hm, -, hval⟩ := buildFinalIssueCommentPayload_eq_ok.1 hbuild
  have hbody : p.val.body = bodyWithLine ['x'] m.render := by rw [hval]; rfl
  have hcr : '\r' ∉ p.val.body ++ ['\n'] := by
    rw [hbody, ← canonicalTextBody_bodyWithLine hm.wellFormed.isFinalLine]
    intro hmem
    rcases List.mem_append.1 hmem with hmem | hmem
    · exact cr_not_mem_canonicalTextBody _ hmem
    · exact absurd hmem (by decide)
  have hnormalized := Text.normalizeLineEndings_of_not_mem hcr
  have htext := @rstripNewlines_bodyWithLine ['x'] _ hm.wellFormed.isFinalLine
  refine ⟨p, hbuild, ?_, ?_⟩
  · rw [canonicalVisibleBody_ne_iff, hnormalized, Text.rstripNewlines_append_newline, hbody, htext,
      canonicalTextBody, List.append_assoc, List.singleton_append, Text.lines_append_newline,
      Text.lines_of_not_mem hm.wellFormed.isFinalLine.newline, List.getLast?_concat]
    exact ⟨m.render, rfl, isExact_iff.2 ⟨m, rfl, hm.wellFormed⟩⟩
  · have htrailing : trailingLineEnds (p.val.body ++ ['\n']) = 2 := by
      refine (@trailingLineEnds_eq _ (canonicalTextBody ['x'] ++ m.render) _ ?_ ?_).2
      · rw [← htext, Text.rstripNewlines_idem]
      · rw [hnormalized, hbody]
        simp [bodyWithLine]
    unfold scanFinalLineMarker
    rw [bodyFinalLine_of_one_lt (by omega), Option.bind_some]
    decide +kernel

end ReviewGraph
