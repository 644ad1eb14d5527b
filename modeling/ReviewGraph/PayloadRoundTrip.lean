import ReviewGraph.FinalPayload
import ReviewGraph.CandidateValidation

/-!
# Building and validating final payloads

`build_final_issue_comment_payload` and `validate_final_issue_comment_payload` are inverse.  A built
payload is valid unless its visible body contains a marker line.  Conversely, `FinalBody` says what
the body of a valid payload looks like: its visible text, line feeds, the marker, and at most one
line feed.  Building from the visible body gives the payload again, with exactly one line feed
before and after the marker.
-/

namespace ReviewGraph

/-! ## The body of a valid payload -/

/-- A text that contains a line feed is split at the last one. -/
lemma Text.exists_last_line {t : Text} (h : '\n' ∈ t) :
    ∃ above last : Text, t = above ++ '\n' :: last ∧ '\n' ∉ last := by
  obtain ⟨as, bs, heq, has⟩ := List.eq_append_cons_of_mem (List.mem_reverse.2 h)
  refine ⟨bs.reverse, as.reverse, ?_, by simpa using has⟩
  have hrev := congrArg List.reverse heq
  simpa using hrev

/-- A body that ends with the marker line: a text without marker lines, line feeds, and the marker,
after which at most one line feed follows. -/
structure FinalBody (body marker text : Text) (blank : ℕ) (ending : Text) : Prop where
  /-- The body, up to the encoding of its line feeds. -/
  normalized : body.normalizeLineEndings = text ++ List.replicate blank '\n' ++ marker ++ ending
  /-- At most one line feed follows. -/
  atMostOne : ending = [] ∨ ending = ['\n']
  /-- The line feeds before the marker are not part of the text. -/
  stripped : text.rstripNewlines = text
  /-- The text has no carriage return. -/
  cr : '\r' ∉ text
  /-- The text contains no marker line. -/
  noMarker : ∀ line ∈ text.lines, isExactReviewgraphV1MarkerLine line = false
  /-- The text is what the body shows. -/
  visible : canonicalVisibleBody body = text ++ ['\n']

/-- What stands above the marker of a body whose last line it is. -/
lemma exists_above_marker {body marker : Text} (hline : IsFinalLine marker)
    (hfinal : payloadFinalLine body = marker) :
    ∃ shown ending : Text, (ending = [] ∨ ending = ['\n']) ∧
      body.normalizeLineEndings = shown ++ ending ∧
      (shown = marker ∨ ∃ above, shown = above ++ '\n' :: marker) := by
  unfold payloadFinalLine at hfinal
  dsimp only at hfinal
  -- The last line of a text that is not empty is the marker.
  have hlast : ∀ shown : Text, (if shown = [] then [] else shown.lines.getLastD []) = marker →
      shown = marker ∨ ∃ above, shown = above ++ '\n' :: marker := by
    intro shown h
    rw [if_neg (by rintro rfl; exact hline.ne_nil h.symm)] at h
    by_cases hmem : '\n' ∈ shown
    · obtain ⟨above, last, rfl, hlast⟩ := Text.exists_last_line hmem
      rw [Text.lines_append_newline, Text.lines_of_not_mem hlast] at h
      have heq : last = marker := by simpa using h
      exact .inr ⟨above, by rw [heq]⟩
    · rw [Text.lines_of_not_mem hmem] at h
      exact .inl (by simpa using h)
  split at hfinal
  · rename_i hnewline
    have hne : body.normalizeLineEndings ≠ [] := by
      intro hnil
      simp [hnil] at hnewline
    have hbody := List.dropLast_append_getLast hne
    have hchar : body.normalizeLineEndings.getLast hne = '\n' := by
      rw [List.getLast?_eq_some_getLast hne] at hnewline
      exact Option.some.inj hnewline
    rw [hchar] at hbody
    exact ⟨_, ['\n'], .inr rfl, hbody.symm, hlast _ hfinal⟩
  · exact ⟨_, [], .inl rfl, (List.append_nil _).symm, hlast _ hfinal⟩

/-- The body of a valid payload ends with its marker. -/
lemma ValidFinalPayload.finalBody {p : FinalIssueCommentPayload} (h : ValidFinalPayload p) :
    ∃ text blank ending, FinalBody p.body p.markerLine text blank ending := by
  have hwf : p.marker.WellFormed := h.wellFormed
  have hmarker : p.markerLine = p.marker.render := h.markerLine
  have hline : IsFinalLine p.markerLine := hmarker ▸ hwf.isFinalLine
  have hexact : isExactReviewgraphV1MarkerLine p.markerLine = true :=
    isExact_iff.2 ⟨_, hmarker, hwf⟩
  obtain ⟨shown, ending, hending, hbody, hshown⟩ := exists_above_marker hline h.finalLine
  -- The text that is shown ends with the last character of the marker.
  have hlastChar : shown.rstripNewlines = shown := by
    refine Text.rstripNewlines_of_last fun hne => ?_
    intro hnewline
    have hmem : '\n' ∈ p.markerLine := by
      rcases hshown with rfl | ⟨above, rfl⟩
      · exact hnewline ▸ List.getLast_mem hne
      · rw [List.getLast_append_of_ne_nil _ (List.cons_ne_nil _ _),
          List.getLast_cons hline.ne_nil] at hnewline
        exact hnewline ▸ List.getLast_mem hline.ne_nil
    exact hline.newline hmem
  have hcanonical : canonicalTextBody p.body = shown ++ ['\n'] := by
    unfold canonicalTextBody
    rw [hbody]
    rcases hending with rfl | rfl
    · rw [List.append_nil, hlastChar]
    · rw [Text.rstripNewlines_append_newline, hlastChar]
  have hcr : '\r' ∉ shown := by
    intro hmem
    exact Text.cr_not_mem_normalizeLineEndings p.body (hbody ▸ List.mem_append_left _ hmem)
  have hnil : Text.lines [] = [[]] := rfl
  rcases hshown with rfl | ⟨above, rfl⟩
  · refine ⟨[], 0, ending, ⟨by simpa using hbody, hending, rfl, by simp, ?_, ?_⟩⟩
    · intro line hmem
      rw [hnil, List.mem_singleton] at hmem
      subst hmem
      rw [← Bool.not_eq_true, isExact_iff]
      rintro ⟨m, heq, -⟩
      exact m.render_ne_nil heq.symm
    · unfold canonicalVisibleBody
      simp only [hcanonical, Text.lines_append_newline, Text.lines_of_not_mem hline.newline, hnil,
        List.reverse_cons, List.reverse_nil, List.nil_append, List.cons_append, hexact, if_true]
      rfl
  · obtain ⟨j, hj⟩ := Text.exists_eq_rstripNewlines_append above
    have hlines : p.body.normalizeLineEndings.lines.filter isExactReviewgraphV1MarkerLine =
        above.lines.filter isExactReviewgraphV1MarkerLine ++ p.markerLine ::
          (if ending = [] then [] else ([[]] : List Text)).filter
            isExactReviewgraphV1MarkerLine := by
      rw [hbody, List.append_assoc, List.cons_append, Text.lines_append_newline]
      rcases hending with rfl | rfl
      · simp [Text.lines_of_not_mem hline.newline, hexact]
      · rw [Text.lines_append_newline, Text.lines_of_not_mem hline.newline, hnil]
        simp [hexact]
    have hnone : ∀ line ∈ above.lines, isExactReviewgraphV1MarkerLine line = false := by
      have honly := h.onlyMarker
      rw [hlines] at honly
      have hlength := congrArg List.length honly
      rw [List.length_append, List.length_cons, List.length_singleton] at hlength
      have hfilter : above.lines.filter isExactReviewgraphV1MarkerLine = [] :=
        List.eq_nil_of_length_eq_zero (by omega)
      intro line hmem
      exact Bool.not_eq_true _ ▸ List.filter_eq_nil_iff.1 hfilter line hmem
    refine ⟨above.rstripNewlines, j + 1, ending, ⟨?_, hending, Text.rstripNewlines_idem _, ?_, ?_,
      ?_⟩⟩
    · rw [hbody, List.replicate_succ', ← List.append_assoc, ← hj]
      simp
    · intro hmem
      have habove : '\r' ∈ above := (Text.rstripNewlines_prefix above).subset hmem
      exact hcr (List.mem_append_left _ habove)
    · intro line hmem
      refine hnone line ?_
      rw [hj, Text.lines_append_replicate]
      exact List.mem_append_left _ hmem
    · unfold canonicalVisibleBody
      have hreverse : (above ++ '\n' :: p.markerLine ++ ['\n']).lines.reverse =
          [] :: p.markerLine :: above.lines.reverse := by
        rw [Text.lines_append_newline, Text.lines_append_newline,
          Text.lines_of_not_mem hline.newline, hnil]
        simp
      simp only [hcanonical, hreverse, hexact, if_true, List.reverse_reverse, Text.unlines_lines]

/-- The text of a final body is canonical. -/
lemma FinalBody.canonicalTextBody_eq {body marker text ending : Text} {blank : ℕ}
    (h : FinalBody body marker text blank ending) :
    canonicalTextBody (text ++ ['\n']) = text ++ ['\n'] := by
  have hcr : '\r' ∉ text ++ ['\n'] := by
    intro hmem
    rcases List.mem_append.1 hmem with hmem | hmem
    · exact h.cr hmem
    · exact absurd hmem (by decide)
  unfold canonicalTextBody
  rw [Text.normalizeLineEndings_of_not_mem hcr, Text.rstripNewlines_append_newline, h.stripped]

/-- The visible part of a final body contains no marker. -/
lemma FinalBody.canonicalVisibleBody_eq {body marker text ending : Text} {blank : ℕ}
    (h : FinalBody body marker text blank ending) :
    canonicalVisibleBody (text ++ ['\n']) = text ++ ['\n'] := by
  rw [canonicalVisibleBody_of_no_marker, h.canonicalTextBody_eq]
  intro line hmem
  rw [h.canonicalTextBody_eq, Text.lines_append_newline] at hmem
  rcases List.mem_append.1 hmem with hmem | hmem
  · exact h.noMarker line hmem
  · obtain rfl : line = [] := List.mem_singleton.1 hmem
    rw [← Bool.not_eq_true, isExact_iff]
    rintro ⟨m, heq, -⟩
    exact m.render_ne_nil heq.symm

/-- The marker of a valid payload is the marker of its visible text. -/
lemma ValidFinalPayload.isMarkerOf {p : FinalIssueCommentPayload} (h : ValidFinalPayload p)
    {text ending : Text} {blank : ℕ} (hbody : FinalBody p.body p.markerLine text blank ending) :
    IsMarkerOf p.marker p.markerRunId p.reviewTarget.val (canonicalVisibleBody p.body)
      p.itemFingerprints := by
  have hvisible : visibleBodyHash (canonicalVisibleBody p.body) = visibleBodyHash p.body := by
    unfold visibleBodyHash
    rw [hbody.visible, hbody.canonicalVisibleBody_eq]
  have hfindings : p.marker.findings = p.findingsHash := h.markerFindings
  refine ⟨h.wellFormed, rfl, h.markerTarget, ?_, hfindings ▸ h.findings⟩
  rw [hvisible, ← h.visibleBody]
  exact h.markerPayload

/-! ## Building and validating -/

/-- A payload is built from a visible body without marker lines, and it is valid. -/
lemma buildFinalIssueCommentPayload_valid (runId : Text) (reviewTarget : Checked ReviewTarget)
    (visibleBody : Text) (fingerprints : List Text) (redactionStatus : Checked RedactionStatus)
    (hrun : isRunId runId = true) (hnodup : fingerprints.Nodup) (hne : ∀ fp ∈ fingerprints, fp ≠ [])
    (hnone : containsMarkerLine visibleBody = false) (hpass : redactionStatus.val.status = .pass) :
    ∃ p r, buildFinalIssueCommentPayload runId reviewTarget visibleBody fingerprints
        redactionStatus = .ok p ∧
      validateFinalIssueCommentPayload (some p) = .ok r ∧ r.val.status = .pass := by
  obtain ⟨hash, hfindings⟩ : ∃ hash, findingsHash fingerprints = .ok hash :=
    ⟨_, findingsHash_eq_ok.2 ⟨hnodup, rfl⟩⟩
  have hstrict : IsStrictSha256 hash := by
    obtain ⟨-, rfl⟩ := findingsHash_eq_ok.1 hfindings
    exact isStrictSha256_sha256Text _
  have hm : IsMarkerOf ⟨runId, reviewTarget.val.targetHash, visibleBodyHash visibleBody, hash⟩
      runId reviewTarget.val visibleBody fingerprints :=
    ⟨⟨hrun, reviewTarget.val.isStrictSha256_targetHash, isStrictSha256_sha256Text _, hstrict⟩,
      rfl, rfl, rfl, hfindings⟩
  have hchecks : Record.postInit (payloadWithMarker
      ⟨runId, reviewTarget.val.targetHash, visibleBodyHash visibleBody, hash⟩ reviewTarget
      visibleBody fingerprints redactionStatus) = .ok () := payloadWithMarker_postInit hm hne
  have hlines : ∀ line ∈ (canonicalTextBody visibleBody).lines,
      isExactReviewgraphV1MarkerLine line = false := by
    intro line hmem
    have hany := List.any_eq_false.1 hnone line hmem
    exact Bool.not_eq_true _ ▸ hany
  obtain ⟨r, hr, hstatus, -⟩ := validateFinalIssueCommentPayload_ok ⟨_, hchecks⟩
  exact ⟨⟨_, hchecks⟩, r, buildFinalIssueCommentPayload_eq_ok.2 ⟨_, hm, hne, rfl⟩, hr,
    hstatus.2 ((validFinalPayload_iff hm).2 ⟨hpass, hlines⟩)⟩

/-- Building and validating are inverse: a payload built from a visible body without marker lines
passes validation, and a payload that passes validation is built again from its visible body, up to
the encoding of line feeds, the line feeds before the marker, and a missing one after it. -/
theorem finalPayload_roundTrip :
    (∀ (runId : Text) (reviewTarget : Checked ReviewTarget) (visibleBody : Text)
      (itemFingerprints : List Text) (redactionStatus : Checked RedactionStatus),
      isRunId runId = true → itemFingerprints.Nodup → (∀ fp ∈ itemFingerprints, fp ≠ []) →
      containsMarkerLine visibleBody = false → redactionStatus.val.status = .pass →
      ∃ p r, buildFinalIssueCommentPayload runId reviewTarget visibleBody itemFingerprints
          redactionStatus = .ok p ∧
        validateFinalIssueCommentPayload (some p) = .ok r ∧ r.val.status = .pass) ∧
    ∀ (p : Checked FinalIssueCommentPayload) (r : Checked PayloadValidationResult)
      (redactionStatus : Checked RedactionStatus),
      validateFinalIssueCommentPayload (some p) = .ok r → r.val.status = .pass →
      ∃ q, buildFinalIssueCommentPayload p.val.markerRunId p.val.reviewTarget
          (canonicalVisibleBody p.val.body) p.val.itemFingerprints redactionStatus = .ok q ∧
        q.val.markerLine = p.val.markerLine ∧ q.val.marker = p.val.marker ∧
        q.val.visibleBodyHash = p.val.visibleBodyHash ∧
        q.val.findingsHash = p.val.findingsHash ∧
        q.val.reviewTarget.val.targetHash = p.val.reviewTarget.val.targetHash ∧
        canonicalVisibleBody q.val.body = canonicalVisibleBody p.val.body ∧
        ∃ (text : Text) (blank : ℕ) (ending : Text), (ending = [] ∨ ending = ['\n']) ∧
          p.val.body.normalizeLineEndings =
            text ++ List.replicate blank '\n' ++ p.val.markerLine ++ ending ∧
          q.val.body = text ++ '\n' :: p.val.markerLine ++ ['\n'] := by
  constructor
  · intro runId reviewTarget visibleBody fingerprints redactionStatus hrun hnodup hne hnone hpass
    exact buildFinalIssueCommentPayload_valid runId reviewTarget visibleBody fingerprints
      redactionStatus hrun hnodup hne hnone hpass
  · intro p r redactionStatus hr hpass
    obtain ⟨r', hr', hstatus, -⟩ := validateFinalIssueCommentPayload_ok p
    obtain rfl : r = r' := Except.ok.inj (hr.symm.trans hr')
    have hvalid := hstatus.1 hpass
    obtain ⟨text, blank, ending, hbody⟩ := hvalid.finalBody
    have hm := hvalid.isMarkerOf hbody
    have hne := (FinalIssueCommentPayload.postInit_eq_ok.1 p.property).2.2.2.2.2.2.2.2.2
    have hchecks : Record.postInit (payloadWithMarker p.val.marker p.val.reviewTarget
        (canonicalVisibleBody p.val.body) p.val.itemFingerprints redactionStatus) = .ok () :=
      payloadWithMarker_postInit hm hne
    have hmarker : p.val.markerLine = p.val.marker.render := hvalid.markerLine
    have hcanonical : canonicalTextBody (canonicalVisibleBody p.val.body) = text ++ ['\n'] := by
      rw [hbody.visible, hbody.canonicalTextBody_eq]
    refine ⟨⟨_, hchecks⟩, buildFinalIssueCommentPayload_eq_ok.2 ⟨_, hm, hne, rfl⟩, hmarker.symm,
      rfl,
      ?_, hvalid.markerFindings, rfl, ?_, text, blank, ending, hbody.atMostOne,
      hbody.normalized, ?_⟩
    · rw [hvalid.visibleBody]
      unfold payloadWithMarker visibleBodyHash
      dsimp only
      rw [hcanonical, hbody.visible]
    · unfold payloadWithMarker
      dsimp only
      rw [canonicalVisibleBody_bodyWithLine hm.wellFormed, hcanonical, hbody.visible]
    · unfold payloadWithMarker bodyWithLine
      dsimp only
      rw [hcanonical, hmarker]
      simp

/-- The first pull request of a repository. -/
def firstPullRequest : Checked ReviewTarget :=
  ⟨⟨['o', '/', 'r'], 1, ['b'], ['h'], none, ['d']⟩, by decide +kernel⟩

/-- A redaction that found nothing to redact. -/
def nothingRedacted : Checked RedactionStatus := ⟨⟨false, 0, [], .pass⟩, by decide +kernel⟩

/-- A comment without findings is built, valid, and built again from its visible body. -/
theorem finalPayload_roundTrip_sample : ∃ p q : Checked FinalIssueCommentPayload,
    buildFinalIssueCommentPayload ['1'] firstPullRequest ['x'] [] nothingRedacted = .ok p ∧
    buildFinalIssueCommentPayload p.val.markerRunId p.val.reviewTarget
      (canonicalVisibleBody p.val.body) p.val.itemFingerprints nothingRedacted = .ok q ∧
    q.val.marker = p.val.marker := by
  obtain ⟨p, r, hbuild, hvalidate, hpass⟩ := finalPayload_roundTrip.1 ['1'] firstPullRequest ['x']
      []
    nothingRedacted (by decide +kernel) List.nodup_nil (by simp) (by decide +kernel) rfl
  obtain ⟨q, hq, -, hmarker, -⟩ := finalPayload_roundTrip.2 p r nothingRedacted hvalidate hpass
  exact ⟨p, q, hbuild, hq, hmarker⟩

/-- The same payload without the line feed after its marker. -/
def payloadWithoutNewline (m : MarkerFields) (reviewTarget : Checked ReviewTarget)
    (visibleBody : Text) (itemFingerprints : List Text)
    (redactionStatus : Checked RedactionStatus) : FinalIssueCommentPayload :=
  { payloadWithMarker m reviewTarget visibleBody itemFingerprints redactionStatus with
    body := canonicalTextBody visibleBody ++ m.render }

/-- A valid payload stays valid when the line feed after its marker is removed. -/
lemma validFinalPayload_without_newline {m : MarkerFields} {runId visibleBody : Text}
    {reviewTarget : Checked ReviewTarget} {fingerprints : List Text}
    {redactionStatus : Checked RedactionStatus}
    (hm : IsMarkerOf m runId reviewTarget.val visibleBody fingerprints)
    (h : ValidFinalPayload
      (payloadWithMarker m reviewTarget visibleBody fingerprints redactionStatus)) :
    ValidFinalPayload
      (payloadWithoutNewline m reviewTarget visibleBody fingerprints redactionStatus) := by
  have hline := hm.wellFormed.isFinalLine
  have hcr : '\r' ∉ canonicalTextBody visibleBody ++ m.render := by
    intro hmem
    rcases List.mem_append.1 hmem with hmem | hmem
    · exact cr_not_mem_canonicalTextBody visibleBody hmem
    · exact hline.cr hmem
  have hnormalized := Text.normalizeLineEndings_of_not_mem hcr
  have hcanonical : canonicalTextBody (canonicalTextBody visibleBody ++ m.render) =
      canonicalTextBody (bodyWithLine visibleBody m.render) := by
    have hstrip : (bodyWithLine visibleBody m.render).rstripNewlines = _ :=
      rstripNewlines_bodyWithLine hline
    unfold canonicalTextBody at hnormalized hstrip ⊢
    rw [normalizeLineEndings_bodyWithLine hline, hstrip, hnormalized, ← hstrip,
      Text.rstripNewlines_idem]
  have hvisible : canonicalVisibleBody (canonicalTextBody visibleBody ++ m.render) =
      canonicalVisibleBody (bodyWithLine visibleBody m.render) := by
    unfold canonicalVisibleBody
    rw [hcanonical]
  have hbody : canonicalTextBody visibleBody ++ m.render =
      visibleBody.normalizeLineEndings.rstripNewlines ++ '\n' :: m.render := by
    simp [canonicalTextBody]
  have hlines : (canonicalTextBody visibleBody ++ m.render).lines =
      visibleBody.normalizeLineEndings.rstripNewlines.lines ++ [m.render] := by
    rw [hbody, Text.lines_append_newline, Text.lines_of_not_mem hline.newline]
  refine ⟨h.redaction, h.wellFormed, h.markerLine, ?_, ?_, ?_, h.markerPayload, h.fingerprints,
    h.findings, h.markerFindings, ?_, h.markerTarget⟩
  · have hlast : (canonicalTextBody visibleBody ++ m.render).getLast? ≠ some '\n' := by
      rw [List.getLast?_append_of_ne_nil _ hline.ne_nil, List.getLast?_eq_some_getLast hline.ne_nil]
      intro hlast
      exact hline.newline (Option.some.inj hlast ▸ List.getLast_mem hline.ne_nil)
    unfold payloadFinalLine payloadWithoutNewline
    dsimp only
    rw [hnormalized, if_neg hlast, if_neg (by simp [hline.ne_nil]), hlines]
    simp [payloadWithMarker]
  · have honly := h.onlyMarker
    have hempty : isExactReviewgraphV1MarkerLine [] = false := by decide +kernel
    simp only [payloadWithMarker, normalizeLineEndings_bodyWithLine hline,
      lines_bodyWithLine hline, List.filter_append, List.filter_cons, List.filter_nil, hempty,
      Bool.false_eq_true, if_false] at honly
    simpa only [payloadWithoutNewline, payloadWithMarker, hnormalized, hlines, List.filter_append,
      List.filter_cons, List.filter_nil] using honly
  · have hhash := h.visibleBody
    unfold visibleBodyHash payloadWithMarker at hhash
    unfold visibleBodyHash payloadWithoutNewline payloadWithMarker
    dsimp only at hhash ⊢
    rw [hvisible]
    exact hhash
  · have hhash := h.finalPayload
    unfold finalPayloadHash payloadWithMarker at hhash
    unfold finalPayloadHash payloadWithoutNewline payloadWithMarker
    dsimp only at hhash ⊢
    rw [hcanonical]
    exact hhash

/-- A valid payload can lack the line feed after the marker that the rebuilt payload has. -/
theorem finalPayload_without_newline : ∃ (p : Checked FinalIssueCommentPayload)
    (r : Checked PayloadValidationResult), validateFinalIssueCommentPayload (some p) = .ok r ∧
      r.val.status = .pass ∧
      ∀ q, buildFinalIssueCommentPayload p.val.markerRunId p.val.reviewTarget
          (canonicalVisibleBody p.val.body) p.val.itemFingerprints nothingRedacted = .ok q →
        ¬ ∃ (text : Text) (blank : ℕ),
          p.val.body.normalizeLineEndings =
            text ++ List.replicate blank '\n' ++ p.val.markerLine ++ ['\n'] ∧
          q.val.body = text ++ '\n' :: p.val.markerLine ++ ['\n'] := by
  obtain ⟨hash, hfindings⟩ : ∃ hash, findingsHash [] = .ok hash :=
    ⟨_, findingsHash_eq_ok.2 ⟨List.nodup_nil, rfl⟩⟩
  have hstrict : IsStrictSha256 hash := by
    obtain ⟨-, rfl⟩ := findingsHash_eq_ok.1 hfindings
    exact isStrictSha256_sha256Text _
  have hrun : isRunId ['1'] = true := by decide +kernel
  obtain ⟨m, hm⟩ : ∃ m, IsMarkerOf m ['1'] firstPullRequest.val ['x'] [] :=
    ⟨⟨['1'], firstPullRequest.val.targetHash, visibleBodyHash ['x'], hash⟩,
      ⟨hrun, firstPullRequest.val.isStrictSha256_targetHash,
      isStrictSha256_sha256Text _, hstrict⟩, rfl, rfl, rfl, hfindings⟩
  have hline := hm.wellFormed.isFinalLine
  have hmarkers : ∀ line ∈ (canonicalTextBody ['x']).lines,
      isExactReviewgraphV1MarkerLine line = false := by decide +kernel
  have hvalid : ValidFinalPayload (payloadWithMarker m firstPullRequest ['x'] [] nothingRedacted) :=
    (validFinalPayload_iff hm).2 ⟨rfl, hmarkers⟩
  have hbuilt : Record.postInit (payloadWithMarker m firstPullRequest ['x'] [] nothingRedacted) =
      .ok () := payloadWithMarker_postInit hm (by simp)
  have hchecks : Record.postInit
      (payloadWithoutNewline m firstPullRequest ['x'] [] nothingRedacted) = .ok () :=
    FinalIssueCommentPayload.postInit_eq_ok.2 ⟨List.append_ne_nil_of_right_ne_nil _ hline.ne_nil,
      (FinalIssueCommentPayload.postInit_eq_ok.1 hbuilt).2⟩
  obtain ⟨r, hr, hstatus, -⟩ := validateFinalIssueCommentPayload_ok ⟨_, hchecks⟩
  refine ⟨_, r, hr, hstatus.2 (validFinalPayload_without_newline hm hvalid), ?_⟩
  rintro q - ⟨text, blank, heq, -⟩
  have hcr : '\r' ∉ canonicalTextBody ['x'] ++ m.render := by
    intro hmem
    rcases List.mem_append.1 hmem with hmem | hmem
    · exact cr_not_mem_canonicalTextBody ['x'] hmem
    · exact hline.cr hmem
  have hlast := congrArg List.getLast? heq
  unfold payloadWithoutNewline at hlast
  dsimp only at hlast
  rw [Text.normalizeLineEndings_of_not_mem hcr, List.getLast?_concat,
    List.getLast?_append_of_ne_nil _ hline.ne_nil,
    List.getLast?_eq_some_getLast hline.ne_nil] at hlast
  exact hline.newline (Option.some.inj hlast ▸ List.getLast_mem hline.ne_nil)

end ReviewGraph
