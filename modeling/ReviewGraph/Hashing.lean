import ReviewGraph.Foundation.JsonDecoding
import ReviewGraph.Models.Validation

/-!
# Hashes and the marker grammar

`hashing.py`: hashes of texts and of canonical JSON, the canonical forms of comment bodies, and the
version 1 marker line.  The grammar of the marker is stated twice: `MarkerFields.render` writes a
marker line, `parseReviewgraphV1MarkerLine` reads one, and `parse_eq_some_iff` says that the reader
accepts exactly the rendered lines of well-formed fields.
-/

namespace ReviewGraph

/-! ## Hashes -/

/-- `sha256_text`.  It is irreducible, so that proofs do not compute digests. -/
@[irreducible] def sha256Text (text : Text) : Text := hashPrefix ++ Sha256.hexDigest text

/-- `canonical_json_hash`. -/
def canonicalJsonHash (data : Json) : Text := sha256Text data.dumps

/-- `domain_json_hash`. -/
def domainJsonHash (domain : Text) (data : Json) : Text :=
  sha256Text (domain ++ '\n' :: data.dumps)

/-- Every hash of a text is a strict hash. -/
lemma isStrictSha256_sha256Text (text : Text) : IsStrictSha256 (sha256Text text) := by
  unfold sha256Text
  exact ⟨_, rfl, Sha256.length_hexDigest text, fun _ h => Sha256.isHexDigit_of_mem_hexDigest h⟩

/-! ## The marker line -/

/-- The fields of a version 1 marker. -/
structure MarkerFields where
  runId : Text
  target : Text
  payload : Text
  findings : Text
  deriving DecidableEq

/-- A character of a run identifier. -/
def isRunIdChar (c : Char) : Bool :=
  Unicode.isAsciiAlphanumeric c || c ∈ ['.', '_', ':', '/', '#', '-']

/-- `RUN_ID_RE`. -/
def isRunId (t : Text) : Bool :=
  t.head?.any Unicode.isAsciiAlphanumeric && t.length ≤ 128 && t.all isRunIdChar

namespace MarkerFields

/-- The fields have the form that the grammar demands. -/
structure WellFormed (m : MarkerFields) : Prop where
  /-- The run identifier matches its pattern. -/
  runId : isRunId m.runId = true
  /-- The target is a strict hash. -/
  target : IsStrictSha256 m.target
  /-- The payload is a strict hash. -/
  payload : IsStrictSha256 m.payload
  /-- The findings are a strict hash. -/
  findings : IsStrictSha256 m.findings

/-- The marker line with the given fields. -/
def render (m : MarkerFields) : Text :=
  "<!-- reviewgraph:v1 run_id=" ++ (m.runId ++ (" target=" ++ (m.target ++ (" payload=" ++
    (m.payload ++ (" findings=" ++ (m.findings ++ " -->")))))))

end MarkerFields

/-- Read a key and the hash behind it. -/
def hashField (key t : Text) : Option (Text × Text) := do
  let rest ← key.isPrefixOf? t
  if isStrictSha256 (rest.take 71) then some (rest.take 71, rest.drop 71) else none

/-- A key is followed by a strict hash. -/
lemma hashField_eq_some_iff {key t h r : Text} :
    hashField key t = some (h, r) ↔ t = key ++ (h ++ r) ∧ IsStrictSha256 h := by
  unfold hashField
  constructor
  · intro heq
    obtain ⟨rest, hrest, heq⟩ := Option.bind_eq_some_iff.1 heq
    split at heq
    · rename_i hstrict
      obtain ⟨rfl, rfl⟩ := Prod.mk.inj (Option.some.inj heq)
      rw [List.take_append_drop]
      exact ⟨Text.isPrefixOf?_eq_some_iff.1 hrest, isStrictSha256_iff.1 hstrict⟩
    · contradiction
  · rintro ⟨rfl, hstrict⟩
    have htake : (h ++ r).take 71 = h := by rw [← hstrict.length_eq, List.take_left]
    have hdrop : (h ++ r).drop 71 = r := by rw [← hstrict.length_eq, List.drop_left]
    simp only [Text.isPrefixOf?_append, Option.bind_eq_bind, Option.bind_some, htake, hdrop,
      isStrictSha256_iff.2 hstrict, if_true]

/-- The three hashes of a marker and the text behind them. -/
def markerHashes (t : Text) : Option ((Text × Text × Text) × Text) :=
  (hashField " target=" t).bind fun (target, t) =>
    (hashField " payload=" t).bind fun (payload, t) =>
      (hashField " findings=" t).map fun (findings, t) => ((target, payload, findings), t)

/-- `parse_reviewgraph_v1_marker_line`. -/
def parseReviewgraphV1MarkerLine (line : Text) : Option MarkerFields :=
  (("<!-- reviewgraph:v1 run_id=" : Text).isPrefixOf? line).bind fun t =>
    (markerHashes (t.dropWhile isRunIdChar)).bind fun ((target, payload, findings), rest) =>
      if isRunId (t.takeWhile isRunIdChar) = true ∧ rest = (" -->" : Text) then
        some ⟨t.takeWhile isRunIdChar, target, payload, findings⟩
      else none

/-- The three hashes of a marker line, with their names. -/
lemma markerHashes_eq_some_iff {t target payload findings rest : Text} :
    markerHashes t = some ((target, payload, findings), rest) ↔
      t = " target=" ++ (target ++ (" payload=" ++
        (payload ++ (" findings=" ++ (findings ++ rest))))) ∧
        IsStrictSha256 target ∧ IsStrictSha256 payload ∧ IsStrictSha256 findings := by
  unfold markerHashes
  simp only [Option.bind_eq_some_iff, Option.map_eq_some_iff, Prod.exists, hashField_eq_some_iff]
  constructor
  · rintro ⟨target', t₁, ⟨rfl, hs₁⟩, payload', t₂, ⟨rfl, hs₂⟩, findings', t₃, ⟨rfl, hs₃⟩, heq⟩
    simp only [Prod.mk.injEq] at heq
    obtain ⟨⟨rfl, rfl, rfl⟩, rfl⟩ := heq
    exact ⟨rfl, hs₁, hs₂, hs₃⟩
  · rintro ⟨rfl, hs₁, hs₂, hs₃⟩
    exact ⟨_, _, ⟨rfl, hs₁⟩, _, _, ⟨rfl, hs₂⟩, _, _, ⟨rfl, hs₃⟩, rfl⟩

/-- The run identifier ends where a blank follows. -/
lemma takeWhile_isRunIdChar {runId : Text} (h : isRunId runId = true) (t : Text) :
    (runId ++ ' ' :: t).takeWhile isRunIdChar = runId := by
  have hall : ∀ c ∈ runId, isRunIdChar c = true := by
    simp only [isRunId, Bool.and_eq_true, List.all_eq_true] at h
    exact h.2
  rw [List.takeWhile_append_of_pos hall, List.takeWhile_cons_of_neg (by decide), List.append_nil]

/-- A run id ends in front of a blank. -/
lemma dropWhile_isRunIdChar {runId : Text} (h : isRunId runId = true) (t : Text) :
    (runId ++ ' ' :: t).dropWhile isRunIdChar = ' ' :: t := by
  have heq := List.takeWhile_append_dropWhile (p := isRunIdChar) (l := runId ++ ' ' :: t)
  rw [takeWhile_isRunIdChar h] at heq
  exact List.append_cancel_left heq

/-- The grammar is exact: a line is accepted with some fields exactly if it is their rendering and
they are well formed. -/
theorem parse_eq_some_iff {line : Text} {m : MarkerFields} :
    parseReviewgraphV1MarkerLine line = some m ↔ line = m.render ∧ m.WellFormed := by
  unfold parseReviewgraphV1MarkerLine
  simp only [Option.bind_eq_some_iff, Prod.exists, Text.isPrefixOf?_eq_some_iff,
    markerHashes_eq_some_iff]
  constructor
  · rintro ⟨t, rfl, target, payload, findings, rest, ⟨heq, htarget, hpayload, hfindings⟩, h⟩
    split at h
    · rename_i hc
      obtain ⟨hrun, rfl⟩ := hc
      obtain rfl := Option.some.inj h
      refine ⟨?_, hrun, htarget, hpayload, hfindings⟩
      rw [MarkerFields.render, ← heq, List.takeWhile_append_dropWhile]
    · contradiction
  · rintro ⟨rfl, hwf⟩
    have hblank : (" target=" : Text) = ' ' :: "target=" := by simp [Text.ofString_eq]
    have htake := takeWhile_isRunIdChar hwf.runId
    have hdrop := dropWhile_isRunIdChar hwf.runId
    refine ⟨_, rfl, m.target, m.payload, m.findings, " -->", ⟨?_, hwf.target, hwf.payload,
      hwf.findings⟩, ?_⟩
    · rw [hblank, List.cons_append, hdrop]
    · rw [hblank, List.cons_append, htake, if_pos ⟨hwf.runId, rfl⟩]

/-- `is_exact_reviewgraph_v1_marker_line`. -/
def isExactReviewgraphV1MarkerLine (line : Text) : Bool :=
  (parseReviewgraphV1MarkerLine line).isSome

/-- A line is a marker exactly if it is the rendering of well-formed fields. -/
lemma isExact_iff {line : Text} :
    isExactReviewgraphV1MarkerLine line = true ↔ ∃ m : MarkerFields, line = m.render ∧
      m.WellFormed := by
  rw [isExactReviewgraphV1MarkerLine, Option.isSome_iff_exists]
  simp only [parse_eq_some_iff]

/-- Rendered lines determine their fields. -/
lemma MarkerFields.render_injOn {m m' : MarkerFields} (hm : m.WellFormed) (hm' : m'.WellFormed)
    (h : m.render = m'.render) : m = m' := by
  have hparse := parse_eq_some_iff.2 ⟨rfl, hm⟩
  rw [h, parse_eq_some_iff.2 ⟨rfl, hm'⟩] at hparse
  exact (Option.some.inj hparse).symm

/-- The characters of a marker line can be printed. -/
lemma MarkerFields.WellFormed.printable {m : MarkerFields} (h : m.WellFormed) :
    ∀ c ∈ m.render, 32 ≤ c.toNat := by
  have hascii : ∀ c, Unicode.isAsciiAlphanumeric c = true → 32 ≤ c.toNat := by
    intro c hc
    simp only [Unicode.isAsciiAlphanumeric, Unicode.isUpper, Unicode.isLower, Unicode.isDigit,
      Bool.or_eq_true, Bool.and_eq_true, decide_eq_true_eq, Char.le_def,
      UInt32.le_iff_toNat_le] at hc
    have hval : c.val.toNat = c.toNat := rfl
    rcases hc with (⟨hc, -⟩ | ⟨hc, -⟩) | ⟨hc, -⟩ <;> exact le_trans (by decide) (hval ▸ hc)
  have hrun : ∀ c ∈ m.runId, 32 ≤ c.toNat := by
    intro c hc
    have hall := h.runId
    simp only [isRunId, Bool.and_eq_true, List.all_eq_true] at hall
    have hchar := hall.2 c hc
    simp only [isRunIdChar, Bool.or_eq_true, decide_eq_true_eq, List.mem_cons, List.not_mem_nil,
      or_false] at hchar
    rcases hchar with hchar | rfl | rfl | rfl | rfl | rfl | rfl
    · exact hascii c hchar
    all_goals decide
  have hhash : ∀ t : Text, IsStrictSha256 t → ∀ c ∈ t, 32 ≤ c.toNat := by
    rintro t ⟨digest, rfl, -, hdigits⟩ c hc
    rcases List.mem_append.1 hc with hc | hc
    · rw [hashPrefix_eq] at hc
      simp only [List.mem_cons, List.not_mem_nil, or_false] at hc
      rcases hc with rfl | rfl | rfl | rfl | rfl | rfl | rfl <;> decide
    · have hdigit := of_decide_eq_true (hdigits c hc)
      simp only [Char.le_def, UInt32.le_iff_toNat_le] at hdigit
      have hval : c.val.toNat = c.toNat := rfl
      rcases hdigit with ⟨hc, -⟩ | ⟨hc, -⟩ <;> exact le_trans (by decide) (hval ▸ hc)
  have hkeys : ∀ t ∈ (["<!-- reviewgraph:v1 run_id=", " target=", " payload=", " findings=",
      " -->"] : List Text), ∀ c ∈ t, 32 ≤ c.toNat := by
    simp [Text.ofString_eq]
  intro c hc
  unfold render at hc
  simp only [List.mem_append] at hc
  rcases hc with hc | hc | hc | hc | hc | hc | hc | hc | hc
  · exact hkeys _ (by simp) c hc
  · exact hrun c hc
  · exact hkeys _ (by simp) c hc
  · exact hhash _ h.target c hc
  · exact hkeys _ (by simp) c hc
  · exact hhash _ h.payload c hc
  · exact hkeys _ (by simp) c hc
  · exact hhash _ h.findings c hc
  · exact hkeys _ (by simp) c hc

/-- A marker is a single line. -/
lemma MarkerFields.WellFormed.newline_not_mem {m : MarkerFields} (h : m.WellFormed) :
    '\n' ∉ m.render :=
  fun hc => absurd (h.printable _ hc) (by decide)

/-- A marker line has no carriage return. -/
lemma MarkerFields.WellFormed.cr_not_mem {m : MarkerFields} (h : m.WellFormed) : '\r' ∉ m.render :=
  fun hc => absurd (h.printable _ hc) (by decide)

/-- A marker line is not empty. -/
lemma MarkerFields.render_ne_nil (m : MarkerFields) : m.render ≠ [] := by
  unfold render
  simp

/-! ## Bodies -/

/-- `canonical_text_body`. -/
def canonicalTextBody (text : Text) : Text :=
  text.normalizeLineEndings.rstripNewlines ++ ['\n']

/-- `canonical_visible_body`: the canonical body without a marker on its last line. -/
def canonicalVisibleBody (text : Text) : Text :=
  let canonical := canonicalTextBody text
  match canonical.lines.reverse with
  | _ :: line :: above =>
    if isExactReviewgraphV1MarkerLine line then
      (Text.unlines above.reverse).rstripNewlines ++ ['\n']
    else canonical
  | _ => canonical

/-- `visible_body_hash`. -/
def visibleBodyHash (text : Text) : Text := sha256Text (canonicalVisibleBody text)

/-- `marker_payload_hash`. -/
def markerPayloadHash (finalBodyWithoutMarker : Text) : Text :=
  visibleBodyHash finalBodyWithoutMarker

/-- `final_payload_hash`. -/
def finalPayloadHash (fullFinalBody : Text) : Text := sha256Text (canonicalTextBody fullFinalBody)

/-- `findings_hash`. -/
def findingsHash (fingerprints : List Text) : Result Text :=
  let ordered := Text.sorted fingerprints
  if ordered.Nodup then .ok (canonicalJsonHash (.arr (ordered.map .str)))
  else .error (.valueError "duplicate finding fingerprints are not allowed")

/-- The findings hash of distinct fingerprints. -/
lemma findingsHash_eq_ok {fingerprints : List Text} {hash : Text} :
    findingsHash fingerprints = .ok hash ↔
      fingerprints.Nodup ∧ canonicalJsonHash (.arr ((Text.sorted fingerprints).map .str)) =
        hash := by
  unfold findingsHash
  dsimp only
  split
  · rename_i h
    simp [Text.nodup_sorted.1 h]
  · rename_i h
    simp [mt Text.nodup_sorted.2 h]

/-- The findings hash depends on the set of fingerprints only. -/
lemma findingsHash_perm {s t : List Text} (h : s.Perm t) : findingsHash s = findingsHash t := by
  unfold findingsHash
  rw [Text.sorted_eq_sorted_iff.2 h]

/-- The canonical body is unchanged by canonicalisation. -/
@[simp] lemma canonicalTextBody_idem (text : Text) :
    canonicalTextBody (canonicalTextBody text) = canonicalTextBody text := by
  have hcr : '\r' ∉ text.normalizeLineEndings.rstripNewlines ++ ['\n'] := by
    intro h
    rcases List.mem_append.1 h with h | h
    · exact Text.cr_not_mem_normalizeLineEndings text ((Text.rstripNewlines_prefix _).subset h)
    · exact absurd h (by decide)
  unfold canonicalTextBody
  rw [Text.normalizeLineEndings_of_not_mem hcr, Text.rstripNewlines_append_newline,
    Text.rstripNewlines_idem]

/-! ## Bodies that end with a line -/

/-- A body that ends with a line: the canonical text, then the line. -/
def bodyWithLine (text line : Text) : Text := canonicalTextBody text ++ (line ++ ['\n'])

/-- A line that can stand at the end of a body. -/
structure IsFinalLine (line : Text) : Prop where
  /-- The line is not empty. -/
  ne_nil : line ≠ []
  /-- The line contains no line feed. -/
  newline : '\n' ∉ line
  /-- The line contains no carriage return. -/
  cr : '\r' ∉ line

/-- A marker line can be the last line of a body. -/
lemma MarkerFields.WellFormed.isFinalLine {m : MarkerFields} (h : m.WellFormed) :
    IsFinalLine m.render :=
  ⟨m.render_ne_nil, h.newline_not_mem, h.cr_not_mem⟩

/-- A canonical body has no carriage return. -/
lemma cr_not_mem_canonicalTextBody (text : Text) : '\r' ∉ canonicalTextBody text := by
  unfold canonicalTextBody
  intro h
  rcases List.mem_append.1 h with h | h
  · exact Text.cr_not_mem_normalizeLineEndings text ((Text.rstripNewlines_prefix _).subset h)
  · exact absurd h (by decide)

section FinalLine

variable {text line : Text} (hline : IsFinalLine line)
include hline

/-- The line endings of a body with a last line are normal. -/
lemma normalizeLineEndings_bodyWithLine :
    (bodyWithLine text line).normalizeLineEndings = bodyWithLine text line := by
  refine Text.normalizeLineEndings_of_not_mem fun h => ?_
  unfold bodyWithLine at h
  rcases List.mem_append.1 h with h | h
  · exact cr_not_mem_canonicalTextBody text h
  · rcases List.mem_append.1 h with h | h
    · exact hline.cr h
    · exact absurd h (by decide)

/-- The text before the last line feed of the body. -/
lemma rstripNewlines_bodyWithLine :
    (bodyWithLine text line).rstripNewlines = canonicalTextBody text ++ line := by
  have hbody : bodyWithLine text line = (canonicalTextBody text ++ line) ++ ['\n'] := by
    simp [bodyWithLine]
  rw [hbody, Text.rstripNewlines_append_newline]
  refine Text.rstripNewlines_of_last fun h => ?_
  rw [List.getLast_append_of_ne_nil _ hline.ne_nil]
  intro hlast
  have hmem := List.getLast_mem hline.ne_nil
  rw [hlast] at hmem
  exact hline.newline hmem

/-- A body with a last line is canonical. -/
@[simp] lemma canonicalTextBody_bodyWithLine :
    canonicalTextBody (bodyWithLine text line) = bodyWithLine text line := by
  have hstrip : (bodyWithLine text line).rstripNewlines = _ := rstripNewlines_bodyWithLine hline
  unfold canonicalTextBody at hstrip ⊢
  rw [normalizeLineEndings_bodyWithLine hline, hstrip]
  simp [bodyWithLine, canonicalTextBody]

/-- The lines of the body are those of the text, then the line. -/
lemma lines_bodyWithLine : (bodyWithLine text line).lines =
    text.normalizeLineEndings.rstripNewlines.lines ++ [line, []] := by
  have hbody : bodyWithLine text line =
      text.normalizeLineEndings.rstripNewlines ++ '\n' :: (line ++ ['\n']) := by
    simp [bodyWithLine, canonicalTextBody]
  have hlast : (line ++ ['\n'] : Text).lines = [line, []] := by
    rw [Text.lines_append_newline, Text.lines_of_not_mem hline.newline]
    rfl
  rw [hbody, Text.lines_append_newline, hlast]

end FinalLine

/-- The visible part of a body with a marker is the text above the marker. -/
lemma canonicalVisibleBody_bodyWithLine {text : Text} {m : MarkerFields} (h : m.WellFormed) :
    canonicalVisibleBody (bodyWithLine text m.render) = canonicalTextBody text := by
  have hexact : isExactReviewgraphV1MarkerLine m.render = true := isExact_iff.2 ⟨m, rfl, h⟩
  unfold canonicalVisibleBody
  simp only [canonicalTextBody_bodyWithLine h.isFinalLine, lines_bodyWithLine h.isFinalLine,
    List.reverse_append, List.reverse_cons, List.reverse_nil, List.nil_append, List.cons_append,
    hexact, if_true, List.reverse_reverse, Text.unlines_lines]
  rw [Text.rstripNewlines_idem]
  rfl

/-- A text without a marker at its end is its own visible part. -/
lemma canonicalVisibleBody_of_no_marker {text : Text}
    (h : ∀ line ∈ (canonicalTextBody text).lines, isExactReviewgraphV1MarkerLine line = false) :
    canonicalVisibleBody text = canonicalTextBody text := by
  unfold canonicalVisibleBody
  dsimp only
  split
  · rename_i last line above hlines
    have hmem : line ∈ (canonicalTextBody text).lines := by
      rw [← List.mem_reverse, hlines]
      simp
    rw [if_neg (by simp [h line hmem])]
  · rfl

/-- The visible part depends on the canonical body only. -/
@[simp] lemma canonicalVisibleBody_canonicalTextBody (text : Text) :
    canonicalVisibleBody (canonicalTextBody text) = canonicalVisibleBody text := by
  unfold canonicalVisibleBody
  rw [canonicalTextBody_idem]

end ReviewGraph
