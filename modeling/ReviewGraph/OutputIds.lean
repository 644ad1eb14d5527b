import ReviewGraph.Normalization

/-!
# The identifiers of the artifacts of an output
-/

namespace ReviewGraph

/-! ## Items and artifacts -/

/-- The fields of an item. -/
def itemFields : Json → List (Text × Json)
  | .obj fields => fields
  | _ => []

/-- The identifier of an item. -/
def itemId (item : Json) : Option Text := optionalItemId (itemFields item)

/-- An item sets fields of the graph. -/
def SetsGraphOwned (item : Json) : Prop :=
  ∃ key ∈ (itemFields item).map Prod.fst, key ∈ rawItemGraphOwnedFields

instance : DecidablePred SetsGraphOwned := fun item => by
  unfold SetsGraphOwned
  infer_instance

/-- The items of an output. -/
def outputItems (rawOutput : List (Text × Json)) : List Json :=
  match Json.lookup rawOutput "items" with
  | some (.arr items) => items
  | _ => []

/-- The name under which an item is suppressed that sets fields of the graph. -/
def suppressionName (item : Json) : Text := (itemId item).getD "invalid-raw-item"

/-- Two items get the same identifier from the graph: both are suppressed under the same name, or
one is suppressed under the identifier that the other one has itself. -/
def Clash (a b : Json) : Prop :=
  (SetsGraphOwned a ∧ SetsGraphOwned b ∧ suppressionName a = suppressionName b) ∨
  (SetsGraphOwned a ∧ ¬ SetsGraphOwned b ∧ itemId b = some ("suppressed-" ++ suppressionName a)) ∨
  (SetsGraphOwned b ∧ ¬ SetsGraphOwned a ∧ itemId a = some ("suppressed-" ++ suppressionName b))

/-- The identifiers of all artifacts. -/
def NormalizationResult.artifactIds (r : NormalizationResult) : List Text :=
  (r.findings.map fun f => f.val.id) ++ (r.localNotes.map fun n => n.val.id) ++
    (r.clarificationRequests.map fun q => q.val.request.id) ++
    (r.suggestedReplies.map fun p => p.val.id) ++ r.suppressedOutputs.map fun s => s.val.id

/-- The identifier of the artifact of an outcome. -/
def ItemOutcome.artifactId? : ItemOutcome → Option Text
  | .finding f => some f.val.id
  | .localNote n => some n.val.id
  | .clarificationRequest q => some q.val.request.id
  | .suggestedReply p => some p.val.id
  | .suppressed s => some s.val.id
  | .rejected s _ => some s.val.id
  | .fatal _ => none

/-- The artifacts have the identifiers of the outcomes. -/
lemma artifactIds_collected (rawOutput : List (Text × Json)) (runKey : Checked ReviewerRunKey)
    (outcomes : List ItemOutcome) :
    (collected rawOutput runKey outcomes).artifactIds.Perm
      (outcomes.filterMap ItemOutcome.artifactId?) := by
  rw [List.perm_iff_count]
  intro id
  induction outcomes with
  | nil => rfl
  | cons outcome outcomes ih =>
    cases outcome <;>
      simp only [NormalizationResult.artifactIds, collected, List.filterMap_cons, List.map_cons,
        List.count_append, List.count_cons, ItemOutcome.finding?, ItemOutcome.localNote?,
        ItemOutcome.clarificationRequest?, ItemOutcome.suggestedReply?,
        ItemOutcome.suppressedOutput?, ItemOutcome.error?, ItemOutcome.artifactId?] at ih ⊢ <;>
      omega

/-! ## The identifier of an artifact -/

/-- A required identifier is the one that is found. -/
lemma requiredStrValue_id {item : List (Text × Json)} {label id : Text}
    (h : requiredStrValue item "id" label = .ok id) : optionalItemId item = some id := by
  obtain ⟨hlookup, hne⟩ := requiredStrValue_eq_ok.1 h
  unfold optionalItemId
  rw [hlookup]
  exact if_pos hne

/-- The rationale does not touch the identifier. -/
lemma lookup_id_withRationale (item : List (Text × Json)) :
    Json.lookup (withRationale item) "id" = Json.lookup item "id" := by
  unfold withRationale
  split
  · unfold Json.lookup
    rw [List.find?_append]
    simp [Text.ofString_eq]
  · rfl

/-- A finding keeps its identifier. -/
lemma rawReviewerFinding_id {repr : Text → Text} {item : List (Text × Json)}
    {raw : Checked RawReviewerFinding} (h : rawReviewerFindingFromMapping repr item = .ok raw) :
    optionalItemId item = some raw.val.id := by
  unfold rawReviewerFindingFromMapping at h
  obtain ⟨-, h⟩ := check_bind_eq_ok.1 h
  obtain ⟨-, h⟩ := check_bind_eq_ok.1 h
  obtain ⟨-, h⟩ := check_bind_eq_ok.1 h
  obtain ⟨line, -, h⟩ := bind_eq_ok.1 h
  obtain ⟨lineEnd, -, h⟩ := bind_eq_ok.1 h
  obtain ⟨id, hid, h⟩ := bind_eq_ok.1 h
  obtain ⟨severityText, -, h⟩ := bind_eq_ok.1 h
  obtain ⟨severity, -, h⟩ := bind_eq_ok.1 h
  obtain ⟨confidenceText, -, h⟩ := bind_eq_ok.1 h
  obtain ⟨confidence, -, h⟩ := bind_eq_ok.1 h
  obtain ⟨path, -, h⟩ := bind_eq_ok.1 h
  obtain ⟨title, -, h⟩ := bind_eq_ok.1 h
  obtain ⟨rationale, -, h⟩ := bind_eq_ok.1 h
  obtain ⟨evidence, -, h⟩ := bind_eq_ok.1 h
  obtain ⟨suggestedFix, -, h⟩ := bind_eq_ok.1 h
  obtain ⟨evidenceSources, -, h⟩ := bind_eq_ok.1 h
  obtain ⟨evidenceMemoryIds, -, h⟩ := bind_eq_ok.1 h
  rw [construct_eq_ok.1 h]
  unfold requiredMappingStr at hid
  rw [lookup_id_withRationale] at hid
  unfold optionalItemId
  split at hid
  · rename_i value hvalue
    rw [hvalue, Except.ok.inj hid]
  · contradiction

/-- The identifier that an artifact has by its item. -/
def expectedId (item : Json) : Option Text :=
  if SetsGraphOwned item then some ("suppressed-" ++ suppressionName item) else itemId item

/-- A suppressed item is named after itself. -/
lemma suppressedItemId_eq (fields : List (Text × Json)) :
    suppressedItemId fields = "suppressed-" ++ suppressionName (.obj fields) := by
  unfold suppressedItemId suppressionName itemId itemFields
  cases optionalItemId fields with
  | none => simp [Text.ofString_eq]
  | some id => rfl

variable {repr : Text → Text} {runKey : Checked ReviewerRunKey}

/-- An artifact has the identifier of its item, or one that the graph makes from it. -/
lemma Yields.artifactId {index : ℕ} {item : Json} {outcome : ItemOutcome}
    (h : Yields repr runKey index item outcome) :
    outcome.artifactId? = expectedId item ∧ ∃ id, expectedId item = some id := by
  suffices heq : ∃ id, outcome.artifactId? = some id ∧ expectedId item = some id by
    obtain ⟨id, hid, hexpected⟩ := heq
    exact ⟨hid.trans hexpected.symm, id, hexpected⟩
  have hown : ∀ {fields : List (Text × Json)} {id : Text},
      (∀ key ∈ fields.map Prod.fst, key ∉ rawItemGraphOwnedFields) →
      optionalItemId fields = some id → expectedId (.obj fields) = some id := by
    intro fields id hunowned hid
    refine (if_neg ?_).trans hid
    rintro ⟨key, hkey, howned⟩
    exact hunowned key hkey howned
  cases h with
  | finding type unowned read => exact ⟨_, rfl, hown unowned (rawReviewerFinding_id read)⟩
  | localNote type unowned read =>
    obtain ⟨id, hid, read⟩ := bind_eq_ok.1 read
    obtain ⟨title, -, read⟩ := bind_eq_ok.1 read
    obtain ⟨body, -, read⟩ := bind_eq_ok.1 read
    obtain ⟨evidence, -, read⟩ := bind_eq_ok.1 read
    refine ⟨_, rfl, ?_⟩
    rw [construct_eq_ok.1 read]
    exact hown unowned (requiredStrValue_id hid)
  | clarificationRequest type unowned read =>
    obtain ⟨evidenceSources, -, read⟩ := bind_eq_ok.1 read
    obtain ⟨evidenceMemoryIds, -, read⟩ := bind_eq_ok.1 read
    obtain ⟨id, hid, read⟩ := bind_eq_ok.1 read
    obtain ⟨question, -, read⟩ := bind_eq_ok.1 read
    obtain ⟨whyItMatters, -, read⟩ := bind_eq_ok.1 read
    obtain ⟨blocksVerdict, -, read⟩ := bind_eq_ok.1 read
    refine ⟨_, rfl, ?_⟩
    rw [construct_eq_ok.1 read]
    exact hown unowned (requiredStrValue_id hid)
  | suggestedReply type unowned read =>
    obtain ⟨id, hid, read⟩ := bind_eq_ok.1 read
    obtain ⟨sourceCommentId, -, read⟩ := bind_eq_ok.1 read
    obtain ⟨proposedBody, -, read⟩ := bind_eq_ok.1 read
    refine ⟨_, rfl, ?_⟩
    rw [construct_eq_ok.1 read]
    exact hown unowned (requiredStrValue_id hid)
  | suppressed type unowned read =>
    obtain ⟨id, hid, read⟩ := bind_eq_ok.1 read
    obtain ⟨reason, -, read⟩ := bind_eq_ok.1 read
    refine ⟨_, rfl, ?_⟩
    rw [construct_eq_ok.1 read]
    exact hown unowned (requiredStrValue_id hid)
  | rejected owned id nonFatal position nodup named =>
    refine ⟨_, rfl, ?_⟩
    rw [id, suppressedItemId_eq]
    exact if_pos owned

/-- The artifacts of items have the expected identifiers, in their order. -/
lemma artifactIds_of_yields {entries : List (Json × ℕ)} {outcomes : List ItemOutcome}
    (h : List.Forall₂ (fun entry outcome => Yields repr runKey entry.2 entry.1 outcome) entries
      outcomes) :
    outcomes.filterMap ItemOutcome.artifactId? = (entries.map Prod.fst).filterMap expectedId := by
  induction h with
  | nil => rfl
  | cons hyields _ ih =>
    obtain ⟨hid, id, hexpected⟩ := hyields.artifactId
    rw [List.map_cons, List.filterMap_cons_some (hid.trans hexpected),
      List.filterMap_cons_some hexpected, ih]

/-- Items with different identifiers of their own clash exactly if the identifiers of their
artifacts are the same. -/
lemma clash_iff {a b : Json} (hdiffer : ∀ i ∈ itemId a, ∀ j ∈ itemId b, i ≠ j) :
    Clash a b ↔ ∃ id, expectedId a = some id ∧ expectedId b = some id := by
  unfold Clash expectedId
  by_cases ha : SetsGraphOwned a <;> by_cases hb : SetsGraphOwned b
  · simp only [ha, hb, if_true, Option.some.injEq, true_and, not_true, false_and, or_false,
      and_false]
    constructor
    · intro h
      exact ⟨_, rfl, by rw [h]⟩
    · rintro ⟨id, rfl, h⟩
      exact (List.append_cancel_left h).symm
  · simp [ha, hb]
  · simp [ha, hb]
  · simp only [ha, hb, if_false, false_and, and_false, or_false, not_false_eq_true, false_iff]
    rintro ⟨id, hid, hid'⟩
    exact hdiffer id hid id hid' rfl

/-- Items with different identifiers of their own are normalized to artifacts with different
identifiers exactly if no two of them clash, or one cannot be read and there is no artifact. -/
lemma artifactIds_nodup_iff (repr : Text → Text) (rawOutput : List (Text × Json))
    (runKey : Checked ReviewerRunKey) (h : ((outputItems rawOutput).filterMap itemId).Nodup) :
    ∃ r, normalizeReviewerOutput repr rawOutput runKey = .ok r ∧
      (r.artifactIds.Nodup ↔ (AllReadable repr runKey 0 (outputItems rawOutput) →
        (outputItems rawOutput).Pairwise fun a b => ¬ Clash a b)) := by
  have hempty : ∀ e, (fatalResult rawOutput runKey e).artifactIds.Nodup := fun e => List.nodup_nil
  unfold normalizeReviewerOutput
  split
  · rename_i items hitems
    have houtput : outputItems rawOutput = items := by
      unfold outputItems
      rw [hitems]
    rw [houtput] at h ⊢
    obtain ⟨r, hr, ⟨hnot, e, -, rfl⟩ | ⟨hall, outcomes, houtcomes, rfl⟩⟩ :=
      normalizeItems_ok repr rawOutput runKey 0 items []
    · exact ⟨_, hr, fun _ hall => absurd hall hnot, fun _ => hempty e⟩
    · refine ⟨_, hr, ?_⟩
      rw [List.nil_append, (artifactIds_collected rawOutput runKey outcomes).nodup_iff,
        artifactIds_of_yields houtcomes, List.zipIdx_map_fst, List.Nodup, List.pairwise_filterMap]
      rw [List.Nodup, List.pairwise_filterMap] at h
      constructor
      · intro hids _
        refine (hids.and h).imp fun {a b} hboth hclash => ?_
        obtain ⟨id, ha, hb⟩ := (clash_iff hboth.2).1 hclash
        exact hboth.1 id ha id hb rfl
      · intro hclash
        refine ((hclash hall).and h).imp fun {a b} hboth i hi j hj heq => ?_
        subst heq
        exact hboth.1 ((clash_iff hboth.2).2 ⟨i, hi, hj⟩)
  · rename_i hinvalid
    have houtput : outputItems rawOutput = [] := by
      unfold outputItems
      split
      · exact absurd ‹_› (hinvalid _)
      · rfl
    obtain ⟨e, he, -⟩ := invalidItems_ok rawOutput runKey
    rw [houtput]
    exact ⟨_, he, fun _ _ => List.Pairwise.nil, fun _ => hempty e⟩

end ReviewGraph
