import ReviewGraph.Models.Gates
import ReviewGraph.TextReaders

/-!
# The two readers of a marker

`models.py` reads a version 1 marker line on its own: it cuts the line at its blanks and every part
at its first equality sign, while `hashing.py` uses a regular expression.  Both accept the rendered
lines of well-formed fields, and no others.
-/

namespace ReviewGraph

/-! ## The reader of `models.py` -/

/-- The keys of a marker, in their order. -/
def markerKeys : List Text := ["run_id", "target", "payload", "findings"]

/-- The loop over the parts of a marker: the fields read so far, in their order. -/
def readMarkerParts : List (Text × Text) → List Text → Option (List (Text × Text))
  | fields, [] => some fields
  | fields, part :: parts =>
    if '=' ∉ part then none
    else
      let (key, value) := splitFirst '=' part
      if key ∈ fields.map Prod.fst ∨ key ∉ markerKeys then none
      else readMarkerParts (fields ++ [(key, value)]) parts

/-- A character of a run identifier, in the spelling of `models.py`. -/
def allowedRunChars : Text :=
  "ABCDEFGHIJKLMNOPQRSTUVWXYZabcdefghijklmnopqrstuvwxyz0123456789._:/#-"

/-- `_parse_reviewgraph_marker`. -/
def parseReviewgraphMarker (markerLine : Text) : Option MarkerFields :=
  let start : Text := "<!-- reviewgraph:v1 "
  let stop : Text := " -->"
  if ¬ (start <+: markerLine) ∨ ¬ (stop <:+ markerLine) then none
  else
    let body := slice markerLine start.length (markerLine.length - stop.length)
    let parts := body.splitOn ' '
    if parts.length ≠ 4 then none
    else
      match readMarkerParts [] parts with
      | some [(k₁, runId), (k₂, target), (k₃, payload), (k₄, findings)] =>
        if [k₁, k₂, k₃, k₄] ≠ markerKeys then none
        else if runId = [] ∨ 128 < runId.length ∨ runId.head?.all Unicode.isAlphanumeric = false ∨
            ∃ c ∈ runId, c ∉ allowedRunChars then none
        else if ¬ IsStrictSha256 target ∨ ¬ IsStrictSha256 payload ∨
          ¬ IsStrictSha256 findings then none
        else some ⟨runId, target, payload, findings⟩
      | _ => none

/-! ## Characters of markers -/

/-- The characters of run identifiers are ASCII. -/
lemma toNat_lt_of_isRunIdChar {c : Char} (h : isRunIdChar c = true) : c.toNat < 128 := by
  have hval : c.val.toNat = c.toNat := rfl
  simp only [isRunIdChar, Unicode.isAsciiAlphanumeric, Unicode.isUpper, Unicode.isLower,
    Unicode.isDigit, Bool.or_eq_true, Bool.and_eq_true, decide_eq_true_eq, Char.le_def,
    UInt32.le_iff_toNat_le, List.mem_cons, List.not_mem_nil, or_false] at h
  rcases h with ((⟨-, h⟩ | ⟨-, h⟩) | ⟨-, h⟩) | rfl | rfl | rfl | rfl | rfl | rfl
  · exact lt_of_le_of_lt (hval ▸ h) (by decide)
  · exact lt_of_le_of_lt (hval ▸ h) (by decide)
  · exact lt_of_le_of_lt (hval ▸ h) (by decide)
  all_goals decide

/-- Among them the Unicode letters and digits are the ASCII ones. -/
lemma isAlphanumeric_eq_of_isRunIdChar {c : Char} (h : isRunIdChar c = true) :
    Unicode.isAlphanumeric c = Unicode.isAsciiAlphanumeric c := by
  have hcodes : ∀ n < 128, isRunIdChar (Char.ofNat n) = true →
      Unicode.isAlphanumeric (Char.ofNat n) = Unicode.isAsciiAlphanumeric (Char.ofNat n) := by
    decide
  have hcode := hcodes c.toNat (toNat_lt_of_isRunIdChar h)
  rw [Char.ofNat_toNat] at hcode
  exact hcode h

/-- The characters of a run id in ranges. -/
lemma allowedRunChars_eq : allowedRunChars =
    (List.range' 65 26 ++ List.range' 97 26 ++ List.range' 48 10).map Char.ofNat ++
      ['.', '_', ':', '/', '#', '-'] := by
  unfold allowedRunChars
  rw [Text.ofString_eq]
  rfl

/-- They are accepted by the pattern. -/
lemma isRunIdChar_of_mem_allowed : ∀ c ∈ allowedRunChars, isRunIdChar c = true := by
  have hall : allowedRunChars.all isRunIdChar = true := by
    rw [allowedRunChars_eq]
    rfl
  exact List.all_eq_true.1 hall

/-- They are those that the pattern accepts. -/
lemma mem_allowedRunChars {c : Char} : c ∈ allowedRunChars ↔ isRunIdChar c = true := by
  constructor
  · exact isRunIdChar_of_mem_allowed c
  · intro h
    have hval : c.val.toNat = c.toNat := rfl
    have hmem : ∀ {first count : ℕ}, first ≤ c.toNat → c.toNat < first + count →
        c ∈ (List.range' first count).map Char.ofNat := fun hfirst hlast =>
      List.mem_map.2 ⟨c.toNat, List.mem_range'_1.2 ⟨hfirst, hlast⟩, Char.ofNat_toNat c⟩
    rw [allowedRunChars_eq, List.mem_append, List.map_append, List.map_append, List.mem_append,
      List.mem_append]
    simp only [isRunIdChar, Unicode.isAsciiAlphanumeric, Unicode.isUpper, Unicode.isLower,
      Unicode.isDigit, Bool.or_eq_true, Bool.and_eq_true, decide_eq_true_eq, Char.le_def,
      UInt32.le_iff_toNat_le] at h
    rcases h with ((⟨hfirst, hlast⟩ | ⟨hfirst, hlast⟩) | ⟨hfirst, hlast⟩) | h
    · exact .inl (.inl (.inl (hmem hfirst (Nat.lt_succ_of_le hlast))))
    · exact .inl (.inl (.inr (hmem hfirst (Nat.lt_succ_of_le hlast))))
    · exact .inl (.inr (hmem hfirst (Nat.lt_succ_of_le hlast)))
    · exact .inr h

/-- The checks of a run identifier amount to its pattern. -/
lemma isRunId_iff {runId : Text} : isRunId runId = true ↔
    ¬ (runId = [] ∨ 128 < runId.length ∨ runId.head?.all Unicode.isAlphanumeric = false ∨
      ∃ c ∈ runId, c ∉ allowedRunChars) := by
  cases runId with
  | nil => simp [isRunId]
  | cons c t =>
    have hchars : (∀ d ∈ c :: t, isRunIdChar d = true) ↔ ¬ ∃ d ∈ c :: t, d ∉ allowedRunChars := by
      push Not
      exact forall₂_congr fun d _ => mem_allowedRunChars.symm
    have hrun : isRunId (c :: t) = true ↔ (Unicode.isAsciiAlphanumeric c = true ∧
        (c :: t).length ≤ 128) ∧ ∀ d ∈ c :: t, isRunIdChar d = true := by
      simp only [isRunId, List.head?_cons, Option.any_some, Bool.and_eq_true, decide_eq_true_eq,
        List.all_eq_true]
    rw [hrun, hchars, not_or, not_or, not_or, not_lt, List.head?_cons, Option.all_some,
      Bool.not_eq_false]
    constructor
    · rintro ⟨⟨hfirst, hlength⟩, hall⟩
      rw [← isAlphanumeric_eq_of_isRunIdChar (hchars.2 hall c List.mem_cons_self)] at hfirst
      exact ⟨List.cons_ne_nil c t, hlength, hfirst, hall⟩
    · rintro ⟨-, hlength, hfirst, hall⟩
      rw [isAlphanumeric_eq_of_isRunIdChar (hchars.2 hall c List.mem_cons_self)] at hfirst
      exact ⟨⟨hfirst, hlength⟩, hall⟩

/-- No part of a well-formed marker has a blank. -/
lemma blank_not_mem {m : MarkerFields} (h : m.WellFormed) :
    ' ' ∉ m.runId ∧ ' ' ∉ m.target ∧ ' ' ∉ m.payload ∧ ' ' ∉ m.findings := by
  have hhash : ∀ t : Text, IsStrictSha256 t → ' ' ∉ t := by
    rintro t ⟨digest, rfl, -, hdigits⟩ hmem
    rcases List.mem_append.1 hmem with hmem | hmem
    · rw [hashPrefix_eq] at hmem
      exact absurd hmem (by decide)
    · exact absurd (hdigits _ hmem) (by decide)
  refine ⟨?_, hhash _ h.target, hhash _ h.payload, hhash _ h.findings⟩
  intro hmem
  have hall := h.runId
  simp only [isRunId, Bool.and_eq_true, List.all_eq_true] at hall
  exact absurd (hall.2 _ hmem) (by decide)

/-! ## Parts of markers -/

/-- A part of a marker. -/
def markerPart (field : Text × Text) : Text := field.1 ++ '=' :: field.2

/-- The fields of a marker with their keys. -/
def MarkerFields.entries (m : MarkerFields) : List (Text × Text) :=
  [("run_id", m.runId), ("target", m.target), ("payload", m.payload), ("findings", m.findings)]

/-- The keys of a marker are distinct, without blank or equality sign. -/
lemma markerKeys_plain : markerKeys.Nodup ∧ ∀ key ∈ markerKeys, '=' ∉ key ∧ ' ' ∉ key := by
  unfold markerKeys
  simp only [Text.ofString_eq]
  decide

/-- The entries of a marker have its keys. -/
lemma MarkerFields.entries_keys (m : MarkerFields) : m.entries.map Prod.fst = markerKeys := rfl

/-- A rendered marker consists of its parts, with blanks between them. -/
lemma render_eq_intercalate (m : MarkerFields) : m.render =
    ("<!-- reviewgraph:v1 " : Text) ++
      ([' '].intercalate (m.entries.map markerPart) ++ (" -->" : Text)) := by
  unfold MarkerFields.render MarkerFields.entries markerPart
  simp only [Text.ofString_eq, List.intercalate]
  simp

/-- What the loop reads are the parts that it went through. -/
lemma readMarkerParts_eq_some {fields result : List (Text × Text)} {parts : List Text}
    (h : readMarkerParts fields parts = some result) :
    ∃ added, result = fields ++ added ∧ parts = added.map markerPart := by
  induction parts generalizing fields with
  | nil =>
    obtain rfl := Option.some.inj h
    exact ⟨[], (List.append_nil _).symm, rfl⟩
  | cons part parts ih =>
    unfold readMarkerParts at h
    split at h
    · contradiction
    · rename_i hmem
      rw [not_not] at hmem
      dsimp only at h
      split at h
      · contradiction
      · obtain ⟨added, rfl, rfl⟩ := ih h
        refine ⟨splitFirst '=' part :: added, by simp, ?_⟩
        rw [List.map_cons, markerPart, ← splitFirst_eq hmem]

/-- Parts with distinct keys of markers are read as they are. -/
lemma readMarkerParts_map {fields added : List (Text × Text)}
    (hnodup : ((fields ++ added).map Prod.fst).Nodup) (hkeys : ∀ field ∈ added,
      field.1 ∈ markerKeys) :
    readMarkerParts fields (added.map markerPart) = some (fields ++ added) := by
  induction added generalizing fields with
  | nil => rw [List.map_nil, List.append_nil, readMarkerParts]
  | cons field added ih =>
    have hkey := hkeys field List.mem_cons_self
    have hsplit : splitFirst '=' (markerPart field) = (field.1, field.2) :=
      splitFirst_append (markerKeys_plain.2 _ hkey).1
    have hmem : '=' ∈ markerPart field := by simp [markerPart]
    have hfresh : field.1 ∉ fields.map Prod.fst := by
      rw [List.map_append, List.map_cons] at hnodup
      exact fun hold => List.disjoint_of_nodup_append hnodup hold List.mem_cons_self
    rw [List.map_cons, readMarkerParts, if_neg (not_not.2 hmem)]
    dsimp only
    rw [hsplit, if_neg (by simp only [hfresh, hkey, not_true_eq_false, or_self, not_false_eq_true])]
    rw [ih, List.append_assoc, List.singleton_append]
    · rw [List.append_assoc, List.singleton_append]
      exact hnodup
    · exact fun f hf => hkeys f (List.mem_cons_of_mem _ hf)

/-! ## The grammar -/

/-- The text between a beginning and an end that do not overlap. -/
lemma slice_between (start body stop : Text) : slice (start ++ (body ++ stop)) start.length
    ((start ++ (body ++ stop)).length - stop.length) = body := by
  have hlength : (start ++ (body ++ stop)).length - stop.length = (start ++ body).length := by
    simp only [List.length_append]
    omega
  unfold slice
  rw [hlength, ← List.append_assoc, List.take_left, List.drop_left]

/-- A line that has something between its beginning and its end consists of the three. -/
lemma eq_of_slice_ne_nil {start stop line : Text} (hstart : start <+: line) (hstop : stop <:+ line)
    (hne : slice line start.length (line.length - stop.length) ≠ []) :
    line = start ++ (slice line start.length (line.length - stop.length) ++ stop) := by
  have hlength : start.length ≤ line.length - stop.length := by
    by_contra hlt
    refine hne (List.drop_eq_nil_of_le ?_)
    rw [List.length_take]
    omega
  obtain ⟨rest, rfl⟩ := hstop
  rw [List.length_append, Nat.add_sub_cancel] at hlength ⊢
  have hrest : start <+: rest := List.prefix_of_prefix_length_le hstart (List.prefix_append _ _)
      hlength
  obtain ⟨body, rfl⟩ := hrest
  unfold slice
  rw [List.take_left, List.drop_left, List.append_assoc]

/-- The reader of `models.py` accepts exactly the rendered lines of well-formed fields. -/
lemma parseReviewgraphMarker_eq_some_iff {line : Text} {m : MarkerFields} :
    parseReviewgraphMarker line = some m ↔ line = m.render ∧ m.WellFormed := by
  unfold parseReviewgraphMarker
  dsimp only
  constructor
  · intro h
    split at h
    · contradiction
    rename_i hends
    rw [not_or, not_not, not_not] at hends
    split at h
    · contradiction
    rename_i hlength
    rw [ne_eq, not_not] at hlength
    split at h
    · rename_i k₁ runId k₂ target k₃ payload k₄ findings hread
      split at h
      · contradiction
      rename_i hkeys
      split at h
      · contradiction
      rename_i hrun
      split at h
      · contradiction
      rename_i hhashes
      rw [not_or, not_or, not_not, not_not, not_not] at hhashes
      obtain rfl := Option.some.inj h
      refine ⟨?_, isRunId_iff.2 hrun, hhashes.1, hhashes.2.1, hhashes.2.2⟩
      rw [ne_eq, not_not, markerKeys, List.cons.injEq, List.cons.injEq, List.cons.injEq,
        List.cons.injEq] at hkeys
      obtain ⟨rfl, rfl, rfl, rfl, -⟩ := hkeys
      obtain ⟨added, hadded, hparts⟩ := readMarkerParts_eq_some hread
      rw [List.nil_append] at hadded
      subst hadded
      have hbody : [' '].intercalate ((slice line ("<!-- reviewgraph:v1 " : Text).length
          (line.length - (" -->" : Text).length)).splitOn ' ') =
            slice line ("<!-- reviewgraph:v1 " : Text).length
              (line.length - (" -->" : Text).length) :=
        List.intercalate_splitOn ' '
      rw [hparts] at hbody
      rw [render_eq_intercalate, MarkerFields.entries, hbody]
      refine eq_of_slice_ne_nil hends.1 hends.2 fun hnil => ?_
      rw [hnil] at hlength
      exact absurd hlength (by simp)
    · contradiction
  · rintro ⟨rfl, hwf⟩
    obtain ⟨hrunId, htarget, hpayload, hfindings⟩ := blank_not_mem hwf
    have hblank : ∀ part ∈ m.entries.map markerPart, ' ' ∉ part := by
      have hpart : ∀ {key value : Text}, key ∈ markerKeys → ' ' ∉ value →
          ' ' ∉ markerPart (key, value) := by
        intro key value hkey hvalue hmem
        rcases List.mem_append.1 hmem with hmem | hmem
        · exact (markerKeys_plain.2 key hkey).2 hmem
        · rcases List.mem_cons.1 hmem with hmem | hmem
          · exact absurd hmem (by decide)
          · exact hvalue hmem
      intro part hpartmem
      simp only [MarkerFields.entries, List.map_cons, List.map_nil, List.mem_cons, List.not_mem_nil,
        or_false] at hpartmem
      rcases hpartmem with rfl | rfl | rfl | rfl
      · exact hpart (by simp [markerKeys]) hrunId
      · exact hpart (by simp [markerKeys]) htarget
      · exact hpart (by simp [markerKeys]) hpayload
      · exact hpart (by simp [markerKeys]) hfindings
    have hparts : ([' '].intercalate (m.entries.map markerPart)).splitOn ' ' = m.entries.map
        markerPart :=
      List.splitOn_intercalate ' ' hblank (by simp [MarkerFields.entries])
    have hread : readMarkerParts [] (m.entries.map markerPart) = some m.entries := by
      refine readMarkerParts_map ?_ ?_
      · rw [List.nil_append, MarkerFields.entries_keys]
        exact markerKeys_plain.1
      · intro field hfield
        rw [← m.entries_keys]
        exact List.mem_map_of_mem hfield
    have hends : ¬ (¬ ("<!-- reviewgraph:v1 " : Text) <+: m.render ∨
        ¬ (" -->" : Text) <:+ m.render) := by
      rw [not_or, not_not, not_not, render_eq_intercalate]
      refine ⟨List.prefix_append _ _, ?_⟩
      rw [← List.append_assoc]
      exact List.suffix_append _ _
    rw [if_neg hends, render_eq_intercalate, slice_between, hparts,
      if_neg (by simp [MarkerFields.entries]), hread]
    dsimp only [MarkerFields.entries]
    rw [if_neg (by simp [markerKeys]), if_neg (isRunId_iff.1 hwf.runId),
      if_neg (by simp [hwf.target, hwf.payload, hwf.findings])]

/-- The two readers of a marker agree on every line, and both read exactly the rendered lines of
well-formed fields. -/
theorem markerReaders_agree (line : Text) :
    parseReviewgraphMarker line = parseReviewgraphV1MarkerLine line ∧
      (∀ m : MarkerFields, parseReviewgraphMarker line = some m ↔ line = m.render ∧ m.WellFormed) ∧
        ∀ m : MarkerFields, parseReviewgraphV1MarkerLine line = some m ↔
          line = m.render ∧ m.WellFormed := by
  refine ⟨?_, fun m => parseReviewgraphMarker_eq_some_iff, fun m => parse_eq_some_iff⟩
  apply Option.ext
  intro m
  rw [parseReviewgraphMarker_eq_some_iff, parse_eq_some_iff]

end ReviewGraph
