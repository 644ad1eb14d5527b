import ReviewGraph.Permissions

/-!
# The permission gate is total

`evaluate_actor_permission_gate` builds its results through a constructor that checks the identity,
the timestamps, the permission and the transport again.  Whatever a probe holds, the values that the
gate keeps pass these checks.
-/

namespace ReviewGraph

/-! ## Timestamps -/

/-- A digit is not the letter between date and time. -/
lemma isDecimal_ne_T {c : Char} (h : Unicode.isDecimal c = true) : c ≠ 'T' := by
  rintro rfl
  exact absurd h (by decide)

/-- A timestamp of the pattern of the probe has the format that the results check. -/
lemma isRfc3339UtcZ_of_matches {value : Text} (h : matchesRfc3339UtcZ value = true) :
    isRfc3339UtcZ value = true := by
  unfold matchesRfc3339UtcZ at h
  dsimp only at h
  have hlength : 19 ≤ value.length := by
    simp only [Bool.and_eq_true, decide_eq_true_eq, slice, List.length_drop, List.length_take] at h
    omega
  obtain ⟨c₀, c₁, c₂, c₃, c₄, c₅, c₆, c₇, c₈, c₉, tail, rfl, htail⟩ :
      ∃ c₀ c₁ c₂ c₃ c₄ c₅ c₆ c₇ c₈ c₉ tail,
      value = c₀ :: c₁ :: c₂ :: c₃ :: c₄ :: c₅ :: c₆ :: c₇ :: c₈ :: c₉ :: tail ∧ 9 ≤ tail.length :=
    match value, hlength with
    | c₀ :: c₁ :: c₂ :: c₃ :: c₄ :: c₅ :: c₆ :: c₇ :: c₈ :: c₉ :: tail, h =>
      ⟨c₀, c₁, c₂, c₃, c₄, c₅, c₆, c₇, c₈, c₉, tail, rfl, by simpa using h⟩
  obtain ⟨d₀, d₁, d₂, d₃, d₄, d₅, d₆, d₇, d₈, rest, rfl⟩ : ∃ d₀ d₁ d₂ d₃ d₄ d₅ d₆ d₇ d₈ rest,
      tail = d₀ :: d₁ :: d₂ :: d₃ :: d₄ :: d₅ :: d₆ :: d₇ :: d₈ :: rest :=
    match tail, htail with
    | d₀ :: d₁ :: d₂ :: d₃ :: d₄ :: d₅ :: d₆ :: d₇ :: d₈ :: rest, _ =>
      ⟨d₀, d₁, d₂, d₃, d₄, d₅, d₆, d₇, d₈, rest, rfl⟩
  simp only [slice, List.take_succ_cons, List.take_zero, List.drop_succ_cons, List.drop_zero,
    List.length_cons, List.length_nil, List.all_cons, List.all_nil, Bool.and_true, Bool.and_eq_true,
    decide_eq_true_eq, List.getElem?_cons_succ, List.getElem?_cons_zero, Option.some.injEq] at h
  obtain ⟨⟨⟨⟨⟨⟨⟨⟨⟨⟨⟨⟨-, h0, h1, h2, h3⟩, rfl⟩, -, h5, h6⟩, rfl⟩, -, h8, h9⟩, rfl⟩, -, h11, h12⟩,
      rfl⟩, -,
    h14, h15⟩, rfl⟩, -, h17, h18⟩, hrest⟩ := h
  -- Behind the seconds stands a fraction, or nothing.
  obtain ⟨fraction, rfl, hfraction⟩ : ∃ fraction, rest = fraction ++ ['Z'] ∧
      (fraction = [] ∨ fraction.head? = some '.' ∧ isDecimalText fraction.tail = true) := by
    rw [Bool.or_eq_true, decide_eq_true_eq] at hrest
    rcases hrest with rfl | hrest
    · exact ⟨[], rfl, Or.inl rfl⟩
    · simp only [Bool.and_eq_true, decide_eq_true_eq] at hrest
      obtain ⟨⟨hhead, hlast⟩, hdigits⟩ := hrest
      have hsplit := List.dropLast_append_getLast? 'Z' hlast
      refine ⟨rest.dropLast, hsplit.symm, Or.inr ⟨?_, ?_⟩⟩
      · cases rest with
        | nil => contradiction
        | cons c rest =>
          cases rest with
          | nil =>
            obtain rfl : c = '.' := Option.some.inj hhead
            exact absurd hlast (by decide)
          | cons d rest => exact hhead
      · rw [List.tail_dropLast]
        exact hdigits
  have hdrop : ∀ c₁ c₂ c₃ c₄ c₅ c₆ c₇ c₈ c₉ c₁₀ c₁₁ c₁₂ c₁₃ c₁₄ c₁₅ c₁₆ c₁₇ c₁₈ c₁₉ : Char,
      (c₁ :: c₂ :: c₃ :: c₄ :: c₅ :: c₆ :: c₇ :: c₈ :: c₉ :: c₁₀ :: c₁₁ :: c₁₂ :: c₁₃ :: c₁₄ ::
        c₁₅ ::
        c₁₆ :: c₁₇ :: c₁₈ :: c₁₉ :: (fraction ++ ['Z'])).dropLast =
      c₁ :: c₂ :: c₃ :: c₄ :: c₅ :: c₆ :: c₇ :: c₈ :: c₉ :: c₁₀ :: c₁₁ :: c₁₂ :: c₁₃ :: c₁₄ ::
        c₁₅ ::
        c₁₆ :: c₁₇ :: c₁₈ :: c₁₉ :: fraction := by
    intro c₁ c₂ c₃ c₄ c₅ c₆ c₇ c₈ c₉ c₁₀ c₁₁ c₁₂ c₁₃ c₁₄ c₁₅ c₁₆ c₁₇ c₁₈ c₁₉
    simp only [← List.cons_append, List.dropLast_concat]
  have hlast : ∀ c : Char, (c :: (fraction ++ ['Z'])).getLast? = some 'Z' := by
    intro c
    rw [← List.cons_append, List.getLast?_concat]
  have hne : ∀ {c : Char}, Unicode.isDecimal c = true → decide (c ≠ 'T') = true := fun h =>
    decide_eq_true (isDecimal_ne_T h)
  unfold isRfc3339UtcZ splitFirst
  rw [hdrop]
  simp only [List.takeWhile_cons, List.dropWhile_cons, hne h0, hne h1, hne h2, hne h3, hne h5,
    hne h6,
    hne h8, hne h9]
  have hrest : fraction = [] ∨ (fraction.head? = some '.' && isDecimalText fraction.tail) =
      true := by
    rcases hfraction with hnil | hfraction
    · exact Or.inl hnil
    · exact Or.inr (by simp [hfraction])
  simpa [isDecimalText, slice, h0, h1, h2, h3, h5, h6, h8, h9, h11, h12, h14, h15, h17, h18, hlast]
    using hrest

/-- A time that the gate reads has the format that the results check. -/
lemma isRealisticRfc3339UtcZ_of_parse {value : Text} (h : (parseProbeTime value).isSome = true) :
    isRealisticRfc3339UtcZ value = true := by
  unfold parseProbeTime at h
  dsimp only at h
  split at h
  · rename_i hvalid
    rw [Bool.and_eq_true] at hvalid
    unfold isRealisticRfc3339UtcZ
    dsimp only
    rw [isRfc3339UtcZ_of_matches hvalid.1, hvalid.2]
    rfl
  · contradiction

/-! ## Values that the gate keeps -/

/-- A clean field is not empty. -/
lemma ProbeField.clean_ne_some_nil (field : ProbeField Text) : field.clean ≠ some [] := by
  simp [ProbeField.clean, Option.filter_eq_some_iff]

/-- The identifier of a request that is kept passes the checks of a summary. -/
lemma requireRequestId_safeProbe (owner : Text) (field : ProbeField Text) :
    requireRequestId owner (safeProbeRequestId field) = .ok () := by
  unfold requireRequestId
  cases hid : safeProbeRequestId field with
  | none => rfl
  | some id =>
    obtain ⟨hclean, hsafe⟩ := Option.filter_eq_some_iff.1 hid
    have hne : id ≠ [] := fun h => field.clean_ne_some_nil (h ▸ hclean)
    simp only [Bool.and_eq_true, decide_eq_true_eq, Bool.not_eq_true', List.all_eq_true] at hsafe
    simp only [check_bind_eq_ok, requireOptionalNonEmpty_eq_ok, Option.elim_some, require_eq_ok]
    exact ⟨fun h => hne (Option.some.inj h), hsafe.1, hsafe.2⟩

/-- The summary of the transport is complete. -/
lemma permissionTransportSummary_ok (probe : ActorPermissionProbeResult)
    (reasonCode : Option ActorPermissionReasonCode) :
    ∃ summary, permissionTransportSummary probe reasonCode = .ok summary ∧ summary.val = {
      endpointKind := actorPermissionTransportEndpointKind
      retryable := reasonCode.any (· ∈ retryableActorPermissionReasonCodes)
      reasonCode
      requestId := safeProbeRequestId probe.requestId } := by
  have hpost : Record.postInit ({
      endpointKind := actorPermissionTransportEndpointKind
      retryable := reasonCode.any (· ∈ retryableActorPermissionReasonCodes)
      reasonCode
      requestId := safeProbeRequestId probe.requestId } : ActorPermissionTransportSummary) = .ok
        () := by
    have hkind : actorPermissionTransportEndpointKind ≠ [] := by
      simp [actorPermissionTransportEndpointKind, Text.ofString_eq]
    simp only [Record.postInit, check_bind_eq_ok, requireNonEmpty_eq_ok, require_eq_ok, true_and]
    exact ⟨hkind, requireRequestId_safeProbe _ _⟩
  exact ⟨⟨_, hpost⟩, construct_of_postInit hpost, rfl⟩

/-- A safe identity is not empty. -/
lemma safeIdentity_eq_some {field : ProbeField Text} {value : Text}
    (h : safeIdentity field = some value) :
    value ≠ [] ∧ isSafeActorPermissionIdentity value = true := by
  obtain ⟨hclean, hsafe⟩ := Option.filter_eq_some_iff.1 h
  exact ⟨fun hnil => field.clean_ne_some_nil (hnil ▸ hclean), hsafe⟩

/-- A safe choice is one of the allowed texts. -/
lemma safeOneOf_eq_some {allowed : List Text} {field : ProbeField Text} {value : Text}
    (h : safeOneOf allowed field = some value) : value ≠ [] ∧ value ∈ allowed := by
  obtain ⟨hclean, hmem⟩ := Option.filter_eq_some_iff.1 h
  exact ⟨fun hnil => field.clean_ne_some_nil (hnil ▸ hclean), of_decide_eq_true hmem⟩

/-- The endpoint of the ordered dictionary of a target is that of its comments. -/
lemma actorPermissionExpectedEndpoint_toOrderedDict (target : Checked ReviewTarget) :
    actorPermissionExpectedEndpoint target.val.toOrderedDict =
      some (issueCommentEndpoint target.val.ownerRepo target.val.prNumber) := by
  obtain ⟨hslash, hnumber, hbase, hhead, hbasis⟩ := ReviewTarget.postInit_eq_ok.1 target.property
  unfold actorPermissionExpectedEndpoint ReviewTarget.toOrderedDict
  cases hmerge : target.val.mergeBaseSha with
  | none => simp [ReviewTarget.optionalJson, hslash, hnumber, hbase, hhead, hbasis]
  | some sha => simp [ReviewTarget.optionalJson, hslash, hnumber, hbase, hhead, hbasis]

/-- The endpoint that a failure keeps is that of its checked target. -/
lemma safeEndpoint_safe (probe : ActorPermissionProbeResult) :
    safeEndpoint probe ≠ some [] ∧ (safeEndpoint probe = none ∨
      safeEndpoint probe = (probe.checkedTarget.get?.map fun t => t.val.toOrderedDict).bind
        actorPermissionExpectedEndpoint) := by
  unfold safeEndpoint
  cases htarget : probe.checkedTarget.get? with
  | none => exact ⟨by simp, Or.inl rfl⟩
  | some target =>
    simp only [Option.bind_eq_bind, Option.bind_some, Option.map_some,
      actorPermissionExpectedEndpoint_toOrderedDict]
    constructor
    · intro h
      exact probe.endpoint.clean_ne_some_nil (Option.filter_eq_some_iff.1 h).1
    · cases hkept : probe.endpoint.clean.filter
          fun v => v = issueCommentEndpoint target.val.ownerRepo target.val.prNumber with
      | none => exact Or.inl rfl
      | some endpoint =>
        have hvalue := of_decide_eq_true (Option.filter_eq_some_iff.1 hkept).2
        exact Or.inr (by rw [hvalue])

/-- The permission that a failure keeps. -/
def failurePermission (probe : ActorPermissionProbeResult) : Option Text :=
  ((safeOneOf allowedRepoPermissions probe.repoPermission).or
    (safeOneOf allowedEndpointPermissions probe.installationPermission)).or
      (safeOneOf allowedEndpointPermissions probe.endpointPermission)

/-- The permission of a failure is not empty. -/
lemma failurePermission_ne_some_nil (probe : ActorPermissionProbeResult) :
    failurePermission probe ≠ some [] := by
  intro h
  unfold failurePermission at h
  rcases Option.or_eq_some_iff.1 h with h | ⟨-, h⟩
  · rcases Option.or_eq_some_iff.1 h with h | ⟨-, h⟩
    · exact (safeOneOf_eq_some h).1 rfl
    · exact (safeOneOf_eq_some h).1 rfl
  · exact (safeOneOf_eq_some h).1 rfl

/-- It is the one that the results derive for a failure. -/
lemma failurePermission_eq (probe : ActorPermissionProbeResult) :
    failurePermission probe = actorPermissionFailurePermission
      (safeOneOf allowedRepoPermissions probe.repoPermission)
      (safeOneOf allowedEndpointPermissions probe.installationPermission)
      (safeOneOf allowedEndpointPermissions probe.endpointPermission) := by
  have hfilter : ∀ allowed field,
      (safeOneOf allowed field).filter (· ∈ allowed) = safeOneOf allowed field := by
    intro allowed field
    unfold safeOneOf
    rw [Option.filter_filter]
    simp
  unfold failurePermission actorPermissionFailurePermission
  rw [hfilter, hfilter, hfilter, Option.or_assoc]

/-! ## Failures -/

/-- The reason of a failure fits the reason of its transport. -/
def TransportFits (code : ActorPermissionReasonCode)
    (transportReasonCode : Option ActorPermissionReasonCode) : Prop :=
  match transportReasonCode with
  | some transportCode => transportCode ∈ transportActorPermissionReasonCodes ∧ transportCode = code
  | none => code ∉ transportActorPermissionReasonCodes ∨ code = .malformedResponse

/-- A failure with a safe reason is reported. -/
lemma permissionFail_ok (probe : ActorPermissionProbeResult) {code : ActorPermissionReasonCode}
    {reason : Text} {transportReasonCode : Option ActorPermissionReasonCode}
    (hreason : isSafeActorPermissionReason reason = true)
    (hfits : TransportFits code transportReasonCode) :
    ∃ r, permissionFail probe code reason transportReasonCode = .ok r ∧ r.val.status = .fail := by
  obtain ⟨summary, hsummary, hsummaryVal⟩ := permissionTransportSummary_ok probe transportReasonCode
  unfold permissionFail
  dsimp only
  rw [hsummary, ok_bind]
  have hreasonNe : reason ≠ [] := by
    rintro rfl
    simp [isSafeActorPermissionReason] at hreason
  -- The values of the fields are safe.
  have hidentity : ∀ field, safeIdentity field ≠ some [] := fun field h =>
    (safeIdentity_eq_some h).1 rfl
  have hone : ∀ allowed field, safeOneOf allowed field ≠ some [] := fun allowed field h =>
    (safeOneOf_eq_some h).1 rfl
  have hmem : ∀ allowed field, ∀ v ∈ safeOneOf allowed field, decide (v ∈ allowed) = true :=
    fun allowed field v hv => decide_eq_true (safeOneOf_eq_some hv).2
  have hequal : ∀ value field, ∀ v ∈ safeOneOf [value] field, decide (v = value) = true :=
    fun value field v hv => decide_eq_true (List.mem_singleton.1 (safeOneOf_eq_some hv).2)
  refine ⟨⟨_, ?_⟩, construct_of_postInit _, rfl⟩
  simp only [Record.postInit, ActorPermissionGateResult.validateCommon,
    ActorPermissionGateResult.validateFailureMetadata,
    ActorPermissionGateResult.validateFailureTransport, check_bind_eq_ok, require_eq_ok,
    requireOptionalNonEmpty_eq_ok, requireOptionalHashLike_eq_ok, requireOptional]
  refine ⟨⟨by simp, hidentity _, failurePermission_ne_some_nil probe, ?_, by simp [hreasonNe],
    fun v hv => (safeIdentity_eq_some hv).2, fun v hv => (safeIdentity_eq_some hv).2,
    by simp [hreason], hidentity _, hone _ _, hone _ _, hone _ _, hone _ _, hone _ _, hone _ _, ?_,
    (safeEndpoint_safe probe).1, hone _ _⟩, by simp, by simp,
    ⟨Or.inr (failurePermission_eq probe), ?_, hmem _ _, hmem _ _, hmem _ _, hmem _ _, hequal _ _,
      hequal _ _, hequal _ _, ?_, (safeEndpoint_safe probe).2⟩, ?_⟩
  · rw [ne_eq, Option.filter_eq_some_iff, not_and]
    intro _ hparse
    exact absurd (isRealisticRfc3339UtcZ_of_parse hparse) (by decide)
  · intro hash hhash
    obtain ⟨target, -, rfl⟩ := Option.map_eq_some_iff.1 hhash
    exact (ReviewTarget.isStrictSha256_targetHash _).hashPrefix_accepted
  · intro v hv
    exact isRealisticRfc3339UtcZ_of_parse (Option.filter_eq_some_iff.1 hv).2
  · intro hendpoint hnone
    have htarget := Option.map_eq_none_iff.1 hnone
    exact hendpoint (by simp [safeEndpoint, htarget])
  · rw [hsummaryVal]
    unfold TransportFits at hfits
    cases transportReasonCode with
    | some transportCode =>
      simp only [check_bind_eq_ok, require_eq_ok, and_true]
      exact hfits
    | none =>
      simp only [check_bind_eq_ok, require_eq_ok, and_true]
      exact hfits

/-- The reasons of the gate are safe. -/
lemma gateReasons_safe : ([
    "permission probe issue_comment_write is malformed",
    "permission probe returned a malformed transport reason",
    "permission probe returned an invalid transport reason",
    "authenticated GitHub actor is unknown", "credential source is unknown",
    "credential principal is missing", "permission check method is missing",
    "permission check target is missing", "permission check target is malformed",
    "permission check timestamp is missing", "permission check target or endpoint did not match",
    "permission check timestamp is malformed", "permission proof timestamp is stale",
    "credential cannot write issue comments"] : List Text).all isSafeActorPermissionReason =
    true := by
  decide +kernel

/-- The reasons of `_derive_permission` are safe. -/
lemma permissionReasons_safe : ([
    "unknown repo permission", "unknown installation permission", "unknown endpoint permission",
    "classic PAT proof must use broad repo permission only",
    "fine-grained PAT proof must use endpoint permission",
    "GitHub App installation proof must not use repo permission",
    "GitHub App installation permission is missing",
    "GitHub App endpoint permission must mirror installation permission",
    "GitHub App user proof must use endpoint permission", "permission is missing",
    "credential does not have write permission for issue comments"] :
      List Text).all isSafeActorPermissionReason = true := by
  decide +kernel

/-- The name of a malformed field makes a safe reason. -/
lemma firstMalformedField_safe {probe : ActorPermissionProbeResult} {field : Text}
    (h : probe.firstMalformedField = some field) :
    isSafeActorPermissionReason ("permission probe field is malformed: " ++ field) = true := by
  have hnames : (["actor", "credential_principal", "credential_source", "repo_permission",
      "installation_permission", "endpoint_permission", "check_method", "endpoint_method",
      "checked_at", "endpoint", "endpoint_kind", "request_id", "reason"] : List Text).all
      (fun name =>
        isSafeActorPermissionReason ("permission probe field is malformed: " ++ name)) = true := by
    decide +kernel
  obtain ⟨entry, hentry, rfl⟩ := Option.map_eq_some_iff.1 h
  have hmem := @List.mem_map_of_mem _ _ _ _ Prod.fst (List.mem_of_find?_eq_some hentry)
  exact List.all_eq_true.1 hnames _ hmem

/-- A permission is derived, or the reason against it is safe and none of the transport. -/
lemma derivePermission_error {probe : ActorPermissionProbeResult} {credentialSource reason : Text}
    {code : ActorPermissionReasonCode}
    (h : derivePermission probe credentialSource = .error (code, reason)) :
    isSafeActorPermissionReason reason = true ∧ TransportFits code none := by
  have hsafe := permissionReasons_safe
  simp only [List.all_cons, List.all_nil, Bool.and_true, Bool.and_eq_true] at hsafe
  unfold derivePermission at h
  dsimp only at h
  split at h
  · obtain ⟨rfl, rfl⟩ := Prod.ext_iff.1 (Except.error.inj h)
    exact ⟨hsafe.1, Or.inl (by decide)⟩
  split at h
  · obtain ⟨rfl, rfl⟩ := Prod.ext_iff.1 (Except.error.inj h)
    exact ⟨hsafe.2.1, Or.inl (by decide)⟩
  split at h
  · obtain ⟨rfl, rfl⟩ := Prod.ext_iff.1 (Except.error.inj h)
    exact ⟨hsafe.2.2.1, Or.inl (by decide)⟩
  split at h
  · obtain ⟨rfl, rfl⟩ := Prod.ext_iff.1 (Except.error.inj h)
    exact ⟨hsafe.2.2.2.1, Or.inr rfl⟩
  split at h
  · obtain ⟨rfl, rfl⟩ := Prod.ext_iff.1 (Except.error.inj h)
    exact ⟨hsafe.2.2.2.2.1, Or.inr rfl⟩
  split at h
  · obtain ⟨rfl, rfl⟩ := Prod.ext_iff.1 (Except.error.inj h)
    exact ⟨hsafe.2.2.2.2.2.1, Or.inr rfl⟩
  split at h
  · obtain ⟨rfl, rfl⟩ := Prod.ext_iff.1 (Except.error.inj h)
    exact ⟨hsafe.2.2.2.2.2.2.1, Or.inl (by decide)⟩
  split at h
  · obtain ⟨rfl, rfl⟩ := Prod.ext_iff.1 (Except.error.inj h)
    exact ⟨hsafe.2.2.2.2.2.2.2.1, Or.inr rfl⟩
  split at h
  · obtain ⟨rfl, rfl⟩ := Prod.ext_iff.1 (Except.error.inj h)
    exact ⟨hsafe.2.2.2.2.2.2.2.2.1, Or.inr rfl⟩
  split at h
  · obtain ⟨rfl, rfl⟩ := Prod.ext_iff.1 (Except.error.inj h)
    exact ⟨hsafe.2.2.2.2.2.2.2.2.2.1, Or.inl (by decide)⟩
  · split at h
    · contradiction
    · obtain ⟨rfl, rfl⟩ := Prod.ext_iff.1 (Except.error.inj h)
      exact ⟨hsafe.2.2.2.2.2.2.2.2.2.2, Or.inl (by decide)⟩

/-! ## The permission that both sides derive -/

/-- The permissions of a repository are none of an endpoint, and the sources are different. -/
lemma permissionTexts_differ :
    ((∀ p ∈ allowedRepoPermissions, p ∉ writeEndpointPermissions) ∧
      ∀ p ∈ allowedEndpointPermissions, p ∉ writeRepoPermissions) ∧
    ("pat" : Text) ≠ "fine_grained_pat" ∧ ("pat" : Text) ≠ "github_app_installation" ∧
      ("pat" : Text) ≠ "github_app_user" ∧ ("fine_grained_pat" : Text) ≠ "github_app_installation" ∧
      ("fine_grained_pat" : Text) ≠ "github_app_user" ∧
      ("github_app_installation" : Text) ≠ "github_app_user" := by
  decide +kernel

/-- For an allowed source, the gate derives the permission that the results derive. -/
lemma derivePermission_toOption (probe : ActorPermissionProbeResult) {credentialSource : Text}
    (hsource : credentialSource ∈ allowedCredentialSources) :
    (derivePermission probe credentialSource).toOption =
      actorPermissionDerivedPermission (some credentialSource) probe.repoPermission.clean
        probe.installationPermission.clean probe.endpointPermission.clean := by
  unfold derivePermission actorPermissionDerivedPermission
  dsimp only
  generalize probe.repoPermission.clean = repo
  generalize probe.installationPermission.clean = installation
  generalize probe.endpointPermission.clean = endpoint
  obtain ⟨⟨hrepoWrite, hendpointWrite⟩, h₁₂, h₁₃, h₁₄, h₂₃, h₂₄, h₃₄⟩ := permissionTexts_differ
  simp only [Option.bind_eq_bind, Option.bind_some]
  by_cases hrepo : ∃ p ∈ repo, p ∉ allowedRepoPermissions
  · rw [if_pos hrepo, if_pos (Or.inr (Or.inl hrepo))]
    rfl
  by_cases hinstallation : ∃ p ∈ installation, p ∉ allowedEndpointPermissions
  · rw [if_neg hrepo, if_pos hinstallation, if_pos (Or.inr (Or.inr (Or.inl hinstallation)))]
    rfl
  by_cases hendpoint : ∃ p ∈ endpoint, p ∉ allowedEndpointPermissions
  · rw [if_neg hrepo, if_neg hinstallation, if_pos hendpoint,
      if_pos (Or.inr (Or.inr (Or.inr hendpoint)))]
    rfl
  have hvalid : ¬ (credentialSource ∉ allowedCredentialSources ∨
      (∃ p ∈ repo, p ∉ allowedRepoPermissions) ∨
      (∃ p ∈ installation, p ∉ allowedEndpointPermissions) ∨
      (∃ p ∈ endpoint, p ∉ allowedEndpointPermissions)) := by
    simp only [hsource, hrepo, hinstallation, hendpoint, not_true_eq_false, or_self,
      not_false_eq_true]
  rw [if_neg hrepo, if_neg hinstallation, if_neg hendpoint, if_neg hvalid]
  push Not at hrepo hinstallation hendpoint
  clear hvalid
  unfold sourcePermission
  have hsources : credentialSource = "pat" ∨ credentialSource = "fine_grained_pat" ∨
      credentialSource = "github_app_installation" ∨ credentialSource = "github_app_user" := by
    simpa [allowedCredentialSources] using hsource
  clear hsource
  have hok : ∀ p : Text, (Except.ok p : Except (ActorPermissionReasonCode × Text) Text).toOption =
      some p := fun _ => rfl
  have herror : ∀ e, (Except.error e : Except (ActorPermissionReasonCode × Text) Text).toOption =
      none := fun _ => rfl
  rcases hsources with rfl | rfl | rfl | rfl
  · cases installation <;> cases endpoint <;> cases repo <;>
      simp_all [apply_ite Except.toOption, Option.filter_some]
  · cases installation <;> cases endpoint <;> cases repo <;>
      simp_all [apply_ite Except.toOption, Option.filter_some, h₁₂.symm]
  · -- The permission of the endpoint must mirror that of the installation.
    by_cases hmirror : endpoint = none ∨ endpoint = installation
    · cases installation <;> rcases hmirror with rfl | rfl <;> cases repo <;>
        simp_all [apply_ite Except.toOption, Option.filter_some, h₁₃.symm, h₂₃.symm]
    · cases installation <;> cases endpoint <;> cases repo <;>
        simp_all [h₁₃.symm, h₂₃.symm]
  · cases installation <;> cases endpoint <;> cases repo <;>
      simp_all [apply_ite Except.toOption, Option.filter_some, h₁₄.symm, h₂₄.symm, h₃₄.symm]

/-- A permission that is derived is one to write. -/
lemma actorPermissionDerivedPermission_write
    {credentialSource repo installation endpoint : Option Text} {permission : Text}
    (h : actorPermissionDerivedPermission credentialSource repo installation endpoint =
      some permission) :
    permission ≠ [] ∧
      permission ∉ (["read", "triage", "issues:read", "pull_requests:read"] : List Text) := by
  have hwrite : ∀ p ∈ writeRepoPermissions ++ writeEndpointPermissions, p ≠ [] ∧
      p ∉ (["read", "triage", "issues:read", "pull_requests:read"] : List Text) := by
    decide +kernel
  unfold actorPermissionDerivedPermission at h
  obtain ⟨source, -, h⟩ := Option.bind_eq_some_iff.1 h
  split at h
  · contradiction
  · have hmem := (Option.filter_eq_some_iff.1 h).2
    rw [Bool.or_eq_true, decide_eq_true_eq, decide_eq_true_eq] at hmem
    exact hwrite permission (List.mem_append.2 hmem)

/-! ## Probes that prove the permission -/

/-- A probe that proves that the actor may comment on the expected target. -/
structure ProvesPermission (probe : ActorPermissionProbeResult)
    (expectedTarget : Checked ReviewTarget)
    (evaluatedTime maxProofAgeSeconds : ℤ) : Prop where
  wellTyped : probe.firstMalformedField = none
  transportReasonCode : probe.transportReasonCode = .absent
  actor : safeIdentity probe.actor ≠ none
  credentialPrincipal : safeIdentity probe.credentialPrincipal ≠ none
  permission : actorPermissionDerivedPermission probe.credentialSource.clean
    probe.repoPermission.clean
    probe.installationPermission.clean probe.endpointPermission.clean ≠ none
  issueCommentWrite : probe.issueCommentWrite = .value true
  checkMethod : probe.checkMethod = .value actorPermissionCheckMethod
  endpointMethod : probe.endpointMethod = .value actorPermissionEndpointMethod
  endpointKind : probe.endpointKind = .value actorPermissionEndpointKind
  endpoint : probe.endpoint =
    .value (issueCommentEndpoint expectedTarget.val.ownerRepo expectedTarget.val.prNumber)
  checkedTarget : probe.checkedTarget = .value expectedTarget
  age : ∃ checkedAt checkedTime, probe.checkedAt = .value checkedAt ∧
    parseProbeTime checkedAt = some checkedTime ∧
    -(maxFutureSkewSeconds : ℚ) ≤ totalSeconds evaluatedTime checkedTime ∧
    totalSeconds evaluatedTime checkedTime ≤ maxProofAgeSeconds

/-- What the checks of a probe yield if they pass. -/
structure CheckedProbe (probe : ActorPermissionProbeResult)
    (actor credentialPrincipal credentialSource
    permission : Text) : Prop where
  isActor : safeIdentity probe.actor = some actor
  isPrincipal : safeIdentity probe.credentialPrincipal = some credentialPrincipal
  isSource : safeOneOf allowedCredentialSources probe.credentialSource = some credentialSource
  isPermission : derivePermission probe credentialSource = .ok permission

/-- A clean field has its value. -/
lemma ProbeField.clean_eq_some {field : ProbeField Text} {value : Text}
    (h : field.clean = some value) : field = .value value := by
  obtain ⟨hget, -⟩ := Option.filter_eq_some_iff.1 h
  cases field with
  | value a => rw [Option.some.inj hget]
  | absent => contradiction
  | malformed => contradiction

/-- A value that is not empty is clean. -/
lemma ProbeField.clean_value {value : Text} (h : value ≠ []) :
    (ProbeField.value value).clean = some value := by
  simp [ProbeField.clean, ProbeField.get?, h]

section Branches

variable {probe : ActorPermissionProbeResult} {expectedTarget : Checked ReviewTarget}
  {evaluatedTime maxProofAgeSeconds : ℤ}

/-- A code of the transport is passed on if it is one of its codes. -/
lemma checkProbe_transportCode {code : ActorPermissionReasonCode}
    (hfield : probe.firstMalformedField = none)
    (hwrite : ¬ probe.issueCommentWrite.isMalformed = true)
    (htransport : probe.transportReasonCode = .value code) :
    match checkProbe probe expectedTarget evaluatedTime maxProofAgeSeconds with
    | .error (code, reason, transportReasonCode) => isSafeActorPermissionReason reason = true ∧
        TransportFits code transportReasonCode ∧
        ¬ ProvesPermission probe expectedTarget evaluatedTime maxProofAgeSeconds
    | .ok (actor, credentialPrincipal, credentialSource, permission) =>
        CheckedProbe probe actor credentialPrincipal credentialSource permission ∧
        ProvesPermission probe expectedTarget evaluatedTime maxProofAgeSeconds := by
  have hsafe := gateReasons_safe
  simp only [List.all_cons, List.all_nil, Bool.and_true, Bool.and_eq_true] at hsafe
  have hnot : ¬ ProvesPermission probe expectedTarget evaluatedTime maxProofAgeSeconds := by
    intro h
    rw [h.transportReasonCode] at htransport
    contradiction
  simp only [checkProbe, hfield, if_neg hwrite, htransport]
  by_cases hcode : code ∉ transportActorPermissionReasonCodes
  · rw [if_pos hcode]
    exact ⟨hsafe.2.2.1, ⟨by decide, rfl⟩, hnot⟩
  · rw [if_neg hcode]
    have hcodes : transportActorPermissionReasonCodes.all (fun code =>
        isSafeActorPermissionReason ("permission probe failed: " ++ code.value)) = true := by
      decide +kernel
    exact ⟨List.all_eq_true.1 hcodes _ (not_not.1 hcode), ⟨not_not.1 hcode, rfl⟩, hnot⟩

/-- With the credential, the target and the time of the check read, the rest of the probe
decides. -/
lemma checkProbe_checkedAt {actor credentialPrincipal credentialSource checkedAt : Text}
    {checkedTarget : Checked ReviewTarget} (hfield : probe.firstMalformedField = none)
    (hwrite : ¬ probe.issueCommentWrite.isMalformed = true)
    (htransport : probe.transportReasonCode = .absent)
    (hactor : safeIdentity probe.actor = some actor)
    (hsource : safeOneOf allowedCredentialSources probe.credentialSource = some credentialSource)
    (hprincipal : safeIdentity probe.credentialPrincipal = some credentialPrincipal)
    (hmethod : ¬ probe.checkMethod.clean = none)
    (htarget : probe.checkedTarget = .value checkedTarget)
    (hcheckedAt : probe.checkedAt.clean = some checkedAt) :
    match checkProbe probe expectedTarget evaluatedTime maxProofAgeSeconds with
    | .error (code, reason, transportReasonCode) => isSafeActorPermissionReason reason = true ∧
        TransportFits code transportReasonCode ∧
        ¬ ProvesPermission probe expectedTarget evaluatedTime maxProofAgeSeconds
    | .ok (actor, credentialPrincipal, credentialSource, permission) =>
        CheckedProbe probe actor credentialPrincipal credentialSource permission ∧
        ProvesPermission probe expectedTarget evaluatedTime maxProofAgeSeconds := by
  have hsafe := gateReasons_safe
  simp only [List.all_cons, List.all_nil, Bool.and_true, Bool.and_eq_true] at hsafe
  have hvalue := ProbeField.clean_eq_some hcheckedAt
  simp only [checkProbe, hfield, if_neg hwrite, htransport, hactor, hsource, hprincipal,
    if_neg hmethod, htarget, hcheckedAt]
  by_cases hmismatch : probe.checkMethod ≠ .value actorPermissionCheckMethod ∨
      probe.endpointMethod ≠ .value actorPermissionEndpointMethod ∨
      probe.endpointKind ≠ .value actorPermissionEndpointKind ∨
      probe.endpoint ≠ .value
        (issueCommentEndpoint expectedTarget.val.ownerRepo expectedTarget.val.prNumber) ∨
      checkedTarget ≠ expectedTarget
  · rw [if_pos hmismatch]
    refine ⟨hsafe.2.2.2.2.2.2.2.2.2.2.1, Or.inl (by decide), fun h => ?_⟩
    rcases hmismatch with hmismatch | hmismatch | hmismatch | hmismatch | hmismatch
    · exact hmismatch h.checkMethod
    · exact hmismatch h.endpointMethod
    · exact hmismatch h.endpointKind
    · exact hmismatch h.endpoint
    · exact hmismatch (ProbeField.value.inj (htarget.symm.trans h.checkedTarget))
  rw [if_neg hmismatch]
  simp only [not_or, ne_eq, not_not] at hmismatch
  obtain ⟨hcheckMethod, hendpointMethod, hendpointKind, hendpoint, rfl⟩ := hmismatch
  cases hparse : parseProbeTime checkedAt with
  | none =>
    refine ⟨hsafe.2.2.2.2.2.2.2.2.2.2.2.1, Or.inr rfl, fun h => ?_⟩
    obtain ⟨checkedAt', checkedTime, hvalue', hparse', -⟩ := h.age
    obtain rfl := ProbeField.value.inj (hvalue.symm.trans hvalue')
    rw [hparse] at hparse'
    contradiction
  | some checkedTime =>
  dsimp only
  by_cases hage : maxProofAgeSeconds < totalSeconds evaluatedTime checkedTime ∨
      totalSeconds evaluatedTime checkedTime < -maxFutureSkewSeconds
  · rw [if_pos hage]
    refine ⟨hsafe.2.2.2.2.2.2.2.2.2.2.2.2.1, Or.inl (by decide), fun h => ?_⟩
    obtain ⟨checkedAt', checkedTime', hvalue', hparse', hfuture, hstale⟩ := h.age
    obtain rfl := ProbeField.value.inj (hvalue.symm.trans hvalue')
    obtain rfl := Option.some.inj (hparse.symm.trans hparse')
    rcases hage with hage | hage
    · exact absurd hage (not_lt.2 hstale)
    · exact absurd hage (not_lt.2 hfuture)
  rw [if_neg hage]
  rw [not_or, not_lt, not_lt] at hage
  have hsourceClean := (Option.filter_eq_some_iff.1 hsource).1
  have hderived := derivePermission_toOption probe (safeOneOf_eq_some hsource).2
  rw [← hsourceClean] at hderived
  cases hpermission : derivePermission probe credentialSource with
  | error e =>
    obtain ⟨hreason, hfits⟩ := derivePermission_error hpermission
    refine ⟨hreason, hfits, fun h => h.permission ?_⟩
    rw [← hderived, hpermission]
    rfl
  | ok permission =>
  dsimp only
  by_cases hproven : probe.issueCommentWrite ≠ .value true
  · rw [if_pos hproven]
    exact ⟨hsafe.2.2.2.2.2.2.2.2.2.2.2.2.2, Or.inl (by decide), fun h =>
      hproven h.issueCommentWrite⟩
  rw [if_neg hproven]
  refine ⟨⟨hactor, hprincipal, hsource, hpermission⟩, hfield, htransport, by simp [hactor],
    by simp [hprincipal], ?_, not_not.1 hproven, hcheckMethod, hendpointMethod, hendpointKind,
    hendpoint, htarget, checkedAt, checkedTime, hvalue, hparse, hage.2, hage.1⟩
  rw [← hderived, hpermission]
  simp [Except.toOption]

end Branches

/-- The checks of a probe fail with a safe reason, or the probe proves the permission. -/
lemma checkProbe_spec (probe : ActorPermissionProbeResult) (expectedTarget : Checked ReviewTarget)
    (evaluatedTime maxProofAgeSeconds : ℤ) :
    match checkProbe probe expectedTarget evaluatedTime maxProofAgeSeconds with
    | .error (code, reason, transportReasonCode) => isSafeActorPermissionReason reason = true ∧
        TransportFits code transportReasonCode ∧
        ¬ ProvesPermission probe expectedTarget evaluatedTime maxProofAgeSeconds
    | .ok (actor, credentialPrincipal, credentialSource, permission) =>
        CheckedProbe probe actor credentialPrincipal credentialSource permission ∧
        ProvesPermission probe expectedTarget evaluatedTime maxProofAgeSeconds := by
  have hsafe := gateReasons_safe
  simp only [List.all_cons, List.all_nil, Bool.and_true, Bool.and_eq_true] at hsafe
  cases hfield : probe.firstMalformedField with
  | some field =>
    simp only [checkProbe, hfield]
    refine ⟨firstMalformedField_safe hfield, Or.inr rfl, fun h => ?_⟩
    rw [h.wellTyped] at hfield
    contradiction
  | none =>
  by_cases hwrite : probe.issueCommentWrite.isMalformed = true
  · simp only [checkProbe, hfield, if_pos hwrite]
    refine ⟨hsafe.1, Or.inr rfl, fun h => ?_⟩
    rw [h.issueCommentWrite] at hwrite
    contradiction
  cases htransport : probe.transportReasonCode with
  | malformed =>
    simp only [checkProbe, hfield, if_neg hwrite, htransport]
    refine ⟨hsafe.2.1, ⟨by decide, rfl⟩, fun h => ?_⟩
    rw [h.transportReasonCode] at htransport
    contradiction
  | value code => exact checkProbe_transportCode hfield hwrite htransport
  | absent =>
  cases hactor : safeIdentity probe.actor with
  | none =>
    simp only [checkProbe, hfield, if_neg hwrite, htransport, hactor]
    exact ⟨hsafe.2.2.2.1, Or.inl (by decide), fun h => h.actor hactor⟩
  | some actor =>
  cases hsource : safeOneOf allowedCredentialSources probe.credentialSource with
  | none =>
    simp only [checkProbe, hfield, if_neg hwrite, htransport, hactor, hsource]
    refine ⟨hsafe.2.2.2.2.1, Or.inl (by decide), fun h => h.permission ?_⟩
    unfold actorPermissionDerivedPermission
    cases hclean : probe.credentialSource.clean with
    | none => rfl
    | some source =>
      have hnot : source ∉ allowedCredentialSources := by
        simpa [safeOneOf, hclean, Option.filter_some] using hsource
      exact if_pos (Or.inl hnot)
  | some credentialSource =>
  cases hprincipal : safeIdentity probe.credentialPrincipal with
  | none =>
    simp only [checkProbe, hfield, if_neg hwrite, htransport, hactor, hsource, hprincipal]
    exact ⟨hsafe.2.2.2.2.2.1, Or.inl (by decide), fun h => h.credentialPrincipal hprincipal⟩
  | some credentialPrincipal =>
  by_cases hmethod : probe.checkMethod.clean = none
  · simp only [checkProbe, hfield, if_neg hwrite, htransport, hactor, hsource, hprincipal,
      if_pos hmethod]
    refine ⟨hsafe.2.2.2.2.2.2.1, Or.inl (by decide), fun h => ?_⟩
    rw [h.checkMethod, ProbeField.clean_value (by
      simp [actorPermissionCheckMethod, Text.ofString_eq])] at hmethod
    contradiction
  cases htarget : probe.checkedTarget with
  | absent =>
    simp only [checkProbe, hfield, if_neg hwrite, htransport, hactor, hsource, hprincipal,
      if_neg hmethod, htarget]
    refine ⟨hsafe.2.2.2.2.2.2.2.1, Or.inl (by decide), fun h => ?_⟩
    rw [h.checkedTarget] at htarget
    contradiction
  | malformed =>
    simp only [checkProbe, hfield, if_neg hwrite, htransport, hactor, hsource, hprincipal,
      if_neg hmethod, htarget]
    refine ⟨hsafe.2.2.2.2.2.2.2.2.1, Or.inr rfl, fun h => ?_⟩
    rw [h.checkedTarget] at htarget
    contradiction
  | value checkedTarget =>
  cases hcheckedAt : probe.checkedAt.clean with
  | none =>
    simp only [checkProbe, hfield, if_neg hwrite, htransport, hactor, hsource, hprincipal,
      if_neg hmethod, htarget, hcheckedAt]
    refine ⟨hsafe.2.2.2.2.2.2.2.2.2.1, Or.inl (by decide), fun h => ?_⟩
    obtain ⟨checkedAt, checkedTime, hvalue, hparse, -⟩ := h.age
    have hne : checkedAt ≠ [] := by
      rintro rfl
      exact absurd hparse (by simp [parseProbeTime, matchesRfc3339UtcZ, slice])
    rw [hvalue, ProbeField.clean_value hne] at hcheckedAt
    contradiction
  | some checkedAt =>
    exact checkProbe_checkedAt hfield hwrite htransport hactor hsource hprincipal hmethod htarget
      hcheckedAt

/-! ## The gate -/

/-- The result of a probe that proves the permission passes its checks. -/
lemma passedGate_ok {probe : ActorPermissionProbeResult} {expectedTarget : Checked ReviewTarget}
    {evaluatedTime maxProofAgeSeconds : ℤ}
    {actor credentialPrincipal credentialSource permission : Text}
    {summary : Checked ActorPermissionTransportSummary}
    (hproves : ProvesPermission probe expectedTarget evaluatedTime maxProofAgeSeconds)
    (hchecked : CheckedProbe probe actor credentialPrincipal credentialSource permission)
    (hsummary : permissionTransportSummary probe none = .ok summary) :
    Record.postInit (passedGate probe expectedTarget actor credentialPrincipal credentialSource
      permission
      summary) = .ok () := by
  obtain ⟨summary', hsummary', hsummaryVal⟩ := permissionTransportSummary_ok probe none
  obtain rfl : summary = summary' := Except.ok.inj (hsummary.symm.trans hsummary')
  obtain ⟨hactorNe, hactorSafe⟩ := safeIdentity_eq_some hchecked.isActor
  obtain ⟨hprincipalNe, hprincipalSafe⟩ := safeIdentity_eq_some hchecked.isPrincipal
  obtain ⟨hsourceNe, hsource⟩ := safeOneOf_eq_some hchecked.isSource
  have hderived : actorPermissionDerivedPermission (some credentialSource)
      probe.repoPermission.clean
      probe.installationPermission.clean probe.endpointPermission.clean = some permission := by
    rw [← derivePermission_toOption probe hsource, hchecked.isPermission]
    rfl
  obtain ⟨hpermissionNe, hpermissionWrite⟩ := actorPermissionDerivedPermission_write hderived
  obtain ⟨checkedAt, checkedTime, hcheckedAt, hparse, -⟩ := hproves.age
  have hrealistic : isRealisticRfc3339UtcZ checkedAt = true :=
    isRealisticRfc3339UtcZ_of_parse (by rw [hparse]; rfl)
  have hcheckedAtNe : checkedAt ≠ [] := by
    rintro rfl
    exact absurd hrealistic (by decide)
  have hconstants : actorPermissionCheckMethod ≠ [] ∧ actorPermissionEndpointMethod ≠ [] ∧
      actorPermissionEndpointKind ≠ [] := by
    simp [actorPermissionCheckMethod, actorPermissionEndpointMethod, actorPermissionEndpointKind,
      Text.ofString_eq]
  have hendpointNe : issueCommentEndpoint expectedTarget.val.ownerRepo expectedTarget.val.prNumber ≠
      [] := by
    simp [issueCommentEndpoint, Text.ofString_eq]
  simp only [Record.postInit, passedGate, ActorPermissionGateResult.validateCommon,
    ActorPermissionGateResult.validatePassFields, ActorPermissionGateResult.validatePassProof,
    ActorPermissionGateResult.validatePassTarget, ActorPermissionGateResult.validatePassTransport,
    check_bind_eq_ok, require_eq_ok, requireEach_eq_ok, requireOptionalNonEmpty_eq_ok,
    requireOptionalHashLike_eq_ok, requireOptional, Option.elim_some, hproves.checkMethod,
    hproves.endpointMethod, hcheckedAt, ProbeField.get?, hderived, hsummaryVal,
    actorPermissionExpectedEndpoint_toOrderedDict]
  have hhash := (ReviewTarget.isStrictSha256_targetHash expectedTarget.val).hashPrefix_accepted
  refine ⟨⟨by simp, by simp [hactorNe], by simp [hpermissionNe], by simp [hcheckedAtNe], by simp,
    by simp [hactorSafe], by simp [hprincipalSafe], by simp, by simp [hprincipalNe],
    by simp [hsourceNe], ProbeField.clean_ne_some_nil _, ProbeField.clean_ne_some_nil _, ProbeField.clean_ne_some_nil _,
    by simp [hconstants], by simp [hconstants], by simp [hhash], by simp [hendpointNe],
    by simp [hconstants]⟩, ⟨by simp, trivial, trivial, trivial, ?_⟩,
    ⟨by simp, trivial, trivial, trivial, ?_⟩,
    ⟨by simp, rfl⟩, by simp⟩
  · intro p hp
    rw [← Option.some.inj hp]
    exact hpermissionWrite
  · intro v hv
    rw [← Option.some.inj hv]
    exact hrealistic

/-- The gate is total: for a time of evaluation that can be read, it returns a result, which passes
exactly if the probe proves the permission.  For the allowed sources of credentials the permission
that it derives is the one that the checks of the result derive. -/
theorem actorPermissionGate_total {evaluatedAt : Text} {evaluatedTime maxProofAgeSeconds : ℤ}
    (hevaluated : parseProbeTime evaluatedAt = some evaluatedTime) (hmax : 0 < maxProofAgeSeconds) :
    (∀ (probe : ActorPermissionProbeResult) (expectedTarget : Checked ReviewTarget),
      ∃ r, evaluateActorPermissionGate probe expectedTarget evaluatedAt maxProofAgeSeconds = .ok r ∧
        (r.val.status = .pass ↔
          ProvesPermission probe expectedTarget evaluatedTime maxProofAgeSeconds)) ∧
    ∀ (probe : ActorPermissionProbeResult), ∀ credentialSource ∈ allowedCredentialSources,
      (derivePermission probe credentialSource).toOption =
        actorPermissionDerivedPermission (some credentialSource) probe.repoPermission.clean
          probe.installationPermission.clean probe.endpointPermission.clean := by
  refine ⟨fun probe expectedTarget => ?_, fun probe _ => derivePermission_toOption probe⟩
  have hspec := checkProbe_spec probe expectedTarget evaluatedTime maxProofAgeSeconds
  unfold evaluateActorPermissionGate
  rw [require_eq_ok.2 hmax, ok_bind, hevaluated]
  dsimp only
  cases hcheck : checkProbe probe expectedTarget evaluatedTime maxProofAgeSeconds with
  | error failure =>
    rw [hcheck] at hspec
    obtain ⟨hreason, hfits, hnot⟩ := hspec
    obtain ⟨r, hr, hstatus⟩ := permissionFail_ok probe hreason hfits
    exact ⟨r, hr, by simp [hstatus, hnot]⟩
  | ok values =>
    rw [hcheck] at hspec
    obtain ⟨hchecked, hproves⟩ := hspec
    obtain ⟨summary, hsummary, -⟩ := permissionTransportSummary_ok probe none
    have hpost := passedGate_ok hproves hchecked hsummary
    refine ⟨⟨_, hpost⟩, ?_, iff_of_true rfl hproves⟩
    dsimp only
    rw [hsummary, ok_bind]
    exact construct_of_postInit hpost

/-- The first pull request of a repository. -/
def gateTarget : Checked ReviewTarget :=
  ⟨⟨"o/r", 1, "base", "head", none, "merge_base"⟩, by
    rw [ReviewTarget.postInit_eq_ok]
    simp [Text.ofString_eq]⟩

/-- A probe of a personal token that may write, from an unknown actor. -/
def namelessProbe : ActorPermissionProbeResult where
  actor := .absent
  credentialPrincipal := .value "alice"
  credentialSource := .value "pat"
  repoPermission := .value "write"
  installationPermission := .absent
  endpointPermission := .absent
  issueCommentWrite := .value true
  checkMethod := .value actorPermissionCheckMethod
  endpointMethod := .value actorPermissionEndpointMethod
  checkedTarget := .value gateTarget
  checkedAt := .value "2026-05-07T00:00:00Z"
  endpoint := .value (issueCommentEndpoint gateTarget.val.ownerRepo gateTarget.val.prNumber)
  endpointKind := .value actorPermissionEndpointKind
  transportReasonCode := .absent
  requestId := .absent
  reason := .absent

/-- The microseconds of the time of the probe. -/
lemma parseProbeTime_gate : parseProbeTime "2026-05-07T00:00:00Z" = some 63913795200000000 := by
  decide +kernel

/-- The gate answers the probe of an unknown actor. -/
theorem actorPermissionGate_total_nameless : ∃ r,
    evaluateActorPermissionGate namelessProbe gateTarget "2026-05-07T00:00:00Z" 300 = .ok r ∧
      (r.val.status = .pass ↔ ProvesPermission namelessProbe gateTarget 63913795200000000 300) :=
  (actorPermissionGate_total parseProbeTime_gate (by decide)).1 namelessProbe gateTarget

/-- The write permission, its target and its age do not suffice without an actor, and for an
unsupported source of credentials the two derivations differ. -/
theorem actorPermissionGate_total_not :
    (∃ r, evaluateActorPermissionGate namelessProbe gateTarget "2026-05-07T00:00:00Z" 300 = .ok r ∧
      r.val.status = .fail ∧
      actorPermissionDerivedPermission namelessProbe.credentialSource.clean
        namelessProbe.repoPermission.clean namelessProbe.installationPermission.clean
        namelessProbe.endpointPermission.clean = some "write" ∧
      namelessProbe.issueCommentWrite = .value true ∧
      namelessProbe.checkMethod = .value actorPermissionCheckMethod ∧
      namelessProbe.endpointMethod = .value actorPermissionEndpointMethod ∧
      namelessProbe.endpointKind = .value actorPermissionEndpointKind ∧
      namelessProbe.endpoint =
        .value (issueCommentEndpoint gateTarget.val.ownerRepo gateTarget.val.prNumber) ∧
      namelessProbe.checkedTarget = .value gateTarget ∧
      namelessProbe.checkedAt = .value "2026-05-07T00:00:00Z") ∧
    (derivePermission namelessProbe "ssh_key").toOption ≠
      actorPermissionDerivedPermission (some "ssh_key") namelessProbe.repoPermission.clean
        namelessProbe.installationPermission.clean namelessProbe.endpointPermission.clean := by
  constructor
  · obtain ⟨summary, hsummary, -⟩ := permissionTransportSummary_ok namelessProbe none
    have hreason : isSafeActorPermissionReason "authenticated GitHub actor is unknown" = true := by
      have hsafe := gateReasons_safe
      simp only [List.all_cons, List.all_nil, Bool.and_true, Bool.and_eq_true] at hsafe
      exact hsafe.2.2.2.1
    have hfits : TransportFits .unknownActor none := Or.inl (by decide)
    obtain ⟨r, hr, hstatus⟩ := permissionFail_ok namelessProbe hreason hfits
    refine ⟨r, ?_, hstatus, by decide +kernel, rfl, rfl, rfl, rfl, rfl, rfl, rfl⟩
    rw [← hr]
    unfold evaluateActorPermissionGate
    rw [require_eq_ok.2 (by decide), ok_bind, parseProbeTime_gate]
    rfl
  · decide +kernel

end ReviewGraph
