import ReviewGraph.Foundation.Sha256
import ReviewGraph.Foundation.Unicode

/-!
# Records and the checks of their fields

The data classes of `models.py` check their fields when they are built.  A data class is modelled
by a structure with its fields and an instance of `Record`, whose `postInit` is the translation of
`__post_init__`: it raises the exception of the first check that fails.  A value of `Checked α` is
an instance that the code can have built.  Checks that only restate the declared type of a field
have no counterpart, because the fields are typed.
-/

namespace ReviewGraph

/-- The exceptions of the modelled code, with their messages. -/
inductive PyError
  | valueError (message : Text)
  | postingPlanError (message : Text)
  | keyError (key : Text)
  deriving DecidableEq, Repr

/-- A computation that may raise. -/
abbrev Result : Type → Type := Except PyError

/-- Raise a `ValueError` unless the condition holds. -/
def require (c : Prop) [Decidable c] (message : Text) : Result Unit :=
  if c then .ok () else .error (.valueError message)

/-- A check passes exactly if its condition holds. -/
@[simp] lemma require_eq_ok {c : Prop} [Decidable c] {message : Text} :
    require c message = .ok () ↔ c := by
  unfold require
  split <;> simp_all

/-- A computation succeeds when both of its parts do. -/
@[simp] lemma bind_eq_ok {α β : Type} {x : Result α} {f : α → Result β} {b : β} :
    (x >>= f) = .ok b ↔ ∃ a, x = .ok a ∧ f a = .ok b := by
  cases x with
  | error e => simp [bind, Except.bind]
  | ok a => simp [bind, Except.bind]

/-- A check followed by a computation succeeds when both do. -/
@[simp high] lemma check_bind_eq_ok {β : Type} {x : Result Unit} {f : Unit → Result β} {b : β} :
    (x >>= f) = .ok b ↔ x = .ok () ∧ f () = .ok b := by
  rw [bind_eq_ok]
  exact ⟨fun ⟨(), h⟩ => h, fun h => ⟨(), h⟩⟩

/-- A computation that has succeeded continues with its value. -/
@[simp] lemma ok_bind {α β : Type} (a : α) (f : α → Result β) :
    ((.ok a : Result α) >>= f) = f a := rfl

/-- A pure value is the result. -/
@[simp] lemma pure_eq_ok {α : Type} {a b : α} : (pure a : Result α) = .ok b ↔ a = b := by
  simp [pure, Except.pure]

/-- A list is mapped exactly if all of its elements are, each to its own value. -/
lemma mapM_eq_ok {ε α β : Type} {f : α → Except ε β} {as : List α} {bs : List β} :
    as.mapM f = .ok bs ↔ List.Forall₂ (fun a b => f a = .ok b) as bs := by
  induction as generalizing bs with
  | nil =>
    rw [List.mapM_nil, List.forall₂_nil_left_iff]
    simp [pure, Except.pure, eq_comm]
  | cons a as ih =>
    rw [List.mapM_cons]
    cases ha : f a with
    | error e =>
      simp only [bind, Except.bind, reduceCtorEq, false_iff]
      intro h
      cases h with
      | cons h _ => rw [ha] at h; contradiction
    | ok b =>
      cases has : as.mapM f with
      | error e =>
        simp only [bind, Except.bind, reduceCtorEq, false_iff]
        intro h
        cases h with
        | cons _ h => rw [← ih, has] at h; contradiction
      | ok cs =>
        have htail : List.Forall₂ (fun a b => f a = .ok b) as cs := ih.1 has
        simp only [bind, Except.bind, pure, Except.pure, Except.ok.injEq]
        constructor
        · rintro rfl
          exact .cons ha htail
        · intro h
          cases h with
          | cons h h' =>
            rw [← ih, has] at h'
            rw [Except.ok.inj (ha.symm.trans h), Except.ok.inj h']

/-! ## Records -/

/-- A data class with the checks of its `__post_init__`. -/
class Record (α : Type) where
  /-- The checks, in the order of the code. -/
  postInit : α → Result Unit

/-- The instances of a data class that pass their checks. -/
abbrev Checked (α : Type) [Record α] : Type := {a : α // Record.postInit a = .ok ()}

/-- Build an instance of a data class. -/
def construct {α : Type} [Record α] (a : α) : Result (Checked α) :=
  match h : Record.postInit a with
  | .ok () => .ok ⟨a, h⟩
  | .error e => .error e

/-- An instance is built exactly from fields that pass the checks. -/
@[simp] lemma construct_eq_ok {α : Type} [Record α] {a : α} {r : Checked α} :
    construct a = .ok r ↔ r.val = a := by
  unfold construct
  split
  · rename_i h
    simp [Subtype.ext_iff, eq_comm]
  · rename_i e h
    simp only [reduceCtorEq, false_iff]
    rintro rfl
    exact absurd (h.symm.trans r.property) (by simp)

/-- Fields that pass the checks build an instance. -/
lemma construct_of_postInit {α : Type} [Record α] {a : α} (h : Record.postInit a = .ok ()) :
    construct a = .ok ⟨a, h⟩ :=
  construct_eq_ok.2 rfl

/-! ## Texts -/

/-- `_require_non_empty`. -/
def requireNonEmpty (value : Text) (fieldName : Text) : Result Unit :=
  require (value ≠ []) (fieldName ++ " is required")

/-- `_require_optional_non_empty`. -/
def requireOptionalNonEmpty (value : Option Text) (fieldName : Text) : Result Unit :=
  value.elim (.ok ()) (requireNonEmpty · fieldName)

/-- `_require_string_tuple`; the messages concern the elements first and emptiness second. -/
def requireStringTuple (value : List Text) (fieldName : Text) (allowEmpty : Bool) :
    Result Unit := do
  require (∀ item ∈ value, item ≠ []) (fieldName ++ " must be a tuple of non-empty strings")
  require (allowEmpty = true ∨ value ≠ []) (fieldName ++ " must include at least one reason")

/-- `_require_allowed_str_tuple`. -/
def requireAllowedStrTuple (value : List Text) (fieldName : Text) (allowed : List Text) :
    Result Unit := do
  requireStringTuple value fieldName true
  require (∀ item ∈ value, item ∈ allowed) (fieldName ++ " contains unsupported values: " ++
    Text.join ", " (Text.sorted (value.filter (· ∉ allowed))))

/-- The text is not empty. -/
@[simp] lemma requireNonEmpty_eq_ok {value fieldName : Text} :
    requireNonEmpty value fieldName = .ok () ↔ value ≠ [] := require_eq_ok

/-- The text is absent or not empty. -/
@[simp] lemma requireOptionalNonEmpty_eq_ok {value : Option Text} {fieldName : Text} :
    requireOptionalNonEmpty value fieldName = .ok () ↔ value ≠ some [] := by
  cases value <;> simp [requireOptionalNonEmpty]

/-- The texts are not empty, and there are some unless none are allowed. -/
@[simp] lemma requireStringTuple_eq_ok {value : List Text} {fieldName : Text} {allowEmpty : Bool} :
    requireStringTuple value fieldName allowEmpty = .ok () ↔
      (∀ item ∈ value, item ≠ []) ∧ (allowEmpty = true ∨ value ≠ []) := by
  simp only [requireStringTuple, check_bind_eq_ok, require_eq_ok]

/-- The texts are not empty and allowed. -/
@[simp] lemma requireAllowedStrTuple_eq_ok {value : List Text} {fieldName : Text}
    {allowed : List Text} :
    requireAllowedStrTuple value fieldName allowed = .ok () ↔
      (∀ item ∈ value, item ≠ []) ∧ ∀ item ∈ value, item ∈ allowed := by
  simp only [requireAllowedStrTuple, check_bind_eq_ok, requireStringTuple_eq_ok, require_eq_ok,
    true_or, and_true]

/-! ## Hashes -/

/-- `HASH_PREFIX`. -/
def hashPrefix : Text := "sha256:"

/-- The characters of the prefix. -/
lemma hashPrefix_eq : hashPrefix = ['s', 'h', 'a', '2', '5', '6', ':'] := by
  simp [hashPrefix, Text.ofString_eq]

/-- `_require_hash_like`. -/
def requireHashLike (value : Text) (fieldName : Text) : Result Unit := do
  requireNonEmpty value fieldName
  require (hashPrefix <+: value) (fieldName ++ " must be a sha256 hash")

/-- `_require_optional_hash_like`. -/
def requireOptionalHashLike (value : Option Text) (fieldName : Text) : Result Unit :=
  value.elim (.ok ()) (requireHashLike · fieldName)

/-- A hash prefix followed by 64 lowercase hexadecimal digits. -/
def IsStrictSha256 (value : Text) : Prop :=
  ∃ digest, value = hashPrefix ++ digest ∧ digest.length = 64 ∧
    ∀ c ∈ digest, Sha256.isHexDigit c = true

/-- Decide whether a text is a strict hash. -/
def isStrictSha256 (value : Text) : Bool :=
  match hashPrefix.isPrefixOf? value with
  | some digest => digest.length == 64 && digest.all Sha256.isHexDigit
  | none => false

/-- The check decides whether a text is a hash. -/
lemma isStrictSha256_iff {value : Text} : isStrictSha256 value = true ↔ IsStrictSha256 value := by
  unfold isStrictSha256 IsStrictSha256
  constructor
  · intro h
    split at h
    · rename_i digest heq
      simp only [Bool.and_eq_true, beq_iff_eq, List.all_eq_true] at h
      exact ⟨digest, Text.isPrefixOf?_eq_some_iff.1 heq, h⟩
    · contradiction
  · rintro ⟨digest, rfl, hlen, hdigits⟩
    rw [Text.isPrefixOf?_append]
    simp only [Bool.and_eq_true, beq_iff_eq, List.all_eq_true]
    exact ⟨hlen, hdigits⟩

instance (value : Text) : Decidable (IsStrictSha256 value) :=
  decidable_of_iff _ isStrictSha256_iff

/-- `_require_strict_sha256`. -/
def requireStrictSha256 (value : Text) (fieldName : Text) : Result Unit := do
  requireHashLike value fieldName
  require (IsStrictSha256 value) (fieldName ++ " must be a strict sha256 hash")

/-- A hash has the prefix. -/
lemma IsStrictSha256.hashPrefix_accepted {value : Text} (h : IsStrictSha256 value) :
    hashPrefix <+: value := by
  obtain ⟨digest, rfl, -⟩ := h
  exact List.prefix_append _ _

/-- A hash is not empty. -/
lemma IsStrictSha256.ne_nil {value : Text} (h : IsStrictSha256 value) : value ≠ [] := by
  obtain ⟨digest, rfl, -⟩ := h
  simp [hashPrefix_eq]

/-- A strict hash has 71 characters. -/
lemma IsStrictSha256.length_eq {value : Text} (h : IsStrictSha256 value) : value.length = 71 := by
  obtain ⟨digest, rfl, hlen, -⟩ := h
  simp [hashPrefix_eq, hlen]

/-- The text has the prefix of a hash. -/
@[simp] lemma requireHashLike_eq_ok {value fieldName : Text} :
    requireHashLike value fieldName = .ok () ↔ hashPrefix <+: value := by
  simp only [requireHashLike, check_bind_eq_ok, requireNonEmpty_eq_ok, require_eq_ok]
  constructor
  · exact And.right
  · rintro ⟨t, rfl⟩
    exact ⟨by simp [hashPrefix_eq], List.prefix_append _ _⟩

/-- So it has if it is there. -/
@[simp] lemma requireOptionalHashLike_eq_ok {value : Option Text} {fieldName : Text} :
    requireOptionalHashLike value fieldName = .ok () ↔ ∀ v ∈ value, hashPrefix <+: v := by
  cases value <;> simp [requireOptionalHashLike]

/-- The text is a hash. -/
@[simp] lemma requireStrictSha256_eq_ok {value fieldName : Text} :
    requireStrictSha256 value fieldName = .ok () ↔ IsStrictSha256 value := by
  simp only [requireStrictSha256, check_bind_eq_ok, requireHashLike_eq_ok, require_eq_ok]
  exact ⟨And.right, fun h => ⟨h.hashPrefix_accepted, h⟩⟩

/-! ## Identifiers -/

/-- The characters of `ALLOWED_ACTOR_PERMISSION_REQUEST_ID_CHARS`: ASCII letters and digits and
`._:/#-`. -/
def isAllowedRequestIdChar (c : Char) : Bool :=
  Unicode.isAsciiAlphanumeric c || c ∈ ['.', '_', ':', '/', '#', '-']

/-- `SECRET_ACTOR_PERMISSION_REQUEST_ID_FRAGMENTS`. -/
def secretFragments : List Text := ["token", "ghp_", "github_pat_", "gho_", "ghs_", "ghu_"]

/-- The text contains a fragment of a secret in any case. -/
def hasSecretFragment (value : Text) : Bool := value.casefold.containsAny secretFragments

/-- The checks of a request identifier in a transport summary; the owner of the field is named in
the messages. -/
def requireRequestId (owner : Text) (requestId : Option Text) : Result Unit := do
  requireOptionalNonEmpty requestId (owner ++ " request_id")
  requestId.elim (.ok ()) fun value => do
    require (value.length ≤ 128 ∧ ∀ c ∈ value, isAllowedRequestIdChar c = true)
      (owner ++ " request_id must be allowlisted")
    require (hasSecretFragment value = false) (owner ++ " request_id must not contain secrets")

/-- `_is_safe_actor_permission_identity`. -/
def isSafeActorPermissionIdentity (value : Text) : Bool :=
  value ≠ [] && value.length ≤ 128 &&
    value.all (fun c => isAllowedRequestIdChar c || c ∈ ['[', ']', '@']) &&
    !hasSecretFragment value

/-- `_is_safe_actor_permission_reason`. -/
def isSafeActorPermissionReason (value : Text) : Bool :=
  value ≠ [] && value.length ≤ 256 && !hasSecretFragment value &&
    value.all fun c => c ∈ ['\n', '\r', '\t'] || (32 ≤ c.toNat && c.toNat ≤ 126)

end ReviewGraph
