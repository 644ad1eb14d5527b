import ReviewGraph.Foundation.Json
import ReviewGraph.Models.Validation

/-!
# Parsers of inputs

A parser of decoded JSON raises errors of its own kind, and the constructors that it calls raise
theirs. An error of a constructor escapes unless the parser catches it; `escapes_bind` and
`escapes_mapM` say where an error that escapes comes from.
-/

namespace ReviewGraph

/-! ## Errors -/

/-- What a parser raises: an error of its own kind, or an error of a constructor. -/
inductive InputError
  | own (message : Text)
  | escaped (e : PyError)
  deriving DecidableEq

/-- A parser. -/
abbrev Parse : Type → Type := Except InputError

/-- Raise an error of the parser unless the condition holds. -/
def demand (c : Prop) [Decidable c] (message : Text) : Parse Unit :=
  if c then .ok () else .error (.own message)

/-- Call a constructor. -/
def build {α : Type} [Record α] (a : α) : Parse (Checked α) :=
  match construct a with
  | .ok r => .ok r
  | .error e => .error (.escaped e)

/-- `except ValueError as exc`, to raise an error of the parser with the same text. -/
def reraise {α : Type} : Parse α → Parse α
  | .error (.escaped (.valueError message)) => .error (.own message)
  | x => x

/-- The error of a constructor leaves the parser. -/
def Escapes {α : Type} (x : Parse α) : Prop := ∃ e, x = .error (.escaped e)

/-- A computation returns or raises an error of the parser. -/
def OwnErrors {α : Type} (x : Parse α) : Prop := (∃ a, x = .ok a) ∨ ∃ message,
    x = .error (.own message)

/-- A part of the input is well formed. -/
def Reads {α : Type} (x : Parse α) : Prop := ∃ a, x = .ok a

/-- A parser raises its own errors exactly if no other error escapes it. -/
lemma ownErrors_iff {α : Type} {x : Parse α} : OwnErrors x ↔ ¬ Escapes x := by
  cases x with
  | ok a => simp [OwnErrors, Escapes]
  | error e => cases e <;> simp [OwnErrors, Escapes]

instance {α : Type} (x : Parse α) : Decidable (Escapes x) :=
  match x with
  | .ok _ => .isFalse (by simp [Escapes])
  | .error (.own _) => .isFalse (by simp [Escapes])
  | .error (.escaped e) => .isTrue ⟨e, rfl⟩

/-- A demand passes exactly if its condition holds. -/
@[simp] lemma demand_eq_ok {c : Prop} [Decidable c] {message : Text} :
    demand c message = .ok () ↔ c := by
  unfold demand
  split <;> simp_all

/-- Nothing escapes from a value. -/
@[simp] lemma not_escapes_ok {α : Type} (a : α) : ¬ Escapes (.ok a : Parse α) := by simp [Escapes]

/-- Nothing escapes from a pure value. -/
@[simp] lemma not_escapes_pure {α : Type} (a : α) : ¬ Escapes (pure a : Parse α) := not_escapes_ok a

/-- An error of its own does not escape a parser. -/
@[simp] lemma not_escapes_own {α : Type} (message : Text) :
    ¬ Escapes (.error (.own message) : Parse α) := by simp [Escapes]

/-- Nothing escapes from a demand. -/
@[simp] lemma not_escapes_demand (c : Prop) [Decidable c] (message : Text) :
    ¬ Escapes (demand c message) := by
  unfold demand
  split
  · exact not_escapes_ok ()
  · exact not_escapes_own message

/-- A sequence of computations succeeds if each of them does. -/
lemma parse_bind_eq_ok {α β : Type} {x : Parse α} {f : α → Parse β} {b : β} :
    (x >>= f) = .ok b ↔ ∃ a, x = .ok a ∧ f a = .ok b := by
  cases x with
  | error e => simp [bind, Except.bind]
  | ok a => simp [bind, Except.bind]

/-- An error escapes from the first part of a sequence, or from the second one after it. -/
lemma escapes_bind {α β : Type} {x : Parse α} {f : α → Parse β} :
    Escapes (x >>= f) ↔ Escapes x ∨ ∃ a, x = .ok a ∧ Escapes (f a) := by
  cases x with
  | error e => simp [Escapes, bind, Except.bind]
  | ok a => simp [Escapes, bind, Except.bind]

/-- An error escapes after a check that holds. -/
lemma escapes_demand_bind {α : Type} {c : Prop} [Decidable c] {message : Text}
    {f : Unit → Parse α} :
    Escapes (demand c message >>= f) ↔ c ∧ Escapes (f ()) := by
  rw [escapes_bind, or_iff_right (not_escapes_demand c message)]
  constructor
  · rintro ⟨⟨⟩, hc, hf⟩
    exact ⟨demand_eq_ok.1 hc, hf⟩
  · rintro ⟨hc, hf⟩
    exact ⟨(), demand_eq_ok.2 hc, hf⟩

/-- After a computation from which no error escapes. -/
lemma escapes_bind_of_not {α β : Type} {x : Parse α} {f : α → Parse β} (h : ¬ Escapes x) :
    Escapes (x >>= f) ↔ ∃ a, x = .ok a ∧ Escapes (f a) := by
  rw [escapes_bind, or_iff_right h]

/-- Nothing escapes from a sequence if nothing escapes from its parts. -/
lemma not_escapes_bind {α β : Type} {x : Parse α} {f : α → Parse β} (h : ¬ Escapes x)
    (h' : ∀ a, x = .ok a → ¬ Escapes (f a)) : ¬ Escapes (x >>= f) := by
  rw [escapes_bind_of_not h]
  rintro ⟨a, ha, hf⟩
  exact h' a ha hf

/-- An error escapes from a loop at the first element from which one does. -/
lemma escapes_mapM {α β : Type} {f : α → Parse β} {as : List α} :
    Escapes (as.mapM f) ↔ ∃ before a after, as = before ++ a :: after ∧
      (∀ b ∈ before, ∃ c, f b = .ok c) ∧ Escapes (f a) := by
  induction as with
  | nil =>
    rw [List.mapM_nil]
    simp
  | cons a as ih =>
    rw [List.mapM_cons, escapes_bind]
    constructor
    · rintro (ha | ⟨b, hb, hrest⟩)
      · exact ⟨[], a, as, rfl, by simp, ha⟩
      · rw [escapes_bind] at hrest
        rcases hrest with hrest | ⟨bs, -, hpure⟩
        · obtain ⟨before, c, after, rfl, hbefore, hc⟩ := ih.1 hrest
          refine ⟨a :: before, c, after, rfl, ?_, hc⟩
          rw [List.forall_mem_cons]
          exact ⟨⟨b, hb⟩, hbefore⟩
        · exact absurd hpure (not_escapes_pure _)
    · rintro ⟨before, c, after, heq, hbefore, hc⟩
      cases before with
      | nil =>
        obtain ⟨rfl, -⟩ := List.cons.inj heq
        exact .inl hc
      | cons a' before =>
        obtain ⟨rfl, rfl⟩ := List.cons.inj heq
        rw [List.forall_mem_cons] at hbefore
        obtain ⟨⟨b, hb⟩, hbefore⟩ := hbefore
        exact .inr ⟨b, hb, escapes_bind.2 (.inl (ih.2 ⟨before, c, after, rfl, hbefore, hc⟩))⟩

/-- Nothing escapes from a list if nothing escapes from its elements. -/
lemma not_escapes_mapM {α β : Type} {f : α → Parse β} {as : List α} (h : ∀ a ∈ as,
    ¬ Escapes (f a)) :
    ¬ Escapes (as.mapM f) := by
  rw [escapes_mapM]
  rintro ⟨before, a, after, rfl, -, ha⟩
  exact h a (by simp) ha

/-- Where each element either is well formed or lets an error escape. -/
lemma escapes_mapM_iff_exists {α β : Type} {f : α → Parse β} {as : List α}
    (h : ∀ a ∈ as, ¬ Escapes (f a) → Reads (f a)) : Escapes (as.mapM f) ↔ ∃ a ∈ as,
      Escapes (f a) := by
  constructor
  · intro hescapes
    obtain ⟨before, a, after, rfl, -, ha⟩ := escapes_mapM.1 hescapes
    exact ⟨a, by simp, ha⟩
  · rintro ⟨a, ha, hescapes⟩
    induction as with
    | nil => contradiction
    | cons b bs ih =>
      rw [List.mapM_cons, escapes_bind]
      rcases List.mem_cons.1 ha with rfl | ha
      · exact .inl hescapes
      · by_cases hb : Escapes (f b)
        · exact .inl hb
        · obtain ⟨c, hc⟩ := h b (by simp) hb
          refine .inr ⟨c, hc, escapes_bind.2 (.inl ?_)⟩
          exact ih (fun a ha => h a (List.mem_cons_of_mem _ ha)) ha

/-! ## Constructors -/

/-- A failing check is the error of the constructor. -/
lemma construct_of_postInit_error {α : Type} [Record α] {a : α} {e : PyError}
    (h : Record.postInit a = .error e) : construct a = .error e := by
  unfold construct
  split
  · rename_i hok
    rw [h] at hok
    contradiction
  · rename_i e' herror
    rw [h] at herror
    exact congrArg Except.error (Except.error.inj herror).symm

/-- An error escapes from a constructor exactly if the fields do not pass its checks. -/
lemma escapes_build {α : Type} [Record α] {a : α} :
    Escapes (build a) ↔ Record.postInit a ≠ .ok () := by
  unfold build
  cases hpost : Record.postInit a with
  | ok u =>
    rw [construct_of_postInit hpost]
    simp
  | error e =>
    rw [construct_of_postInit_error hpost]
    simp [Escapes]

/-- What is built has the given fields. -/
lemma build_eq_ok {α : Type} [Record α] {a : α} {r : Checked α} : build a = .ok r ↔ r.val = a := by
  unfold build
  cases hconstruct : construct a with
  | ok r' => simpa [hconstruct] using construct_eq_ok (a := a) (r := r)
  | error e =>
    have hno := construct_eq_ok (a := a) (r := r)
    simpa [hconstruct] using hno

/-- The checks of a constructor raise value errors. -/
def RaisesValueErrors (x : Result Unit) : Prop := ∀ e, x = .error e → ∃ message,
    e = .valueError message

/-- A check raises a `ValueError`. -/
lemma raisesValueErrors_require (c : Prop) [Decidable c] (message : Text) :
    RaisesValueErrors (require c message) := by
  intro e he
  unfold require at he
  split at he
  · contradiction
  · exact ⟨message, (Except.error.inj he).symm⟩

/-- So do two checks in turn. -/
lemma RaisesValueErrors.bind {x y : Result Unit} (hx : RaisesValueErrors x)
    (hy : RaisesValueErrors y) :
    RaisesValueErrors (x >>= fun _ => y) := by
  intro e he
  cases x with
  | error e' =>
    obtain rfl : e' = e := Except.error.inj he
    exact hx e' rfl
  | ok u => exact hy e he

/-- So does the check of an optional text. -/
lemma raisesValueErrors_optional (value : Option Text) (fieldName : Text) :
    RaisesValueErrors (requireOptionalNonEmpty value fieldName) := by
  cases value with
  | none =>
    intro e he
    contradiction
  | some value => exact raisesValueErrors_require _ _

/-- What escapes from a computation is a value error. -/
def EscapesAsValueError {α : Type} (x : Parse α) : Prop :=
  ∀ e, x = .error (.escaped e) → ∃ message, e = .valueError message

/-- What lets nothing escape lets no other error escape. -/
lemma escapesAsValueError_of_not {α : Type} {x : Parse α} (h : ¬ Escapes x) :
    EscapesAsValueError x :=
  fun e he => absurd ⟨e, he⟩ h

/-- A sequence lets escape what its parts do. -/
lemma EscapesAsValueError.bind {α β : Type} {x : Parse α} {f : α → Parse β}
    (hx : EscapesAsValueError x) (hf : ∀ a, EscapesAsValueError (f a)) :
    EscapesAsValueError (x >>= f) := by
  intro e he
  cases x with
  | error e' =>
    obtain rfl : e' = .escaped e := Except.error.inj he
    exact hx e rfl
  | ok a => exact hf a e he

/-- The errors of a constructor. -/
lemma escapesAsValueError_build {α : Type} [Record α] {a : α}
    (h : RaisesValueErrors (Record.postInit a)) : EscapesAsValueError (build a) := by
  intro e he
  unfold build at he
  cases hpost : Record.postInit a with
  | ok u =>
    rw [construct_of_postInit hpost] at he
    contradiction
  | error e' =>
    rw [construct_of_postInit_error hpost] at he
    obtain rfl : e' = e := InputError.escaped.inj (Except.error.inj he)
    exact h e' hpost

/-- Nothing escapes once value errors are caught. -/
lemma not_escapes_reraise {α : Type} {x : Parse α} (h : EscapesAsValueError x) :
    ¬ Escapes (reraise x) := by
  rintro ⟨e, he⟩
  unfold reraise at he
  split at he
  · exact absurd (Except.error.inj he) (by simp)
  · rename_i hne
    obtain ⟨message, rfl⟩ := h e he
    exact hne message he

/-- A value passes the handler of errors. -/
lemma reraise_eq_ok {α : Type} {x : Parse α} {a : α} : reraise x = .ok a ↔ x = .ok a := by
  unfold reraise
  split
  · simp
  · exact Iff.rfl

/-! ## Objects -/

/-- The keys of an object that are not allowed, in ascending order. -/
def unknownFields (data : List (Text × Json)) (allowed : List Text) : List Text :=
  Text.sorted ((data.map Prod.fst).dedup.filter fun key => key ∉ allowed)

/-- An object without unknown keys. -/
lemma unknownFields_eq_nil {data : List (Text × Json)} {allowed : List Text} :
    unknownFields data allowed = [] ↔ ∀ f ∈ data, f.1 ∈ allowed := by
  unfold unknownFields
  constructor
  · intro h f hf
    by_contra hnot
    have hmem : f.1 ∈ Text.sorted ((data.map Prod.fst).dedup.filter fun key => key ∉ allowed) :=
      Text.mem_sorted.2 (List.mem_filter.2 ⟨List.mem_dedup.2 (List.mem_map_of_mem hf), by
        simpa using hnot⟩)
    rw [h] at hmem
    contradiction
  · intro h
    rw [List.eq_nil_iff_forall_not_mem]
    intro key hkey
    obtain ⟨hmem, hnot⟩ := List.mem_filter.1 (Text.mem_sorted.1 hkey)
    obtain ⟨f, hf, rfl⟩ := List.mem_map.1 (List.mem_dedup.1 hmem)
    simp [h f hf] at hnot

/-- A key without a value does not occur. -/
lemma lookup_eq_none_iff {data : List (Text × Json)} {key : Text} :
    Json.lookup data key = none ↔ ∀ f ∈ data, f.1 ≠ key := by
  unfold Json.lookup
  rw [Option.map_eq_none_iff, List.find?_eq_none]
  simp only [beq_iff_eq, ne_eq]

/-- All items are read, or none. -/
lemma length_eq_of_mapM {α β : Type} {f : α → Option β} {as : List α} {bs : List β}
    (h : as.mapM f = some bs) : bs.length = as.length := by
  induction as generalizing bs with
  | nil =>
    obtain rfl : [] = bs := Option.some.inj h
    rfl
  | cons a as ih =>
    rw [List.mapM_cons] at h
    obtain ⟨b, hb, h⟩ := Option.bind_eq_some_iff.1 h
    obtain ⟨rest, hrest, h⟩ := Option.bind_eq_some_iff.1 h
    obtain rfl : b :: rest = bs := Option.some.inj h
    rw [List.length_cons, List.length_cons, ih hrest]

/-- A string that is not empty. -/
def nonEmptyString : Json → Option Text
  | .str s => if s = [] then none else some s
  | _ => none

/-- A nonempty string is one that is not empty. -/
lemma nonEmptyString_eq_some {j : Json} {s : Text} :
    nonEmptyString j = some s ↔ j = .str s ∧ s ≠ [] := by
  unfold nonEmptyString
  split
  · rename_i t
    split
    · rename_i hnil
      subst hnil
      simp only [reduceCtorEq, false_iff, Json.str.injEq]
      rintro ⟨rfl, hne⟩
      exact hne rfl
    · rename_i hne
      simp only [Option.some.injEq, Json.str.injEq]
      exact ⟨fun h => ⟨h, h ▸ hne⟩, fun h => h.1⟩
  · rename_i hother
    simp only [reduceCtorEq, false_iff]
    rintro ⟨rfl, -⟩
    exact hother s rfl

/-- The items of a list of non-empty strings. -/
def nonEmptyStrings (items : List Json) : Option (List Text) := items.mapM nonEmptyString

/-- Strings that are read are not empty. -/
lemma ne_nil_of_nonEmptyStrings {items : List Json} {strings : List Text}
    (h : nonEmptyStrings items = some strings) : ∀ s ∈ strings, s ≠ [] := by
  unfold nonEmptyStrings at h
  induction items generalizing strings with
  | nil =>
    obtain rfl : [] = strings := Option.some.inj h
    simp
  | cons j items ih =>
    rw [List.mapM_cons] at h
    obtain ⟨s, hs, h⟩ := Option.bind_eq_some_iff.1 h
    obtain ⟨rest, hrest, h⟩ := Option.bind_eq_some_iff.1 h
    obtain rfl : s :: rest = strings := Option.some.inj h
    rw [List.forall_mem_cons]
    exact ⟨(nonEmptyString_eq_some.1 hs).2, ih hrest⟩

/-- All strings are read. -/
lemma length_eq_of_nonEmptyStrings {items : List Json} {strings : List Text}
    (h : nonEmptyStrings items = some strings) : strings.length = items.length :=
  length_eq_of_mapM h

end ReviewGraph
