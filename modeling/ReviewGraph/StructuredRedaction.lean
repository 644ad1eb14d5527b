import ReviewGraph.Foundation.Lists
import ReviewGraph.TextReaders

/-!
# Redaction of structured data

`redact_data` redacts every text of a nested value, its keys included.  Keys that coincide after
their redaction are told apart by a suffix, so that no entry of a dictionary is lost.
-/

namespace ReviewGraph

/-! ## Values -/

/-- A key of a dictionary: a text, an integer or another hashable value, or a tuple of keys. -/
inductive PyKey (α : Type)
  | text (t : Text)
  | leaf (a : ℤ ⊕ α)
  | tuple (items : List (PyKey α))

/-- A nested value; the entries of a dictionary are in the order of their insertion. -/
inductive PyValue (α : Type)
  | text (t : Text)
  | leaf (a : ℤ ⊕ α)
  | list (items : List (PyValue α))
  | tuple (items : List (PyValue α))
  | dict (entries : List (PyKey α × PyValue α))

/-- What a redactor makes of a text. -/
structure TextRedaction (γ : Type) where
  text : Text
  replacementCount : ℕ
  categories : List γ

section Redaction

variable {α κ γ : Type} [DecidableEq κ] (redactText : Text → TextRedaction γ)
  (cls : α → ℤ ⊕ κ)

/-! ## Equality of keys -/

mutual

/-- Whether two keys are equal; leaves are equal if they have the same class, as an integer and a
Boolean can have. -/
def sameKey : PyKey α → PyKey α → Bool
  | .text t, .text u => decide (t = u)
  | .leaf a, .leaf b => decide (a.elim .inl cls = b.elim .inl cls)
  | .tuple items, .tuple items' => sameKeys items items'
  | _, _ => false

/-- Whether the keys of two tuples are equal. -/
def sameKeys : List (PyKey α) → List (PyKey α) → Bool
  | [], [] => true
  | key :: keys, key' :: keys' => sameKey key key' && sameKeys keys keys'
  | _, _ => false

end

/-! ## Unique keys -/

/-- The candidates of `_unique_key`. -/
def suffixedKey (key : PyKey α) (suffix : ℕ) : PyKey α :=
  match key with
  | .text t => .text (t ++ ("#" ++ Text.ofNat suffix))
  | key => .tuple [key, .leaf (.inl suffix)]

/-- The loop of `_unique_key` over the suffixes, for a number of rounds. -/
def nextFreeKey (keys : List (PyKey α)) (key : PyKey α) : ℕ → ℕ → Option (PyKey α)
  | 0, _ => none
  | rounds + 1, suffix =>
    if keys.any fun k => sameKey cls k (suffixedKey key suffix) then
      nextFreeKey keys key rounds (suffix + 1)
    else some (suffixedKey key suffix)

/-- `_unique_key`; the loop ends within as many rounds as there are keys, and one. -/
def uniquePyKey (keys : List (PyKey α)) (key : PyKey α) : PyKey α :=
  if keys.any fun k => sameKey cls k key then (nextFreeKey cls keys key (keys.length + 1) 2).getD
    key
  else key

/-! ## Redaction -/

mutual

/-- `_redact_data_value` of a key. -/
def redactKey : PyKey α → PyKey α × ℕ × List γ
  | .text t =>
    let result := redactText t
    (.text result.text, result.replacementCount, result.categories)
  | .leaf a => (.leaf a, 0, [])
  | .tuple items =>
    let (items, count, categories) := redactKeys items
    (.tuple items, count, categories)

/-- `_redact_sequence` of the items of a key. -/
def redactKeys : List (PyKey α) → List (PyKey α) × ℕ × List γ
  | [] => ([], 0, [])
  | key :: keys =>
    let (key, keyCount, keyCategories) := redactKey key
    let (keys, count, categories) := redactKeys keys
    (key :: keys, keyCount + count, keyCategories ++ categories)

end

mutual

/-- `_redact_data_value`. -/
def redactDataValue : PyValue α → PyValue α × ℕ × List γ
  | .text t =>
    let result := redactText t
    (.text result.text, result.replacementCount, result.categories)
  | .leaf a => (.leaf a, 0, [])
  | .list items =>
    let (items, count, categories) := redactSequence items
    (.list items, count, categories)
  | .tuple items =>
    let (items, count, categories) := redactSequence items
    (.tuple items, count, categories)
  | .dict entries =>
    let (entries, count, categories) := redactEntries entries []
    (.dict entries, count, categories)

/-- `_redact_sequence`. -/
def redactSequence : List (PyValue α) → List (PyValue α) × ℕ × List γ
  | [] => ([], 0, [])
  | item :: items =>
    let (item, itemCount, itemCategories) := redactDataValue item
    let (items, count, categories) := redactSequence items
    (item :: items, itemCount + count, itemCategories ++ categories)

/-- The loop over the entries of a dictionary, behind those that have been redacted. -/
def redactEntries : List (PyKey α × PyValue α) → List (PyKey α × PyValue α) →
    List (PyKey α × PyValue α) × ℕ × List γ
  | [], redacted => (redacted, 0, [])
  | (key, item) :: entries, redacted =>
    let (key, keyCount, keyCategories) := redactKey redactText key
    let (item, itemCount, itemCategories) := redactDataValue item
    let (entries, count, categories) :=
      redactEntries entries (redacted ++ [(uniquePyKey cls (redacted.map Prod.fst) key, item)])
    (entries, keyCount + itemCount + count, keyCategories ++ itemCategories ++ categories)

end

/-- `RedactedDataResult` with its `RedactionSummary`. -/
structure RedactedDataResult (α γ : Type) where
  data : PyValue α
  replacementCount : ℕ
  categories : List γ

/-- `redact_data`. -/
def redactStructuredData [DecidableEq γ] (data : PyValue α) : RedactedDataResult α γ :=
  let (redacted, replacementCount, categories) := redactDataValue redactText cls data
  ⟨redacted, replacementCount, categories.firstBy id⟩

/-! ## Texts and shapes -/

mutual

/-- The texts of a key, in order. -/
def PyKey.texts : PyKey α → List Text
  | .text t => [t]
  | .leaf _ => []
  | .tuple items => keysTexts items

/-- The texts of the items of a key. -/
def keysTexts : List (PyKey α) → List Text
  | [] => []
  | key :: keys => key.texts ++ keysTexts keys

end

mutual

/-- The texts of a value, each key in front of its item. -/
def PyValue.texts : PyValue α → List Text
  | .text t => [t]
  | .leaf _ => []
  | .list items => itemsTexts items
  | .tuple items => itemsTexts items
  | .dict entries => entriesTexts entries

/-- The texts of the items of a sequence. -/
def itemsTexts : List (PyValue α) → List Text
  | [] => []
  | item :: items => item.texts ++ itemsTexts items

/-- The texts of the entries of a dictionary. -/
def entriesTexts : List (PyKey α × PyValue α) → List Text
  | [] => []
  | (key, item) :: entries => key.texts ++ item.texts ++ entriesTexts entries

end

mutual

/-- The key with its texts changed. -/
def PyKey.mapTexts (f : Text → Text) : PyKey α → PyKey α
  | .text t => .text (f t)
  | .leaf a => .leaf a
  | .tuple items => .tuple (mapKeysTexts f items)

/-- The items of a key with their texts changed. -/
def mapKeysTexts (f : Text → Text) : List (PyKey α) → List (PyKey α)
  | [] => []
  | key :: keys => key.mapTexts f :: mapKeysTexts f keys

end

/-- The redacted key, or that key with a suffix. -/
def RedactsKey (key redacted : PyKey α) : Prop :=
  redacted = key.mapTexts (fun t => (redactText t).text) ∨
    ∃ suffix, redacted = suffixedKey (key.mapTexts fun t => (redactText t).text) suffix

/-- The second value has the shape of the first one, with every text redacted; the entries of a
dictionary keep their order and their keys stay different. -/
inductive Redacts : PyValue α → PyValue α → Prop
  | text (t : Text) : Redacts (.text t) (.text (redactText t).text)
  | leaf (a : ℤ ⊕ α) : Redacts (.leaf a) (.leaf a)
  | list {items items' : List (PyValue α)} (h : List.Forall₂ Redacts items items') :
      Redacts (.list items) (.list items')
  | tuple {items items' : List (PyValue α)} (h : List.Forall₂ Redacts items items') :
      Redacts (.tuple items) (.tuple items')
  | dict {entries entries' : List (PyKey α × PyValue α)}
      (hitems : List.Forall₂ Redacts (entries.map Prod.snd) (entries'.map Prod.snd))
      (hkeys : List.Forall₂ (RedactsKey redactText) (entries.map Prod.fst) (entries'.map Prod.fst))
      (hdifferent : (entries'.map Prod.fst).Pairwise fun key key' => sameKey cls key key' = false) :
      Redacts (.dict entries) (.dict entries')

/-! ## The loop over the suffixes -/

/-- A key is equal to one candidate at most. -/
lemma suffix_eq_of_sameKey {k key : PyKey α} {i j : ℕ} (hi : sameKey cls k (suffixedKey key i) =
    true)
    (hj : sameKey cls k (suffixedKey key j) = true) : i = j := by
  have htuple : ∀ key : PyKey α, sameKey cls k (.tuple [key, .leaf (.inl (i : ℤ))]) = true →
      sameKey cls k (.tuple [key, .leaf (.inl (j : ℤ))]) = true → i = j := by
    intro key hi hj
    match k, hi, hj with
    | .tuple [_, .leaf a], hi, hj =>
      simp only [sameKey, sameKeys, Bool.and_eq_true, decide_eq_true_eq, and_true] at hi hj
      exact_mod_cast Sum.inl_injective (hi.2.symm.trans hj.2)
    | .tuple [_, .tuple _], hi, hj => simp [sameKey, sameKeys] at hi
    | .tuple [_, .text _], hi, hj => simp [sameKey, sameKeys] at hi
    | .tuple [], hi, hj => simp [sameKey, sameKeys] at hi
    | .tuple [_], hi, hj => simp [sameKey, sameKeys] at hi
    | .tuple (_ :: _ :: _ :: _), hi, hj => simp [sameKey, sameKeys] at hi
    | .text _, hi, hj => simp [sameKey] at hi
    | .leaf _, hi, hj => simp [sameKey] at hi
  cases key with
  | text t =>
    cases k with
    | text u =>
      simp only [suffixedKey, sameKey, decide_eq_true_eq] at hi hj
      exact ofNat_injective (List.append_cancel_left (List.append_cancel_left (hi.symm.trans hj)))
    | leaf a => simp [suffixedKey, sameKey] at hi
    | tuple items => simp [suffixedKey, sameKey] at hi
  | leaf a => exact htuple _ hi hj
  | tuple items => exact htuple _ hi hj

/-- If the search finds no key, all suffixes are taken. -/
lemma nextFreeKey_eq_none {keys : List (PyKey α)} {key : PyKey α} {rounds suffix : ℕ}
    (h : nextFreeKey cls keys key rounds suffix = none) :
    ∀ i < rounds, ∃ k ∈ keys, sameKey cls k (suffixedKey key (suffix + i)) = true := by
  induction rounds generalizing suffix with
  | zero => exact fun i hi => absurd hi (Nat.not_lt_zero i)
  | succ rounds ih =>
    rw [nextFreeKey] at h
    split at h
    · rename_i hany
      intro i hi
      cases i with
      | zero => exact List.any_eq_true.1 hany
      | succ i =>
        have hnext := ih h i (by omega)
        rwa [show suffix + 1 + i = suffix + (i + 1) by omega] at hnext
    · contradiction

/-- A key that is found has a suffix and is free. -/
lemma nextFreeKey_eq_some {keys : List (PyKey α)} {key found : PyKey α} {rounds suffix : ℕ}
    (h : nextFreeKey cls keys key rounds suffix = some found) :
    (∃ n, found = suffixedKey key n) ∧ ∀ k ∈ keys, sameKey cls k found = false := by
  induction rounds generalizing suffix with
  | zero => contradiction
  | succ rounds ih =>
    rw [nextFreeKey] at h
    split at h
    · exact ih h
    · rename_i hany
      obtain rfl := Option.some.inj h
      refine ⟨⟨suffix, rfl⟩, fun k hk => ?_⟩
      rw [← Bool.not_eq_true]
      exact fun hsame => hany (List.any_eq_true.2 ⟨k, hk, hsame⟩)

/-- The loop ends: every key excludes one candidate at most. -/
lemma exists_nextFreeKey (keys : List (PyKey α)) (key : PyKey α) (suffix : ℕ) :
    ∃ found, nextFreeKey cls keys key (keys.length + 1) suffix = some found := by
  rw [← Option.ne_none_iff_exists']
  intro hnone
  have hall := nextFreeKey_eq_none cls hnone
  -- Otherwise the candidates would be equal to different keys.
  have hindex : ∀ i : Fin (keys.length + 1), ∃ j : Fin keys.length,
      sameKey cls keys[j] (suffixedKey key (suffix + i)) = true := by
    intro i
    obtain ⟨k, hk, hsame⟩ := hall i i.isLt
    obtain ⟨j, hj, rfl⟩ := List.getElem_of_mem hk
    exact ⟨⟨j, hj⟩, hsame⟩
  choose index hindex using hindex
  have hinj : Function.Injective index := by
    intro i i' heq
    have hsame := hindex i'
    rw [← heq] at hsame
    have hsuffix := suffix_eq_of_sameKey cls (hindex i) hsame
    exact Fin.ext (by omega)
  have hcard := Fintype.card_le_of_injective index hinj
  rw [Fintype.card_fin, Fintype.card_fin] at hcard
  omega

/-- The unique key is the key or one with a suffix, and it is new. -/
lemma uniquePyKey_spec (keys : List (PyKey α)) (key : PyKey α) :
    (uniquePyKey cls keys key = key ∨ ∃ n, uniquePyKey cls keys key = suffixedKey key n) ∧
      ∀ k ∈ keys, sameKey cls k (uniquePyKey cls keys key) = false := by
  unfold uniquePyKey
  split
  · obtain ⟨found, hfound⟩ := exists_nextFreeKey cls keys key 2
    obtain ⟨hsuffix, hnew⟩ := nextFreeKey_eq_some cls hfound
    rw [hfound]
    exact ⟨.inr hsuffix, hnew⟩
  · rename_i hany
    refine ⟨.inl rfl, fun k hk => ?_⟩
    rw [← Bool.not_eq_true]
    exact fun hsame => hany (List.any_eq_true.2 ⟨k, hk, hsame⟩)

/-! ## What becomes of a value -/

/-- The number of replacements in texts. -/
def replacements (texts : List Text) : ℕ := (texts.map fun t => (redactText t).replacementCount).sum

/-- The categories of the replacements in texts, one text after the other. -/
def replacedCategories (texts : List Text) : List γ := texts.flatMap fun t =>
    (redactText t).categories

/-- The replacements in both parts. -/
lemma replacements_append (texts texts' : List Text) :
    replacements redactText (texts ++ texts') =
      replacements redactText texts + replacements redactText texts' := by
  simp [replacements]

/-- The categories in both parts. -/
lemma replacedCategories_append (texts texts' : List Text) :
    replacedCategories redactText (texts ++ texts') =
      replacedCategories redactText texts ++ replacedCategories redactText texts' := by
  simp [replacedCategories]

mutual

/-- A key is redacted text by text. -/
lemma redactKey_eq : (key : PyKey α) → redactKey redactText key =
    (key.mapTexts fun t => (redactText t).text, replacements redactText key.texts,
      replacedCategories redactText key.texts)
  | .text t => by simp [redactKey, PyKey.mapTexts, PyKey.texts, replacements, replacedCategories]
  | .leaf a => by simp [redactKey, PyKey.mapTexts, PyKey.texts, replacements, replacedCategories]
  | .tuple items => by
    rw [redactKey, redactKeys_eq items]
    rfl

/-- Keys are redacted text by text. -/
lemma redactKeys_eq : (keys : List (PyKey α)) → redactKeys redactText keys =
    (mapKeysTexts (fun t => (redactText t).text) keys, replacements redactText (keysTexts keys),
      replacedCategories redactText (keysTexts keys))
  | [] => rfl
  | key :: keys => by
    rw [redactKeys, redactKey_eq key, redactKeys_eq keys, keysTexts, replacements_append,
      replacedCategories_append]
    rfl

end

mutual

/-- A value keeps its shape. -/
lemma redactDataValue_spec : (value : PyValue α) →
    Redacts redactText cls value (redactDataValue redactText cls value).1 ∧
      (redactDataValue redactText cls value).2 =
        (replacements redactText value.texts, replacedCategories redactText value.texts)
  | .text t => by
    refine ⟨.text t, ?_⟩
    simp [redactDataValue, PyValue.texts, replacements, replacedCategories]
  | .leaf a => ⟨.leaf a, rfl⟩
  | .list items => by
    obtain ⟨hshape, hcounts⟩ := redactSequence_spec items
    rw [redactDataValue]
    exact ⟨.list hshape, hcounts⟩
  | .tuple items => by
    obtain ⟨hshape, hcounts⟩ := redactSequence_spec items
    rw [redactDataValue]
    exact ⟨.tuple hshape, hcounts⟩
  | .dict entries => by
    obtain ⟨added, hadded, hitems, hkeys, hdifferent, hcounts⟩ := redactEntries_spec entries []
    rw [redactDataValue]
    rw [List.nil_append] at hadded hdifferent
    refine ⟨?_, hcounts⟩
    dsimp only
    rw [hadded]
    exact .dict hitems hkeys (hdifferent .nil)

/-- A sequence is redacted item by item. -/
lemma redactSequence_spec : (items : List (PyValue α)) →
    List.Forall₂ (Redacts redactText cls) items (redactSequence redactText cls items).1 ∧
      (redactSequence redactText cls items).2 =
        (replacements redactText (itemsTexts items), replacedCategories redactText
          (itemsTexts items))
  | [] => ⟨.nil, rfl⟩
  | item :: items => by
    obtain ⟨hitem, hcount⟩ := redactDataValue_spec item
    obtain ⟨hitems, hcounts⟩ := redactSequence_spec items
    rw [redactSequence, itemsTexts, replacements_append, replacedCategories_append]
    generalize redactDataValue redactText cls item = result at hitem hcount ⊢
    generalize redactSequence redactText cls items = results at hitems hcounts ⊢
    obtain ⟨item', counts⟩ := result
    obtain ⟨items', allCounts⟩ := results
    obtain rfl : counts = _ := hcount
    obtain rfl : allCounts = _ := hcounts
    exact ⟨.cons hitem hitems, rfl⟩

/-- The entries of a dictionary keep their order and get different keys. -/
lemma redactEntries_spec : (entries redacted : List (PyKey α × PyValue α)) →
    ∃ added, (redactEntries redactText cls entries redacted).1 = redacted ++ added ∧
      List.Forall₂ (Redacts redactText cls) (entries.map Prod.snd) (added.map Prod.snd) ∧
      List.Forall₂ (RedactsKey redactText) (entries.map Prod.fst) (added.map Prod.fst) ∧
      (((redacted.map Prod.fst).Pairwise fun key key' => sameKey cls key key' = false) →
        ((redacted ++ added).map Prod.fst).Pairwise fun key key' => sameKey cls key key' = false) ∧
      (redactEntries redactText cls entries redacted).2 =
        (replacements redactText (entriesTexts entries),
          replacedCategories redactText (entriesTexts entries))
  | [], redacted => ⟨[], by simp [redactEntries], .nil, .nil, by simp, rfl⟩
  | (key, item) :: entries, redacted => by
    obtain ⟨hitem, hcount⟩ := redactDataValue_spec item
    obtain ⟨hunique, hnew⟩ := uniquePyKey_spec cls (redacted.map Prod.fst)
      (key.mapTexts fun t => (redactText t).text)
    obtain ⟨added, hadded, hitems, hkeys, hdifferent, hcounts⟩ := redactEntries_spec entries
      (redacted ++ [(uniquePyKey cls (redacted.map Prod.fst) (key.mapTexts fun t =>
        (redactText t).text),
        (redactDataValue redactText cls item).1)])
    rw [redactEntries, redactKey_eq]
    dsimp only
    rw [entriesTexts, replacements_append, replacements_append, replacedCategories_append,
      replacedCategories_append]
    generalize redactDataValue redactText cls item = result at *
    obtain ⟨item', counts⟩ := result
    obtain rfl : counts = _ := hcount
    dsimp only at *
    generalize uniquePyKey cls (redacted.map Prod.fst) (key.mapTexts fun t => (redactText t).text) =
      unique at *
    generalize redactEntries redactText cls entries (redacted ++ [(unique, item')]) = results at *
    obtain ⟨entries', allCounts⟩ := results
    obtain rfl : allCounts = _ := hcounts
    refine ⟨(unique, item') :: added, ?_, .cons hitem hitems, .cons hunique hkeys, ?_, rfl⟩
    · rw [List.append_cons]
      exact hadded
    · intro hpairwise
      rw [List.append_cons]
      refine hdifferent ?_
      rw [List.map_append, List.pairwise_append]
      refine ⟨hpairwise, List.pairwise_singleton _ _, ?_⟩
      intro k hk k' hk'
      obtain rfl := List.mem_singleton.1 hk'
      exact hnew k hk

end

/-- Redaction keeps the shape of a value, counts every text and key once and names each category
once, and its search for unique keys always ends. -/
theorem redactStructuredData_shape [DecidableEq γ] (value : PyValue α) :
    Redacts redactText cls value (redactStructuredData redactText cls value).data ∧
      (redactStructuredData redactText cls value).replacementCount =
        (value.texts.map fun t => (redactText t).replacementCount).sum ∧
      (redactStructuredData redactText cls value).categories =
        (value.texts.flatMap fun t => (redactText t).categories).firstBy id ∧
      ∀ (keys : List (PyKey α)) (key : PyKey α),
        ∃ found, nextFreeKey cls keys key (keys.length + 1) 2 = some found ∧
          ∀ k ∈ keys, sameKey cls k found = false := by
  obtain ⟨hshape, hcounts⟩ := redactDataValue_spec redactText cls value
  refine ⟨hshape, congrArg Prod.fst hcounts, ?_, fun keys key => ?_⟩
  · unfold redactStructuredData
    generalize redactDataValue redactText cls value = result at hcounts ⊢
    obtain ⟨data, counts⟩ := result
    obtain rfl : counts = _ := hcounts
    rfl
  · obtain ⟨found, hfound⟩ := exists_nextFreeKey cls keys key 2
    exact ⟨found, hfound, (nextFreeKey_eq_some cls hfound).2⟩

end Redaction

end ReviewGraph
