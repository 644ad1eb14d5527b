import ReviewGraph.Foundation.JsonAscii

/-!
# Changes inside strings

`Reshapes` relates two texts that differ in the contents of their string literals alone.  Whether a
text is JSON does not depend on these contents, `loads_of_reshapes`: the decoder takes the same
steps on both texts.
-/

namespace Json

/-- The contents of a string literal. -/
def Contents (b : Text) : Prop := ∃ s, ∀ r, scanString (b ++ '"' :: r) = some (s, r)

/-- The second text is the first one with other contents of its string literals. -/
inductive Reshapes : Text → Text → Prop
  | nil : Reshapes [] []
  | char {c : Char} {t t' : Text} (hc : c ≠ '"') (h : Reshapes t t') : Reshapes (c :: t) (c :: t')
  | string {b b' t t' : Text} (hb : Contents b) (hb' : Contents b') (h : Reshapes t t') :
      Reshapes ('"' :: (b ++ '"' :: t)) ('"' :: (b' ++ '"' :: t'))

namespace Reshapes

variable {t t' : Text}

/-- A text that arises is changed to itself. -/
lemma refl_right (h : Reshapes t t') : Reshapes t' t' := by
  induction h with
  | nil => exact .nil
  | char hc _ ih => exact .char hc ih
  | string _ hb' _ ih => exact .string hb' hb' ih

/-- Characters in front that are no quotation marks stay. -/
lemma append_left {p : Text} (hp : '"' ∉ p) (h : Reshapes t t') : Reshapes (p ++ t) (p ++ t') := by
  induction p with
  | nil => exact h
  | cons c p ih =>
    obtain ⟨hc, hp⟩ := not_or.1 (List.mem_cons.not.1 hp)
    exact .char (Ne.symm hc) (ih hp)

/-- A first character that is no quotation mark stays. -/
lemma of_cons {c : Char} (hc : c ≠ '"') (h : Reshapes (c :: t) t') :
    ∃ u', t' = c :: u' ∧ Reshapes t u' := by
  cases h with
  | char _ h => exact ⟨_, rfl, h⟩
  | string => contradiction

/-- A string literal becomes another one. -/
lemma of_quote (h : Reshapes ('"' :: t) t') : ∃ b b' u u', t = b ++ '"' :: u ∧
    t' = '"' :: (b' ++ '"' :: u') ∧ Contents b ∧ Contents b' ∧ Reshapes u u' := by
  cases h with
  | char hc => contradiction
  | string hb hb' h => exact ⟨_, _, _, _, rfl, rfl, hb, hb', h⟩

/-- The first character stays. -/
lemma head?_eq (h : Reshapes t t') : t'.head? = t.head? := by
  cases h <;> rfl

/-- Blanks in front are skipped in both texts. -/
lemma skipBlanks (h : Reshapes t t') : Reshapes (skipBlanks t) (skipBlanks t') := by
  induction h with
  | nil => exact .nil
  | @char c t t' hc h ih =>
    unfold Json.skipBlanks at ih ⊢
    rw [List.dropWhile_cons, List.dropWhile_cons]
    split
    · exact ih
    · exact .char hc h
  | string hb hb' h => exact .string hb hb' h

/-- The texts agree up to the first string literal. -/
lemma split (h : Reshapes t t') : ∃ p q q', '"' ∉ p ∧ t = p ++ q ∧ t' = p ++ q' ∧ Reshapes q q' ∧
    (∀ c ∈ q.head?, c = '"') ∧ ∀ c ∈ q'.head?, c = '"' := by
  induction h with
  | nil => exact ⟨[], [], [], List.not_mem_nil, rfl, rfl, .nil, by simp, by simp⟩
  | @char c t t' hc _ ih =>
    obtain ⟨p, q, q', hp, rfl, rfl, hq, hhead, hhead'⟩ := ih
    exact ⟨c :: p, q, q', by simp [hp, Ne.symm hc], rfl, rfl, hq, hhead, hhead'⟩
  | string hb hb' h =>
    exact ⟨[], _, _, List.not_mem_nil, rfl, rfl, .string hb hb' h, by simp, by simp⟩

end Reshapes

/-! ## Words and numbers -/

section Tokens

variable {p q : Text} (hq : ∀ c ∈ q.head?, c = '"')

/-- A text that ends or begins with a quotation mark. -/
lemma eq_nil_or_quote {q : Text} (hq : ∀ c ∈ q.head?, c = '"') : q = [] ∨ ∃ u, q = '"' :: u := by
  cases q with
  | nil => exact .inl rfl
  | cons c u =>
    obtain rfl := hq c rfl
    exact .inr ⟨u, rfl⟩

/-- The digits are part of the text. -/
lemma length_integerDigits_le (t : Text) : (integerDigits t).length ≤ t.length := by
  cases t with
  | nil => exact le_rfl
  | cons c t =>
    rw [integerDigits]
    split
    · simp
    · exact (List.takeWhile_prefix _).length_le

include hq

/-- A word is not continued behind a quotation mark. -/
lemma isPrefixOf?_append {w : Text} (hw : '"' ∉ w) :
    w.isPrefixOf? (p ++ q) = (w.isPrefixOf? p).map (· ++ q) := by
  induction w generalizing p with
  | nil => rfl
  | cons a w ih =>
    obtain ⟨ha, hw⟩ := not_or.1 (List.mem_cons.not.1 hw)
    cases p with
    | nil =>
      rcases eq_nil_or_quote hq with rfl | ⟨u, rfl⟩
      · rfl
      · simp [List.isPrefixOf?, Ne.symm ha]
    | cons b p =>
      simp only [List.cons_append, List.isPrefixOf?]
      split
      · exact ih hw
      · rfl

/-- A word ends in front of a quotation mark. -/
lemma scanWord_append : scanWord (p ++ q) = (scanWord p).map fun x => (x.1, x.2 ++ q) := by
  have hwords : ∀ w ∈ wordValues, '"' ∉ w.1 := by decide
  unfold scanWord
  generalize wordValues = words at hwords
  induction words with
  | nil => rfl
  | cons w ws ih =>
    obtain ⟨hw, hws⟩ := List.forall_mem_cons.1 hwords
    rw [List.findSome?_cons, List.findSome?_cons, isPrefixOf?_append hq hw]
    cases w.1.isPrefixOf? p with
    | none => exact ih hws
    | some rest => rfl

/-- Digits end in front of a quotation mark. -/
lemma takeWhile_isDigit_append : (p ++ q).takeWhile isDigit = p.takeWhile isDigit := by
  have hstop : q.takeWhile isDigit = [] := by
    rcases eq_nil_or_quote hq with rfl | ⟨u, rfl⟩ <;> rfl
  rw [List.takeWhile_append, hstop, List.append_nil]
  split
  · rename_i hlength
    exact (List.IsPrefix.eq_of_length (List.takeWhile_prefix isDigit) hlength).symm
  · rfl

/-- So do the digits of an integer. -/
lemma integerDigits_append : integerDigits (p ++ q) = integerDigits p := by
  cases p with
  | nil => rcases eq_nil_or_quote hq with rfl | ⟨u, rfl⟩ <;> rfl
  | cons c p =>
    have h := takeWhile_isDigit_append (p := c :: p) hq
    rw [List.cons_append] at h ⊢
    rw [integerDigits, integerDigits, h]

/-- So does a fraction. -/
lemma fraction_append : fraction (p ++ q) = fraction p := by
  cases p with
  | nil => rcases eq_nil_or_quote hq with rfl | ⟨u, rfl⟩ <;> rfl
  | cons c p =>
    rw [List.cons_append]
    unfold fraction
    split
    · rename_i u heq
      obtain ⟨rfl, rfl⟩ := List.cons.inj heq
      simp only [takeWhile_isDigit_append hq]
    · rename_i hne
      split
      · rename_i u heq
        obtain ⟨rfl, rfl⟩ := List.cons.inj heq
        exact absurd rfl (hne _)
      · rfl

/-- A character at the beginning is found in front of the quotation mark. -/
lemma filter_take_one_append {f : Char → Bool} (hf : f '"' = false) :
    ((p ++ q).take 1).filter f = (p.take 1).filter f := by
  cases p with
  | nil => rcases eq_nil_or_quote hq with rfl | ⟨u, rfl⟩ <;> simp [hf]
  | cons c p => rfl

/-- So does an exponent. -/
lemma exponent_append : exponent (p ++ q) = exponent p := by
  cases p with
  | nil => rcases eq_nil_or_quote hq with rfl | ⟨u, rfl⟩ <;> rfl
  | cons e p =>
    rw [List.cons_append, exponent, exponent, filter_take_one_append hq (by decide)]
    have hlength : ((p.take 1).filter fun c => c == '+' || c == '-').length ≤ p.length :=
      (List.length_filter_le _ _).trans (List.length_take_le' _ _)
    dsimp only
    rw [List.drop_append_of_le_length hlength, takeWhile_isDigit_append hq]

/-- A number is not continued behind a quotation mark. -/
lemma scanNumber_append : scanNumber (p ++ q) = (scanNumber p).map fun x => (x.1, x.2 ++ q) := by
  have hsign : ((p.take 1).filter (· == '-')).length ≤ p.length :=
    (List.length_filter_le _ _).trans (List.length_take_le' _ _)
  have hparts : integerParts (p ++ q) =
      ((integerParts p).1, (integerParts p).2.1, (integerParts p).2.2 ++ q) := by
    unfold integerParts
    rw [filter_take_one_append hq (by decide)]
    dsimp only
    rw [List.drop_append_of_le_length hsign, integerDigits_append hq,
      List.drop_append_of_le_length (length_integerDigits_le _)]
  have hfraction : ∀ t : Text, (fraction t).length ≤ t.length := by
    intro t
    unfold fraction
    split
    · rename_i u
      split
      · exact Nat.zero_le _
      · exact Nat.succ_le_succ (List.takeWhile_prefix _).length_le
    · exact Nat.zero_le _
  have hexponent : ∀ t : Text, (exponent t).length ≤ t.length := by
    intro t
    unfold exponent
    split
    · rename_i e u
      split
      · dsimp only
        split
        · exact Nat.zero_le _
        · have hsign := (List.length_filter_le (fun c => c == '+' || c == '-') (u.take 1)).trans
            (List.length_take_le' 1 u)
          have hdigits := (List.takeWhile_prefix isDigit (l := u.drop
            ((u.take 1).filter fun c => c == '+' || c == '-').length)).length_le
          rw [List.length_drop] at hdigits
          rw [List.length_cons, List.cons_append, List.length_cons, List.length_append]
          omega
      · exact Nat.zero_le _
    · exact Nat.zero_le _
  unfold scanNumber
  rw [hparts]
  obtain ⟨sign, digits, rest⟩ := integerParts p
  dsimp only
  rw [fraction_append hq, List.drop_append_of_le_length (hfraction _), exponent_append hq,
    List.drop_append_of_le_length (hexponent _)]
  split
  · rfl
  split
  · split <;> rfl
  · rfl

end Tokens

/-- A word is in front of the rest. -/
lemma scanWord_suffix {t r : Text} {j : Json} (h : scanWord t = some (j, r)) :
    r <:+ t ∧ r.length < t.length := by
  obtain ⟨w, hw, hprefix⟩ := List.exists_of_findSome?_eq_some h
  obtain ⟨rest, hrest, heq⟩ := Option.map_eq_some_iff.1 hprefix
  obtain ⟨-, rfl⟩ := Prod.mk.inj heq
  have hne : ∀ w ∈ wordValues, 0 < w.1.length := by decide
  have hpos := hne w hw
  obtain rfl := List.isPrefixOf?_eq_some_iff_append_eq.1 hrest
  refine ⟨List.suffix_append _ _, ?_⟩
  rw [List.length_append]
  omega

/-- A number is in front of the rest. -/
lemma scanNumber_suffix {t r : Text} {j : Json} (h : scanNumber t = .ok (j, r)) :
    r <:+ t ∧ r.length < t.length := by
  have hlength : (integerDigits (t.drop ((t.take 1).filter (· == '-')).length)).length ≤
      (t.drop ((t.take 1).filter (· == '-')).length).length := length_integerDigits_le _
  unfold scanNumber integerParts at h
  dsimp only at h
  generalize ((t.take 1).filter (· == '-')).length = k at h hlength
  generalize integerDigits (t.drop k) = digits at h hlength
  have hsuffix : (t.drop k).drop digits.length <:+ t :=
    (List.drop_suffix _ _).trans (List.drop_suffix _ _)
  split at h
  · contradiction
  rename_i hdigits
  have hpos : 0 < digits.length := List.length_pos_iff.2 (by simpa using hdigits)
  have hless : ((t.drop k).drop digits.length).length < t.length := by
    rw [List.length_drop, List.length_drop] at *
    omega
  split at h
  · split at h
    · contradiction
    · obtain ⟨-, rfl⟩ := Prod.mk.inj (Except.ok.inj h)
      exact ⟨hsuffix, hless⟩
  · obtain ⟨-, rfl⟩ := Prod.mk.inj (Except.ok.inj h)
    have hrest := (List.drop_suffix (exponent (((t.drop k).drop digits.length).drop
      (fraction ((t.drop k).drop digits.length)).length)).length
        (((t.drop k).drop digits.length).drop
        (fraction ((t.drop k).drop digits.length)).length)).trans (List.drop_suffix _ _)
    exact ⟨hrest.trans hsuffix, hrest.length_le.trans_lt hless⟩

/-! ## Values -/

/-- Some value is read from a text, with as much recursion as it has characters. -/
def ReadsTo {α : Type} (read : ℕ → Text → Except DecodingError (α × Text)) (t r : Text) : Prop :=
  ∃ a, r.length < t.length ∧ ∀ fuel, t.length ≤ fuel + r.length → read fuel t = .ok (a, r)

/-- What is read from a text is read from a text with other contents of its strings. -/
def Simulates {α : Type} (read : ℕ → Text → Except DecodingError (α × Text)) (fuel : ℕ) : Prop :=
  ∀ {t t' r : Text} {a : α}, Reshapes t t' → read fuel t = .ok (a, r) →
    ∃ r', Reshapes r r' ∧ ReadsTo read t' r'

/-- No text gets longer when its blanks are skipped. -/
lemma skipBlanks_length_le (t : Text) : (skipBlanks t).length ≤ t.length :=
  (List.dropWhile_suffix _).length_le

/-- A value that begins with none of these characters is a word or a number. -/
lemma scanValue_token {c : Char} (h : c ≠ '"' ∧ c ≠ '[' ∧ c ≠ '\x7b') (fuel : ℕ) (t : Text) :
    scanValue (fuel + 1) (c :: t) = (scanWord (c :: t)).elim (scanNumber (c :: t)) .ok := by
  rw [scanValue.eq_def]
  simp only
  split
  · simp_all
  · simp_all
  · simp_all
  · rfl

/-- A word or a number is read in both texts. -/
lemma exists_token {t t' r : Text} {j : Json} (h : Reshapes t t')
    (hj : (scanWord t).elim (scanNumber t) .ok = .ok (j, r)) : ∃ r', Reshapes r r' ∧
      r'.length < t'.length ∧ (scanWord t').elim (scanNumber t') .ok = .ok (j, r') := by
  obtain ⟨p, q, q', hp, rfl, rfl, hq, hhead, hhead'⟩ := h.split
  rw [scanWord_append hhead] at hj
  rw [scanWord_append hhead']
  have hfinish : ∀ {s : Text}, s <:+ p ∧ s.length < p.length →
      Reshapes (s ++ q) (s ++ q') ∧ (s ++ q').length < (p ++ q').length := by
    rintro s ⟨hsuffix, hless⟩
    refine ⟨hq.append_left fun hs => hp (hsuffix.mem hs), ?_⟩
    rw [List.length_append, List.length_append]
    omega
  cases hword : scanWord p with
  | some x =>
    rw [hword] at hj
    obtain ⟨i, s⟩ := x
    obtain ⟨rfl, rfl⟩ := Prod.mk.inj (Except.ok.inj hj)
    obtain ⟨hshape, hless⟩ := hfinish (scanWord_suffix hword)
    exact ⟨s ++ q', hshape, hless, rfl⟩
  | none =>
    rw [hword, Option.map_none, Option.elim_none, scanNumber_append hhead] at hj
    rw [Option.map_none, Option.elim_none, scanNumber_append hhead']
    cases hnumber : scanNumber p with
    | error e =>
      rw [hnumber] at hj
      contradiction
    | ok x =>
      rw [hnumber] at hj
      obtain ⟨i, s⟩ := x
      obtain ⟨rfl, rfl⟩ := Prod.mk.inj (Except.ok.inj hj)
      obtain ⟨hshape, hless⟩ := hfinish (scanNumber_suffix hnumber)
      exact ⟨s ++ q', hshape, hless, rfl⟩

/-- An array that is not closed at once has items. -/
lemma scanValue_items {t : Text} (h : ∀ rest, skipBlanks t ≠ '\x5d' :: rest) (fuel : ℕ) :
    scanValue (fuel + 1) ('[' :: t) =
      (scanItems fuel (skipBlanks t)).map fun x => (.arr x.1, x.2) := by
  rw [scanValue]
  split
  · rename_i rest hrest
    exact absurd hrest (h rest)
  · rfl

/-- An object that is not closed at once has fields. -/
lemma scanValue_fields {t : Text} (h : ∀ rest, skipBlanks t ≠ '\x7d' :: rest) (fuel : ℕ) :
    scanValue (fuel + 1) ('\x7b' :: t) =
      (scanFields fuel (skipBlanks t)).map fun x => (objectOf x.1, x.2) := by
  rw [scanValue]
  split
  · rename_i rest hrest
    exact absurd hrest (h rest)
  · rfl

/-- A mapped result is the image of a result. -/
lemma map_eq_ok {α β : Type} {f : α → β} {x : Except DecodingError α} {b : β} :
    x.map f = .ok b ↔ ∃ a, x = .ok a ∧ f a = b := by
  cases x with
  | error e => exact ⟨fun h => by contradiction, fun ⟨_, h, _⟩ => by contradiction⟩
  | ok a =>
    constructor
    · intro h
      exact ⟨a, rfl, Except.ok.inj h⟩
    · rintro ⟨a', h, rfl⟩
      rw [Except.ok.inj h]
      rfl

/-- Behind an opening bracket the same is read as behind it in the other text. -/
lemma readsTo_bracket {α : Type} {scan : ℕ → Text → Except DecodingError (α × Text)} {o : Char}
    {make : α → Json} {u' r' : Text} (h : ReadsTo scan (skipBlanks u') r')
    (hscan : ∀ fuel, scanValue (fuel + 1) (o :: u') =
      (scan fuel (skipBlanks u')).map fun x => (make x.1, x.2)) :
    ReadsTo scanValue (o :: u') r' := by
  obtain ⟨a, hless, hread⟩ := h
  have hblanks := skipBlanks_length_le u'
  refine ⟨make a, ?_, fun fuel hfuel => ?_⟩
  · rw [List.length_cons]
    omega
  · rw [List.length_cons] at hfuel
    obtain ⟨fuel, rfl⟩ := Nat.exists_eq_add_of_le' (show 1 ≤ fuel by omega)
    rw [hscan, hread fuel (by omega)]
    rfl

/-- An array or an object that is closed at once is read. -/
lemma readsTo_empty {o : Char} (j : Json) {u' r' : Text}
    (h : (skipBlanks u').length = r'.length + 1)
    (hscan : ∀ fuel, scanValue (fuel + 1) (o :: u') = .ok (j, r')) :
    ReadsTo scanValue (o :: u') r' := by
  have hblanks := skipBlanks_length_le u'
  refine ⟨j, ?_, fun fuel hfuel => ?_⟩
  · rw [List.length_cons]
    omega
  · rw [List.length_cons] at hfuel
    obtain ⟨fuel, rfl⟩ := Nat.exists_eq_add_of_le' (show 1 ≤ fuel by omega)
    exact hscan fuel

/-- A first character stays behind the blanks. -/
lemma Reshapes.skipBlanks_ne {t t' : Text} (h : Reshapes t t') {c : Char}
    (hc : ∀ rest, Json.skipBlanks t ≠ c :: rest) (rest : Text) : Json.skipBlanks t' ≠ c ::
      rest := by
  intro heq
  have hhead := h.skipBlanks.head?_eq
  rw [heq, List.head?_cons] at hhead
  obtain ⟨rest', hrest'⟩ := List.head?_eq_some_iff.1 hhead.symm
  exact hc rest' hrest'

/-- A value is read if its items and fields are. -/
lemma scanValue_simulates {fuel : ℕ} (hitems : Simulates scanItems fuel)
    (hfields : Simulates scanFields fuel) : Simulates scanValue (fuel + 1) := by
  intro t t' r j h hj
  cases h with
  | nil => contradiction
  | @string b b' u u' hb hb' h =>
    obtain ⟨s, hs⟩ := hb
    obtain ⟨s', hs'⟩ := hb'
    rw [scanValue, hs] at hj
    obtain ⟨-, rfl⟩ := Prod.mk.inj (Except.ok.inj hj)
    refine ⟨u', h, .str s', ?_, fun fuel' hfuel => ?_⟩
    · simp only [List.length_cons, List.length_append]
      omega
    · simp only [List.length_cons, List.length_append] at hfuel
      obtain ⟨fuel', rfl⟩ := Nat.exists_eq_add_of_le' (show 1 ≤ fuel' by omega)
      rw [scanValue, hs']
      rfl
  | @char c u u' hc h =>
    have hblanks := h.skipBlanks
    by_cases harr : c = '['
    · subst harr
      by_cases hopen : ∀ rest, skipBlanks u ≠ '\x5d' :: rest
      · rw [scanValue_items hopen] at hj
        obtain ⟨⟨items, rest⟩, hscan, hj⟩ := map_eq_ok.1 hj
        obtain ⟨-, rfl⟩ := Prod.mk.inj hj
        obtain ⟨r', hshape, hread⟩ := hitems hblanks hscan
        exact ⟨r', hshape, readsTo_bracket hread (scanValue_items (h.skipBlanks_ne hopen))⟩
      · push Not at hopen
        obtain ⟨rest, hrest⟩ := hopen
        rw [scanValue, hrest] at hj
        obtain ⟨-, rfl⟩ := Prod.mk.inj (Except.ok.inj hj)
        rw [hrest] at hblanks
        obtain ⟨rest', hrest', hshape⟩ := hblanks.of_cons (by decide)
        refine ⟨rest', hshape, readsTo_empty (.arr []) (by rw [hrest', List.length_cons])
          fun fuel' => ?_⟩
        rw [scanValue, hrest']
        rfl
    by_cases hobj : c = '\x7b'
    · subst hobj
      by_cases hopen : ∀ rest, skipBlanks u ≠ '\x7d' :: rest
      · rw [scanValue_fields hopen] at hj
        obtain ⟨⟨fields, rest⟩, hscan, hj⟩ := map_eq_ok.1 hj
        obtain ⟨-, rfl⟩ := Prod.mk.inj hj
        obtain ⟨r', hshape, hread⟩ := hfields hblanks hscan
        exact ⟨r', hshape, readsTo_bracket hread (scanValue_fields (h.skipBlanks_ne hopen))⟩
      · push Not at hopen
        obtain ⟨rest, hrest⟩ := hopen
        rw [scanValue, hrest] at hj
        obtain ⟨-, rfl⟩ := Prod.mk.inj (Except.ok.inj hj)
        rw [hrest] at hblanks
        obtain ⟨rest', hrest', hshape⟩ := hblanks.of_cons (by decide)
        refine ⟨rest', hshape, readsTo_empty (.obj []) (by rw [hrest', List.length_cons])
          fun fuel' => ?_⟩
        rw [scanValue, hrest']
        rfl
    · have hplain : c ≠ '"' ∧ c ≠ '[' ∧ c ≠ '\x7b' := ⟨hc, harr, hobj⟩
      rw [scanValue_token hplain] at hj
      obtain ⟨r', hshape, hless, hread⟩ := exists_token (.char hc h) hj
      refine ⟨r', hshape, j, hless, fun fuel' hfuel => ?_⟩
      rw [List.length_cons] at hfuel hless
      obtain ⟨fuel', rfl⟩ := Nat.exists_eq_add_of_le' (show 1 ≤ fuel' by omega)
      rw [scanValue_token hplain, hread]

/-- Behind an item or a value there is a comma, the end, or something that is refused. -/
lemma bind_eq_ok {α β : Type} {x : Except DecodingError α} {f : α → Except DecodingError β}
    {b : β} :
    x.bind f = .ok b ↔ ∃ a, x = .ok a ∧ f a = .ok b := by
  cases x with
  | error e => exact ⟨fun h => by contradiction, fun ⟨_, h, _⟩ => by contradiction⟩
  | ok a =>
    constructor
    · intro h
      exact ⟨a, rfl, h⟩
    · rintro ⟨a', h, hf⟩
      rw [Except.ok.inj h]
      exact hf

/-- Items are read if values are. -/
lemma scanItems_simulates {fuel : ℕ} (hvalue : Simulates scanValue fuel)
    (hitems : Simulates scanItems fuel) : Simulates scanItems (fuel + 1) := by
  intro t t' r items h hj
  rw [scanItems] at hj
  obtain ⟨⟨item, u⟩, hscan, hj⟩ := bind_eq_ok.1 hj
  obtain ⟨u', hshape, item', hless, hread⟩ := hvalue h hscan
  have hblanks := hshape.skipBlanks
  have hle := skipBlanks_length_le u'
  dsimp only at hj
  split at hj
  · rename_i v hv
    obtain ⟨⟨rest, w⟩, hscan, hj⟩ := map_eq_ok.1 hj
    obtain ⟨-, rfl⟩ := Prod.mk.inj hj
    rw [hv] at hblanks
    obtain ⟨v', hv', hshape⟩ := hblanks.of_cons (by decide)
    obtain ⟨r', hshape, rest', hless', hread'⟩ := hitems hshape.skipBlanks hscan
    have hle' := skipBlanks_length_le v'
    rw [hv', List.length_cons] at hle
    refine ⟨r', hshape, item' :: rest', by omega, fun fuel' hfuel => ?_⟩
    obtain ⟨fuel', rfl⟩ := Nat.exists_eq_add_of_le' (show 1 ≤ fuel' by omega)
    rw [scanItems, hread fuel' (by omega)]
    simp only [Except.bind, hv', hread' fuel' (by omega), Except.map]
  · rename_i v hv
    obtain ⟨-, rfl⟩ := Prod.mk.inj (Except.ok.inj hj)
    rw [hv] at hblanks
    obtain ⟨v', hv', hshape⟩ := hblanks.of_cons (by decide)
    rw [hv', List.length_cons] at hle
    refine ⟨v', hshape, [item'], by omega, fun fuel' hfuel => ?_⟩
    obtain ⟨fuel', rfl⟩ := Nat.exists_eq_add_of_le' (show 1 ≤ fuel' by omega)
    rw [scanItems, hread fuel' (by omega)]
    simp only [Except.bind, hv']
  · contradiction

/-- Fields are read if values are. -/
lemma scanFields_simulates {fuel : ℕ} (hvalue : Simulates scanValue fuel)
    (hfields : Simulates scanFields fuel) : Simulates scanFields (fuel + 1) := by
  intro t t' r fields h hj
  rw [scanFields.eq_def] at hj
  dsimp only at hj
  split at hj
  · rename_i t
    obtain ⟨b, b', u, u', rfl, rfl, ⟨key, hkey⟩, ⟨key', hkey'⟩, hu⟩ := h.of_quote
    rw [hkey] at hj
    have hblanks := hu.skipBlanks
    have hle := skipBlanks_length_le u'
    simp only [scanned, Except.bind] at hj
    split at hj
    · rename_i v hv
      rw [hv] at hblanks
      obtain ⟨v', hv', hshape⟩ := hblanks.of_cons (by decide)
      have hle' := skipBlanks_length_le v'
      rw [hv', List.length_cons] at hle
      obtain ⟨⟨value, w⟩, hscan, hj⟩ := bind_eq_ok.1 hj
      obtain ⟨w', hshape, value', hless, hread⟩ := hvalue hshape.skipBlanks hscan
      have hblanks := hshape.skipBlanks
      have hle'' := skipBlanks_length_le w'
      dsimp only at hj
      split at hj
      · rename_i x hx
        obtain ⟨⟨rest, y⟩, hscan, hj⟩ := map_eq_ok.1 hj
        obtain ⟨-, rfl⟩ := Prod.mk.inj hj
        rw [hx] at hblanks
        obtain ⟨x', hx', hshape⟩ := hblanks.of_cons (by decide)
        obtain ⟨r', hshape, rest', hless', hread'⟩ := hfields hshape.skipBlanks hscan
        have hle₃ := skipBlanks_length_le x'
        rw [hx', List.length_cons] at hle''
        refine ⟨r', hshape, (key', value') :: rest', ?_, fun fuel' hfuel => ?_⟩
        · simp only [List.length_cons, List.length_append]
          omega
        · simp only [List.length_cons, List.length_append] at hfuel
          obtain ⟨fuel', rfl⟩ := Nat.exists_eq_add_of_le' (show 1 ≤ fuel' by omega)
          rw [scanFields, hkey']
          simp only [scanned, Except.bind, hv', hread fuel' (by omega), hx',
            hread' fuel' (by omega),
            Except.map]
      · rename_i x hx
        obtain ⟨-, rfl⟩ := Prod.mk.inj (Except.ok.inj hj)
        rw [hx] at hblanks
        obtain ⟨x', hx', hshape⟩ := hblanks.of_cons (by decide)
        rw [hx', List.length_cons] at hle''
        refine ⟨x', hshape, [(key', value')], ?_, fun fuel' hfuel => ?_⟩
        · simp only [List.length_cons, List.length_append]
          omega
        · simp only [List.length_cons, List.length_append] at hfuel
          obtain ⟨fuel', rfl⟩ := Nat.exists_eq_add_of_le' (show 1 ≤ fuel' by omega)
          rw [scanFields, hkey']
          simp only [scanned, Except.bind, hv', hread fuel' (by omega), hx']
      · contradiction
    · contradiction
  · contradiction

/-- The decoder takes the same steps on both texts. -/
lemma simulates (fuel : ℕ) :
    Simulates scanValue fuel ∧ Simulates scanItems fuel ∧ Simulates scanFields fuel := by
  induction fuel with
  | zero =>
    exact ⟨fun _ h => by contradiction, fun _ h => by contradiction, fun _ h => by contradiction⟩
  | succ fuel ih =>
    obtain ⟨hvalue, hitems, hfields⟩ := ih
    exact ⟨scanValue_simulates hitems hfields, scanItems_simulates hvalue hitems,
      scanFields_simulates hvalue hfields⟩

/-- A text with other contents of its strings is JSON as well. -/
theorem loads_of_reshapes {t t' : Text} {j : Json} (h : Reshapes t t') (hj : loads t = .ok j) :
    ∃ j', loads t' = .ok j' := by
  unfold loads at hj ⊢
  rw [h.head?_eq]
  split at hj
  · contradiction
  rename_i hmark
  rw [if_neg hmark]
  obtain ⟨⟨i, rest⟩, hscan, hj⟩ := bind_eq_ok.1 hj
  obtain ⟨rest', hshape, i', hless, hread⟩ := (simulates _).1 h.skipBlanks hscan
  have hle := skipBlanks_length_le t'
  rw [hread _ (by omega)]
  dsimp only at hj
  split at hj
  · rename_i hempty
    have hblanks := hshape.skipBlanks
    rw [List.isEmpty_iff.1 hempty] at hblanks
    refine ⟨i', ?_⟩
    cases hrest : skipBlanks rest' with
    | nil => simp [Except.bind, hrest]
    | cons c u =>
      rw [hrest] at hblanks
      cases hblanks
  · contradiction

/-! ## The encoding in ASCII -/

/-- An escaped text is the contents of a string. -/
lemma contents_escaped (s : Text) : Contents (s.flatMap escapeChar) :=
  ⟨s, scanString_escaped s⟩

/-- So is one escaped in ASCII. -/
lemma contents_asciiEscaped (s : Text) : Contents ((s.flatMap escapeChar).flatMap asciiEscape) :=
  ⟨s, scanString_asciiEscaped s⟩

/-- Printable characters stay as they are. -/
lemma flatMap_asciiEscape {p : Text} (hp : ∀ c ∈ p, c.toNat < 127) : p.flatMap asciiEscape = p := by
  rw [List.flatMap_congr fun c hc => asciiEscape_of_lt (hp c hc), List.flatMap_singleton']

/-- The encoding in front of a text is changed to the one in ASCII. -/
def Encodes (t : Text) : Prop :=
  ∀ r r', Reshapes r r' → Reshapes (t ++ r) (t.flatMap asciiEscape ++ r')

/-- Encodings are put one behind the other. -/
lemma Encodes.append {t u : Text} (ht : Encodes t) (hu : Encodes u) : Encodes (t ++ u) := by
  intro r r' h
  rw [List.flatMap_append, List.append_assoc, List.append_assoc]
  exact ht _ _ (hu r r' h)

/-- Printable characters are encoded as they are. -/
lemma encodes_of_printable {p : Text} (hp : ∀ c ∈ p, c ≠ '"' ∧ c.toNat < 127) : Encodes p := by
  intro r r' h
  rw [flatMap_asciiEscape fun c hc => (hp c hc).2]
  exact h.append_left fun hc => (hp _ hc).1 rfl

/-- So is a single one. -/
lemma encodes_char {c : Char} (hc : c ≠ '"') (hc' : c.toNat < 127) : Encodes [c] :=
  encodes_of_printable (List.forall_mem_singleton.2 ⟨hc, hc'⟩)

/-- A string gets other contents. -/
lemma encodes_quote (s : Text) : Encodes (quote s) := by
  intro r r' h
  have hmark : asciiEscape '"' = ['"'] := asciiEscape_of_lt (by decide)
  have h := Reshapes.string (contents_escaped s) (contents_asciiEscaped s) h
  simpa [quote, hmark] using h

/-- Entries are encoded one by one. -/
lemma encodes_commaSeparated {es : List Text} (h : ∀ e ∈ es, Encodes e) :
    Encodes (commaSeparated es) := by
  induction es with
  | nil => exact encodes_of_printable (by simp [commaSeparated])
  | cons e es ih =>
    obtain ⟨he, hes⟩ := List.forall_mem_cons.1 h
    rcases eq_or_ne es [] with rfl | hne
    · exact he
    · rw [commaSeparated_cons hne]
      exact he.append ((encodes_char (by simp) (by simp)).append (ih hes))

/-- So is every value. -/
lemma encodes_dumps {j : Json} (hj : Plain j) : Encodes (dumps j) := by
  induction j using Json.induction with
  | null => exact encodes_of_printable (by simp [dumps])
  | bool b => cases b <;> exact encodes_of_printable (by simp [dumps])
  | int n =>
    have hdigit : ∀ l : ℕ, ∀ c ∈ Nat.toDigits 10 l, c ≠ '"' ∧ c.toNat < 127 := by
      intro l c hc
      have hc' := isDigit_of_mem_toDigits hc
      refine ⟨?_, ?_⟩
      · rintro rfl
        exact absurd hc' (by decide)
      · simp only [isDigit, Bool.and_eq_true, decide_eq_true_eq, Char.le_def,
          UInt32.le_iff_toNat_le] at hc'
        exact lt_of_le_of_lt hc'.2 (by decide)
    refine encodes_of_printable ?_
    cases n with
    | ofNat l => exact hdigit l
    | negSucc l => exact List.forall_mem_cons.2 ⟨by simp, hdigit (l + 1)⟩
  | float l => cases hj
  | str s => exact encodes_quote s
  | arr items ih =>
    cases hj with
    | arr hitems =>
    rw [dumps_arr]
    refine (encodes_char (by simp) (by simp)).append ((encodes_commaSeparated ?_).append
      (encodes_char (by simp) (by simp)))
    intro e he
    obtain ⟨j, hj, rfl⟩ := List.mem_map.1 he
    exact ih j hj (hitems j hj)
  | obj fields ih =>
    cases hj with
    | obj hkeys hfields =>
    rw [dumps_obj]
    refine (encodes_char (by simp) (by simp)).append ((encodes_commaSeparated ?_).append
      (encodes_char (by simp) (by simp)))
    intro e he
    obtain ⟨f, hf, rfl⟩ := List.mem_map.1 he
    have hf := (sortFields_perm fields).mem_iff.1 hf
    exact (encodes_quote f.1).append ((encodes_char (by simp) (by simp)).append
      (ih f hf (hfields f hf)))

/-- The encoding in ASCII has other contents of strings than the encoding. -/
lemma reshapes_asciiDumps {j : Json} (hj : Plain j) : Reshapes (dumps j) (asciiDumps j) := by
  have h := encodes_dumps hj [] [] .nil
  rwa [List.append_nil, List.append_nil] at h

/-- The encoding in ASCII can be changed in its strings, and is JSON still. -/
theorem loads_of_reshapes_asciiDumps {j : Json} (hj : Plain j) {t : Text}
    (h : Reshapes (asciiDumps j) t) : ∃ j', loads t = .ok j' := by
  obtain ⟨i, hi⟩ := loads_of_reshapes (reshapes_asciiDumps hj) (loads_dumps hj)
  exact loads_of_reshapes h hi

end Json
