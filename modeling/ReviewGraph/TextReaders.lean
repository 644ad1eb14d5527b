import ReviewGraph.PatchGrammar

/-!
# Reading parts of texts

Splitting a text at a character is the inverse of joining it, and the readers of the standard
library give for a text of ASCII digits the number that it stands for.
-/

namespace ReviewGraph

/-! ## Splitting -/

/-- A text is split at the first separator. -/
lemma splitFirst_append {c : Char} {s t : Text} (h : c ∉ s) : splitFirst c (s ++ c :: t) = (s,
    t) := by
  have hall : ∀ d ∈ s, decide (d ≠ c) = true := by
    intro d hd
    rw [decide_eq_true_eq]
    rintro rfl
    exact h hd
  unfold splitFirst
  rw [List.takeWhile_append_of_pos hall, List.dropWhile_append_of_pos hall,
    List.takeWhile_cons_of_neg (by simp), List.dropWhile_cons_of_neg (by simp), List.append_nil,
    List.tail_cons]

/-- A text with the character is what stands in front of it, the character, and what stands behind
it. -/
lemma splitFirst_eq {c : Char} {t : Text} (h : c ∈ t) :
    t = (splitFirst c t).1 ++ c :: (splitFirst c t).2 := by
  obtain ⟨s, u, rfl, hs⟩ := List.eq_append_cons_of_mem h
  rw [splitFirst_append hs]

/-- Without a separator there is nothing behind. -/
lemma splitFirst_of_not_mem {c : Char} {t : Text} (h : c ∉ t) : splitFirst c t = (t, []) := by
  have hall : ∀ d ∈ t, decide (d ≠ c) = true := by
    intro d hd
    rw [decide_eq_true_eq]
    rintro rfl
    exact h hd
  unfold splitFirst
  rw [List.takeWhile_eq_self_iff.2 hall, List.dropWhile_eq_nil_iff.2 hall, List.tail_nil]

/-! ## Numerals -/

/-- Different numbers have different numerals. -/
lemma ofNat_injective {m n : ℕ} (h : Text.ofNat m = Text.ofNat n) : m = n := by
  have hm : decimalNat (Text.ofNat m) = m := decimalNat_digits m
  have hn : decimalNat (Text.ofNat n) = n := decimalNat_digits n
  rw [← hm, h, hn]

/-- The digits of a number are read one by one. -/
lemma readDigits_of_decimal {t : Text} (h : ∀ c ∈ t, Unicode.isDigit c = true) (acc : ℕ) :
    DateTime.readDigits acc t = some (t.foldl (fun n c => n * 10 + (Unicode.decimalValue? c).getD 0)
      acc) := by
  induction t generalizing acc with
  | nil => rfl
  | cons c t ih =>
    have hc := h c List.mem_cons_self
    have hvalue := decimalValue?_digit hc
    have hne : c ≠ '_' := by
      rintro rfl
      exact absurd hc (by decide)
    have hread : DateTime.readDigits acc (c :: t) =
        (Unicode.decimalValue? c).bind fun d => DateTime.readDigits (acc * 10 + d) t := by
      rw [DateTime.readDigits]
      · rfl
      · intro d rest hunderscore
        exact absurd hunderscore hne
    rw [hread, hvalue, Option.bind_some, ih (fun d hd => h d (List.mem_cons_of_mem _ hd)),
      List.foldl_cons,
      hvalue, Option.getD_some]

/-- A digit is no blank. -/
lemma isIntBlank_digit {c : Char} (hc : Unicode.isDigit c = true) : DateTime.isIntBlank c =
    false := by
  simp only [Unicode.isDigit, Bool.and_eq_true, decide_eq_true_eq, Char.le_def,
    UInt32.le_iff_toNat_le] at hc
  have hhigh : c.toNat ≤ 0x30 + 9 := hc.2
  have hlow : 0x30 ≤ c.toNat := hc.1
  have hsmall : ¬ 128 ≤ c.toNat := by omega
  have hmem : c ∉ [' ', '\t', '\n', '\x0b', '\x0c', '\r'] := by
    intro hmem
    simp only [List.mem_cons, List.not_mem_nil, or_false] at hmem
    rcases hmem with rfl | rfl | rfl | rfl | rfl | rfl <;> revert hlow <;> decide
  unfold DateTime.isIntBlank
  simp only [hsmall, decide_false, Bool.false_and, Bool.or_false, decide_eq_false_iff_not]
  exact hmem

/-- An integer without sign is read from its digits. -/
lemma readInt_digits {t : Text} (hne : t ≠ []) (h : ∀ c ∈ t, Unicode.isDigit c = true) :
    DateTime.readInt t = some (decimalNat t : ℤ) := by
  have htrim : (t.dropWhile DateTime.isIntBlank).rdropWhile DateTime.isIntBlank = t := by
    have hdrop : t.dropWhile DateTime.isIntBlank = t := by
      cases t with
      | nil => rfl
      | cons c t =>
        rw [List.dropWhile_cons_of_neg]
        rw [isIntBlank_digit (h c List.mem_cons_self)]
        exact Bool.false_ne_true
    rw [hdrop, List.rdropWhile_eq_self_iff]
    intro hne
    rw [isIntBlank_digit (h _ (List.getLast_mem hne))]
    exact Bool.false_ne_true
  have hnat : DateTime.readNat t = some (decimalNat t) := by
    cases t with
    | nil => contradiction
    | cons c t =>
      have hvalue := decimalValue?_digit (h c List.mem_cons_self)
      dsimp only [DateTime.readNat, decimalNat]
      rw [hvalue, List.foldl_cons, hvalue, Option.getD_some, Nat.zero_mul, Nat.zero_add]
      exact readDigits_of_decimal (fun d hd => h d (List.mem_cons_of_mem _ hd)) _
  have hhead : ∀ {c : Char} {digits : Text}, t = c :: digits → Unicode.isDigit c = true := by
    rintro c digits rfl
    exact h c List.mem_cons_self
  unfold DateTime.readInt
  rw [htrim]
  split
  · exact absurd (hhead rfl) (by decide)
  · exact absurd (hhead rfl) (by decide)
  · rw [hnat]
    rfl

end ReviewGraph
