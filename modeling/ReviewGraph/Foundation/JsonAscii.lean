import ReviewGraph.Foundation.JsonDecoding

/-!
# JSON in ASCII

`asciiDumps` is the compact encoding with sorted keys in which every character outside the printable
ones is escaped.  Such characters occur only in strings, so that the escapes can be put into the
encoding of `Json.dumps`.
-/

namespace Json

/-- The escape of a code unit, four hexadecimal digits. -/
def unitEscape (n : ℕ) : Text :=
  let digits := Nat.toDigits 16 n
  '\\' :: 'u' :: (List.replicate (4 - digits.length) '0' ++ digits)

/-- A printable character, or the escapes of its code units. -/
def asciiEscape (c : Char) : Text :=
  let n := c.toNat
  if n < 127 then [c]
  else if n < 0x10000 then unitEscape n
  else unitEscape (0xd800 + (n - 0x10000) / 0x400) ++ unitEscape (0xdc00 + (n - 0x10000) % 0x400)

/-- `json.dumps` with sorted keys and without blanks. -/
def asciiDumps (j : Json) : Text := (dumps j).flatMap asciiEscape

/-! ## Strings round trip -/

/-- A hexadecimal digit has its value. -/
lemma hexValue?_digitChar {n : ℕ} (h : n < 16) : hexValue? (Nat.digitChar n) = some n := by
  interval_cases n <;> rfl

/-- The digits of a code unit, filled up to four. -/
lemma unitDigits {n : ℕ} (h : n < 0x10000) :
    List.replicate (4 - (Nat.toDigits 16 n).length) '0' ++ Nat.toDigits 16 n =
      [Nat.digitChar (n / 16 / 16 / 16), Nat.digitChar (n / 16 / 16 % 16),
        Nat.digitChar (n / 16 % 16), Nat.digitChar (n % 16)] := by
  have hstep : ∀ m, 16 ≤ m → Nat.toDigits 16 m = Nat.toDigits 16 (m / 16) ++
      [Nat.digitChar (m % 16)] :=
    fun m hm => Nat.toDigits_of_base_le (by decide) hm
  have hlast : ∀ m, m < 16 → Nat.toDigits 16 m = [Nat.digitChar m] :=
    fun m hm => Nat.toDigits_of_lt_base hm
  have hzero : ('0' : Char) = Nat.digitChar 0 := rfl
  rcases Nat.lt_or_ge n 16 with h₁ | h₁
  · rw [hlast n h₁, hzero, show n / 16 = 0 by omega, show n % 16 = n by omega]
    rfl
  rcases Nat.lt_or_ge (n / 16) 16 with h₂ | h₂
  · rw [hstep n h₁, hlast _ h₂, hzero, show n / 16 / 16 = 0 by
      omega, show n / 16 % 16 = n / 16 by omega]
    rfl
  rcases Nat.lt_or_ge (n / 16 / 16) 16 with h₃ | h₃
  · rw [hstep n h₁, hstep _ h₂, hlast _ h₃, hzero, show n / 16 / 16 / 16 = 0 by omega,
      show n / 16 / 16 % 16 = n / 16 / 16 by omega]
    rfl
  · rw [hstep n h₁, hstep _ h₂, hstep _ h₃, hlast _ (by omega)]
    rfl

/-- The escape of a code unit is scanned as the unit. -/
lemma scanUnits_unitEscape {n : ℕ} (h : n < 0x10000) (t : Text) :
    scanUnits (unitEscape n ++ t) = (scanUnits t).map (consUnit n) := by
  have hfour : hexFour? (Nat.digitChar (n / 16 / 16 / 16)) (Nat.digitChar (n / 16 / 16 % 16))
      (Nat.digitChar (n / 16 % 16)) (Nat.digitChar (n % 16)) = some n := by
    unfold hexFour?
    rw [hexValue?_digitChar (by omega), hexValue?_digitChar (by omega),
      hexValue?_digitChar (by omega), hexValue?_digitChar (by omega)]
    simp only [Option.bind_eq_bind, Option.bind_some, Option.pure_def, Option.some.injEq]
    omega
  unfold unitEscape
  dsimp only
  rw [unitDigits h, scanUnits.eq_def]
  simp [hfour]

/-- The code units of a character. -/
def codeUnits (c : Char) : List ℕ :=
  if c.toNat < 0x10000 then [c.toNat]
  else [0xd800 + (c.toNat - 0x10000) / 0x400, 0xdc00 + (c.toNat - 0x10000) % 0x400]

/-- The code units of a text are joined to the text. -/
lemma joinUnits_codeUnits (s : Text) : joinUnits (s.flatMap codeUnits) = some s := by
  induction s with
  | nil => rfl
  | cons c s ih =>
    have hvalid : c.toNat < 0xd800 ∨ 0xdfff < c.toNat ∧ c.toNat < 0x110000 := c.valid
    rw [List.flatMap_cons, codeUnits]
    split
    · rw [List.singleton_append, joinUnits.eq_def]
      simp only
      rw [if_neg (by omega), if_neg (by omega), ih, Char.ofNat_toNat]
      rfl
    · rw [List.cons_append, List.singleton_append, joinUnits.eq_def]
      simp only
      rw [if_pos (by omega), if_pos (by omega), ih]
      have hc : Char.ofNat (0x10000 + (0xd800 + (c.toNat - 0x10000) / 0x400 - 0xd800) * 0x400 +
          (0xdc00 + (c.toNat - 0x10000) % 0x400 - 0xdc00)) = c := by
        rw [show 0x10000 + (0xd800 + (c.toNat - 0x10000) / 0x400 - 0xd800) * 0x400 +
          (0xdc00 + (c.toNat - 0x10000) % 0x400 - 0xdc00) = c.toNat by omega, Char.ofNat_toNat]
      rw [hc]
      rfl

/-- Printable characters are not escaped. -/
lemma asciiEscape_of_lt {c : Char} (h : c.toNat < 127) : asciiEscape c = [c] := if_pos h

/-- The escapes of a string are scanned as its code units. -/
lemma scanUnits_asciiEscape (c : Char) (t : Text) :
    scanUnits ((escapeChar c).flatMap asciiEscape ++ t) =
      (scanUnits t).map fun scanned => (codeUnits c ++ scanned.1, scanned.2) := by
  rcases Nat.lt_or_ge c.toNat 127 with hlt | hge
  · -- The escape of an ASCII character is in ASCII.
    have hascii : ∀ d ∈ escapeChar c, asciiEscape d = [d] := by
      have hhex : ∀ n, (Nat.digitChar (n % 16)).toNat < 127 := by
        intro n
        have hn : n % 16 < 16 := Nat.mod_lt n (by decide)
        interval_cases n % 16 <;> decide
      intro d hd
      refine asciiEscape_of_lt ?_
      unfold escapeChar at hd
      split at hd
      case h_8 =>
        split at hd
        · simp only [controlHex, List.mem_cons, List.not_mem_nil, or_false] at hd
          rcases hd with rfl | rfl | rfl | rfl | hd | rfl
          any_goals decide
          · rw [hd]
            split <;> decide
          · exact hhex c.toNat
        · obtain rfl := List.mem_singleton.1 hd
          exact hlt
      all_goals
        simp only [List.mem_cons, List.not_mem_nil, or_false] at hd
        rcases hd with rfl | rfl <;> decide
    have hsame : (escapeChar c).flatMap asciiEscape = escapeChar c := by
      rw [List.flatMap_congr hascii, List.flatMap_singleton']
    have hunits : codeUnits c = [c.toNat] := if_pos (by omega)
    rw [hsame, scanUnits_escapeChar, hunits]
    rfl
  · have hescape : escapeChar c = [c] := by
      unfold escapeChar
      split
      case h_8 => exact if_neg (by omega)
      all_goals exact absurd hge (by decide)
    rw [hescape, List.flatMap_singleton]
    unfold asciiEscape codeUnits
    dsimp only
    rw [if_neg (by omega)]
    have hvalid : c.toNat < 0xd800 ∨ 0xdfff < c.toNat ∧ c.toNat < 0x110000 := c.valid
    split
    · rename_i hunit
      rw [scanUnits_unitEscape hunit]
      rfl
    · rw [List.append_assoc, scanUnits_unitEscape (by omega), scanUnits_unitEscape (by omega),
        Option.map_map]
      rfl

/-- The escaped text is scanned as its code units. -/
lemma scanUnits_asciiEscaped (s r : Text) :
    scanUnits ((s.flatMap escapeChar).flatMap asciiEscape ++ '"' :: r) =
      some (s.flatMap codeUnits, r) := by
  induction s with
  | nil => rw [List.flatMap_nil, List.flatMap_nil, List.nil_append, scanUnits.eq_def]; rfl
  | cons c s ih =>
    rw [List.flatMap_cons, List.flatMap_append, List.append_assoc, scanUnits_asciiEscape, ih]
    rfl

/-- A quoted text is read back from ASCII. -/
lemma scanString_asciiEscaped (s r : Text) :
    scanString ((s.flatMap escapeChar).flatMap asciiEscape ++ '"' :: r) = some (s, r) := by
  simp [scanString, scanUnits_asciiEscaped, joinUnits_codeUnits]

/-! ## Values in front of a text -/

/-- An encoded text is found in front of any text. -/
lemma asciiDumps_str_append_inj {s s' r r' : Text}
    (h : asciiDumps (.str s) ++ r = asciiDumps (.str s') ++ r') : s = s' ∧ r = r' := by
  have hquote : ∀ u v : Text, asciiDumps (.str u) ++ v =
      '"' :: ((u.flatMap escapeChar).flatMap asciiEscape ++ '"' :: v) := by
    intro u v
    have hmark : asciiEscape '"' = ['"'] := asciiEscape_of_lt (by decide)
    simp [asciiDumps, dumps, quote, hmark]
  rw [hquote, hquote] at h
  have hscan := congrArg scanString (List.cons.inj h).2
  rw [scanString_asciiEscaped, scanString_asciiEscaped] at hscan
  exact Prod.ext_iff.1 (Option.some.inj hscan)

/-- So is one that may be absent. -/
lemma asciiDumps_optional_append_inj {s s' : Option Text} {r r' : Text}
    (h : asciiDumps (s.elim .null .str) ++ r = asciiDumps (s'.elim .null .str) ++ r') :
    s = s' ∧ r = r' := by
  have hstr : ∀ u v : Text, ∃ w, asciiDumps (.str u) ++ v = '"' :: w := by
    intro u v
    have hmark : asciiEscape '"' = ['"'] := asciiEscape_of_lt (by decide)
    exact ⟨_, by simp [asciiDumps, dumps, quote, hmark]; rfl⟩
  have hnull : ∀ v : Text, asciiDumps .null ++ v = 'n' :: 'u' :: 'l' :: 'l' :: v := fun _ => rfl
  cases s with
  | none =>
    cases s' with
    | none => exact ⟨rfl, by simpa [hnull] using h⟩
    | some u =>
      obtain ⟨w, hw⟩ := hstr u r'
      simp [hnull, hw] at h
  | some t =>
    cases s' with
    | none =>
      obtain ⟨w, hw⟩ := hstr t r
      simp [hnull, hw] at h
    | some u =>
      obtain ⟨rfl, hr⟩ := asciiDumps_str_append_inj h
      exact ⟨rfl, hr⟩

/-- An encoded number is found in front of a comma. -/
lemma asciiDumps_int_append_inj {n m : ℤ} {r r' : Text}
    (h : asciiDumps (.int n) ++ ',' :: r = asciiDumps (.int m) ++ ',' :: r') :
    n = m ∧ r = r' := by
  have hsame : ∀ k : ℤ, asciiDumps (.int k) = Text.ofInt k := by
    intro k
    have hdigit : ∀ l : ℕ, ∀ c ∈ Nat.toDigits 10 l, asciiEscape c = [c] := by
      intro l c hc
      have hc' := isDigit_of_mem_toDigits hc
      simp only [isDigit, Bool.and_eq_true, decide_eq_true_eq, Char.le_def,
        UInt32.le_iff_toNat_le] at hc'
      exact asciiEscape_of_lt (lt_of_le_of_lt hc'.2 (by decide))
    unfold asciiDumps dumps
    cases k with
    | ofNat l => rw [Text.ofInt, Text.ofNat, List.flatMap_congr (hdigit l), List.flatMap_singleton']
    | negSucc l =>
      rw [Text.ofInt, Text.ofNat, List.flatMap_cons, List.flatMap_congr (hdigit (l + 1)),
        List.flatMap_singleton']
      rfl
  have hends : ∀ t : Text, EndsNumber (',' :: t) := by
    intro t c hc
    obtain rfl := Option.some.inj hc
    decide
  rw [hsame, hsame] at h
  have hscan := congrArg integerParts h
  rw [integerParts_ofInt n (hends r), integerParts_ofInt m (hends r')] at hscan
  obtain ⟨hsign, hscan⟩ := Prod.ext_iff.1 hscan
  obtain ⟨hdigits, hr⟩ := Prod.ext_iff.1 hscan
  dsimp only at hsign hdigits hr
  refine ⟨?_, (List.cons.inj hr).2⟩
  rw [← integerOf_signOf_digitsOf n, hsign, hdigits, integerOf_signOf_digitsOf]

end Json
