import ReviewGraph.Foundation.Json

/-!
# Decoding JSON

`loads` reads a JSON value from a text: literals, numbers, strings with their escapes, arrays and
objects, with blanks between the tokens.  A later field replaces an earlier one with the same key.
The escape of an isolated surrogate is rejected, since no text contains one, and so is an integer of
more than `maxIntegerDigits` digits, with an error of its own.

The round trip `loads_dumps` holds for the values without fractional numbers and too long integers
whose objects have distinct keys, `Json.Plain`; reading the canonical encoding of such a value
returns its canonical form.  Hence plain values with one encoding have one canonical form,
`canonical_eq_of_dumps_eq`.
-/

namespace Json

/-! ## Tokens -/

/-- A blank between two tokens. -/
def isBlank (c : Char) : Bool := c == ' ' || c == '\t' || c == '\n' || c == '\r'

/-- The text behind its leading blanks. -/
def skipBlanks (t : Text) : Text := t.dropWhile isBlank

/-- An ASCII digit. -/
def isDigit (c : Char) : Bool := '0' ≤ c && c ≤ '9'

/-- The value of a hexadecimal digit. -/
def hexValue? (c : Char) : Option ℕ :=
  if isDigit c then some (c.toNat - 48)
  else if 'a' ≤ c ∧ c ≤ 'f' then some (c.toNat - 87)
  else if 'A' ≤ c ∧ c ≤ 'F' then some (c.toNat - 55)
  else none

/-- The value of four hexadecimal digits. -/
def hexFour? (a b c d : Char) : Option ℕ := do
  return ((← hexValue? a) * 16 + (← hexValue? b)) * 256 + (← hexValue? c) * 16 + (← hexValue? d)

/-- The character that a two-character escape stands for. -/
def escaped? (e : Char) : Option Char :=
  match e with
  | '"' => some '"'
  | '\\' => some '\\'
  | '/' => some '/'
  | 'b' => some '\x08'
  | 'f' => some '\x0c'
  | 'n' => some '\n'
  | 'r' => some '\r'
  | 't' => some '\t'
  | _ => none

/-- Put a code unit in front of a scanned string. -/
def consUnit (n : ℕ) (scanned : List ℕ × Text) : List ℕ × Text := (n :: scanned.1, scanned.2)

/-- The code units of a string up to its closing quotation mark, and the text behind it. -/
def scanUnits : Text → Option (List ℕ × Text)
  | [] => none
  | c :: t =>
    if c = '"' then some ([], t)
    else if c = '\\' then
      match t with
      | 'u' :: a :: b :: c :: d :: t =>
        (hexFour? a b c d).bind fun n => (scanUnits t).map (consUnit n)
      | e :: t => (escaped? e).bind fun c => (scanUnits t).map (consUnit c.toNat)
      | [] => none
    else if c.toNat < 32 then none
    else (scanUnits t).map (consUnit c.toNat)

/-- The text of a sequence of code units, which pairs up the surrogates. -/
def joinUnits : List ℕ → Option Text
  | [] => some []
  | n :: ns =>
    if 0xd800 ≤ n ∧ n < 0xdc00 then
      match ns with
      | m :: ns =>
        if 0xdc00 ≤ m ∧ m < 0xe000 then
          (joinUnits ns).map (Char.ofNat (0x10000 + (n - 0xd800) * 0x400 + (m - 0xdc00)) :: ·)
        else none
      | [] => none
    else if 0xdc00 ≤ n ∧ n < 0xe000 then none
    else (joinUnits ns).map (Char.ofNat n :: ·)

/-- A string behind its opening quotation mark. -/
def scanString (t : Text) : Option (Text × Text) := do
  let (units, rest) ← scanUnits t
  return (← joinUnits units, rest)

/-- The digits of the integer part of a number: a single zero, or digits without leading zero. -/
def integerDigits : Text → Text
  | [] => []
  | c :: t => if c = '0' then ['0'] else (c :: t).takeWhile isDigit

/-- The optional fraction of a number. -/
def fraction : Text → Text
  | '.' :: t => if (t.takeWhile isDigit).isEmpty then [] else '.' :: t.takeWhile isDigit
  | _ => []

/-- The optional exponent of a number. -/
def exponent : Text → Text
  | e :: t =>
    if e = 'e' ∨ e = 'E' then
      let sign := t.take 1 |>.filter fun c => c == '+' || c == '-'
      let digits := (t.drop sign.length).takeWhile isDigit
      if digits.isEmpty then [] else e :: sign ++ digits
    else []
  | [] => []

/-- Why a text is not decoded: it is no JSON, or an integer in it has too many digits to be
converted. -/
inductive DecodingError
  | invalid
  | digitLimit (digits : ℕ)
  deriving DecidableEq, Repr

/-- The message of the error. -/
def DecodingError.message : DecodingError → Text
  | .invalid => "Expecting value"
  | .digitLimit digits =>
    "Exceeds the limit (4300 digits) for integer string conversion: value has " ++
      (Text.ofNat digits ++ " digits; use sys.set_int_max_str_digits() to increase the limit")

/-- `sys.get_int_max_str_digits()`, the default. -/
def maxIntegerDigits : ℕ := 4300

/-- What has been scanned, or the error of a text that is no JSON. -/
def scanned {α : Type} : Option α → Except DecodingError α
  | some a => .ok a
  | none => .error .invalid

/-- The sign and the digits of an integer, and the text behind them. -/
def integerParts (t : Text) : Text × Text × Text :=
  let sign := t.take 1 |>.filter (· == '-')
  let digits := integerDigits (t.drop sign.length)
  (sign, digits, (t.drop sign.length).drop digits.length)

/-- The integer with a sign and digits. -/
def integerOf (sign digits : Text) : ℤ :=
  let n : ℤ := (Nat.ofDigitChars 10 digits 0 : ℕ)
  if sign.isEmpty then n else -n

/-- A number. -/
def scanNumber (t : Text) : Except DecodingError (Json × Text) :=
  let (sign, digits, rest) := integerParts t
  if digits.isEmpty then .error .invalid
  else
    let frac := fraction rest
    let exp := exponent (rest.drop frac.length)
    if frac.isEmpty && exp.isEmpty then
      if maxIntegerDigits < digits.length then .error (.digitLimit digits.length)
      else .ok (.int (integerOf sign digits), rest)
    else .ok (.float (sign ++ digits ++ frac ++ exp), (rest.drop frac.length).drop exp.length)

/-- The values that are written as a word. -/
def wordValues : List (Text × Json) :=
  [(['n', 'u', 'l', 'l'], .null), (['t', 'r', 'u', 'e'], .bool true),
    (['f', 'a', 'l', 's', 'e'], .bool false), (['N', 'a', 'N'], .float "NaN"),
    (['I', 'n', 'f', 'i', 'n', 'i', 't', 'y'], .float "Infinity"),
    (['-', 'I', 'n', 'f', 'i', 'n', 'i', 't', 'y'], .float "-Infinity")]

/-- A value that is written as a word. -/
def scanWord (t : Text) : Option (Json × Text) :=
  wordValues.findSome? fun w => (w.1.isPrefixOf? t).map fun rest => (w.2, rest)

/-! ## Values -/

/-- Set a field of an object, keeping the place of an existing one. -/
def setField (fields : List (Text × Json)) (f : Text × Json) : List (Text × Json) :=
  if fields.any (·.1 == f.1) then fields.map fun g => if g.1 = f.1 then f else g
  else fields ++ [f]

/-- The object that arises by setting the fields one after the other. -/
def objectOf (fields : List (Text × Json)) : Json := .obj (fields.foldl setField [])

mutual

/-- A value at the beginning of a text, and the text behind it.  The first argument bounds the
depth of the recursion. -/
def scanValue : ℕ → Text → Except DecodingError (Json × Text)
  | 0, _ => .error .invalid
  | fuel + 1, t =>
    match t with
    | '"' :: t => (scanned (scanString t)).map fun (s, rest) => (.str s, rest)
    | '[' :: t =>
      match skipBlanks t with
      | '\x5d' :: rest => .ok (.arr [], rest)
      | t => (scanItems fuel t).map fun (items, rest) => (.arr items, rest)
    | '\x7b' :: t =>
      match skipBlanks t with
      | '\x7d' :: rest => .ok (.obj [], rest)
      | t => (scanFields fuel t).map fun (fields, rest) => (objectOf fields, rest)
    | t => (scanWord t).elim (scanNumber t) .ok

/-- The items of an array up to its closing bracket. -/
def scanItems : ℕ → Text → Except DecodingError (List Json × Text)
  | 0, _ => .error .invalid
  | fuel + 1, t =>
    (scanValue fuel t).bind fun (item, t) =>
      match skipBlanks t with
      | ',' :: t => (scanItems fuel (skipBlanks t)).map fun (items, rest) => (item :: items, rest)
      | '\x5d' :: rest => .ok ([item], rest)
      | _ => .error .invalid

/-- The fields of an object up to its closing brace. -/
def scanFields : ℕ → Text → Except DecodingError (List (Text × Json) × Text)
  | 0, _ => .error .invalid
  | fuel + 1, t =>
    match t with
    | '"' :: t =>
      (scanned (scanString t)).bind fun (key, t) =>
        match skipBlanks t with
        | ':' :: t =>
          (scanValue fuel (skipBlanks t)).bind fun (value, t) =>
            match skipBlanks t with
            | ',' :: t =>
              (scanFields fuel (skipBlanks t)).map fun (fields, rest) =>
              ((key, value) :: fields, rest)
            | '\x7d' :: rest => .ok ([(key, value)], rest)
            | _ => .error .invalid
        | _ => .error .invalid
    | _ => .error .invalid

end

/-- `json.loads`: a `JSONDecodeError`, or the `ValueError` of an integer with too many digits. -/
def loads (t : Text) : Except DecodingError Json :=
  if t.head? = some '\ufeff' then .error .invalid
  else (scanValue (t.length + 1) (skipBlanks t)).bind fun (j, rest) =>
    if (skipBlanks rest).isEmpty then .ok j else .error .invalid

/-! ## Numbers round trip -/

/-- The text behind a number does not continue it. -/
def EndsNumber (t : Text) : Prop :=
  ∀ c ∈ t.head?, isDigit c = false ∧ c ≠ '.' ∧ c ≠ 'e' ∧ c ≠ 'E'

/-- The digits of a number are digits. -/
lemma isDigit_of_mem_toDigits {n : ℕ} {c : Char} (h : c ∈ Nat.toDigits 10 n) :
    isDigit c = true := by
  have hc := Nat.isDigit_of_mem_toDigits (by norm_num) le_rfl h
  simp only [Char.isDigit, Bool.and_eq_true, decide_eq_true_eq] at hc
  simp only [isDigit, Bool.and_eq_true, decide_eq_true_eq, Char.le_def]
  exact hc

/-- A positive number is written without a leading zero. -/
lemma toDigits_eq_cons {n : ℕ} (hn : 0 < n) : ∃ d ds, Nat.toDigits 10 n = d :: ds ∧ d ≠ '0' := by
  induction n using Nat.strong_induction_on with
  | _ n ih =>
    by_cases hlt : n < 10
    · refine ⟨n.digitChar, [], Nat.toDigits_of_lt_base hlt, ?_⟩
      interval_cases n <;> decide
    · have hle : 10 ≤ n := Nat.le_of_not_lt hlt
      obtain ⟨d, ds, hd, hne⟩ := ih (n / 10) (Nat.div_lt_self hn (by norm_num)) (by omega)
      refine ⟨d, ds ++ [(n % 10).digitChar], ?_, hne⟩
      rw [Nat.toDigits_of_base_le (by norm_num) hle, hd, List.cons_append]

/-- The digits of a number are its integer part. -/
lemma integerDigits_toDigits (n : ℕ) {r : Text} (hr : EndsNumber r) :
    integerDigits (Nat.toDigits 10 n ++ r) = Nat.toDigits 10 n := by
  rcases Nat.eq_zero_or_pos n with rfl | hn
  · rfl
  · obtain ⟨d, ds, hd, hne⟩ := toDigits_eq_cons hn
    have hall : ∀ c ∈ Nat.toDigits 10 n, isDigit c = true := fun c hc => isDigit_of_mem_toDigits hc
    have hstop : r.takeWhile isDigit = [] := by
      cases r with
      | nil => rfl
      | cons c r => rw [List.takeWhile_cons, (hr c rfl).1]; rfl
    have htake : (Nat.toDigits 10 n ++ r).takeWhile isDigit = Nat.toDigits 10 n := by
      rw [List.takeWhile_append_of_pos hall, hstop, List.append_nil]
    rw [hd] at htake ⊢
    rw [List.cons_append, integerDigits, if_neg hne]
    exact htake

/-- What ends a number begins no fraction. -/
lemma fraction_of_endsNumber {r : Text} (hr : EndsNumber r) : fraction r = [] := by
  cases r with
  | nil => rfl
  | cons c r =>
    unfold fraction
    split
    · rename_i t heq
      obtain ⟨rfl, -⟩ := List.cons.inj heq
      exact absurd rfl (hr '.' rfl).2.1
    · rfl

/-- What ends a number begins no exponent. -/
lemma exponent_of_endsNumber {r : Text} (hr : EndsNumber r) : exponent r = [] := by
  cases r with
  | nil => rfl
  | cons c r =>
    obtain ⟨-, -, he, hE⟩ := hr c rfl
    rw [exponent, if_neg (by rintro (rfl | rfl) <;> contradiction)]

/-- The digits of an integer. -/
def digitsOf (n : ℤ) : Text := Nat.toDigits 10 n.natAbs

/-- The sign of an integer. -/
def signOf : ℤ → Text
  | .ofNat _ => []
  | .negSucc _ => ['-']

/-- An integer is found with its sign and its digits. -/
lemma integerParts_ofInt (n : ℤ) {r : Text} (hr : EndsNumber r) :
    integerParts (Text.ofInt n ++ r) = (signOf n, digitsOf n, r) := by
  have hdrop : ∀ m : ℕ, (Nat.toDigits 10 m ++ r).drop (Nat.toDigits 10 m).length = r := fun m =>
    List.drop_left
  cases n with
  | ofNat m =>
    have hsign : ((Nat.toDigits 10 m ++ r).take 1).filter (· == '-') = [] := by
      obtain ⟨d, ds, hd⟩ := List.exists_cons_of_ne_nil (Nat.toDigits_ne_nil (n := m) (b := 10))
      have hdd : isDigit d = true := isDigit_of_mem_toDigits (hd ▸ List.mem_cons_self)
      have hne : d ≠ '-' := by rintro rfl; exact absurd hdd (by decide)
      simp [hd, hne]
    simp only [integerParts, Text.ofInt, Text.ofNat, hsign, List.length_nil, List.drop_zero,
      integerDigits_toDigits m hr, hdrop]
    rfl
  | negSucc m =>
    have hsign : (('-' :: (Nat.toDigits 10 (m + 1) ++ r)).take 1).filter (· == '-') = ['-'] := rfl
    simp only [integerParts, Text.ofInt, Text.ofNat, List.cons_append, hsign, List.length_singleton,
      List.drop_succ_cons, List.drop_zero, integerDigits_toDigits (m + 1) hr, hdrop]
    rfl

/-- An integer is what its sign and its digits say. -/
lemma integerOf_signOf_digitsOf (n : ℤ) : integerOf (signOf n) (digitsOf n) = n := by
  unfold integerOf digitsOf
  rw [Nat.ofDigitChars_ten_toDigits]
  cases n <;> rfl

/-- An integer that is not too long is read back. -/
lemma scanNumber_ofInt {n : ℤ} (hn : (digitsOf n).length ≤ maxIntegerDigits) {r : Text}
    (hr : EndsNumber r) : scanNumber (Text.ofInt n ++ r) = .ok (.int n, r) := by
  have hdigits : (digitsOf n).isEmpty = false := by
    unfold digitsOf
    simp
  simp only [scanNumber, integerParts_ofInt n hr, hdigits, fraction_of_endsNumber hr,
    exponent_of_endsNumber hr, List.length_nil, List.drop_zero, List.isEmpty_nil, Bool.and_self,
    if_true, if_neg (not_lt.2 hn), integerOf_signOf_digitsOf]
  rfl

/-! ## Strings round trip -/

/-- The digits of a control character have its value. -/
lemma hexFour?_controlHex {n : ℕ} (h : n < 32) :
    ∃ a b, controlHex n = [a, b] ∧ hexFour? '0' '0' a b = some n := by
  refine ⟨_, _, rfl, ?_⟩
  interval_cases n <;> rfl

/-- A two-character escape is scanned as the character it stands for. -/
lemma scanUnits_escape {e c : Char} (h : escaped? e = some c) (t : Text) :
    scanUnits ('\\' :: e :: t) = (scanUnits t).map (consUnit c.toNat) := by
  have he : e ≠ 'u' := by
    rintro rfl
    simp [escaped?] at h
  rw [scanUnits.eq_def]
  simp [he, h]

/-- The escape of a character is scanned as its code point. -/
lemma scanUnits_escapeChar (c : Char) (t : Text) :
    scanUnits (escapeChar c ++ t) = (scanUnits t).map (consUnit c.toNat) := by
  unfold escapeChar
  split
  case h_8 =>
    rename_i hq hb hn hr ht hbs hff
    split
    · rename_i hlt
      obtain ⟨a, b, hab, hval⟩ := hexFour?_controlHex hlt
      have happ : ('\\' :: 'u' :: '0' :: '0' :: controlHex c.toNat) ++ t =
          '\\' :: 'u' :: '0' :: '0' :: a :: b :: t := by rw [hab]; rfl
      rw [happ, scanUnits.eq_def]
      simp [hval]
    · rename_i hge
      rw [List.singleton_append, scanUnits.eq_def]
      simp only [if_neg hq, if_neg hb, if_neg hge]
  all_goals exact scanUnits_escape rfl t

/-- An escaped text is scanned as its code points. -/
lemma scanUnits_escaped (s r : Text) :
    scanUnits (s.flatMap escapeChar ++ '"' :: r) = some (s.map Char.toNat, r) := by
  induction s with
  | nil => rw [List.flatMap_nil, List.nil_append, scanUnits.eq_def]; rfl
  | cons c s ih =>
    rw [List.flatMap_cons, List.append_assoc, scanUnits_escapeChar, ih]
    rfl

/-- The code points of a text contain no surrogates. -/
lemma joinUnits_map_toNat (s : Text) : joinUnits (s.map Char.toNat) = some s := by
  induction s with
  | nil => rfl
  | cons c s ih =>
    have hvalid : c.toNat < 0xd800 ∨ 0xdfff < c.toNat ∧ c.toNat < 0x110000 := c.valid
    rw [List.map_cons, joinUnits.eq_def]
    simp only
    rw [if_neg (by omega), if_neg (by omega), ih, Char.ofNat_toNat]
    rfl

/-- A quoted text is read back. -/
lemma scanString_escaped (s r : Text) :
    scanString (s.flatMap escapeChar ++ '"' :: r) = some (s, r) := by
  simp [scanString, scanUnits_escaped, joinUnits_map_toNat]

/-! ## Values round trip -/

/-- A value without fractional numbers and too long integers whose objects have distinct keys. -/
inductive Plain : Json → Prop
  | null : Plain .null
  | bool (b : Bool) : Plain (.bool b)
  | int {n : ℤ} (h : (digitsOf n).length ≤ maxIntegerDigits) : Plain (.int n)
  | str (s : Text) : Plain (.str s)
  | arr {items : List Json} (h : ∀ j ∈ items, Plain j) : Plain (.arr items)
  | obj {fields : List (Text × Json)} (hk : (fields.map Prod.fst).Nodup)
      (h : ∀ f ∈ fields, Plain f.2) : Plain (.obj fields)

/-- The text starts like a value: with an ASCII character that is no blank and no closing
bracket. -/
def StartsValue (t : Text) : Prop :=
  ∃ c rest, t = c :: rest ∧ isBlank c = false ∧ c ≠ '\x5d' ∧ c ≠ '\x7d' ∧ c.toNat < 128

/-- A longer text starts like a value as well. -/
lemma StartsValue.append {s : Text} (h : StartsValue s) (t : Text) : StartsValue (s ++ t) := by
  obtain ⟨c, rest, rfl, hc⟩ := h
  exact ⟨c, rest ++ t, rfl, hc⟩

/-- In front of a value there is no blank. -/
lemma StartsValue.skipBlanks {t : Text} (h : StartsValue t) : skipBlanks t = t := by
  obtain ⟨c, rest, rfl, hc, -⟩ := h
  simp [Json.skipBlanks, hc]

/-- A number begins with a digit or a sign. -/
lemma ofInt_eq_cons (n : ℤ) :
    ∃ c rest, Text.ofInt n = c :: rest ∧ (c = '-' ∨ isDigit c = true) := by
  cases n with
  | ofNat m =>
    obtain ⟨d, ds, hd⟩ := List.exists_cons_of_ne_nil (Nat.toDigits_ne_nil (n := m) (b := 10))
    exact ⟨d, ds, hd, .inr (isDigit_of_mem_toDigits (hd ▸ List.mem_cons_self))⟩
  | negSucc m => exact ⟨'-', _, rfl, .inl rfl⟩

/-- A string starts like a value. -/
lemma startsValue_quote (s : Text) : StartsValue (quote s) :=
  ⟨'"', _, rfl, rfl, by decide, by decide, by decide⟩

/-- The encoding of a value begins a value. -/
lemma startsValue_dumps {j : Json} (h : Plain j) : StartsValue (dumps j) := by
  cases h with
  | null => exact ⟨'n', _, rfl, rfl, by decide, by decide, by decide⟩
  | bool b => cases b <;> exact ⟨_, _, rfl, rfl, by decide, by decide, by decide⟩
  | @int n hn =>
    obtain ⟨c, rest, heq, hc⟩ := ofInt_eq_cons n
    refine ⟨c, rest, heq, ?_⟩
    rcases hc with rfl | hc
    · exact ⟨rfl, by decide, by decide, by decide⟩
    · refine ⟨?_, by rintro rfl; simp [isDigit] at hc, by rintro rfl; simp [isDigit] at hc, ?_⟩
      · by_contra hblank
        simp only [isBlank, Bool.not_eq_false, Bool.or_eq_true, beq_iff_eq] at hblank
        rcases hblank with ((rfl | rfl) | rfl) | rfl <;> simp [isDigit] at hc
      · simp only [isDigit, Bool.and_eq_true, decide_eq_true_eq] at hc
        exact lt_of_le_of_lt (Char.le_def.1 hc.2) (by decide)
  | str s => exact startsValue_quote s
  | arr h => exact ⟨'[', _, rfl, rfl, by decide, by decide, by decide⟩
  | obj hk h => exact ⟨'\x7b', _, rfl, rfl, by decide, by decide, by decide⟩

/-- A character that ends a number. -/
lemma endsNumber_cons {c : Char} (h : isDigit c = false) (h' : c ≠ '.' ∧ c ≠ 'e' ∧ c ≠ 'E')
    (t : Text) : EndsNumber (c :: t) := by
  intro d hd
  obtain rfl : c = d := Option.some.inj hd
  exact ⟨h, h'⟩

/-- Digits and a sign begin no word. -/
lemma scanWord_ofInt (n : ℤ) (r : Text) : scanWord (Text.ofInt n ++ r) = none := by
  cases n with
  | ofNat m =>
    obtain ⟨d, ds, hd⟩ := List.exists_cons_of_ne_nil (Nat.toDigits_ne_nil (n := m) (b := 10))
    have hdd : isDigit d = true := isDigit_of_mem_toDigits (hd ▸ List.mem_cons_self)
    have hne : ∀ c, isDigit c = false → c ≠ d := by
      rintro c hc rfl
      exact absurd (hc.symm.trans hdd) (by decide)
    simp [scanWord, wordValues, Text.ofInt, Text.ofNat, hd, List.isPrefixOf?,
      hne 'n' rfl, hne 't' rfl, hne 'f' rfl, hne 'N' rfl, hne 'I' rfl, hne '-' rfl]
  | negSucc m =>
    obtain ⟨d, ds, hd⟩ := List.exists_cons_of_ne_nil (Nat.toDigits_ne_nil (n := m + 1) (b := 10))
    have hdd : isDigit d = true := isDigit_of_mem_toDigits (hd ▸ List.mem_cons_self)
    have hne : 'I' ≠ d := by
      rintro rfl
      exact absurd hdd (by decide)
    simp [scanWord, wordValues, Text.ofInt, Text.ofNat, hd, List.isPrefixOf?, hne]

/-- An integer is read back, behind any value that it follows. -/
lemma scanValue_ofInt {n : ℤ} (hn : (digitsOf n).length ≤ maxIntegerDigits) {fuel : ℕ} {r : Text}
    (hr : EndsNumber r) : scanValue (fuel + 1) (Text.ofInt n ++ r) = .ok (.int n, r) := by
  obtain ⟨c, rest, heq, hc⟩ := ofInt_eq_cons n
  have hq : c ≠ '"' ∧ c ≠ '[' ∧ c ≠ '\x7b' := by
    rcases hc with rfl | hc
    · decide
    · refine ⟨?_, ?_, ?_⟩ <;>
        · rintro rfl
          simp [isDigit] at hc
  have hword := scanWord_ofInt n r
  have hnumber := scanNumber_ofInt hn hr
  rw [heq, List.cons_append] at hword hnumber ⊢
  rw [scanValue.eq_def]
  simp only
  split
  · simp_all
  · simp_all
  · simp_all
  · rw [hword, hnumber]
    rfl

/-- Setting fields with distinct keys one after the other collects them. -/
lemma foldl_setField {fs gs : List (Text × Json)}
    (h : ((fs ++ gs).map Prod.fst).Nodup) : gs.foldl setField fs = fs ++ gs := by
  induction gs generalizing fs with
  | nil => simp
  | cons g gs ih =>
    have hfresh : fs.any (·.1 == g.1) = false := by
      rw [List.any_eq_false]
      intro f hf heq
      simp only [List.map_append, List.map_cons, List.nodup_append, List.mem_map,
        List.mem_cons] at h
      exact h.2.2 f.1 ⟨f, hf, rfl⟩ g.1 (.inl rfl) (beq_iff_eq.1 heq)
    rw [List.foldl_cons, setField, hfresh, if_neg Bool.false_ne_true, ih (by simpa using h)]
    simp

/-- Fields with distinct keys are collected as they are. -/
lemma objectOf_of_nodup {fields : List (Text × Json)} (h : (fields.map Prod.fst).Nodup) :
    objectOf fields = .obj fields := by
  rw [objectOf, foldl_setField (by simpa using h), List.nil_append]

/-- `j` is read back from any text that continues its encoding. -/
def RoundTrips (j : Json) : Prop :=
  ∀ fuel r, (dumps j).length ≤ fuel → EndsNumber r →
    scanValue fuel (dumps j ++ r) = .ok (canonical j, r)

/-- The first of several entries is followed by a comma. -/
lemma commaSeparated_cons {es : List Text} (h : es ≠ []) (e : Text) :
    commaSeparated (e :: es) = e ++ ',' :: commaSeparated es := by
  cases es with
  | nil => contradiction
  | cons e' es => rfl

/-- Entries start like the first one. -/
lemma StartsValue.commaSeparated {e : Text} (h : StartsValue e) (es : List Text) :
    StartsValue (commaSeparated (e :: es)) := by
  cases es with
  | nil => exact h
  | cons e' es => exact h.append _

/-- The items of an array are read back. -/
lemma scanItems_dumps (r : Text) {items : List Json} (hne : items ≠ []) (hp : ∀ j ∈ items, Plain j)
    (h : ∀ j ∈ items, RoundTrips j) (fuel : ℕ)
    (hf : (commaSeparated (items.map dumps)).length + 1 ≤ fuel) :
    scanItems fuel (commaSeparated (items.map dumps) ++ '\x5d' :: r) =
      .ok (items.map canonical, r) := by
  induction items generalizing fuel with
  | nil => contradiction
  | cons j js ih =>
    obtain ⟨fuel, rfl⟩ := Nat.exists_eq_add_of_le' (Nat.le_of_add_left_le hf)
    have hj := h j List.mem_cons_self
    rcases eq_or_ne js [] with rfl | hjs
    · have hrun : scanValue fuel (dumps j ++ '\x5d' :: r) = .ok (canonical j, '\x5d' :: r) := by
        refine hj fuel _ ?_ (endsNumber_cons rfl (by decide) _)
        simpa [commaSeparated] using hf
      rw [List.map_singleton, commaSeparated, scanItems, hrun]
      rfl
    · have hne' : js.map dumps ≠ [] := by simpa using hjs
      rw [List.map_cons, commaSeparated_cons hne', List.length_append, List.length_cons] at hf
      have hrest := ih hjs (fun i hi => hp i (List.mem_cons_of_mem _ hi))
        (fun i hi => h i (List.mem_cons_of_mem _ hi)) fuel (by omega)
      have hstart : StartsValue (commaSeparated (js.map dumps) ++ '\x5d' :: r) := by
        obtain ⟨k, ks, rfl⟩ := List.exists_cons_of_ne_nil hjs
        exact ((startsValue_dumps (hp k (by simp))).commaSeparated _).append _
      have hrun := hj fuel (',' :: (commaSeparated (js.map dumps) ++ '\x5d' :: r)) (by omega)
        (endsNumber_cons rfl (by decide) _)
      rw [List.map_cons, commaSeparated_cons hne', List.append_assoc, List.cons_append, scanItems,
        hrun]
      have hcomma : skipBlanks (',' :: (commaSeparated (js.map dumps) ++ '\x5d' :: r)) =
          ',' :: (commaSeparated (js.map dumps) ++ '\x5d' :: r) := rfl
      simp only [Except.bind, hcomma, hstart.skipBlanks, hrest, Except.map, List.map_cons]

/-- A field as `dumps` writes it. -/
def dumpsField (f : Text × Json) : Text := encodeField (f.1, dumps f.2)

/-- The fields of an object are read back. -/
lemma scanFields_dumps (r : Text) {fields : List (Text × Json)} (hne : fields ≠ [])
    (hp : ∀ f ∈ fields, Plain f.2) (h : ∀ f ∈ fields, RoundTrips f.2) (fuel : ℕ)
    (hf : (commaSeparated (fields.map dumpsField)).length + 1 ≤ fuel) :
    scanFields fuel (commaSeparated (fields.map dumpsField) ++ '\x7d' :: r) =
      .ok (fields.map fun f => (f.1, canonical f.2), r) := by
  induction fields generalizing fuel with
  | nil => contradiction
  | cons f fs ih =>
    obtain ⟨fuel, rfl⟩ := Nat.exists_eq_add_of_le' (Nat.le_of_add_left_le hf)
    have hv := h f List.mem_cons_self
    have hvalue : ∀ t, skipBlanks (dumps f.2 ++ t) = dumps f.2 ++ t := fun t =>
      ((startsValue_dumps (hp f List.mem_cons_self)).append t).skipBlanks
    have hfield : ∀ t, dumpsField f ++ t =
        '"' :: (f.1.flatMap escapeChar ++ '"' :: ':' :: (dumps f.2 ++ t)) := fun t => by
      simp [dumpsField, encodeField, quote]
    have hlen : (dumps f.2).length + 1 ≤ (dumpsField f).length := by
      simp [dumpsField, encodeField]
    have hcolon : ∀ t, skipBlanks (':' :: t) = ':' :: t := fun t => rfl
    rcases eq_or_ne fs [] with rfl | hfs
    · rw [List.map_singleton, commaSeparated] at hf
      have hrun := hv fuel ('\x7d' :: r) (by omega) (endsNumber_cons rfl (by decide) _)
      rw [List.map_singleton, commaSeparated, hfield, scanFields]
      simp only [scanString_escaped, scanned, Except.bind, hcolon, hvalue, hrun]
      rfl
    · have hne' : fs.map dumpsField ≠ [] := by simpa using hfs
      rw [List.map_cons, commaSeparated_cons hne', List.length_append, List.length_cons] at hf
      have hrest := ih hfs (fun g hg => hp g (List.mem_cons_of_mem _ hg))
        (fun g hg => h g (List.mem_cons_of_mem _ hg)) fuel (by omega)
      have hstart : StartsValue (commaSeparated (fs.map dumpsField) ++ '\x7d' :: r) := by
        obtain ⟨g, gs, rfl⟩ := List.exists_cons_of_ne_nil hfs
        exact (((startsValue_quote g.1).append _).commaSeparated _).append _
      have hrun := hv fuel (',' :: (commaSeparated (fs.map dumpsField) ++ '\x7d' :: r)) (by omega)
        (endsNumber_cons rfl (by decide) _)
      have hcomma : skipBlanks (',' :: (commaSeparated (fs.map dumpsField) ++ '\x7d' :: r)) =
          ',' :: (commaSeparated (fs.map dumpsField) ++ '\x7d' :: r) := rfl
      rw [List.map_cons, commaSeparated_cons hne', List.append_assoc, List.cons_append, hfield,
        scanFields]
      simp only [scanString_escaped, scanned, Except.bind, hcolon, hvalue, hrun, hcomma,
        hstart.skipBlanks, hrest, Except.map, List.map_cons]

/-- The encoding of an array. -/
lemma dumps_arr {items : List Json} :
    dumps (.arr items) = '[' :: (commaSeparated (items.map dumps) ++ ['\x5d']) := by
  simp [dumps]

/-- The encoding of an object. -/
lemma dumps_obj {fields : List (Text × Json)} :
    dumps (.obj fields) =
      '\x7b' :: (commaSeparated ((sortFields fields).map dumpsField) ++ ['\x7d']) := by
  simp only [dumps, dumpsFields_eq_map, sortFields_map, List.map_map]
  rfl

/-- Every value without fractional numbers whose objects have distinct keys is read back. -/
theorem roundTrips_of_plain {j : Json} (hj : Plain j) : RoundTrips j := by
  induction j using Json.induction with
  | null =>
    intro fuel r hf _
    obtain ⟨fuel, rfl⟩ := Nat.exists_eq_add_of_le' (Nat.one_le_of_lt hf)
    rfl
  | bool b =>
    intro fuel r hf _
    cases b <;>
      · obtain ⟨fuel, rfl⟩ := Nat.exists_eq_add_of_le' (Nat.one_le_of_lt hf)
        rfl
  | int n =>
    intro fuel r hf hr
    obtain ⟨c, rest, heq, -⟩ := ofInt_eq_cons n
    have hpos : 1 ≤ fuel := le_trans (by simp [dumps, heq]) hf
    obtain ⟨fuel, rfl⟩ := Nat.exists_eq_add_of_le' hpos
    cases hj with
    | int hn => exact scanValue_ofInt hn hr
  | float l => cases hj
  | str s =>
    intro fuel r hf _
    have hpos : 1 ≤ fuel := le_trans (by simp [dumps, quote]) hf
    obtain ⟨fuel, rfl⟩ := Nat.exists_eq_add_of_le' hpos
    have hquote : dumps (.str s) ++ r = '"' :: (s.flatMap escapeChar ++ '"' :: r) := by
      simp [dumps, quote]
    rw [hquote, scanValue]
    simp only [scanString_escaped, scanned, Except.map, canonical]
  | arr items ih =>
    intro fuel r hf _
    cases hj with
    | arr hitems =>
    rw [dumps_arr] at hf ⊢
    simp only [List.length_cons, List.length_append, List.length_nil] at hf
    obtain ⟨fuel, rfl⟩ := Nat.exists_eq_add_of_le' (Nat.one_le_of_lt hf)
    rw [List.cons_append, List.append_assoc, scanValue, canonical, canonicalItems_eq_map]
    rcases eq_or_ne items [] with rfl | hne
    · rfl
    · have hrun := scanItems_dumps r hne hitems (fun j hj => ih j hj (hitems j hj)) fuel (by omega)
      have hstart : StartsValue (commaSeparated (items.map dumps) ++ '\x5d' :: r) := by
        obtain ⟨k, ks, rfl⟩ := List.exists_cons_of_ne_nil hne
        exact ((startsValue_dumps (hitems k (by simp))).commaSeparated _).append _
      rw [List.singleton_append, hstart.skipBlanks]
      obtain ⟨c, rest, heq, -, hc, -, -⟩ := hstart
      rw [heq] at hrun ⊢
      split
      · rename_i heq'
        exact absurd (List.cons.inj heq').1 hc
      · rw [hrun]
        rfl
  | obj fields ih =>
    intro fuel r hf _
    cases hj with
    | obj hkeys hfields =>
    have hperm := sortFields_perm fields
    have hp : ∀ f ∈ sortFields fields, Plain f.2 := fun f hf => hfields f (hperm.mem_iff.1 hf)
    have hkeys' : ((sortFields fields).map fun f => (f.1, canonical f.2)).map Prod.fst
        |>.Nodup := by
      rw [List.map_map]
      exact (hperm.map Prod.fst).nodup_iff.2 hkeys
    rw [dumps_obj] at hf ⊢
    simp only [List.length_cons, List.length_append, List.length_nil] at hf
    obtain ⟨fuel, rfl⟩ := Nat.exists_eq_add_of_le' (Nat.one_le_of_lt hf)
    rw [List.cons_append, List.append_assoc, scanValue, canonical, canonicalFields_eq_map,
      sortFields_map]
    rcases eq_or_ne (sortFields fields) [] with hnil | hne
    · rw [hnil]
      rfl
    · have hrun := scanFields_dumps r hne hp
        (fun f hf => ih f (hperm.mem_iff.1 hf) (hp f hf)) fuel (by omega)
      have hstart : StartsValue (commaSeparated ((sortFields fields).map dumpsField) ++ '\x7d' ::
          r) := by
        obtain ⟨g, gs, hg⟩ := List.exists_cons_of_ne_nil hne
        rw [hg]
        exact (((startsValue_quote g.1).append _).commaSeparated _).append _
      rw [List.singleton_append, hstart.skipBlanks]
      obtain ⟨c, rest, heq, -, -, hc, -⟩ := hstart
      rw [heq] at hrun ⊢
      split
      · rename_i heq'
        exact absurd (List.cons.inj heq').1 hc
      · simp only [hrun, Except.map, objectOf_of_nodup hkeys']

/-- Reading the canonical encoding of a value returns its canonical form. -/
theorem loads_dumps {j : Json} (hj : Plain j) : loads (dumps j) = .ok (canonical j) := by
  have hrun := roundTrips_of_plain hj ((dumps j).length + 1) [] (Nat.le_succ _)
      (by simp [EndsNumber])
  rw [List.append_nil] at hrun
  have hbom : (dumps j).head? ≠ some '\ufeff' := by
    obtain ⟨c, rest, heq, -, -, -, hc⟩ := startsValue_dumps hj
    rw [heq, List.head?_cons]
    rintro ⟨⟩
    exact absurd hc (by decide)
  rw [loads, if_neg hbom, (startsValue_dumps hj).skipBlanks, hrun]
  rfl

/-- Plain values with the same canonical encoding have the same canonical form. -/
theorem canonical_eq_of_dumps_eq {j k : Json} (hj : Plain j) (hk : Plain k)
    (h : dumps j = dumps k) : canonical j = canonical k := by
  have hloads := loads_dumps hj
  rw [h, loads_dumps hk] at hloads
  exact (Except.ok.inj hloads).symm

end Json
