import ReviewGraph.Approval
import ReviewGraph.Foundation.Calendar
import ReviewGraph.Permissions
import ReviewGraph.TextReaders

/-!
# The ages of timestamps

`_utc_z_age_seconds` of `approval.py` counts days by hand, where `permissions.py` subtracts times
that the standard library has read.  Up to the rounding of floating-point numbers both are the
difference of two instants of the Gregorian calendar.
-/

namespace ReviewGraph

/-! ## Arithmetic with a rounding -/

/-- The fraction of a second behind a time, in an arithmetic that rounds its results. -/
def fractionSecondsWith (round : ℚ → ℚ) (fractional : Text) : Option ℚ :=
  if fractional = [] then some 0
  else if fractional.head? ≠ some '.' ∨ isDecimalText fractional.tail = false then none
  else some (round (decimalNat fractional.tail / 10 ^ fractional.tail.length))

/-- `_utc_z_seconds`, in an arithmetic that rounds its results. -/
def utcZSecondsWith (round : ℚ → ℚ) (value : Text) : Option ℚ := do
  let (date, time) := splitFirst 'T' value.dropLast
  if value.getLast? ≠ some 'Z' ∨ 'T' ∉ value.dropLast ∨ date.length ≠ 10 ∨ date[4]? ≠ some '-' ∨
      date[7]? ≠ some '-' ∨ time.length < 8 ∨ time[2]? ≠ some ':' ∨ time[5]? ≠ some ':' then none
  else
    let year ← DateTime.readInt (slice date 0 4)
    let month ← DateTime.readInt (slice date 5 7)
    let day ← DateTime.readInt (slice date 8 10)
    let hour ← DateTime.readInt (slice time 0 2)
    let minute ← DateTime.readInt (slice time 3 5)
    let second ← DateTime.readInt (slice time 6 8)
    if realisticFields year month day hour minute second = false then none
    else
      let fraction ← fractionSecondsWith round (time.drop 8)
      let days := daysSince1970 year + DateTime.daysBeforeMonth year month.toNat + (day - 1)
      return round ((days * 86400 + hour * 3600 + minute * 60 + second : ℤ) + fraction)

/-- `_utc_z_age_seconds` of two texts, in an arithmetic that rounds its results. -/
def utcZAgeSecondsWith (round : ℚ → ℚ) (later earlier : Text) : Option ℚ := do
  let laterSeconds ← utcZSecondsWith round later
  let earlierSeconds ← utcZSecondsWith round earlier
  return round (laterSeconds - earlierSeconds)

/-- The code computes in double precision. -/
lemma utcZAgeSecondsWith_round (later earlier : Text) :
    utcZAgeSecondsWith Double.round later earlier = utcZAgeSeconds (some later) (some earlier) :=
      rfl

/-! ## Timestamps -/

/-- The date of a timestamp. -/
def timestampDate (t : Text) : Calendar.Date where
  year := decimalNat (slice t 0 4)
  month := decimalNat (slice t 5 7)
  day := decimalNat (slice t 8 10)

/-- The digits of the fraction of a timestamp. -/
def timestampFraction (t : Text) : Text := t.dropLast.drop 20

/-- The seconds of a timestamp within its day, with an exact fraction. -/
def timestampClock (t : Text) : ℚ :=
  decimalNat (slice t 11 13) * 3600 + decimalNat (slice t 14 16) * 60 + decimalNat (slice t 17 19) +
    decimalNat (timestampFraction t) / 10 ^ (timestampFraction t).length

/-- The first day that is counted. -/
def epoch : Calendar.Date := ⟨1970, 1, 1⟩

/-- A timestamp stands for an instant, in seconds after the epoch, if its date is so many days after
the epoch by the calendar. -/
def IsInstant (t : Text) (seconds : ℚ) : Prop :=
  ∃ days : ℕ, Calendar.Date.next^[days] epoch = timestampDate t ∧
    seconds = days * 86400 + timestampClock t

/-- A timestamp that is accepted, in ASCII, of 1970 or later and with at most six digits of a
fraction. -/
structure IsTimestamp (t : Text) : Prop where
  realistic : isRealisticRfc3339UtcZ t = true
  ascii : ∀ c ∈ t, c.toNat < 128
  year : 1970 ≤ (timestampDate t).year
  fraction : (timestampFraction t).length ≤ 6

/-! ## The fields of a timestamp -/

/-- A decimal digit in ASCII is a digit. -/
lemma isDigit_of_isDecimal {c : Char} (h : Unicode.isDecimal c = true) (hascii : c.toNat < 128) :
    Unicode.isDigit c = true := by
  unfold Unicode.isDecimal Unicode.decimalValue? at h
  rw [Option.isSome_map, List.find?_isSome] at h
  obtain ⟨z, hz, hle⟩ := h
  simp only [Bool.and_eq_true, decide_eq_true_eq] at hle
  have hzero : z = 0x30 := by
    have hsmall : ∀ z ∈ Unicode.decimalZeros, z ≤ 127 → z = 0x30 := by decide
    exact hsmall z hz (by omega)
  subst hzero
  simp only [Unicode.isDigit, Bool.and_eq_true, decide_eq_true_eq, Char.le_def,
    UInt32.le_iff_toNat_le]
  exact ⟨hle.1, hle.2⟩

/-- The characters of a timestamp. -/
lemma IsTimestamp.exists_characters {t : Text} (h : IsTimestamp t) :
    ∃ y₀ y₁ y₂ y₃ m₀ m₁ d₀ d₁ h₀ h₁ i₀ i₁ s₀ s₁ : Char, ∃ rest : Text,
      t = y₀ :: y₁ :: y₂ :: y₃ :: '-' :: m₀ :: m₁ :: '-' :: d₀ :: d₁ :: 'T' :: h₀ :: h₁ :: ':' ::
        i₀ ::
        i₁ :: ':' :: s₀ :: s₁ :: (rest ++ ['Z']) ∧
      (∀ c ∈ [y₀, y₁, y₂, y₃, m₀, m₁, d₀, d₁, h₀, h₁, i₀, i₁, s₀, s₁], Unicode.isDigit c = true) ∧
      (rest = [] ∨ ∃ digits, rest = '.' :: digits ∧ digits ≠ [] ∧ digits.length ≤ 6 ∧
        ∀ c ∈ digits, Unicode.isDigit c = true) := by
  have hformat : isRfc3339UtcZ t = true := by
    have hrealistic := h.realistic
    unfold isRealisticRfc3339UtcZ at hrealistic
    exact (Bool.and_eq_true _ _ ▸ hrealistic).1
  have hascii := h.ascii
  have hfraction := h.fraction
  clear h
  unfold isRfc3339UtcZ at hformat
  dsimp only at hformat
  simp only [Bool.and_eq_true, decide_eq_true_eq, List.all_cons, List.all_nil, Bool.and_true,
    Bool.or_eq_true] at hformat
  obtain ⟨⟨⟨⟨⟨⟨⟨⟨⟨⟨-, hlast⟩, hmem⟩, hdate⟩, hdate4⟩, hdate7⟩, htime⟩, htime2⟩, htime5⟩,
    hyear, hmonth, hday, hhour, hminute, hsecond⟩, hrest⟩ := hformat
  have hsplit := splitFirst_eq hmem
  have ht := List.dropLast_append_getLast? 'Z' hlast
  rw [hsplit] at ht
  generalize (splitFirst 'T' t.dropLast).1 = date at *
  generalize (splitFirst 'T' t.dropLast).2 = time at *
  obtain ⟨y₀, y₁, y₂, y₃, dash, m₀, m₁, dash', d₀, d₁, rfl⟩ : ∃ c₀ c₁ c₂ c₃ c₄ c₅ c₆ c₇ c₈ c₉,
      date = [c₀, c₁, c₂, c₃, c₄, c₅, c₆, c₇, c₈, c₉] :=
    match date, hdate with
    | [c₀, c₁, c₂, c₃, c₄, c₅, c₆, c₇, c₈, c₉], _ => ⟨c₀, c₁, c₂, c₃, c₄, c₅, c₆, c₇, c₈, c₉, rfl⟩
  obtain ⟨h₀, h₁, colon, i₀, i₁, colon', s₀, s₁, rest, rfl⟩ : ∃ c₀ c₁ c₂ c₃ c₄ c₅ c₆ c₇ rest,
      time = c₀ :: c₁ :: c₂ :: c₃ :: c₄ :: c₅ :: c₆ :: c₇ :: rest :=
    match time, htime with
    | c₀ :: c₁ :: c₂ :: c₃ :: c₄ :: c₅ :: c₆ :: c₇ :: rest, _ =>
      ⟨c₀, c₁, c₂, c₃, c₄, c₅, c₆, c₇, rest, rfl⟩
  obtain rfl := Option.some.inj hdate4
  obtain rfl := Option.some.inj hdate7
  obtain rfl := Option.some.inj htime2
  obtain rfl := Option.some.inj htime5
  refine ⟨y₀, y₁, y₂, y₃, m₀, m₁, d₀, d₁, h₀, h₁, i₀, i₁, s₀, s₁, rest, by rw [← ht]; rfl, ?_, ?_⟩
  · simp [isDecimalText, slice] at hyear hmonth hday hhour hminute hsecond
    have hdigit : ∀ c ∈ t, Unicode.isDecimal c = true → Unicode.isDigit c = true :=
      fun c hc hdecimal => isDigit_of_isDecimal hdecimal (hascii c hc)
    rw [← ht] at hdigit
    simp only [List.cons_append, List.nil_append, List.forall_mem_cons] at hdigit ⊢
    grind
  · simp only [List.drop_succ_cons, List.drop_zero] at hrest
    rcases hrest with hnil | ⟨hhead, hdigits⟩
    · exact .inl hnil
    · obtain ⟨digits, rfl⟩ := List.head?_eq_some_iff.1 hhead
      simp only [List.tail_cons, isDecimalText, Bool.and_eq_true] at hdigits
      refine .inr ⟨digits, rfl, of_decide_eq_true hdigits.1, ?_, fun c hc => ?_⟩
      · rw [← ht, timestampFraction, List.dropLast_concat] at hfraction
        exact hfraction
      · refine isDigit_of_isDecimal (List.all_eq_true.1 hdigits.2 c hc) (hascii c ?_)
        rw [← ht]
        simp [hc]

/-! ## The calendar of the code -/

/-- The leap years of the library are those of the calendar. -/
lemma isLeapYear_iff (year : ℤ) : DateTime.isLeapYear year = true ↔ Calendar.IsLeap year := by
  simp only [DateTime.isLeapYear, Calendar.IsLeap, Bool.and_eq_true, Bool.or_eq_true,
    decide_eq_true_eq]
  omega

/-- So are the lengths of the months. -/
lemma daysByMonth_getD (year : ℤ) {month : ℕ} (hpos : 1 ≤ month) (hle : month ≤ 12) :
    (DateTime.daysByMonth year).getD (month - 1) 0 = Calendar.monthLength year month := by
  have hleap : (if DateTime.isLeapYear year then (29 : ℤ) else 28) =
      ((if Calendar.IsLeap year then 29 else 28 : ℕ) : ℤ) := by
    by_cases h : Calendar.IsLeap year <;> simp [isLeapYear_iff, h]
  unfold DateTime.daysByMonth
  rw [hleap]
  interval_cases month <;> rfl

/-- So are the days in front of a month. -/
lemma daysBeforeMonth_eq (year : ℤ) {month : ℕ} (hpos : 1 ≤ month) (hle : month ≤ 12) :
    DateTime.daysBeforeMonth year month = Calendar.daysBefore year month := by
  induction month, hpos using Nat.le_induction with
  | base => rfl
  | succ month hpos ih =>
    have hlength : month - 1 < (DateTime.daysByMonth year).length := by
      simp only [DateTime.daysByMonth, List.length_cons, List.length_nil]
      omega
    have hsucc : DateTime.daysBeforeMonth year (month + 1) =
        DateTime.daysBeforeMonth year month + (DateTime.daysByMonth year).getD (month - 1) 0 := by
      unfold DateTime.daysBeforeMonth
      rw [show month + 1 - 1 = (month - 1) + 1 by omega, List.sum_take_succ _ _ hlength,
        List.getD_eq_getElem _ _ hlength]
    rw [hsucc, ih (by omega), daysByMonth_getD year hpos (by omega),
      Calendar.daysBefore_succ year hpos]
    push_cast
    rfl

/-- So are the days in front of a year. -/
lemma daysSince1970_eq (n : ℕ) : daysSince1970 (1970 + n) = Calendar.daysOfYears 1970 n := by
  unfold daysSince1970 Calendar.daysOfYears
  rw [show ((1970 + n : ℤ) - 1970).toNat = n by omega]
  simp only [bind_pure_comp, List.map_eq_map]
  induction n with
  | zero => rfl
  | succ n ih =>
    rw [List.range_succ]
    simp only [List.map_append, List.sum_append, ih, List.map_cons, List.map_nil,
      List.sum_singleton,
      Calendar.yearLength]
    push_cast
    by_cases h : Calendar.IsLeap (1970 + n) <;> simp [isLeapYear_iff, h]

/-- The formula of the standard library counts the days of the years. -/
lemma daysBeforeYear_eq (n : ℕ) :
    DateTime.daysBeforeYear (1970 + n) = 719162 + Calendar.daysOfYears 1970 n := by
  induction n with
  | zero => rfl
  | succ n ih =>
    have hsum : Calendar.daysOfYears 1970 (n + 1) =
        Calendar.daysOfYears 1970 n + Calendar.yearLength (1970 + n) := by
      simp [Calendar.daysOfYears, List.range_succ]
    have hstep : DateTime.daysBeforeYear (1970 + (n + 1 : ℕ)) =
        DateTime.daysBeforeYear (1970 + n) + Calendar.yearLength (1970 + n) := by
      unfold DateTime.daysBeforeYear Calendar.yearLength
      by_cases h : Calendar.IsLeap (1970 + n)
      · rw [if_pos h]
        unfold Calendar.IsLeap at h
        push_cast
        omega
      · rw [if_neg h]
        unfold Calendar.IsLeap at h
        push_cast
        omega
    rw [hstep, ih, hsum]
    push_cast
    ring

/-! ## The instant of a timestamp -/

/-- The parts of a timestamp around its separator. -/
structure TimestampParts (t date time : Text) : Prop where
  dropLast : t.dropLast = date ++ 'T' :: time
  getLast : t.getLast? = some 'Z'
  split : splitFirst 'T' t.dropLast = (date, time)
  dateLength : date.length = 10
  dash : date[4]? = some '-'
  dash' : date[7]? = some '-'
  timeLength : 8 ≤ time.length
  colon : time[2]? = some ':'
  colon' : time[5]? = some ':'
  year : slice date 0 4 = slice t 0 4
  month : slice date 5 7 = slice t 5 7
  day : slice date 8 10 = slice t 8 10
  hour : slice time 0 2 = slice t 11 13
  minute : slice time 3 5 = slice t 14 16
  second : slice time 6 8 = slice t 17 19
  digits : ∀ c ∈ slice t 0 4 ++ slice t 5 7 ++ slice t 8 10 ++ slice t 11 13 ++ slice t 14 16 ++
    slice t 17 19 ++ timestampFraction t, Unicode.isDigit c = true
  fraction : time.drop 8 = [] ∧ timestampFraction t = [] ∨
    time.drop 8 = '.' :: timestampFraction t ∧ timestampFraction t ≠ []

/-- A timestamp has a date and a time. -/
lemma IsTimestamp.exists_parts {t : Text} (h : IsTimestamp t) :
    ∃ date time, TimestampParts t date time := by
  obtain ⟨y₀, y₁, y₂, y₃, m₀, m₁, d₀, d₁, h₀, h₁, i₀, i₁, s₀, s₁, rest, rfl, hdigits, hrest⟩ :=
    h.exists_characters
  have hT : 'T' ∉ [y₀, y₁, y₂, y₃, '-', m₀, m₁, '-', d₀, d₁] := by
    have hnot : 'T' ∉ [y₀, y₁, y₂, y₃, m₀, m₁, d₀, d₁, h₀, h₁, i₀, i₁, s₀, s₁] := fun hmem =>
      absurd (hdigits 'T' hmem) (by decide)
    simp only [List.mem_cons, List.not_mem_nil, or_false, not_or] at hnot ⊢
    simp [hnot]
  -- The timestamp is a date, the separator, a time and the zone.
  generalize ht : y₀ :: y₁ :: y₂ :: y₃ :: '-' :: m₀ :: m₁ :: '-' :: d₀ :: d₁ :: 'T' :: h₀ :: h₁ ::
    ':' :: i₀ :: i₁ :: ':' :: s₀ :: s₁ :: (rest ++ ['Z']) = t
  have hsplit : t = ([y₀, y₁, y₂, y₃, '-', m₀, m₁, '-', d₀, d₁] ++ 'T' ::
    (h₀ :: h₁ :: ':' :: i₀ :: i₁ :: ':' :: s₀ :: s₁ :: rest)) ++ ['Z'] := ht.symm
  have hdrop : t.dropLast = [y₀, y₁, y₂, y₃, '-', m₀, m₁, '-', d₀, d₁] ++ 'T' ::
      (h₀ :: h₁ :: ':' :: i₀ :: i₁ :: ':' :: s₀ :: s₁ :: rest) := by
    rw [hsplit, List.dropLast_concat]
  have hfraction : timestampFraction t = rest.tail := by
    unfold timestampFraction
    rw [hdrop]
    cases rest <;> rfl
  refine ⟨_, _,
    hdrop, by rw [hsplit, List.getLast?_concat], by rw [hdrop, splitFirst_append hT], rfl,
    rfl, rfl, by simp, rfl, rfl, by rw [← ht]; rfl, by rw [← ht]; rfl, by rw [← ht]; rfl,
    by rw [← ht]; rfl, by rw [← ht]; rfl, by rw [← ht]; rfl, ?_, ?_⟩
  · rw [hfraction]
    have hslices : slice t 0 4 ++ slice t 5 7 ++ slice t 8 10 ++ slice t 11 13 ++ slice t 14 16 ++
        slice t 17 19 = [y₀, y₁, y₂, y₃, m₀, m₁, d₀, d₁, h₀, h₁, i₀, i₁, s₀, s₁] := by
      rw [← ht]
      rfl
    rw [hslices]
    intro c hc
    rcases List.mem_append.1 hc with hc | hc
    · exact hdigits c hc
    · rcases hrest with rfl | ⟨digits, rfl, -, -, hall⟩
      · contradiction
      · exact hall c hc
  · rw [hfraction]
    rcases hrest with rfl | ⟨digits, rfl, hne, -, -⟩
    · exact .inl ⟨rfl, rfl⟩
    · exact .inr ⟨rfl, hne⟩

/-- The days of a timestamp after the epoch. -/
def timestampDays (t : Text) : ℕ :=
  Calendar.daysOfYears 1970 ((timestampDate t).year - 1970).toNat +
    Calendar.daysBefore (timestampDate t).year (timestampDate t).month + ((timestampDate t).day - 1)

/-- The fields of a timestamp are in their ranges. -/
lemma IsTimestamp.fields {t : Text} (h : IsTimestamp t) : realisticFields (timestampDate t).year
    (timestampDate t).month (timestampDate t).day (decimalNat (slice t 11 13))
    (decimalNat (slice t 14 16)) (decimalNat (slice t 17 19)) = true := by
  have hrealistic := h.realistic
  obtain ⟨date, time, hparts⟩ := h.exists_parts
  unfold isRealisticRfc3339UtcZ at hrealistic
  rw [hparts.split] at hrealistic
  dsimp only at hrealistic
  rw [hparts.year, hparts.month, hparts.day, hparts.hour, hparts.minute,
    hparts.second] at hrealistic
  exact (Bool.and_eq_true _ _ ▸ hrealistic).2

/-- The date of a timestamp is one of the calendar. -/
lemma IsTimestamp.valid {t : Text} (h : IsTimestamp t) : (timestampDate t).Valid := by
  have hfields := h.fields
  simp only [realisticFields, Bool.and_eq_true, decide_eq_true_eq] at hfields
  obtain ⟨⟨⟨⟨⟨⟨⟨hmonth, hmonth'⟩, hday⟩, -⟩, -⟩, -⟩, -⟩, hlength⟩ := hfields
  have hpos : 1 ≤ (timestampDate t).month := by omega
  have hle : (timestampDate t).month ≤ 12 := by omega
  rw [Int.toNat_natCast, daysByMonth_getD _ hpos hle] at hlength
  exact ⟨hpos, hle, by omega, by exact_mod_cast hlength⟩

/-- The year of a timestamp, counted from that of the epoch. -/
lemma IsTimestamp.year_eq {t : Text} (h : IsTimestamp t) :
    (timestampDate t).year = 1970 + ((timestampDate t).year - 1970).toNat := by
  have hyear := h.year
  omega

/-- The date of a timestamp is so many days after the epoch. -/
lemma IsTimestamp.iterate_next {t : Text} (h : IsTimestamp t) :
    Calendar.Date.next^[timestampDays t] epoch = timestampDate t := by
  have hvalid := h.valid
  have hyear := h.year_eq
  unfold timestampDays epoch
  generalize timestampDate t = date at *
  obtain ⟨year, month, day⟩ := date
  dsimp only at hyear ⊢
  generalize (year - 1970).toNat = n at hyear ⊢
  subst hyear
  exact Calendar.iterate_next_date 1970 n hvalid

/-- A timestamp stands for exactly one instant. -/
lemma IsTimestamp.isInstant_iff {t : Text} (h : IsTimestamp t) {seconds : ℚ} :
    IsInstant t seconds ↔ seconds = timestampDays t * 86400 + timestampClock t := by
  constructor
  · rintro ⟨days, hdays, rfl⟩
    have hepoch : epoch.Valid := ⟨by decide, by decide, by decide, by decide⟩
    rw [hepoch.iterate_injective (hdays.trans h.iterate_next.symm)]
  · rintro rfl
    exact ⟨timestampDays t, h.iterate_next, rfl⟩

/-- The days that the code counts are those of the timestamp. -/
lemma IsTimestamp.days_eq {t : Text} (h : IsTimestamp t) :
    daysSince1970 (timestampDate t).year +
      DateTime.daysBeforeMonth (timestampDate t).year (timestampDate t).month +
      ((timestampDate t).day - 1) = (timestampDays t : ℤ) := by
  have hday := h.valid.day_pos
  rw [daysBeforeMonth_eq _ h.valid.month_pos h.valid.month_le, h.year_eq, daysSince1970_eq,
    timestampDays]
  have hyear := h.year_eq
  rw [← hyear]
  push_cast
  omega

/-! ## The reader of the approval -/

/-- The fraction of a second of a timestamp. -/
def timestampSubsecond (t : Text) : ℚ :=
  decimalNat (timestampFraction t) / 10 ^ (timestampFraction t).length

/-- The approval reads the instant of a timestamp, and rounds the fraction and the sum. -/
lemma IsTimestamp.utcZSecondsWith_eq {round : ℚ → ℚ} (hzero : round 0 = 0) {t : Text}
    (h : IsTimestamp t) :
    utcZSecondsWith round t = some (round (timestampDays t * 86400 +
      (timestampClock t - timestampSubsecond t) + round (timestampSubsecond t))) := by
  have hfields := h.fields
  obtain ⟨date, time, hparts⟩ := h.exists_parts
  have hguard : ¬ (t.getLast? ≠ some 'Z' ∨ 'T' ∉ t.dropLast ∨ date.length ≠ 10 ∨
      date[4]? ≠ some '-' ∨ date[7]? ≠ some '-' ∨ time.length < 8 ∨ time[2]? ≠ some ':' ∨
      time[5]? ≠ some ':') := by
    have hlength := hparts.timeLength
    simp only [hparts.getLast, hparts.dateLength, hparts.dash, hparts.dash', hparts.colon,
      hparts.colon', ne_eq, not_true_eq_false, false_or, or_false, not_or, not_not]
    exact ⟨by simp [hparts.dropLast], by omega⟩
  have hread : ∀ text : Text, text ≠ [] → (∀ c ∈ text, Unicode.isDigit c = true) →
      DateTime.readInt text = some (decimalNat text : ℤ) := fun text => readInt_digits
  have hdigits := hparts.digits
  simp only [List.forall_mem_append] at hdigits
  obtain ⟨⟨⟨⟨⟨⟨hyear, hmonth⟩, hday⟩, hhour⟩, hminute⟩, hsecond⟩, -⟩ := hdigits
  have hlength := hparts.dateLength
  have htime := hparts.timeLength
  have hne : ∀ first last : ℕ, first < last → last ≤ 10 → slice date first last ≠ [] := by
    intro first last hlt hle hnil
    have hzero := congrArg List.length hnil
    simp only [slice, List.length_drop, List.length_take, List.length_nil] at hzero
    omega
  have hne' : ∀ first last : ℕ, first < last → last ≤ 8 → slice time first last ≠ [] := by
    intro first last hlt hle hnil
    have hzero := congrArg List.length hnil
    simp only [slice, List.length_drop, List.length_take, List.length_nil] at hzero
    omega
  have hfraction : fractionSecondsWith round (time.drop 8) =
      some (round (timestampSubsecond t)) := by
    unfold fractionSecondsWith timestampSubsecond
    rcases hparts.fraction with ⟨hnil, hnone⟩ | ⟨hcons, hsome⟩
    · rw [if_pos hnil, hnone]
      simp [decimalNat, hzero]
    · have hdecimal : isDecimalText (timestampFraction t) = true := by
        simp only [isDecimalText, Bool.and_eq_true, decide_eq_true_eq, List.all_eq_true]
        refine ⟨hsome, fun c hc => ?_⟩
        have hdigit := hparts.digits c (List.mem_append_right _ hc)
        rw [Unicode.isDecimal, decimalValue?_digit hdigit]
        rfl
      rw [hcons, if_neg (List.cons_ne_nil _ _), if_neg (by simp [hdecimal])]
      rfl
  unfold utcZSecondsWith
  rw [hparts.split]
  dsimp only
  rw [if_neg hguard, hread _ (hne 0 4 (by omega) (by omega)) (hparts.year ▸ hyear),
    hread _ (hne 5 7 (by omega) (by omega)) (hparts.month ▸ hmonth),
    hread _ (hne 8 10 (by omega) (by omega)) (hparts.day ▸ hday),
    hread _ (hne' 0 2 (by omega) (by omega)) (hparts.hour ▸ hhour),
    hread _ (hne' 3 5 (by omega) (by omega)) (hparts.minute ▸ hminute),
    hread _ (hne' 6 8 (by omega) (by omega)) (hparts.second ▸ hsecond), hparts.year, hparts.month,
    hparts.day, hparts.hour, hparts.minute, hparts.second, hfraction]
  simp only [Option.bind_eq_bind, Option.bind_some]
  have hreal : realisticFields (decimalNat (slice t 0 4) : ℤ) (decimalNat (slice t 5 7) : ℤ)
      (decimalNat (slice t 8 10) : ℤ) (decimalNat (slice t 11 13) : ℤ)
      (decimalNat (slice t 14 16) : ℤ) (decimalNat (slice t 17 19) : ℤ) = true := hfields
  rw [if_neg (by rw [hreal]; exact Bool.noConfusion)]
  have hdays := h.days_eq
  simp only [timestampDate] at hdays
  rw [Int.toNat_natCast, hdays]
  have hclock : timestampClock t - timestampSubsecond t = decimalNat (slice t 11 13) * 3600 +
      decimalNat (slice t 14 16) * 60 + decimalNat (slice t 17 19) := by
    rw [timestampClock, timestampSubsecond, add_sub_cancel_right]
  simp only [Option.pure_def, Option.some.injEq]
  rw [hclock]
  congr 2
  push_cast
  ring

/-- With exact fractions it is the instant. -/
lemma IsTimestamp.utcZSecondsWith_id {t : Text} (h : IsTimestamp t) :
    utcZSecondsWith id t = some (timestampDays t * 86400 + timestampClock t) := by
  rw [h.utcZSecondsWith_eq rfl, id_eq, id_eq, add_assoc, sub_add_cancel]

/-! ## The reader of the permission gate -/

/-- A digit has its value. -/
lemma digitValue?_digit {c : Char} (h : Unicode.isDigit c = true) :
    DateTime.digitValue? c = some ((Unicode.decimalValue? c).getD 0) := by
  rw [decimalValue?_digit h]
  exact if_pos h

/-- A number of digits is read as a numeral. -/
lemma takeDigits_digits {digits : Text} (h : ∀ c ∈ digits, Unicode.isDigit c = true) (rest : Text)
    (acc : ℕ) : DateTime.takeDigits (digits ++ rest) acc digits.length =
      some (digits.foldl (fun n c => n * 10 + (Unicode.decimalValue? c).getD 0) acc, rest) := by
  induction digits generalizing acc with
  | nil => cases rest <;> rfl
  | cons c digits ih =>
    rw [List.cons_append, List.length_cons, DateTime.takeDigits,
      digitValue?_digit (h c List.mem_cons_self)]
    exact ih (fun d hd => h d (List.mem_cons_of_mem _ hd)) _

/-- Two digits are read as a number. -/
lemma takeDigits_two {a b : Char} (ha : Unicode.isDigit a = true) (hb : Unicode.isDigit b = true)
    (rest : Text) : DateTime.takeDigits (a :: b :: rest) 0 2 = some (decimalNat [a, b], rest) :=
  @takeDigits_digits [a, b] (by simp [ha, hb]) rest 0

/-- The clock of a timestamp is read field by field, with the fraction in microseconds. -/
lemma readClock_timestamp {h₀ h₁ i₀ i₁ s₀ s₁ : Char} {rest : Text}
    (hdigits : ∀ c ∈ [h₀, h₁, i₀, i₁, s₀, s₁], Unicode.isDigit c = true)
    (hrest : rest = [] ∨ ∃ digits, rest = '.' :: digits ∧ digits ≠ [] ∧ digits.length ≤ 6 ∧
      ∀ c ∈ digits, Unicode.isDigit c = true) :
    DateTime.readClock true 3 none [] (h₀ :: h₁ :: ':' :: i₀ :: i₁ :: ':' :: s₀ :: s₁ :: rest) =
      some ([decimalNat [h₀, h₁], decimalNat [i₀, i₁], decimalNat [s₀, s₁]],
        decimalNat rest.tail * 10 ^ (6 - rest.tail.length), true) := by
  simp only [List.forall_mem_cons] at hdigits
  obtain ⟨hh₀, hh₁, hi₀, hi₁, hs₀, hs₁, -⟩ := hdigits
  rw [DateTime.readClock, takeDigits_two hh₀ hh₁]
  simp only [Option.bind_eq_bind, Option.bind_some, Option.getD_none, decide_true, Bool.and_true,
    if_true, List.nil_append]
  rw [DateTime.readClock, takeDigits_two hi₀ hi₁]
  simp only [Option.bind_eq_bind, Option.bind_some, Option.getD_some, decide_true, Bool.and_true,
    if_true, List.cons_append, List.nil_append]
  rw [DateTime.readClock, takeDigits_two hs₀ hs₁]
  rcases hrest with rfl | ⟨digits, rfl, hne, hle, hall⟩
  · rfl
  · obtain ⟨d, ds, rfl⟩ := List.exists_cons_of_ne_nil hne
    have hfraction : DateTime.readFraction (d :: ds) true =
        some (decimalNat (d :: ds) * 10 ^ (6 - (d :: ds).length), true) := by
      have htake := takeDigits_digits hall [] 0
      rw [List.append_nil] at htake
      unfold DateTime.readFraction
      rw [min_eq_left hle]
      simp only [htake, Option.bind_eq_bind, Option.bind_some]
      rfl
    simp only [Option.bind_eq_bind, Option.bind_some, Option.getD_some, List.tail_cons, hfraction]
    rfl

/-- The time behind the separator is read with the offset of UTC. -/
lemma readTime_timestamp {h₀ h₁ i₀ i₁ s₀ s₁ : Char} {rest : Text}
    (hdigits : ∀ c ∈ [h₀, h₁, i₀, i₁, s₀, s₁], Unicode.isDigit c = true)
    (hrest : rest = [] ∨ ∃ digits, rest = '.' :: digits ∧ digits ≠ [] ∧ digits.length ≤ 6 ∧
      ∀ c ∈ digits, Unicode.isDigit c = true)
    (hhour : decimalNat [h₀, h₁] ≤ 23) (hminute : decimalNat [i₀, i₁] ≤ 59)
    (hsecond : decimalNat [s₀, s₁] ≤ 59) :
    DateTime.readTime (h₀ :: h₁ :: ':' :: i₀ :: i₁ :: ':' :: s₀ :: s₁ ::
      (rest ++ "+00:00".toList)) =
      some (DateTime.clockMicroseconds [decimalNat [h₀, h₁], decimalNat [i₀, i₁],
        decimalNat [s₀, s₁]]
        (decimalNat rest.tail * 10 ^ (6 - rest.tail.length)), some 0) := by
  -- No character of the clock begins an offset.
  have hclock : ∀ c ∈ h₀ :: h₁ :: ':' :: i₀ :: i₁ :: ':' :: s₀ :: s₁ :: rest,
      (!(decide (c = '+') || decide (c = '-') || decide (c = 'Z'))) = true := by
    have hdigit : ∀ c, Unicode.isDigit c = true →
        (!(decide (c = '+') || decide (c = '-') || decide (c = 'Z'))) = true := by
      intro c hc
      have hsign : c ≠ '+' ∧ c ≠ '-' ∧ c ≠ 'Z' := by
        refine ⟨?_, ?_, ?_⟩ <;> rintro rfl <;> exact absurd hc (by decide)
      simp [hsign]
    have hfraction : ∀ c ∈ rest, (!(decide (c = '+') || decide (c = '-') || decide (c = 'Z'))) =
        true := by
      rcases hrest with rfl | ⟨digits, rfl, -, -, hall⟩
      · simp
      · exact List.forall_mem_cons.2 ⟨by decide, fun c hc => hdigit c (hall c hc)⟩
    simp only [List.forall_mem_cons] at hdigits ⊢
    obtain ⟨hh₀, hh₁, hi₀, hi₁, hs₀, hs₁, -⟩ := hdigits
    exact ⟨hdigit _ hh₀, hdigit _ hh₁, by decide, hdigit _ hi₀, hdigit _ hi₁, by decide,
      hdigit _ hs₀, hdigit _ hs₁, hfraction⟩
  have hread := readClock_timestamp hdigits hrest
  have happend : h₀ :: h₁ :: ':' :: i₀ :: i₁ :: ':' :: s₀ :: s₁ :: (rest ++ "+00:00".toList) =
      (h₀ :: h₁ :: ':' :: i₀ :: i₁ :: ':' :: s₀ :: s₁ :: rest) ++ "+00:00".toList := rfl
  rw [happend]
  generalize h₀ :: h₁ :: ':' :: i₀ :: i₁ :: ':' :: s₀ :: s₁ :: rest = clock at *
  unfold DateTime.readTime
  dsimp only
  rw [List.takeWhile_append_of_pos hclock, List.dropWhile_append_of_pos hclock]
  have htext : "+00:00".toList = '+' :: ['0', '0', ':', '0', '0'] := rfl
  have hoffset : DateTime.readClock false 3 none [] ['0', '0', ':', '0', '0'] =
      some ([0, 0], 0, false) := by decide
  have hne : decide ('+' :: ['0', '0', ':', '0', '0'] ≠ []) = true := rfl
  rw [htext, List.takeWhile_cons_of_neg (by decide), List.dropWhile_cons_of_neg (by decide),
    List.append_nil, hne, hread]
  simp only [Option.bind_eq_bind, Option.bind_some, List.getD_cons_zero, List.getD_cons_succ]
  rw [if_pos ⟨hhour, hminute, hsecond⟩]
  split
  · contradiction
  · next heq => exact absurd (List.cons.inj heq).1 (by decide)
  · next sign offset _ heq =>
    obtain ⟨rfl, rfl⟩ := List.cons.inj heq
    have hzero : DateTime.clockMicroseconds [0, 0] 0 = 0 := rfl
    rw [hoffset]
    simp [hzero]

/-- The date in front of the separator is read as its ordinal. -/
lemma readDate_timestamp {y₀ y₁ y₂ y₃ m₀ m₁ d₀ d₁ : Char}
    (hdigits : ∀ c ∈ [y₀, y₁, y₂, y₃, m₀, m₁, d₀, d₁], Unicode.isDigit c = true) :
    DateTime.readDate [y₀, y₁, y₂, y₃, '-', m₀, m₁, '-', d₀, d₁] =
      DateTime.ordinal? (decimalNat [y₀, y₁, y₂, y₃]) (decimalNat [m₀, m₁])
        (decimalNat [d₀, d₁]) := by
  simp only [List.forall_mem_cons] at hdigits
  obtain ⟨hy₀, hy₁, hy₂, hy₃, hm₀, hm₁, hd₀, hd₁, -⟩ := hdigits
  have hyear := @takeDigits_digits [y₀, y₁, y₂, y₃] (by simp [hy₀, hy₁, hy₂, hy₃])
    ['-', m₀, m₁, '-', d₀, d₁] 0
  have hweek : m₀ ≠ 'W' := by
    rintro rfl
    exact absurd hm₀ (by decide)
  simp only [List.cons_append, List.nil_append] at hyear
  unfold DateTime.readDate
  have hlen : [y₀, y₁, y₂, y₃].length = 4 := rfl
  rw [hlen] at hyear
  rw [hyear]
  simp only [Option.bind_eq_bind, Option.bind_some, List.head?_cons, List.tail_cons, if_true]
  split
  · next heq => exact absurd (List.cons.inj heq).1 hweek
  · rw [takeDigits_two hm₀ hm₁]
    simp only [Option.bind_some, List.head?_cons, if_true, List.tail_cons]
    rw [takeDigits_two hd₀ hd₁]
    simp only [Option.bind_some, if_true]
    rfl

/-- A timestamp matches the pattern of the permission gate. -/
lemma IsTimestamp.matches {t : Text} (h : IsTimestamp t) : matchesRfc3339UtcZ t = true := by
  obtain ⟨y₀, y₁, y₂, y₃, m₀, m₁, d₀, d₁, h₀, h₁, i₀, i₁, s₀, s₁, rest, rfl, hdigits, hrest⟩ :=
    h.exists_characters
  have hdecimal : ∀ c, Unicode.isDigit c = true → Unicode.isDecimal c = true := by
    intro c hc
    rw [Unicode.isDecimal, decimalValue?_digit hc]
    rfl
  simp only [List.forall_mem_cons] at hdigits
  obtain ⟨hy₀, hy₁, hy₂, hy₃, hm₀, hm₁, hd₀, hd₁, hh₀, hh₁, hi₀, hi₁, hs₀, hs₁, -⟩ := hdigits
  have hrest' : (decide (rest ++ ['Z'] = ['Z']) || ((rest ++ ['Z']).head? = some '.' &&
      (rest ++ ['Z']).getLast? = some 'Z' && isDecimalText (rest ++ ['Z']).tail.dropLast)) =
        true := by
    rcases hrest with rfl | ⟨digits, rfl, hne, -, hall⟩
    · rfl
    · have hdigits : isDecimalText digits = true := by
        simp only [isDecimalText, Bool.and_eq_true, decide_eq_true_eq, List.all_eq_true]
        exact ⟨hne, fun c hc => hdecimal c (hall c hc)⟩
      have hlast : ('.' :: digits ++ ['Z']).getLast? = some 'Z' := List.getLast?_concat
      rw [hlast]
      simp [hdigits]
  simp only [matchesRfc3339UtcZ, slice, List.take_succ_cons, List.take_zero, List.drop_succ_cons,
    List.drop_zero]
  rw [hrest']
  simp [hdecimal, hy₀, hy₁, hy₂, hy₃, hm₀, hm₁, hd₀, hd₁, hh₀, hh₁, hi₀, hi₁, hs₀, hs₁]

/-- The separator of a timestamp is found behind the date. -/
lemma separatorLocation_timestamp {y₀ y₁ y₂ y₃ m₀ m₁ d₀ d₁ : Char} (hm₀ : Unicode.isDigit m₀ = true)
    (rest : Text) : DateTime.separatorLocation
      (y₀ :: y₁ :: y₂ :: y₃ :: '-' :: m₀ :: m₁ :: '-' :: d₀ :: d₁ :: rest) = 10 := by
  have hweek : m₀ ≠ 'W' := by
    rintro rfl
    exact absurd hm₀ (by decide)
  have hlength : (y₀ :: y₁ :: y₂ :: y₃ :: '-' :: m₀ :: m₁ :: '-' :: d₀ :: d₁ ::
      rest).length ≠ 7 := by
    simp only [List.length_cons]
    omega
  unfold DateTime.separatorLocation
  dsimp only
  rw [if_neg hlength]
  simp [hweek]

/-- The standard library reads the date and the clock of a timestamp. -/
lemma IsTimestamp.readUtc_eq {t : Text} (h : IsTimestamp t) :
    readUtc t = (DateTime.ordinal? (decimalNat (slice t 0 4)) (decimalNat (slice t 5 7))
      (decimalNat (slice t 8 10))).map fun day =>
        day * 86400000000 + DateTime.clockMicroseconds [decimalNat (slice t 11 13),
          decimalNat (slice t 14 16), decimalNat (slice t 17 19)]
          (decimalNat (timestampFraction t) * 10 ^ (6 - (timestampFraction t).length)) := by
  have hfields := h.fields
  simp only [realisticFields, Bool.and_eq_true, decide_eq_true_eq] at hfields
  obtain ⟨⟨⟨⟨-, hhour⟩, hminute⟩, hsecond⟩, -⟩ := hfields
  obtain ⟨y₀, y₁, y₂, y₃, m₀, m₁, d₀, d₁, h₀, h₁, i₀, i₁, s₀, s₁, rest, ht, hdigits, hrest⟩ :=
    h.exists_characters
  have hdropLast : t.dropLast = y₀ :: y₁ :: y₂ :: y₃ :: '-' :: m₀ :: m₁ :: '-' :: d₀ :: d₁ :: 'T' ::
      h₀ :: h₁ :: ':' :: i₀ :: i₁ :: ':' :: s₀ :: s₁ :: rest := by
    have hconcat : t = (y₀ :: y₁ :: y₂ :: y₃ :: '-' :: m₀ :: m₁ :: '-' :: d₀ :: d₁ :: 'T' :: h₀ ::
        h₁ :: ':' :: i₀ :: i₁ :: ':' :: s₀ :: s₁ :: rest) ++ ['Z'] := ht
    rw [hconcat, List.dropLast_concat]
  have hfraction : timestampFraction t = rest.tail := by
    unfold timestampFraction
    rw [hdropLast]
    cases rest <;> rfl
  have hhour' : slice t 11 13 = [h₀, h₁] := by rw [ht]; rfl
  have hminute' : slice t 14 16 = [i₀, i₁] := by rw [ht]; rfl
  have hsecond' : slice t 17 19 = [s₀, s₁] := by rw [ht]; rfl
  have hyear' : slice t 0 4 = [y₀, y₁, y₂, y₃] := by rw [ht]; rfl
  have hmonth' : slice t 5 7 = [m₀, m₁] := by rw [ht]; rfl
  have hday' : slice t 8 10 = [d₀, d₁] := by rw [ht]; rfl
  rw [hhour'] at hhour
  rw [hminute'] at hminute
  rw [hsecond'] at hsecond
  rw [hfraction, hhour', hminute', hsecond', hyear', hmonth', hday']
  simp only [List.forall_mem_cons] at hdigits
  obtain ⟨hy₀, hy₁, hy₂, hy₃, hm₀, hm₁, hd₀, hd₁, hclock⟩ := hdigits
  have hdate := @readDate_timestamp y₀ y₁ y₂ y₃ m₀ m₁ d₀ d₁
    (by simp [hy₀, hy₁, hy₂, hy₃, hm₀, hm₁, hd₀, hd₁])
  have htime := readTime_timestamp (by simpa only [List.forall_mem_cons] using hclock) hrest
    (by omega) (by omega) (by omega)
  unfold readUtc
  rw [Text.ofString_eq, hdropLast]
  unfold DateTime.fromIsoFormat
  simp only [List.cons_append]
  rw [separatorLocation_timestamp hm₀]
  simp only [List.take_succ_cons, List.take_zero, List.drop_succ_cons, List.drop_zero]
  rw [hdate, htime]
  cases DateTime.ordinal? (decimalNat [y₀, y₁, y₂, y₃]) (decimalNat [m₀, m₁])
    (decimalNat [d₀, d₁]) with
  | none => rfl
  | some day => simp

/-- The standard library counts the days of a timestamp. -/
lemma IsTimestamp.ordinal?_eq {t : Text} (h : IsTimestamp t) :
    DateTime.ordinal? (decimalNat (slice t 0 4)) (decimalNat (slice t 5 7))
      (decimalNat (slice t 8 10)) = some ((719163 : ℤ) + (timestampDays t : ℤ)) := by
  have hvalid := h.valid
  have hyear := h.year
  have hday := hvalid.day_le
  have hday' := hvalid.day_pos
  have hmonth := hvalid.month_pos
  have hmonth' := hvalid.month_le
  have hlength := daysByMonth_getD (timestampDate t).year hmonth hmonth'
  have hbefore := daysBeforeMonth_eq (timestampDate t).year hmonth hmonth'
  have hyears := daysBeforeYear_eq ((timestampDate t).year - 1970).toNat
  rw [← h.year_eq] at hyears
  unfold timestampDays
  generalize hdate : timestampDate t = date at *
  obtain rfl : date = ⟨decimalNat (slice t 0 4), decimalNat (slice t 5 7),
      decimalNat (slice t 8 10)⟩ :=
    hdate.symm
  dsimp only at *
  unfold DateTime.ordinal?
  rw [hlength, hbefore, hyears, if_pos ⟨by omega, hmonth, hmonth', hday', by exact_mod_cast hday⟩]
  push_cast
  rw [Option.some.injEq, Nat.cast_sub hday']
  ring

/-- The permission gate reads the instant of a timestamp, in microseconds after the first of January
of the year 1. -/
lemma IsTimestamp.parseProbeTime_eq {t : Text} (h : IsTimestamp t) :
    ∃ time, parseProbeTime t = some time ∧
      (time : ℚ) = (719163 * 86400 + (timestampDays t * 86400 + timestampClock t)) * 1000000 := by
  obtain ⟨date, time, hparts⟩ := h.exists_parts
  have hprobe : (matchesRfc3339UtcZ t && realisticFields (decimalNat (slice date 0 4))
      (decimalNat (slice date 5 7)) (decimalNat (slice date 8 10)) (decimalNat (slice time 0 2))
      (decimalNat (slice time 3 5)) (decimalNat (slice time 6 8))) = true := by
    rw [hparts.year, hparts.month, hparts.day, hparts.hour, hparts.minute, hparts.second,
      Bool.and_eq_true]
    exact ⟨h.matches, h.fields⟩
  unfold parseProbeTime
  rw [hparts.split]
  dsimp only
  rw [if_pos hprobe, h.readUtc_eq, h.ordinal?_eq]
  refine ⟨_, rfl, ?_⟩
  -- The microseconds of the fraction are its digits, filled up with zeros.
  have hmicroseconds : ((10 : ℚ) ^ (6 - (timestampFraction t).length)) =
      1000000 / 10 ^ (timestampFraction t).length := by
    rw [eq_div_iff (by positivity), ← pow_add, Nat.sub_add_cancel h.fraction]
    norm_num
  unfold DateTime.clockMicroseconds timestampClock
  push_cast
  rw [hmicroseconds]
  simp only [List.getD_cons_zero, List.getD_cons_succ]
  ring

/-- The seconds between two times in microseconds, in an arithmetic that rounds its results. -/
def totalSecondsWith (round : ℚ → ℚ) (later earlier : ℤ) : ℚ :=
  round ((later - earlier : ℤ) / 1000000)

/-- The code computes in double precision. -/
lemma totalSecondsWith_round (later earlier : ℤ) :
    totalSecondsWith Double.round later earlier = totalSeconds later earlier := rfl

/-! ## Ages -/

/-- The age of a timestamp is the difference of the instants by the calendar.  It is what the
permission gate computes from the times that the standard library reads, and it is antisymmetric and
additive. -/
theorem utcZAgeSecondsWith_exact {t₁ t₂ t₃ : Text} (h₁ : IsTimestamp t₁) (h₂ : IsTimestamp t₂)
    (h₃ : IsTimestamp t₃) :
    ∃ x₁ x₂ x₃ : ℚ, ∃ time₁ time₂ : ℤ,
      (∀ x, IsInstant t₁ x ↔ x = x₁) ∧ (∀ x, IsInstant t₂ x ↔ x = x₂) ∧
      (∀ x, IsInstant t₃ x ↔ x = x₃) ∧
      utcZAgeSecondsWith id t₁ t₂ = some (x₁ - x₂) ∧
      utcZAgeSecondsWith id t₂ t₁ = some (-(x₁ - x₂)) ∧
      utcZAgeSecondsWith id t₂ t₃ = some (x₂ - x₃) ∧
      utcZAgeSecondsWith id t₁ t₃ = some ((x₁ - x₂) + (x₂ - x₃)) ∧
      parseProbeTime t₁ = some time₁ ∧ parseProbeTime t₂ = some time₂ ∧
      totalSecondsWith id time₁ time₂ = x₁ - x₂ ∧
      ∀ maxAge maxSkew : ℤ,
        (maxAge < x₁ - x₂ ∨ x₁ - x₂ < -maxSkew) ↔
          (maxAge < totalSecondsWith id time₁ time₂ ∨
            totalSecondsWith id time₁ time₂ < -maxSkew) := by
  obtain ⟨time₁, hparse₁, htime₁⟩ := h₁.parseProbeTime_eq
  obtain ⟨time₂, hparse₂, htime₂⟩ := h₂.parseProbeTime_eq
  have hage : ∀ {t t' : Text}, IsTimestamp t → IsTimestamp t' → utcZAgeSecondsWith id t t' =
      some ((timestampDays t * 86400 + timestampClock t) -
        (timestampDays t' * 86400 + timestampClock t')) := by
    intro t t' h h'
    unfold utcZAgeSecondsWith
    rw [h.utcZSecondsWith_id, h'.utcZSecondsWith_id]
    rfl
  have htotal : totalSecondsWith id time₁ time₂ = (timestampDays t₁ * 86400 + timestampClock t₁) -
      (timestampDays t₂ * 86400 + timestampClock t₂) := by
    unfold totalSecondsWith
    rw [id_eq, Int.cast_sub, htime₁, htime₂]
    ring
  refine ⟨_, _, _, time₁, time₂, fun _ => h₁.isInstant_iff, fun _ => h₂.isInstant_iff,
    fun _ => h₃.isInstant_iff, hage h₁ h₂, ?_, hage h₂ h₃, ?_, hparse₁, hparse₂, htotal, ?_⟩
  · rw [hage h₂ h₁, neg_sub]
  · rw [hage h₁ h₃, sub_add_sub_cancel]
  · intro maxAge maxSkew
    rw [htotal]

/-- Two days around the end of a February, with and without a fraction. -/
theorem utcZAgeSecondsWith_exact_leapDay :
    ∃ x₁ x₂ x₃ : ℚ, ∃ time₁ time₂ : ℤ,
      (∀ x, IsInstant "2024-03-01T00:00:30.25Z" x ↔ x = x₁) ∧
      (∀ x, IsInstant "2024-02-28T23:59:00Z" x ↔ x = x₂) ∧
      (∀ x, IsInstant "1999-12-31T23:59:59.999999Z" x ↔ x = x₃) ∧
      utcZAgeSecondsWith id "2024-03-01T00:00:30.25Z" "2024-02-28T23:59:00Z" = some (x₁ - x₂) ∧
      utcZAgeSecondsWith id "2024-02-28T23:59:00Z" "2024-03-01T00:00:30.25Z" = some (-(x₁ - x₂)) ∧
      utcZAgeSecondsWith id "2024-02-28T23:59:00Z" "1999-12-31T23:59:59.999999Z" = some (x₂ - x₃) ∧
      utcZAgeSecondsWith id "2024-03-01T00:00:30.25Z" "1999-12-31T23:59:59.999999Z" =
        some ((x₁ - x₂) + (x₂ - x₃)) ∧
      parseProbeTime "2024-03-01T00:00:30.25Z" = some time₁ ∧
      parseProbeTime "2024-02-28T23:59:00Z" = some time₂ ∧
      totalSecondsWith id time₁ time₂ = x₁ - x₂ ∧
      ∀ maxAge maxSkew : ℤ,
        (maxAge < x₁ - x₂ ∨ x₁ - x₂ < -maxSkew) ↔
          (maxAge < totalSecondsWith id time₁ time₂ ∨ totalSecondsWith id time₁ time₂ < -maxSkew) :=
  utcZAgeSecondsWith_exact
    ⟨by rw [Text.ofString_eq]; decide +kernel, by simp [Text.ofString_eq],
      by rw [Text.ofString_eq]; decide, by rw [Text.ofString_eq]; decide⟩
    ⟨by rw [Text.ofString_eq]; decide +kernel, by simp [Text.ofString_eq],
      by rw [Text.ofString_eq]; decide, by rw [Text.ofString_eq]; decide⟩
    ⟨by rw [Text.ofString_eq]; decide +kernel, by simp [Text.ofString_eq],
      by rw [Text.ofString_eq]; decide, by rw [Text.ofString_eq]; decide⟩

/-! ## Ages in double precision -/

/-- The rounded sum of a number and a rounded fraction is close to their sum. -/
lemma abs_round_add_round_le {whole fraction : ℚ} (hwhole : 0 ≤ whole) (hfraction : 0 ≤ fraction) :
    |Double.round (whole + Double.round fraction) - (whole + fraction)| ≤
      (whole + fraction) / 2 ^ 51 + 3 * 2 ^ (-1075 : ℤ) := by
  have hfirst := Double.abs_round_sub_le fraction
  have hsecond := Double.abs_round_sub_le (whole + Double.round fraction)
  have hsize : |whole + Double.round fraction| ≤
      whole + fraction + |Double.round fraction - fraction| := by
    have hsplit : whole + Double.round fraction =
        (whole + fraction) + (Double.round fraction - fraction) := by ring
    have htriangle := abs_add_le (whole + fraction) (Double.round fraction - fraction)
    rw [abs_of_nonneg (add_nonneg hwhole hfraction)] at htriangle
    rwa [hsplit]
  have htotal : |Double.round (whole + Double.round fraction) - (whole + fraction)| ≤
      |Double.round (whole + Double.round fraction) - (whole + Double.round fraction)| +
        |Double.round fraction - fraction| := by
    have hsplit : Double.round (whole + Double.round fraction) - (whole + fraction) =
        (Double.round (whole + Double.round fraction) - (whole + Double.round fraction)) +
          (Double.round fraction - fraction) := by ring
    rw [hsplit]
    exact abs_add_le _ _
  have hunit : (2 : ℚ) ^ (-53 : ℤ) = 1 / 2 ^ 53 := by norm_num
  have hpos : (0 : ℚ) < 2 ^ (-1075 : ℤ) := zpow_pos (by norm_num) _
  rw [abs_of_nonneg hfraction, hunit] at hfirst
  rw [hunit] at hsecond
  generalize (2 : ℚ) ^ (-1075 : ℤ) = tiny at hfirst hsecond hpos ⊢
  norm_num at hfirst hsecond ⊢
  linarith

/-- The age in double precision, by either of the two readers, is close to the exact one. -/
lemma IsTimestamp.abs_age_sub_le {t₁ t₂ : Text} (h₁ : IsTimestamp t₁) (h₂ : IsTimestamp t₂) :
    ∃ age x₁ x₂ : ℚ, ∃ time₁ time₂ : ℤ, IsInstant t₁ x₁ ∧ IsInstant t₂ x₂ ∧
      utcZAgeSeconds (some t₁) (some t₂) = some age ∧
      |age - (x₁ - x₂)| ≤ (x₁ + x₂) / 2 ^ 50 + 8 * 2 ^ (-1075 : ℤ) ∧
      parseProbeTime t₁ = some time₁ ∧ parseProbeTime t₂ = some time₂ ∧
      |totalSeconds time₁ time₂ - (x₁ - x₂)| ≤ |x₁ - x₂| / 2 ^ 53 + 2 ^ (-1075 : ℤ) := by
  have hinstant : ∀ {t : Text}, IsTimestamp t → ∃ s, utcZSecondsWith Double.round t = some s ∧
      0 ≤ timestampDays t * 86400 + timestampClock t ∧
      |s - (timestampDays t * 86400 + timestampClock t)| ≤
        (timestampDays t * 86400 + timestampClock t) / 2 ^ 51 + 3 * 2 ^ (-1075 : ℤ) := by
    intro t h
    have hsum : timestampDays t * 86400 + timestampClock t =
        (timestampDays t * 86400 + (timestampClock t - timestampSubsecond t)) +
          timestampSubsecond t := by ring
    have hwhole : (0 : ℚ) ≤ timestampDays t * 86400 +
        (timestampClock t - timestampSubsecond t) := by
      rw [timestampClock, timestampSubsecond, add_sub_cancel_right]
      positivity
    have hfraction : 0 ≤ timestampSubsecond t := by
      unfold timestampSubsecond
      positivity
    refine ⟨_, h.utcZSecondsWith_eq Double.round_zero, ?_, ?_⟩
    · rw [hsum]
      exact add_nonneg hwhole hfraction
    · rw [hsum]
      exact abs_round_add_round_le hwhole hfraction
  obtain ⟨s₁, hs₁, hpos₁, herror₁⟩ := hinstant h₁
  obtain ⟨s₂, hs₂, hpos₂, herror₂⟩ := hinstant h₂
  obtain ⟨time₁, hparse₁, htime₁⟩ := h₁.parseProbeTime_eq
  obtain ⟨time₂, hparse₂, htime₂⟩ := h₂.parseProbeTime_eq
  refine ⟨Double.round (s₁ - s₂), _, _, time₁, time₂, h₁.isInstant_iff.2 rfl,
    h₂.isInstant_iff.2 rfl, ?_, ?_, hparse₁, hparse₂, ?_⟩
  · rw [← utcZAgeSecondsWith_round, utcZAgeSecondsWith, hs₁, hs₂]
    rfl
  · generalize (timestampDays t₁ * 86400 + timestampClock t₁ : ℚ) = x₁ at hpos₁ herror₁ ⊢
    generalize (timestampDays t₂ * 86400 + timestampClock t₂ : ℚ) = x₂ at hpos₂ herror₂ ⊢
    have hlast := Double.abs_round_sub_le (s₁ - s₂)
    have hunit : (2 : ℚ) ^ (-53 : ℤ) = 1 / 2 ^ 53 := by norm_num
    have hpos : (0 : ℚ) < 2 ^ (-1075 : ℤ) := zpow_pos (by norm_num) _
    rw [hunit] at hlast
    generalize (2 : ℚ) ^ (-1075 : ℤ) = tiny at *
    have hsize : |s₁ - s₂| ≤ x₁ + x₂ + |s₁ - x₁| + |s₂ - x₂| := by
      rw [abs_le]
      have hle₁ := abs_le.1 (le_refl |s₁ - x₁|)
      have hle₂ := abs_le.1 (le_refl |s₂ - x₂|)
      constructor <;> linarith
    have htotal : |Double.round (s₁ - s₂) - (x₁ - x₂)| ≤
        |Double.round (s₁ - s₂) - (s₁ - s₂)| + |s₁ - x₁| + |s₂ - x₂| := by
      rw [abs_le]
      have hle := abs_le.1 (le_refl |Double.round (s₁ - s₂) - (s₁ - s₂)|)
      have hle₁ := abs_le.1 (le_refl |s₁ - x₁|)
      have hle₂ := abs_le.1 (le_refl |s₂ - x₂|)
      constructor <;> linarith
    norm_num at hlast herror₁ herror₂ ⊢
    linarith
  · have hexact : ((time₁ - time₂ : ℤ) : ℚ) / 1000000 =
        (timestampDays t₁ * 86400 + timestampClock t₁) -
          (timestampDays t₂ * 86400 + timestampClock t₂) := by
      rw [Int.cast_sub, htime₁, htime₂]
      ring
    have hlast := Double.abs_round_sub_le (((time₁ - time₂ : ℤ) : ℚ) / 1000000)
    have hunit : (2 : ℚ) ^ (-53 : ℤ) = 1 / 2 ^ 53 := by norm_num
    rw [hexact, hunit, one_div_mul_eq_div] at hlast
    unfold totalSeconds
    rw [hexact]
    exact hlast

end ReviewGraph
