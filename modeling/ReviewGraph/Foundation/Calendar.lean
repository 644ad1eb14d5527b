import Mathlib

/-!
# The Gregorian calendar

The calendar is given by `Date.next`, the day after a day.  A date is numbered by how often `next`
has to be applied to reach it from another one; `iterate_next_newYear` counts the days of whole
years, and `iterate_next_date` those of a year up to a date.
-/

namespace Calendar

/-- A date. -/
structure Date where
  year : ℤ
  month : ℕ
  day : ℕ
  deriving DecidableEq, Repr

/-- A year with a twenty-ninth of February: every fourth one, but of the centuries only every
fourth. -/
def IsLeap (year : ℤ) : Prop := 4 ∣ year ∧ (100 ∣ year → 400 ∣ year)

instance : DecidablePred IsLeap := fun year => by
  unfold IsLeap
  infer_instance

/-- The number of days of a month. -/
def monthLength (year : ℤ) : ℕ → ℕ
  | 2 => if IsLeap year then 29 else 28
  | 4 | 6 | 9 | 11 => 30
  | _ => 31

/-- The date is one of the calendar. -/
structure Date.Valid (d : Date) : Prop where
  month_pos : 1 ≤ d.month
  month_le : d.month ≤ 12
  day_pos : 1 ≤ d.day
  day_le : d.day ≤ monthLength d.year d.month

/-- The day after a day. -/
def Date.next (d : Date) : Date :=
  if d.day < monthLength d.year d.month then { d with day := d.day + 1 }
  else if d.month < 12 then ⟨d.year, d.month + 1, 1⟩
  else ⟨d.year + 1, 1, 1⟩

/-- A month has a day. -/
lemma monthLength_pos (year : ℤ) (month : ℕ) : 1 ≤ monthLength year month := by
  unfold monthLength
  split
  · split <;> omega
  all_goals omega

/-- A month has at most 31 days. -/
lemma monthLength_le (year : ℤ) (month : ℕ) : monthLength year month ≤ 31 := by
  unfold monthLength
  split
  · split <;> omega
  all_goals omega

/-- The day after a date is a date. -/
lemma Date.Valid.next {d : Date} (h : d.Valid) : d.next.Valid := by
  obtain ⟨hmonth, hmonth', hday, hday'⟩ := h
  unfold Date.next
  split
  · exact ⟨hmonth, hmonth', by simp, by simpa using ‹_›⟩
  · split
    · exact ⟨by simp, by simpa using ‹_›, le_rfl, monthLength_pos _ _⟩
    · exact ⟨le_rfl, by simp, le_rfl, monthLength_pos _ _⟩

/-! ## No date is reached twice -/

/-- A number that grows from day to day. -/
def Date.rank (d : Date) : ℤ := d.year * 400 + d.month * 32 + d.day

/-- The day after a date comes later. -/
lemma Date.Valid.rank_lt {d : Date} (h : d.Valid) : d.rank < d.next.rank := by
  have hle := monthLength_le d.year d.month
  obtain ⟨hmonth, hmonth', hday, hday'⟩ := h
  unfold Date.next Date.rank
  split
  · push_cast
    omega
  · split
    · push_cast
      omega
    · push_cast
      omega

/-- Later days are dates. -/
lemma Date.Valid.iterate {d : Date} (h : d.Valid) (n : ℕ) : (Date.next^[n] d).Valid := by
  induction n with
  | zero => exact h
  | succ n ih =>
    rw [Function.iterate_succ_apply']
    exact ih.next

/-- No day comes twice. -/
lemma Date.Valid.iterate_injective {d : Date} (h : d.Valid) :
    Function.Injective fun n : ℕ => Date.next^[n] d := by
  have hmono : StrictMono fun n : ℕ => (Date.next^[n] d).rank := by
    refine strictMono_nat_of_lt_succ fun n => ?_
    rw [Function.iterate_succ_apply']
    exact (h.iterate n).rank_lt
  exact fun n m hnm => hmono.injective (congrArg Date.rank hnm)

/-! ## Counting days -/

/-- Within a month, the day counts. -/
lemma iterate_next_day (year : ℤ) (month day n : ℕ) (h : day + n ≤ monthLength year month) :
    Date.next^[n] ⟨year, month, day⟩ = ⟨year, month, day + n⟩ := by
  induction n with
  | zero => rfl
  | succ n ih =>
    rw [Function.iterate_succ_apply', ih (by omega)]
    unfold Date.next
    rw [if_pos (show day + n < monthLength year month by omega)]
    rfl

/-- A month later it is the first of the next month. -/
lemma iterate_next_month (year : ℤ) {month : ℕ} (h : month < 12) :
    Date.next^[monthLength year month] ⟨year, month, 1⟩ = ⟨year, month + 1, 1⟩ := by
  obtain ⟨n, hn⟩ := Nat.exists_eq_add_of_le' (monthLength_pos year month)
  rw [hn, Function.iterate_succ_apply', iterate_next_day year month 1 n (by omega)]
  unfold Date.next
  rw [if_neg (show ¬ 1 + n < monthLength year month by omega), if_pos h]

/-- The number of days of a year before a month. -/
def daysBefore (year : ℤ) (month : ℕ) : ℕ :=
  ((List.range (month - 1)).map fun i => monthLength year (i + 1)).sum

/-- The days before the next month. -/
lemma daysBefore_succ (year : ℤ) {month : ℕ} (h : 1 ≤ month) :
    daysBefore year (month + 1) = daysBefore year month + monthLength year month := by
  obtain ⟨n, rfl⟩ := Nat.exists_eq_add_of_le' h
  simp [daysBefore, List.range_succ]

/-- The first of a month, counted from the first of January. -/
lemma iterate_next_firstOfMonth (year : ℤ) {month : ℕ} (hpos : 1 ≤ month) (hle : month ≤ 12) :
    Date.next^[daysBefore year month] ⟨year, 1, 1⟩ = ⟨year, month, 1⟩ := by
  induction month, hpos using Nat.le_induction with
  | base => rfl
  | succ month hpos ih =>
    rw [daysBefore_succ year hpos, Nat.add_comm, Function.iterate_add_apply, ih (by omega)]
    exact iterate_next_month year (by omega)

/-- The number of days of a year. -/
def yearLength (year : ℤ) : ℕ := if IsLeap year then 366 else 365

/-- The days of a year end with those of December. -/
lemma daysBefore_december (year : ℤ) : daysBefore year 12 + 31 = yearLength year := by
  unfold daysBefore yearLength
  by_cases h : IsLeap year <;> simp [List.range_succ, monthLength, h]

/-- A year later it is the first of January of the next year. -/
lemma iterate_next_year (year : ℤ) :
    Date.next^[yearLength year] ⟨year, 1, 1⟩ = ⟨year + 1, 1, 1⟩ := by
  have hdecember : Date.next^[31] ⟨year, 12, 1⟩ = ⟨year + 1, 1, 1⟩ := by
    rw [Function.iterate_succ_apply', iterate_next_day year 12 1 30 (by simp [monthLength])]
    simp [Date.next, monthLength]
  rw [← daysBefore_december, Nat.add_comm, Function.iterate_add_apply,
    iterate_next_firstOfMonth year (by omega) le_rfl, hdecember]

/-- The number of days of some years in a row. -/
def daysOfYears (year : ℤ) (n : ℕ) : ℕ := ((List.range n).map fun i : ℕ =>
    yearLength (year + i)).sum

/-- The first of January, some years later. -/
lemma iterate_next_newYear (year : ℤ) (n : ℕ) :
    Date.next^[daysOfYears year n] ⟨year, 1, 1⟩ = ⟨year + n, 1, 1⟩ := by
  induction n with
  | zero => simp [daysOfYears]
  | succ n ih =>
    have hsum : daysOfYears year (n + 1) = yearLength (year + n) + daysOfYears year n := by
      simp [daysOfYears, List.range_succ, Nat.add_comm]
    rw [hsum, Function.iterate_add_apply, ih, iterate_next_year]
    push_cast
    rw [Int.add_assoc]

/-- A valid date, counted from a first of January before it. -/
theorem iterate_next_date (year : ℤ) (n : ℕ) {month day : ℕ}
    (h : Date.Valid ⟨year + n, month, day⟩) :
    Date.next^[daysOfYears year n + daysBefore (year + n) month + (day - 1)] ⟨year, 1, 1⟩ =
      ⟨year + n, month, day⟩ := by
  obtain ⟨hmonth, hmonth', hday, hday'⟩ := h
  dsimp only at hmonth hmonth' hday hday'
  rw [Nat.add_comm, Function.iterate_add_apply, Nat.add_comm, Function.iterate_add_apply,
    iterate_next_newYear, iterate_next_firstOfMonth _ hmonth hmonth',
    iterate_next_day _ _ _ _ (by omega)]
  congr 1
  omega

end Calendar
