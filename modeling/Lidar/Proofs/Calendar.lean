import Mathlib
import Lidar.Time

namespace Lidar

open Std.Time

namespace CivilTime

/-- The date of a time, in the calendar of the standard library. -/
def OnDate (t : CivilTime) (date : PlainDate) : Prop :=
  date.year.toInt = t.year ∧ date.month.val = t.month ∧ date.day.val = t.day

/-- A date of the calendar, and a time of day without leap seconds. -/
def OnCalendar (t : CivilTime) : Prop :=
  (∃ date, t.OnDate date) ∧ t.hour < 24 ∧ t.minute < 60 ∧ t.second < 60

/-- The fields, the most significant first, so that times are ordered as lists. -/
def fields (t : CivilTime) : List Nat :=
  [t.year, t.month, t.day, t.hour, t.minute, t.second]

/-- What a clock shows so many seconds after the start of the year 1970. -/
def shownAt (seconds : Int) : CivilTime :=
  let date := PlainDate.ofEpochDay (Day.Offset.ofInt (seconds / 86400))
  { year := date.year.toInt.toNat
    month := date.month.val.toNat
    day := date.day.val.toNat
    hour := (seconds % 86400 / 3600).toNat
    minute := (seconds % 3600 / 60).toNat
    second := (seconds % 60).toNat }

example : shownAt (-1) = ⟨1969, 12, 31, 23, 59, 59⟩ := by decide +kernel

end CivilTime

theorem isLeap_eq {y : Year.Offset} {year : Nat} (same : y.toInt = year) :
    y.isLeap = isLeapYear year := by
  unfold Year.Offset.isLeap isLeapYear
  rw [same]
  simp only [Int.tmod_eq_emod_of_nonneg (Int.natCast_nonneg year)]
  congr 1
  apply propext
  omega

theorem days_val (leap : Bool) (m : Month.Ordinal) :
    (m.days leap).val =
      if m.val = 2 then (if leap then 29 else 28)
      else if m.val = 4 ∨ m.val = 6 ∨ m.val = 9 ∨ m.val = 11 then 30 else 31 := by
  match m with
  | ⟨1, _⟩ | ⟨2, _⟩ | ⟨3, _⟩ | ⟨4, _⟩ | ⟨5, _⟩ | ⟨6, _⟩ | ⟨7, _⟩
  | ⟨8, _⟩ | ⟨9, _⟩ | ⟨10, _⟩ | ⟨11, _⟩ | ⟨12, _⟩ => cases leap <;> rfl

theorem days_eq_daysInMonth {y : Year.Offset} {m : Month.Ordinal} {year month : Nat}
    (sameYear : y.toInt = year) (sameMonth : m.val = month) :
    (m.days y.isLeap).val = daysInMonth year month := by
  have low : (1 : Int) ≤ m.val := m.property.1
  have high : m.val ≤ (12 : Int) := m.property.2
  rw [isLeap_eq sameYear, days_val]
  rw [sameMonth] at low high ⊢
  obtain ⟨low, high⟩ : 1 ≤ month ∧ month ≤ 12 := by omega
  interval_cases month <;> simp [daysInMonth]

theorem month_of_daysInMonth {year month : Nat} (some : 1 ≤ daysInMonth year month) :
    1 ≤ month ∧ month ≤ 12 := by
  unfold daysInMonth at some
  split at some <;> omega

theorem daysInMonth_le (year month : Nat) : daysInMonth year month ≤ 31 := by
  unfold daysInMonth
  split <;> (try split) <;> omega

theorem CivilTime.exists_onDate_iff {t : CivilTime} :
    (∃ date, t.OnDate date) ↔ 1 ≤ t.day ∧ t.day ≤ daysInMonth t.year t.month := by
  constructor
  · rintro ⟨date, sameYear, sameMonth, sameDay⟩
    have low : (1 : Int) ≤ date.day.val := date.day.property.1
    have inMonth : date.day.val ≤ (date.month.days date.year.isLeap).val := date.valid
    rw [days_eq_daysInMonth sameYear sameMonth] at inMonth
    omega
  · rintro ⟨low, inMonth⟩
    have month := month_of_daysInMonth (low.trans inMonth)
    have short := daysInMonth_le t.year t.month
    let m : Month.Ordinal := ⟨t.month, by omega, by omega⟩
    let d : Day.Ordinal := ⟨t.day, by omega, by omega⟩
    have valid : Year.Offset.Valid (Year.Offset.ofInt t.year) m d := by
      have days := days_eq_daysInMonth (y := Year.Offset.ofInt t.year) (m := m) rfl rfl
      exact (Int.ofNat_le.mpr inMonth).trans_eq days.symm
    exact ⟨⟨_, m, d, valid⟩, rfl, rfl, rfl⟩

theorem CivilTime.isReal_iff_onCalendar {t : CivilTime} : t.isReal = true ↔ t.OnCalendar := by
  unfold isReal OnCalendar
  rw [exists_onDate_iff, decide_eq_true_iff]
  simp only [and_assoc]

theorem daysBeforeYear_succ {year : Nat} (one : 1 ≤ year) :
    daysBeforeYear (year + 1) = daysBeforeYear year + 365 + (if isLeapYear year then 1 else 0) := by
  obtain ⟨y, rfl⟩ : ∃ y, year = y + 1 := ⟨year - 1, by omega⟩
  have fewer : y / 100 ≤ y / 4 := Nat.div_le_div_left (by decide) (by decide)
  have centuries : 400 ∣ y + 1 → 100 ∣ y + 1 := Nat.dvd_trans (by decide)
  have fourths : 100 ∣ y + 1 → 4 ∣ y + 1 := Nat.dvd_trans (by decide)
  simp only [daysBeforeYear, isLeapYear, Nat.add_sub_cancel, decide_eq_true_eq, Nat.succ_div,
    ne_eq, ← Nat.dvd_iff_mod_eq_zero]
  by_cases h400 : 400 ∣ y + 1
  · simp only [h400, centuries, fourths, not_true, or_true, and_true, if_true]
    omega
  by_cases h100 : 100 ∣ y + 1
  · simp only [h400, h100, fourths, not_true, or_false, and_false, if_true, if_false]
    omega
  by_cases h4 : 4 ∣ y + 1
  · simp only [h400, h100, h4, not_false_eq_true, true_or, and_true, if_true, if_false]
    omega
  · simp only [h400, h100, h4, false_and, if_false]
    omega

theorem daysBeforeYear_end {year : Nat} (one : 1 ≤ year) :
    daysBeforeYear (year + 1) = daysBeforeYear year + daysBeforeMonth year 13 := by
  rw [daysBeforeYear_succ one]
  by_cases leap : isLeapYear year = true <;> simp [daysBeforeMonth, daysInMonth, leap]

theorem daysBeforeMonth_mono (year : Nat) : Monotone (daysBeforeMonth year) :=
  monotone_nat_of_le_succ fun _ => Nat.le_add_right _ _

theorem daysBeforeYear_le {year next : Nat} (one : 1 ≤ year) (later : year < next) :
    daysBeforeYear year + daysBeforeMonth year 13 ≤ daysBeforeYear next := by
  induction next, later using Nat.le_induction with
  | base => exact (daysBeforeYear_end one).ge
  | succ next after ih =>
    have one' : 1 ≤ next := one.trans (Nat.le_of_succ_le after)
    have more := daysBeforeYear_succ one'
    omega

namespace CivilTime

variable {t : CivilTime}

/-- The year that starts with the month of March. -/
def marchYear (t : CivilTime) : Nat :=
  if t.month ≤ 2 then t.year - 1 else t.year

def marchMonth (t : CivilTime) : Nat :=
  (t.month + 9) % 12

/-- The days since the first of March: from there on the months have 31, 30, 31, 30 and 31
days, and again. -/
def marchDay (t : CivilTime) : Nat :=
  (153 * t.marchMonth + 2) / 5 + (t.day - 1)

/-- The date is one of the calendar. -/
structure Dated (t : CivilTime) : Prop where
  year : 1 ≤ t.year
  day : 1 ≤ t.day
  inMonth : t.day ≤ daysInMonth t.year t.month

theorem Dated.month (h : t.Dated) : 1 ≤ t.month ∧ t.month ≤ 12 :=
  month_of_daysInMonth (h.day.trans h.inMonth)

theorem unixDays_eq (h : t.Dated) :
    t.unixDays + 719468 = (daysBeforeYear (t.marchYear + 1) + t.marchDay : Nat) := by
  obtain ⟨first, last⟩ := h.month
  obtain ⟨one, low, inMonth⟩ := h
  obtain ⟨y, month, day, hour, minute, second⟩ := t
  simp only at low inMonth one first last
  have epoch : daysBeforeYear 1970 = 719162 := by decide
  have next := daysBeforeYear_succ one
  have back : y - 1 + 1 = y := by omega
  simp only [unixDays, marchYear, marchMonth, marchDay, epoch]
  by_cases leap : isLeapYear y = true
  · interval_cases month <;> simp [daysBeforeMonth, daysInMonth, leap, back] at next ⊢ <;> omega
  · interval_cases month <;> simp [daysBeforeMonth, daysInMonth, leap, back] at next ⊢ <;> omega

/-- Only the last of February of a leap year is day 365 of its year, and a day tells its month. -/
theorem marchDay_spec (h : t.Dated) :
    t.marchDay ≤ 365 ∧ (t.marchDay = 365 → isLeapYear t.year = true ∧ t.month ≤ 2) ∧
      (5 * t.marchDay + 2) / 153 = t.marchMonth := by
  obtain ⟨first, last⟩ := h.month
  obtain ⟨-, low, inMonth⟩ := h
  obtain ⟨y, month, day, hour, minute, second⟩ := t
  simp only at low inMonth first last
  simp only [marchMonth, marchDay]
  by_cases leap : isLeapYear y = true
  · interval_cases month <;> simp [daysInMonth, leap] at inMonth ⊢ <;> omega
  · interval_cases month <;> simp [daysInMonth, leap] at inMonth ⊢ <;> omega

end CivilTime

/-- A day by its era of 400 years and, within that, its century, its group of four years and its
year, each counted from zero. Only a year that ends in a leap day has a day 365. -/
structure EraDay where
  era : Int
  century : Int
  group : Int
  year : Int
  day : Int
  era_nonneg : 0 ≤ era
  century_range : 0 ≤ century ∧ century ≤ 3
  group_range : 0 ≤ group ∧ group ≤ 24
  year_range : 0 ≤ year ∧ year ≤ 3
  day_range : 0 ≤ day ∧ day ≤ 365
  leap_day : day = 365 → year = 3 ∧ (group = 24 → century = 3)

namespace EraDay

variable (d : EraDay)

/-- The whole years of the era. -/
def years : Int :=
  100 * d.century + 4 * d.group + d.year

/-- The days from the start of the era. -/
def days : Int :=
  36524 * d.century + 1461 * d.group + 365 * d.year + d.day

theorem days_range : 0 ≤ d.days ∧ d.days ≤ 146096 := by
  have := d.century_range
  have := d.group_range
  have := d.year_range
  have := d.day_range
  have := d.leap_day
  unfold days
  omega

/-- A century is short of its last leap day, unless it ends the era. -/
theorem century_eq : d.days / 36524 - d.days / 146096 = d.century := by
  have := d.century_range
  obtain ⟨rest, rest_eq⟩ : ∃ rest, rest = 1461 * d.group + 365 * d.year + d.day := ⟨_, rfl⟩
  have range : 0 ≤ rest ∧ rest ≤ 36524 := by
    have := d.group_range
    have := d.year_range
    have := d.day_range
    have := d.leap_day
    omega
  have last : rest = 36524 → d.century = 3 := by
    have := d.group_range
    have := d.year_range
    have := d.day_range
    have := d.leap_day
    omega
  have parts : d.days = 36524 * d.century + rest := by
    rw [days, rest_eq]
    omega
  clear rest_eq
  omega

/-- The years, once the leap days behind them are taken out. Groups of 1460 days drift against
the groups of four years, by less than one group. -/
theorem years_eq :
    (d.days - d.days / 1460 + d.days / 36524 - d.days / 146096) / 365 = d.years := by
  have century := d.century_eq
  have := d.century_range
  have := d.group_range
  have := d.year_range
  have := d.day_range
  have drift : d.days / 1460 = 25 * d.century + d.group
      + (24 * d.century + d.group + 365 * d.year + d.day) / 1460 := by
    clear century
    unfold days
    omega
  have small : 0 ≤ (24 * d.century + d.group + 365 * d.year + d.day) / 1460 ∧
      (24 * d.century + d.group + 365 * d.year + d.day) / 1460 ≤ 1 := by
    clear century drift
    omega
  have late : (24 * d.century + d.group + 365 * d.year + d.day) / 1460 = 1 →
      365 ≤ d.day + 24 * d.century + d.group := by
    clear century drift small
    omega
  have days : d.days = 36524 * d.century + 1461 * d.group + 365 * d.year + d.day := rfl
  have := d.leap_day
  rw [years, drift]
  generalize (24 * d.century + d.group + 365 * d.year + d.day) / 1460 = w at *
  generalize d.days / 36524 = u at *
  generalize d.days / 146096 = v at *
  omega

theorem years_nonneg : 0 ≤ d.years := by
  have := d.century_range
  have := d.group_range
  have := d.year_range
  unfold years
  omega

/-- One leap day in four years, none at the end of a century. -/
theorem leap_days : d.years / 4 - d.years / 100 = 24 * d.century + d.group := by
  have := d.century_range
  have := d.group_range
  have := d.year_range
  unfold years
  omega

theorem day_eq : d.days - (365 * d.years + d.years / 4 - d.years / 100) = d.day := by
  rw [add_sub_assoc, d.leap_days, days, years]
  ring

/-- The month from March on, by the lengths of the months. -/
def marchMonth : Int :=
  (5 * d.day + 2) / 153

def month : Int :=
  d.marchMonth + (if d.marchMonth < 10 then 3 else -9)

theorem ofEpochDay_eq :
    PlainDate.ofEpochDay (Day.Offset.ofInt (146097 * d.era + d.days - 719468)) =
      PlainDate.ofYearMonthDayClip
        (Year.Offset.ofInt (d.years + d.era * 400 + (if d.month ≤ 2 then 1 else 0)))
        (Internal.Bounded.LE.clip d.month (by decide))
        (Internal.Bounded.LE.clip (d.day - (153 * d.marchMonth + 2) / 5 + 1) (by decide)) := by
  have era_nonneg := d.era_nonneg
  obtain ⟨low, high⟩ := d.days_range
  obtain ⟨first, last⟩ := d.day_range
  have shifted : (Day.Offset.ofInt (146097 * d.era + d.days - 719468)).toInt + 719468
      = 146097 * d.era + d.days :=
    Int.sub_add_cancel _ _
  have era : (146097 * d.era + d.days) / 146097 = d.era := by omega
  have rest : 146097 * d.era + d.days - d.era * 146097 = d.days := by omega
  have years := d.years_eq
  have years_nonneg := d.years_nonneg
  unfold PlainDate.ofEpochDay
  rw [shifted]
  have start : 146097 * d.era + d.days ≥ 0 := by omega
  simp only [if_pos start, Int.tdiv_eq_ediv_of_nonneg start, era, rest,
    Int.tdiv_eq_ediv_of_nonneg low]
  generalize d.days - d.days / 1460 + d.days / 36524 - d.days / 146096 = whole at years ⊢
  have whole_nonneg : 0 ≤ whole := by omega
  have twelfths : 0 ≤ 5 * d.day + 2 := by omega
  have before : 0 ≤ 153 * ((5 * d.day + 2) / 153) + 2 := by omega
  simp only [Int.tdiv_eq_ediv_of_nonneg whole_nonneg, years,
    Int.tdiv_eq_ediv_of_nonneg years_nonneg, d.day_eq, Int.tdiv_eq_ediv_of_nonneg twelfths,
    Int.tdiv_eq_ediv_of_nonneg before]
  rfl

end EraDay

theorem clip_val {low high n : Int} (ordered : low ≤ high) (above : low ≤ n) (below : n ≤ high) :
    (Internal.Bounded.LE.clip n ordered).val = n := by
  unfold Internal.Bounded.LE.clip
  simp [above, below]

theorem clipDay_eq {leap : Bool} {m : Month.Ordinal} {d : Day.Ordinal}
    (valid : Month.Ordinal.Valid leap m d) : m.clipDay leap d = d :=
  if_neg (Int.not_lt.mpr valid)

namespace CivilTime

variable {t : CivilTime}

/-- The day of a date, taken apart. -/
def eraDay (t : CivilTime) (h : t.Dated) : EraDay where
  era := (t.marchYear / 400 : Nat)
  century := (t.marchYear % 400 / 100 : Nat)
  group := (t.marchYear % 100 / 4 : Nat)
  year := (t.marchYear % 4 : Nat)
  day := t.marchDay
  era_nonneg := by omega
  century_range := by omega
  group_range := by omega
  year_range := by omega
  day_range := by
    have := (marchDay_spec h).1
    omega
  leap_day := by
    intro last
    obtain ⟨leap, early⟩ := (marchDay_spec h).2.1 (by omega)
    have rule : t.year % 4 = 0 ∧ (t.year % 100 ≠ 0 ∨ t.year % 400 = 0) := by
      simpa [isLeapYear] using leap
    have one := h.year
    have before : t.marchYear + 1 = t.year := by
      rw [marchYear, if_pos early]
      omega
    omega

variable (h : t.Dated)

theorem eraDay_years : (t.eraDay h).years + (t.eraDay h).era * 400 = t.marchYear := by
  simp only [eraDay, EraDay.years]
  omega

theorem eraDay_days : 146097 * (t.eraDay h).era + (t.eraDay h).days - 719468 = t.unixDays := by
  have days := unixDays_eq h
  simp only [daysBeforeYear, Nat.add_sub_cancel] at days
  simp only [eraDay, EraDay.days]
  omega

theorem eraDay_marchMonth : (t.eraDay h).marchMonth = t.marchMonth := by
  have month := (marchDay_spec h).2.2
  simp only [eraDay, EraDay.marchMonth]
  omega

theorem eraDay_month : (t.eraDay h).month = t.month := by
  obtain ⟨first, last⟩ := h.month
  rw [EraDay.month, eraDay_marchMonth, marchMonth]
  split <;> omega

include h in
/-- The day count of the standard library is taken apart into the date it was made from. -/
theorem onDate_ofEpochDay : t.OnDate (PlainDate.ofEpochDay (Day.Offset.ofInt t.unixDays)) := by
  obtain ⟨first, last⟩ := h.month
  have low := h.day
  have inMonth := h.inMonth
  have short := daysInMonth_le t.year t.month
  have year : (t.marchYear + (if (t.month : Int) ≤ 2 then 1 else 0) : Int) = t.year := by
    have one := h.year
    unfold marchYear
    split <;> split <;> omega
  have day : (t.eraDay h).day - (153 * t.marchMonth + 2) / 5 + 1 = t.day := by
    simp only [eraDay, marchDay]
    omega
  have date := (t.eraDay h).ofEpochDay_eq
  rw [eraDay_days, eraDay_years, eraDay_month, eraDay_marchMonth, year, day] at date
  have monthClip := clip_val (n := t.month) (show (1 : Int) ≤ 12 by decide) (by omega) (by omega)
  have dayClip := clip_val (n := t.day) (show (1 : Int) ≤ 31 by decide) (by omega) (by omega)
  rw [date]
  refine ⟨rfl, monthClip, ?_⟩
  have valid : Month.Ordinal.Valid (Year.Offset.ofInt t.year).isLeap
      (Internal.Bounded.LE.clip t.month (by decide))
      (Internal.Bounded.LE.clip t.day (by decide)) := by
    have days := days_eq_daysInMonth (y := Year.Offset.ofInt t.year) rfl monthClip
    exact (dayClip.trans_le (Int.ofNat_le.mpr inMonth)).trans_eq days.symm
  exact (congrArg Subtype.val (clipDay_eq valid)).trans dayClip

theorem dated (there : t.OnCalendar) (year : 1 ≤ t.year) : t.Dated := by
  obtain ⟨low, inMonth⟩ := exists_onDate_iff.mp there.1
  exact ⟨year, low, inMonth⟩

theorem shownAt_unixSeconds (there : t.OnCalendar) (year : 1 ≤ t.year) :
    shownAt t.unixSeconds = t := by
  obtain ⟨onYear, onMonth, onDay⟩ := onDate_ofEpochDay (dated there year)
  obtain ⟨-, hour, minute, second⟩ := there
  have days : t.unixSeconds / 86400 = t.unixDays := by
    unfold unixSeconds
    omega
  have clock : t.unixSeconds % 86400 / 3600 = t.hour ∧ t.unixSeconds % 3600 / 60 = t.minute ∧
      t.unixSeconds % 60 = t.second := by
    unfold unixSeconds
    omega
  simp only [shownAt, days, clock, onYear, onMonth, onDay, Int.toNat_natCast]

theorem unixDays_lt_of_year {later : CivilTime} (h : t.Dated)
    (year : t.year < later.year) : t.unixDays < later.unixDays := by
  have whole := daysBeforeYear_le h.year year
  have month : daysBeforeMonth t.year (t.month + 1) ≤ daysBeforeMonth t.year 13 :=
    daysBeforeMonth_mono t.year (by have := h.month; omega)
  have succ : daysBeforeMonth t.year (t.month + 1)
      = daysBeforeMonth t.year t.month + daysInMonth t.year t.month := rfl
  have := h.day
  have := h.inMonth
  unfold unixDays
  omega

theorem unixDays_lt_of_month {later : CivilTime} (h : t.Dated)
    (year : t.year = later.year) (month : t.month < later.month) :
    t.unixDays < later.unixDays := by
  have whole : daysBeforeMonth t.year (t.month + 1) ≤ daysBeforeMonth t.year later.month :=
    daysBeforeMonth_mono t.year month
  have succ : daysBeforeMonth t.year (t.month + 1)
      = daysBeforeMonth t.year t.month + daysInMonth t.year t.month := rfl
  have := h.day
  have := h.inMonth
  unfold unixDays
  rw [← year]
  omega

theorem unixSeconds_lt {later : CivilTime} (there : t.OnCalendar) (there' : later.OnCalendar)
    (year : 1 ≤ t.year) (order : t.fields < later.fields) :
    t.unixSeconds < later.unixSeconds := by
  have dates := dated there year
  have date' := exists_onDate_iff.mp there'.1
  obtain ⟨-, hour, minute, second⟩ := there
  have late : t.unixDays < later.unixDays → t.unixSeconds < later.unixSeconds := by
    intro days
    unfold unixSeconds
    omega
  simp only [fields, List.cons_lt_cons_iff] at order
  obtain years | ⟨sameYear, order⟩ := order
  · exact late (unixDays_lt_of_year dates years)
  obtain months | ⟨sameMonth, order⟩ := order
  · exact late (unixDays_lt_of_month dates sameYear months)
  have days : t.unixDays + later.day = later.unixDays + t.day := by
    have low := dates.day
    have low' := date'.1
    unfold unixDays
    rw [sameYear, sameMonth]
    omega
  obtain earlier | ⟨sameDay, order⟩ := order
  · exact late (by omega)
  have clock : t.hour * 3600 + t.minute * 60 + t.second
      < later.hour * 3600 + later.minute * 60 + later.second := by
    obtain hours | ⟨sameHour, order⟩ := order
    · omega
    obtain minutes | ⟨sameMinute, order⟩ := order
    · omega
    have seconds : t.second < later.second := by simpa using order
    omega
  unfold unixSeconds
  omega

end CivilTime

theorem one_le_civilTimeOf_year (utc : Vector UInt8 6) : 1 ≤ (civilTimeOf utc).year := by
  simp only [civilTimeOf]
  omega

theorem sensorTime?_of_seconds {utc : Vector UInt8 6} {microseconds : UInt32}
    (unset : utc.get 0 = 0) :
    sensorTime? utc microseconds =
      some ((word32 (utc.get 5) (utc.get 4) (utc.get 3) (utc.get 2)).toNat * 1000000
        + microseconds.toNat : Int) := by
  have unset' : utc[0] = 0 := unset
  rw [sensorTime?, if_neg (not_not_intro unset')]
  rfl

theorem sensorTime?_of_calendar {utc : Vector UInt8 6} {microseconds : UInt32} {time : Int}
    (set : utc.get 0 ≠ 0) :
    sensorTime? utc microseconds = some time ↔ (civilTimeOf utc).OnCalendar ∧
      (civilTimeOf utc).unixSeconds * 1000000 + microseconds.toNat = time := by
  have set' : utc[0] ≠ 0 := set
  simp only [sensorTime?, if_pos set']
  by_cases real : (civilTimeOf utc).isReal = true
  · simp [real, CivilTime.isReal_iff_onCalendar.mp real]
  · have absent := CivilTime.isReal_iff_onCalendar.not.mp real
    simp [real, absent]

/-- A date in the six bytes is taken for what the calendar says it is, and bytes that start with
zero for a number of seconds. -/
theorem sensorTime_follows_calendar (utc : Vector UInt8 6) (microseconds : UInt32) :
    (utc.get 0 = 0 → sensorTime? utc microseconds = some
      (((utc.get 2).toNat * 16777216 + (utc.get 3).toNat * 65536 + (utc.get 4).toNat * 256
        + (utc.get 5).toNat) * 1000000 + microseconds.toNat : Int)) ∧
    (utc.get 0 ≠ 0 →
      (civilTimeOf utc).fields =
        [1900 + (utc.get 0).toNat - (if 200 ≤ (utc.get 0).toNat then 100 else 0),
          (utc.get 1).toNat, (utc.get 2).toNat, (utc.get 3).toNat, (utc.get 4).toNat,
          (utc.get 5).toNat] ∧
      ((sensorTime? utc microseconds).isSome ↔ (civilTimeOf utc).OnCalendar) ∧
      (∀ time, sensorTime? utc microseconds = some time →
        CivilTime.shownAt ((time - microseconds.toNat) / 1000000) = civilTimeOf utc) ∧
      ∀ (later : Vector UInt8 6) (more : UInt32) (time laterTime : Int), later.get 0 ≠ 0 →
        microseconds.toNat < 1000000 → more.toNat < 1000000 →
        sensorTime? utc microseconds = some time → sensorTime? later more = some laterTime →
        (civilTimeOf utc).fields < (civilTimeOf later).fields → time < laterTime) := by
  refine ⟨?_, fun set => ⟨?_, ?_, ?_, ?_⟩⟩
  · intro unset
    rw [sensorTime?_of_seconds unset, word32_toNat, Option.some_inj]
    omega
  · have year : (civilTimeOf utc).year =
        1900 + (utc.get 0).toNat - (if 200 ≤ (utc.get 0).toNat then 100 else 0) := by
      show 1900 + (if (utc.get 0).toNat < 200 then (utc.get 0).toNat
        else (utc.get 0).toNat - 100) = _
      split <;> split <;> omega
    rw [CivilTime.fields, year]
    rfl
  · rw [Option.isSome_iff_exists]
    constructor
    · rintro ⟨time, given⟩
      exact ((sensorTime?_of_calendar set).mp given).1
    · intro there
      exact ⟨_, (sensorTime?_of_calendar set).mpr ⟨there, rfl⟩⟩
  · intro time given
    obtain ⟨there, rfl⟩ := (sensorTime?_of_calendar set).mp given
    have seconds : ((civilTimeOf utc).unixSeconds * 1000000 + microseconds.toNat
        - microseconds.toNat) / 1000000 = (civilTimeOf utc).unixSeconds := by
      omega
    rw [seconds, CivilTime.shownAt_unixSeconds there (one_le_civilTimeOf_year utc)]
  · intro later more time laterTime setLater few _ given givenLater order
    obtain ⟨there, rfl⟩ := (sensorTime?_of_calendar set).mp given
    obtain ⟨thereLater, rfl⟩ := (sensorTime?_of_calendar setLater).mp givenLater
    have seconds := CivilTime.unixSeconds_lt there thereLater (one_le_civilTimeOf_year utc) order
    omega

end Lidar
