import Mathlib.Data.Int.Basic
import Mathlib.Tactic.IntervalCases
import Stagehand.Time.Date

/-!
# Days are numbered as the calendar has them
The Gregorian calendar is said here by its rules alone: how long its months are, which day comes
after which, and that the first of January 1970 is the day 0. The reckoning with cycles and with
years from March numbers the days in just that way.
-/

namespace Stagehand.Date

/-! ### The calendar -/

/-- Whether a year has a leap day. -/
def IsLeap (year : Int) : Prop := year % 4 = 0 ∧ (year % 100 ≠ 0 ∨ year % 400 = 0)

instance (year : Int) : Decidable (IsLeap year) := inferInstanceAs (Decidable (_ ∧ _))

/-- The days of a month. -/
def daysInMonth (year : Int) (month : Nat) : Nat :=
  if month = 2 then if IsLeap year then 29 else 28
  else if month ∈ [4, 6, 9, 11] then 30 else 31

/-- A day that the calendar has. -/
structure IsValid (date : Date) : Prop where
  month : 1 ≤ date.month ∧ date.month ≤ 12
  day : 1 ≤ date.day ∧ date.day ≤ daysInMonth date.year date.month

theorem IsValid.day_le {date : Date} (h : date.IsValid) : date.day ≤ 31 := by
  have hle := h.day.2
  rw [daysInMonth] at hle
  grind

/-- The day after a day. -/
def next (date : Date) : Date :=
  if date.day < daysInMonth date.year date.month then { date with day := date.day + 1 }
  else if date.month < 12 then ⟨date.year, date.month + 1, 1⟩
  else ⟨date.year + 1, 1, 1⟩

/-- The numbers of the days, from the first of January 1970 on in both directions. -/
inductive Numbered : Int → Date → Prop
  | epoch : Numbered 0 ⟨1970, 1, 1⟩
  | next {n : Int} {date : Date} (h : Numbered n date) : Numbered (n + 1) date.next
  | previous {n : Int} {date : Date} (hd : date.IsValid) (h : Numbered (n + 1) date.next) :
    Numbered n date

/-! ### Years from March -/

/-- A day of a year from March, its month counted from 0 and its day as well. -/
def fromMarch (y : Int) (m j : Nat) : Date :=
  ⟨if 10 ≤ m then y + 1 else y, if 10 ≤ m then m - 9 else m + 3, j + 1⟩

/-- The days of a month of a year from March. The leap day is in the year after. -/
def monthLength (y : Int) (m : Nat) : Nat :=
  if m = 11 then if IsLeap (y + 1) then 29 else 28
  else daysBeforeMonth (m + 1) - daysBeforeMonth m

/-- The number of the first of March of a year: every fourth year before it has had a leap day, but
of those at the turn of a century just every fourth. -/
def yearStart (y : Int) : Int := 365 * y + y / 4 - y / 100 + y / 400 - daysToEpoch

/-- The number of a day in a year from March. -/
structure At (n : Int) (y : Int) (m j : Nat) : Prop where
  month : m < 12
  day : j < monthLength y m
  number : n = yearStart y + daysBeforeMonth m + j

theorem daysInMonth_fromMarch (y : Int) {m : Nat} (hm : m < 12) (j : Nat) :
    daysInMonth (fromMarch y m j).year (fromMarch y m j).month = monthLength y m := by
  interval_cases m <;> rfl

theorem monthLength_pos (y : Int) {m : Nat} (hm : m < 12) : 0 < monthLength y m := by
  rw [monthLength]
  interval_cases m <;> simp [daysBeforeMonth]
  split <;> decide

theorem daysBeforeMonth_succ (y : Int) {m : Nat} (hm : m < 11) :
    daysBeforeMonth (m + 1) = daysBeforeMonth m + monthLength y m := by
  rw [monthLength, if_neg (Nat.ne_of_lt hm), daysBeforeMonth, daysBeforeMonth]
  omega

theorem yearStart_succ (y : Int) :
    yearStart (y + 1) = yearStart y + daysBeforeMonth 11 + monthLength y 11 := by
  rw [yearStart, yearStart, monthLength, if_pos rfl, daysBeforeMonth]
  split
  · rename_i h
    obtain ⟨h4, h⟩ := h
    omega
  · rename_i h
    rw [IsLeap] at h
    omega

theorem yearStart_eq (y : Int) :
    yearStart y = y / 400 * daysPerCycle + daysBeforeYear (y % 400).toNat - daysToEpoch := by
  simp only [yearStart, daysBeforeYear, daysPerCycle]
  omega

theorem isValid_fromMarch {y : Int} {m j : Nat} (hm : m < 12) (hj : j < monthLength y m) :
    (fromMarch y m j).IsValid := by
  constructor
  · rw [fromMarch]
    dsimp only
    split <;> omega
  · rw [daysInMonth_fromMarch y hm j]
    exact ⟨Nat.succ_pos j, hj⟩

/-! ### Steps of the calendar -/

theorem At.next {n y : Int} {m j : Nat} (h : At n y m j) :
    ∃ y' m' j', At (n + 1) y' m' j' ∧ fromMarch y' m' j' = (fromMarch y m j).next := by
  obtain ⟨hm, hj, rfl⟩ := h
  rw [Date.next, daysInMonth_fromMarch y hm]
  by_cases hday : j + 1 < monthLength y m
  · refine ⟨y, m, j + 1, ⟨hm, hday, by push_cast; omega⟩, ?_⟩
    rw [if_pos (show (fromMarch y m j).day < _ from hday)]
    rfl
  rw [if_neg (show ¬ (fromMarch y m j).day < _ from hday)]
  by_cases hlast : m = 11
  · subst hlast
    refine ⟨y + 1, 0, 0, ⟨by decide, monthLength_pos _ (by decide), ?_⟩, rfl⟩
    rw [yearStart_succ, show daysBeforeMonth 0 = 0 from rfl]
    omega
  have hm' : m < 11 := by omega
  refine ⟨y, m + 1, 0, ⟨by omega, monthLength_pos y (by omega), ?_⟩, ?_⟩
  · rw [daysBeforeMonth_succ y hm']
    omega
  · simp only [fromMarch]
    grind

theorem At.previous {n y : Int} {m j : Nat} (h : At n y m j) : ∃ y' m' j', At (n - 1) y' m' j' := by
  obtain ⟨hm, hj, rfl⟩ := h
  cases j with
  | succ j => exact ⟨y, m, j, hm, by omega, by omega⟩
  | zero =>
    cases m with
    | succ m =>
      have hpos := monthLength_pos y (Nat.lt_of_succ_lt hm)
      refine ⟨y, m, monthLength y m - 1, by omega, by omega, ?_⟩
      rw [daysBeforeMonth_succ y (Nat.lt_of_succ_lt_succ hm)]
      omega
    | zero =>
      have hpos := monthLength_pos (y - 1) (m := 11) (by decide)
      have hstart := yearStart_succ (y - 1)
      rw [Int.sub_add_cancel] at hstart
      refine ⟨y - 1, 11, monthLength (y - 1) 11 - 1, by decide, by omega, ?_⟩
      rw [hstart, show daysBeforeMonth 0 = 0 from rfl]
      omega

theorem exists_at (n : Int) : ∃ y m j, At n y m j := by
  induction n using Int.induction_on with
  | zero => exact ⟨1969, 10, 0, by decide, by decide, by decide⟩
  | succ n ih =>
    obtain ⟨y, m, j, h⟩ := ih
    obtain ⟨y', m', j', h', -⟩ := h.next
    exact ⟨y', m', j', h'⟩
  | pred n ih =>
    obtain ⟨y, m, j, h⟩ := ih
    exact h.previous

/-! ### The reckoning -/

theorem yearOfCycle_eq {a b c k : Nat} (ha : a < 4) (hb : b < 25) (hc : c < 4)
    (hk : k < 365 ∨ k = 365 ∧ c = 3 ∧ (b < 24 ∨ a = 3)) :
    yearOfCycle (36524 * a + 1461 * b + 365 * c + k) = 100 * a + 4 * b + c := by
  generalize hd : 36524 * a + 1461 * b + 365 * c + k = d
  -- the last day of a cycle is the one where both corrections beyond the first differ
  by_cases hlast : d = 146096
  · obtain ⟨rfl, rfl, rfl⟩ : a = 3 ∧ b = 24 ∧ c = 3 := by omega
    rw [hlast]
    rfl
  have h146096 : d / 146096 = 0 := Nat.div_eq_of_lt (by omega)
  have h36524 : d / 36524 = a := Nat.div_eq_of_lt_le (by omega) (by omega)
  -- the first correction counts the leap days before the year, and one more from some day `k` on
  have h1460 : d / 1460 = 25 * a + b ∨ d / 1460 = 25 * a + b + 1 ∧ 269 ≤ k := by
    by_cases hr : 24 * a + b + 365 * c + k < 1460
    · exact .inl (Nat.div_eq_of_lt_le (by omega) (by omega))
    · exact .inr ⟨Nat.div_eq_of_lt_le (by omega) (by omega), by omega⟩
  rw [yearOfCycle, h36524, h146096]
  rcases h1460 with h | ⟨h, hr⟩
  · rw [h]
    exact Nat.div_eq_of_lt_le (by omega) (by omega)
  · rw [h]
    exact Nat.div_eq_of_lt_le (by omega) (by omega)

theorem monthOfYear_eq {y : Int} {m j : Nat} (hj : j < monthLength y m) :
    monthOfYear (daysBeforeMonth m + j) = m := by
  have hlength : monthLength y m ≤ daysBeforeMonth (m + 1) - daysBeforeMonth m := by
    rw [monthLength]
    split
    · rename_i h
      rw [h]
      split <;> decide
    · exact Nat.le_refl _
  simp only [daysBeforeMonth] at hlength
  exact Nat.div_eq_of_lt_le (by rw [daysBeforeMonth]; omega) (by rw [daysBeforeMonth]; omega)

/-- A year of a cycle is told by the centuries before it in the cycle, the spans of four years
before it in the century, and the years before it in the span. -/
theorem exists_yearOfCycle (y : Int) : ∃ a b c : Nat, a < 4 ∧ b < 25 ∧ c < 4 ∧
    (y % 400).toNat = 100 * a + 4 * b + c ∧
    daysBeforeYear (y % 400).toNat = 36524 * a + 1461 * b + 365 * c ∧
    (IsLeap (y + 1) ↔ c = 3 ∧ (b < 24 ∨ a = 3)) := by
  have hr : (y % 400).toNat < 400 := by omega
  have hleap : IsLeap (y + 1) ↔ IsLeap ((y % 400).toNat + 1) := by
    rw [IsLeap, IsLeap]
    omega
  rw [hleap]
  generalize (y % 400).toNat = r at *
  refine ⟨r / 100, r % 100 / 4, r % 4, by omega, by omega, by omega, by omega, ?_, ?_⟩
  · rw [daysBeforeYear]
    omega
  · rw [IsLeap]
    omega

theorem dayOfYear_lt {y : Int} {m j : Nat} (hm : m < 12) (hj : j < monthLength y m) :
    daysBeforeMonth m + j < 365 ∨ daysBeforeMonth m + j = 365 ∧ IsLeap (y + 1) := by
  by_cases hlast : m = 11
  · subst hlast
    rw [monthLength, if_pos rfl] at hj
    rw [show daysBeforeMonth 11 = 337 from rfl]
    split at hj
    · rename_i hleap
      simp only [hleap, and_true]
      omega
    · omega
  · have hsucc := daysBeforeMonth_succ y (show m < 11 by omega)
    have hle : daysBeforeMonth (m + 1) ≤ 337 := by
      rw [daysBeforeMonth]
      omega
    omega

theorem ofDayNumber_of_at {n y : Int} {m j : Nat} (h : At n y m j) :
    ofDayNumber n = fromMarch y m j := by
  have hyears : y / 400 * 400 + ((y % 400).toNat : Int) = y := by omega
  obtain ⟨hm, hj, hn⟩ := h
  obtain ⟨a, b, c, ha, hb, hc, hr, hbefore, hleap⟩ := exists_yearOfCycle y
  have hk := dayOfYear_lt hm hj
  rw [hleap] at hk
  have hyear := yearOfCycle_eq ha hb hc hk
  have hmonth := monthOfYear_eq hj
  generalize hd : 36524 * a + 1461 * b + 365 * c + (daysBeforeMonth m + j) = d at hyear
  have hlt : d < daysPerCycle := by
    rw [daysPerCycle]
    omega
  have hnumber : n + daysToEpoch = d + y / 400 * daysPerCycle := by
    rw [hn, yearStart_eq, hbefore]
    omega
  have hcycle : (n + daysToEpoch) / daysPerCycle = y / 400 := by
    rw [hnumber, Int.add_mul_ediv_right _ _ (by decide),
      Int.ediv_eq_zero_of_lt (by omega) (by omega), Int.zero_add]
  have hday : ((n + daysToEpoch) % daysPerCycle).toNat = d := by
    rw [hnumber, Int.add_mul_emod_self_right, Int.emod_eq_of_lt (by omega) (by omega),
      Int.toNat_natCast]
  simp only [ofDayNumber, hcycle, hday, hyear]
  rw [← hr, hbefore, ← hd, Nat.add_sub_cancel_left, hmonth, Nat.add_sub_cancel_left]
  by_cases hearly : 10 ≤ m
  · simp only [fromMarch, hearly, hyears, if_true]
  · simp only [fromMarch, hearly, hyears, if_false, Int.add_zero]

theorem dayNumber_fromMarch {n y : Int} {m j : Nat} (h : At n y m j) :
    (fromMarch y m j).dayNumber = n := by
  obtain ⟨hm, hj, rfl⟩ := h
  rw [yearStart_eq]
  by_cases hearly : 10 ≤ m
  · have hmonth : m - 9 ≤ 2 := by omega
    have hback : m - 9 + 9 = m := by omega
    simp only [dayNumber, fromMarch, hearly, hmonth, hback, if_true, Int.add_sub_cancel]
    omega
  · have hmonth : ¬ m + 3 ≤ 2 := by omega
    simp only [dayNumber, fromMarch, hearly, hmonth, if_false, Nat.add_sub_cancel]
    omega

theorem exists_at_of_isValid {date : Date} (h : date.IsValid) :
    ∃ n y m j, At n y m j ∧ fromMarch y m j = date := by
  obtain ⟨year, month, day⟩ := date
  obtain ⟨⟨hlo, hhi⟩, ⟨hday, hlast⟩⟩ := h
  dsimp only at hlo hhi hday hlast
  obtain ⟨j, rfl⟩ := Nat.exists_eq_add_of_le' hday
  by_cases hearly : month ≤ 2
  · have hdate : fromMarch (year - 1) (month + 9) j = ⟨year, month, j + 1⟩ := by
      rw [fromMarch, if_pos (by omega), if_pos (by omega), Int.sub_add_cancel, Nat.add_sub_cancel]
    have hlength := daysInMonth_fromMarch (year - 1) (show month + 9 < 12 by omega) j
    rw [hdate] at hlength
    exact ⟨_, _, _, _, ⟨by omega, hlength ▸ hlast, rfl⟩, hdate⟩
  · have hdate : fromMarch year (month - 3) j = ⟨year, month, j + 1⟩ := by
      rw [fromMarch, if_neg (by omega), if_neg (by omega), Nat.sub_add_cancel (by omega)]
    have hlength := daysInMonth_fromMarch year (show month - 3 < 12 by omega) j
    rw [hdate] at hlength
    exact ⟨_, _, _, _, ⟨by omega, hlength ▸ hlast, rfl⟩, hdate⟩

/-! ### The reckoning follows the calendar -/

/-- The number of the day of a number is that number. -/
@[simp] theorem dayNumber_ofDayNumber (n : Int) : (ofDayNumber n).dayNumber = n := by
  obtain ⟨y, m, j, h⟩ := exists_at n
  rw [ofDayNumber_of_at h, dayNumber_fromMarch h]

theorem isValid_ofDayNumber (n : Int) : (ofDayNumber n).IsValid := by
  obtain ⟨y, m, j, h⟩ := exists_at n
  rw [ofDayNumber_of_at h]
  exact isValid_fromMarch h.month h.day

theorem ofDayNumber_succ (n : Int) : ofDayNumber (n + 1) = (ofDayNumber n).next := by
  obtain ⟨y, m, j, h⟩ := exists_at n
  obtain ⟨y', m', j', h', hnext⟩ := h.next
  rw [ofDayNumber_of_at h, ofDayNumber_of_at h', hnext]

/-- The day of the number of a day of the calendar is that day. -/
theorem IsValid.ofDayNumber_dayNumber {date : Date} (h : date.IsValid) :
    ofDayNumber date.dayNumber = date := by
  obtain ⟨n, y, m, j, hat, rfl⟩ := exists_at_of_isValid h
  rw [dayNumber_fromMarch hat, ofDayNumber_of_at hat]

/-- The calendar has one day for each number, and the reckoning finds it. -/
theorem numbered_iff {n : Int} {date : Date} : Numbered n date ↔ ofDayNumber n = date := by
  constructor
  · intro h
    induction h with
    | epoch => rfl
    | next _ ih => rw [ofDayNumber_succ, ih]
    | @previous n date hd _ ih =>
      rw [← hd.ofDayNumber_dayNumber, ← ofDayNumber_succ] at ih
      have hn := congrArg dayNumber ih
      rw [dayNumber_ofDayNumber, dayNumber_ofDayNumber] at hn
      rw [show n = date.dayNumber by omega, hd.ofDayNumber_dayNumber]
  · rintro rfl
    induction n using Int.induction_on with
    | zero => exact .epoch
    | succ n ih =>
      rw [ofDayNumber_succ]
      exact .next ih
    | pred n ih =>
      refine .previous (isValid_ofDayNumber _) ?_
      rw [← ofDayNumber_succ, Int.sub_add_cancel]
      exact ih

/-- A day of the calendar has one number. -/
theorem Numbered.unique {n n' : Int} {date : Date} (h : Numbered n date)
    (h' : Numbered n' date) : n = n' := by
  rw [numbered_iff] at h h'
  rw [← dayNumber_ofDayNumber n, h, ← h', dayNumber_ofDayNumber]

theorem Numbered.isValid {n : Int} {date : Date} (h : Numbered n date) : date.IsValid :=
  numbered_iff.mp h ▸ isValid_ofDayNumber n

/-- Every day of the calendar has a number, which is the one that is reckoned. -/
theorem IsValid.numbered {date : Date} (h : date.IsValid) : Numbered date.dayNumber date :=
  numbered_iff.mpr h.ofDayNumber_dayNumber

end Stagehand.Date
