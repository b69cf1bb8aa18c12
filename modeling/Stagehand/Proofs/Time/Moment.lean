import Mathlib.Data.List.DropRight
import Stagehand.Proofs.Time.Stamp

/-!
# Moments against their stamps
The text of a moment spells one stamp, and that stamp denotes the moment. It is the text of RFC 3339
where the local year has four digits and the offset is of whole minutes within a day, and the
display text elsewhere.
-/

namespace Stagehand.Moment

open Stamp

variable {m : Moment}

/-! ### Where a moment falls -/

/-- The day on which a moment falls where its offset is kept: the nanoseconds of the local clock are
those of the days before and some of the day itself. -/
def FallsOn (m : Moment) (date : Date) : Prop :=
  ∃ n t : Int, Date.Numbered n date ∧ 0 ≤ t ∧ t < 86400 * 1000000000 ∧
    m.nanos + m.offset * 1000000000 = n * (86400 * 1000000000) + t

theorem fallsOn_iff {date : Date} : m.FallsOn date ↔ m.date = date := by
  rw [Moment.date, ← Date.numbered_iff]
  constructor
  · rintro ⟨n, t, hn, hlo, hhi, ht⟩
    have hday : m.localSeconds / secondsPerDay = n := by
      rw [localSeconds, secondsPerDay, nanosPerSecond]
      omega
    rwa [hday]
  · intro h
    rw [localSeconds, secondsPerDay, nanosPerSecond] at h
    exact ⟨_, (m.nanos + m.offset * 1000000000) % (86400 * 1000000000), h, by omega, by omega,
      by omega⟩

/-- What RFC 3339 can express. -/
structure Expressible (m : Moment) (date : Date) : Prop where
  year : 0 ≤ date.year ∧ date.year ≤ 9999
  minutes : 60 ∣ m.offset
  day : -86400 < m.offset ∧ m.offset < 86400

theorem isCommon_iff : m.isCommon = true ↔ m.Expressible m.date := by
  rw [isCommon, decide_eq_true_eq]
  constructor
  · rintro ⟨hlo, hhi, hminutes, hday⟩
    exact ⟨⟨hlo, hhi⟩, Int.dvd_of_emod_eq_zero hminutes, by omega⟩
  · rintro ⟨⟨hlo, hhi⟩, hminutes, hday⟩
    exact ⟨hlo, hhi, Int.emod_eq_zero_of_dvd hminutes, by omega⟩

/-! ### The stamp of a moment -/

/-- The stamp of a moment, given the digits of its fraction. -/
def stamp (m : Moment) (ds : List Char) : Stamp :=
  let s := m.secondOfDay
  ⟨m.date, s / 3600, s / 60 % 60, s % 60, ds, m.offset⟩

theorem secondOfDay_lt (m : Moment) : m.secondOfDay < 86400 := by
  rw [secondOfDay, secondsPerDay]
  omega

theorem fraction_lt (m : Moment) : m.fraction < 1000000000 := by
  rw [fraction, nanosPerSecond]
  omega

theorem isValid_stamp (m : Moment) {ds : List Char} (h : ds.length ≤ 9) :
    (m.stamp ds).IsValid := by
  have hlt := m.secondOfDay_lt
  constructor
  · exact Date.isValid_ofDayNumber _
  · exact Nat.div_lt_of_lt_mul hlt
  · exact Nat.mod_lt _ (by decide)
  · exact Nat.mod_lt _ (by decide)
  · exact h

theorem denotes_stamp {ds : List Char} (h : fractionNanos ds = m.fraction) :
    (m.stamp ds).Denotes m := by
  refine ⟨⟨_, Date.numbered_iff.mpr rfl, ?_⟩, rfl⟩
  simp only [stamp, h, secondOfDay, fraction, localSeconds, secondsPerDay, nanosPerSecond]
  omega

/-! ### Fractions -/

theorem fractionDigits_eq (n : Nat) :
    fractionDigits n = (Numeral.padded 9 n).rdropWhile (· == '0') := rfl

/-- What the digits of a fraction leave out of the nine places are zeros. -/
theorem padded_eq {n : Nat} (h : n < 1000000000) : Numeral.padded 9 n =
    fractionDigits n ++ List.replicate (9 - (fractionDigits n).length) '0' := by
  have hsplit : fractionDigits n ++ (Numeral.padded 9 n).rtakeWhile (· == '0') =
      Numeral.padded 9 n := by rw [fractionDigits_eq, List.rdropWhile_append_rtakeWhile]
  have hlength := congrArg List.length hsplit
  rw [List.length_append, Numeral.length_padded_of_lt (by decide) h] at hlength
  have hzeros : 9 - (fractionDigits n).length =
      ((Numeral.padded 9 n).rtakeWhile (· == '0')).length := by omega
  rw [hzeros]
  conv_lhs => rw [← hsplit]
  congr 1
  exact List.eq_replicate_of_mem fun c hc =>
    eq_of_beq (List.mem_rtakeWhile_imp (p := (· == '0')) hc)

theorem isDigit_of_mem_fractionDigits {n : Nat} {c : Char} (h : c ∈ fractionDigits n) :
    isDigit c = true := by
  rw [fractionDigits_eq] at h
  exact Numeral.isDigit_of_mem_padded ((List.rdropWhile_prefix _ _).subset h)

theorem fractionNanos_fractionDigits {n : Nat} (h : n < 1000000000) :
    fractionNanos (fractionDigits n) = n := by
  rw [fractionNanos, ← Numeral.value_append_zeros, ← padded_eq h, Numeral.value_padded]

theorem fractionDigits_ne_nil {n : Nat} (h : n < 1000000000) (hn : n ≠ 0) :
    fractionDigits n ≠ [] := by
  intro hnil
  have hnanos := fractionNanos_fractionDigits h
  rw [hnil] at hnanos
  exact hn hnanos.symm

theorem isShort_fractionDigits {n : Nat} (h : n < 1000000000) : IsShort (fractionDigits n) := by
  constructor
  · rw [← Numeral.length_padded_of_lt (show 0 < 9 by decide) (show n < 10 ^ 9 from h)]
    exact (List.rdropWhile_prefix _ _).length_le
  · intro hlast
    have hne : fractionDigits n ≠ [] := by
      intro hnil
      rw [hnil] at hlast
      cases hlast
    rw [List.getLast?_eq_some_getLast hne, Option.some.injEq] at hlast
    exact List.rdropWhile_last_not (· == '0') _ hne (beq_iff_eq.mpr hlast)

/-- The digits of the fraction in a text that writes `whole` where there is none. -/
def digits (m : Moment) (whole : List Char) : List Char :=
  if m.fraction = 0 then whole else fractionDigits m.fraction

theorem fractionNanos_digits (m : Moment) {whole : List Char} (h : fractionNanos whole = 0) :
    fractionNanos (m.digits whole) = m.fraction := by
  rw [digits]
  split
  · rename_i hzero
    rw [h, hzero]
  · exact fractionNanos_fractionDigits m.fraction_lt

theorem length_digits_le (m : Moment) {whole : List Char} (h : whole.length ≤ 9) :
    (m.digits whole).length ≤ 9 := by
  rw [digits]
  split
  · exact h
  · exact (isShort_fractionDigits m.fraction_lt).length

theorem isShort_digits (m : Moment) {whole : List Char} (h : IsShort whole) :
    IsShort (m.digits whole) := by
  rw [digits]
  split
  · exact h
  · exact isShort_fractionDigits m.fraction_lt

theorem isDigit_of_mem_digits {whole : List Char} (h : ∀ c ∈ whole, isDigit c = true) {c : Char}
    (hc : c ∈ m.digits whole) : isDigit c = true := by
  rw [digits] at hc
  split at hc
  · exact h c hc
  · exact isDigit_of_mem_fractionDigits hc

theorem digits_eq_nil_iff {whole : List Char} :
    m.digits whole = [] ↔ whole = [] ∧ m.nanos % 1000000000 = 0 := by
  have hfraction : m.fraction = 0 ↔ m.nanos % 1000000000 = 0 := by
    rw [fraction, nanosPerSecond]
    omega
  rw [← hfraction, digits]
  split
  · rename_i h
    simp [h]
  · rename_i h
    simp [h, fractionDigits_ne_nil m.fraction_lt h]

/-! ### The common text, which is that of RFC 3339 -/

theorem zone_commonOffset (hminutes : 60 ∣ m.offset)
    (hday : -86400 < m.offset ∧ m.offset < 86400) : Zone (commonOffset m.offset) m.offset := by
  generalize m.offset = offset at *
  rw [commonOffset]
  split
  · rename_i hzero
    rw [hzero]
    exact .universal
  have hhour : offset.natAbs / 60 / 60 < 24 := by omega
  have hminute : offset.natAbs / 60 % 60 < 60 := by omega
  have hsize : (offset.natAbs / 60 / 60 * 60 + offset.natAbs / 60 % 60) * 60 = offset.natAbs := by
    omega
  have hpair := pair_two (hhour.trans (by decide)) (hminute.trans (by decide)) ':' []
  rw [List.append_nil] at hpair
  dsimp only
  rw [List.cons_append]
  split
  · have hzone := Zone.behind hpair hhour hminute
    rwa [hsize, show -(offset.natAbs : Int) = offset by omega] at hzone
  · have hzone := Zone.ahead hpair hhour hminute
    rwa [hsize, show (offset.natAbs : Int) = offset by omega] at hzone

/-- What the text of RFC 3339 ends with has no digits and no point in front. -/
theorem head_commonOffset (offset : Int) :
    ∃ c t, commonOffset offset = c :: t ∧ isDigit c = false ∧ c ≠ '.' := by
  rw [commonOffset]
  split
  · exact ⟨_, _, rfl, by decide, by decide⟩
  · dsimp only
    split
    · exact ⟨_, _, rfl, by decide, by decide⟩
    · exact ⟨_, _, rfl, by decide, by decide⟩

theorem fraction_spelled (m : Moment) {c : Char} (hdigit : isDigit c = false) (hdot : c ≠ '.')
    (r : List Char) :
    Fraction ((if m.fraction = 0 then [] else '.' :: fractionDigits m.fraction) ++ c :: r)
      (m.digits []) (c :: r) := by
  rw [digits]
  split
  · exact .absent fun t ht => hdot (List.cons.inj ht).1
  · rename_i h
    exact .digits (run_of_digits (fun _ => isDigit_of_mem_fractionDigits) hdigit r)
      (fractionDigits_ne_nil m.fraction_lt h)

theorem common_commonText (h : m.Expressible m.date) :
    Common m.commonText (m.stamp (m.digits [])) := by
  have hvalid := m.isValid_stamp (m.length_digits_le (show [].length ≤ 9 by decide))
  obtain ⟨hmonth, hday, hhour, hminute, hsecond⟩ := hvalid.lt_hundred
  have hyear : m.date.year.toNat < 10 ^ 4 := by
    have hyear := h.year
    omega
  have hzone := zone_commonOffset h.minutes h.day
  obtain ⟨c, t, hhead, hdigit, hdot⟩ := head_commonOffset m.offset
  rw [hhead] at hzone
  refine ⟨?_, h.year.1, hvalid⟩
  rw [commonText, hhead]
  simp only [List.append_assoc, List.cons_append]
  exact ⟨_, _, _, _, _, places_padded (by decide) hyear _, pair_two hmonth hday '-' _,
    places_padded (by decide) hhour _, pair_two hminute hsecond ':' _,
    m.fraction_spelled hdigit hdot t, hzone⟩

theorem getLast?_commonOffset {offset : Int} :
    (commonOffset offset).getLast? = some 'Z' ↔ offset = 0 := by
  constructor
  · intro h
    by_contra hne
    have hmem := List.mem_of_getLast? h
    have hdigit (n : Nat) : 'Z' ∉ two n := fun hn => by cases Numeral.isDigit_of_mem_padded hn
    rw [commonOffset, if_neg hne] at hmem
    simp only [List.cons_append, List.mem_cons, List.mem_append, hdigit, or_false, false_or] at hmem
    rcases hmem with hsign | hcolon
    · split at hsign <;> cases hsign
    · cases hcolon
  · rintro rfl
    rfl

theorem getLast?_commonText (m : Moment) :
    m.commonText.getLast? = some 'Z' ↔ m.offset = 0 := by
  obtain ⟨c, t, hhead, -, -⟩ := head_commonOffset m.offset
  rw [commonText, List.getLast?_append_of_ne_nil _ (by rw [hhead]; nofun), getLast?_commonOffset]

/-! ### The long text, which is for display -/

theorem year_signedYear (year : Int) (r : List Char) :
    Year (signedYear year ++ '-' :: r) year ('-' :: r) := by
  have hrun : Run (Numeral.padded 4 year.natAbs ++ '-' :: r) _ ('-' :: r) :=
    run_of_digits (fun _ => Numeral.isDigit_of_mem_padded) rfl r
  have hlength : 4 ≤ (Numeral.padded 4 year.natAbs).length := by
    rw [Numeral.length_padded]
    exact Nat.le_max_left _ _
  have hvalue := Numeral.value_padded 4 year.natAbs
  rw [signedYear]
  split
  · have hyear := Year.minus hrun hlength
    rwa [hvalue, show -(year.natAbs : Int) = year by omega] at hyear
  split
  · have hyear := Year.plus hrun hlength
    rwa [hvalue, show (year.natAbs : Int) = year by omega] at hyear
  · have hyear := Year.plain hrun hlength
    rwa [hvalue, show (year.natAbs : Int) = year by omega] at hyear

theorem longZone_longOffset (offset : Int) : LongZone (longOffset offset) offset := by
  have hsize : (offset.natAbs / 3600 * 60 + offset.natAbs / 60 % 60) * 60 + offset.natAbs % 60 =
      offset.natAbs := by omega
  have hrun (r : List Char) : Run (two (offset.natAbs / 3600) ++ ':' :: r) _ (':' :: r) :=
    run_of_digits (fun _ => Numeral.isDigit_of_mem_padded) rfl r
  have hpair := pair_two (by omega : offset.natAbs / 60 % 60 < 100)
    (by omega : offset.natAbs % 60 < 100) ':' []
  rw [List.append_nil] at hpair
  rw [longOffset, List.cons_append, List.cons_append, List.append_assoc, List.cons_append]
  split
  · have hzone := LongZone.behind (hrun _) hpair
    rwa [two, Numeral.value_padded, hsize, show -(offset.natAbs : Int) = offset by omega] at hzone
  · have hzone := LongZone.ahead (hrun _) hpair
    rwa [two, Numeral.value_padded, hsize, show (offset.natAbs : Int) = offset by omega] at hzone

theorem long_longText (m : Moment) : Long m.longText (m.stamp (m.digits ['0'])) := by
  have hvalid := m.isValid_stamp (m.length_digits_le (show ['0'].length ≤ 9 by decide))
  obtain ⟨hmonth, hday, -, hminute, hsecond⟩ := hvalid.lt_hundred
  have hne : m.digits ['0'] ≠ [] := fun h => nomatch (digits_eq_nil_iff.mp h).1
  refine ⟨?_, hne, hvalid⟩
  rw [longText, ← digits]
  simp only [List.append_assoc, List.cons_append]
  exact ⟨_, Numeral.ofNat _, _, _, _, _, year_signedYear _ _, pair_two hmonth hday '-' _,
    run_of_digits (fun _ => Numeral.isDigit_of_mem_ofNat) rfl _, Numeral.value_ofNat _,
    pair_two hminute hsecond ':' _,
    run_of_digits (fun _ => isDigit_of_mem_digits (List.forall_mem_singleton.mpr rfl)) rfl _,
    longZone_longOffset m.offset⟩

/-! ### The text -/

theorem text_of_expressible (h : m.Expressible m.date) : m.text.toList = m.commonText := by
  rw [text, String.toList_ofList, if_pos (isCommon_iff.mpr h)]

theorem text_of_not_expressible (h : ¬ m.Expressible m.date) : m.text.toList = m.longText := by
  rw [text, String.toList_ofList, if_neg (mt isCommon_iff.mp h)]

/-- A text shows a moment in RFC 3339: whoever reads it finds that moment and no other, and nothing
in it could be left out. -/
structure InCommonWay (m : Moment) (text : List Char) : Prop where
  spelled : ∃ s, Common text s
  denotes : ∀ s, Common text s → ∀ m', s.Denotes m' ↔ m' = m
  short : ∀ s, Common text s → IsShort s.fraction ∧ (s.fraction = [] ↔ m.nanos % 1000000000 = 0)
  universal : text.getLast? = some 'Z' ↔ m.offset = 0

/-- A text displays a moment at length: whoever reads it finds that moment and no other. -/
structure InLongWay (m : Moment) (text : List Char) : Prop where
  spelled : ∃ s, Long text s
  denotes : ∀ s, Long text s → ∀ m', s.Denotes m' ↔ m' = m

theorem denotes_stamp_iff {ds : List Char} (h : fractionNanos ds = m.fraction) {m' : Moment} :
    (m.stamp ds).Denotes m' ↔ m' = m := by
  constructor
  · intro hm'
    exact hm'.unique (denotes_stamp h)
  · rintro rfl
    exact denotes_stamp h

theorem inCommonWay_text (h : m.Expressible m.date) : m.InCommonWay m.text.toList := by
  rw [text_of_expressible h]
  have hcommon := common_commonText h
  refine ⟨⟨_, hcommon⟩, ?_, ?_, m.getLast?_commonText⟩
  · intro s hs m'
    rw [hs.unique hcommon]
    exact denotes_stamp_iff (m.fractionNanos_digits rfl)
  · intro s hs
    rw [hs.unique hcommon]
    exact ⟨m.isShort_digits isShort_nil, digits_eq_nil_iff.trans (and_iff_right rfl)⟩

theorem inLongWay_text (h : ¬ m.Expressible m.date) : m.InLongWay m.text.toList := by
  rw [text_of_not_expressible h]
  refine ⟨⟨_, m.long_longText⟩, ?_⟩
  intro s hs m'
  rw [hs.unique m.long_longText]
  exact denotes_stamp_iff (m.fractionNanos_digits rfl)

end Stagehand.Moment
