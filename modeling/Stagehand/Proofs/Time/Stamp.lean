import Stagehand.Proofs.Text.Numeral
import Stagehand.Proofs.Time.Calendar
import Stagehand.Time.Moment

/-!
# Time stamps
A time stamp shows a day of the calendar, a time of day and an offset from universal time. How it is
spelled, in the common way that is RFC 3339 and in the long way of the display text, is said here
without the moments that are written so; and a text spells one stamp at most.
-/

namespace Stagehand

/-! ### What a stamp says -/

/-- A day, a time of day with the digits of the second's fraction, and how many seconds all of it is
ahead of universal time. -/
structure Stamp where
  date : Date
  hour : Nat
  minute : Nat
  second : Nat
  fraction : List Char
  offset : Int

namespace Stamp

/-- The nanoseconds of the digits of a fraction, of which there are nine at most. -/
def fractionNanos (ds : List Char) : Nat := Numeral.value ds * 10 ^ (9 - ds.length)

/-- Digits of a fraction of which none is to spare. -/
structure IsShort (ds : List Char) : Prop where
  length : ds.length ≤ 9
  last : ds.getLast? ≠ some '0'

/-- The stamp is of a day of the calendar and of a time within that day, told to the nanosecond at
most. -/
structure IsValid (s : Stamp) : Prop where
  date : s.date.IsValid
  hour : s.hour < 24
  minute : s.minute < 60
  second : s.second < 60
  fraction : s.fraction.length ≤ 9

/-- Whatever a valid stamp shows besides the year has two digits. -/
theorem IsValid.lt_hundred {s : Stamp} (h : s.IsValid) : s.date.month < 100 ∧ s.date.day < 100 ∧
    s.hour < 100 ∧ s.minute < 100 ∧ s.second < 100 := by
  obtain ⟨hdate, hhour, hminute, hsecond, -⟩ := h
  have hmonth := hdate.month
  have hday := hdate.day_le
  omega

/-- The moment that a stamp shows: its day is counted from the first of January 1970, and what the
clock is ahead is taken back. -/
structure Denotes (s : Stamp) (m : Moment) : Prop where
  nanos : ∃ n, Date.Numbered n s.date ∧
    m.nanos = (((n * 24 + s.hour) * 60 + s.minute) * 60 + s.second - s.offset) * 1000000000 +
      fractionNanos s.fraction
  offset : m.offset = s.offset

theorem isShort_nil : IsShort [] := ⟨by decide, nofun⟩

theorem Denotes.unique {s : Stamp} {m m' : Moment} (h : s.Denotes m) (h' : s.Denotes m') :
    m = m' := by
  obtain ⟨⟨n, hn, hm⟩, ho⟩ := h
  obtain ⟨⟨n', hn', hm'⟩, ho'⟩ := h'
  cases hn.unique hn'
  cases m
  cases m'
  simp only at hm hm' ho ho'
  rw [hm, hm', ho, ho']

/-! ### Parts of texts -/

/-- A number in just so many digits. -/
def Places (k : Nat) (s : List Char) (n : Nat) (r : List Char) : Prop :=
  ∃ ds, s = ds ++ r ∧ ds.length = k ∧ (∀ c ∈ ds, isDigit c = true) ∧ Numeral.value ds = n

/-- Two numbers of two digits each, with a character between them. -/
def Pair (c : Char) (s : List Char) (a b : Nat) (r : List Char) : Prop :=
  ∃ t, Places 2 s a (c :: t) ∧ Places 2 t b r

/-- All the digits that stand here. -/
structure Run (s : List Char) (ds : List Char) (r : List Char) : Prop where
  eq : s = ds ++ r
  digits : ∀ c ∈ ds, isDigit c = true
  stops : ∀ c t, r = c :: t → isDigit c = false

theorem Places.unique {k n n' : Nat} {s r r' : List Char} (h : Places k s n r)
    (h' : Places k s n' r') : n = n' ∧ r = r' := by
  obtain ⟨ds, hs, hl, -, rfl⟩ := h
  obtain ⟨ds', hs', hl', -, rfl⟩ := h'
  obtain ⟨rfl, rfl⟩ := List.append_inj (hs.symm.trans hs') (hl.trans hl'.symm)
  exact ⟨rfl, rfl⟩

theorem Pair.unique {c : Char} {a a' b b' : Nat} {s r r' : List Char} (h : Pair c s a b r)
    (h' : Pair c s a' b' r') : a = a' ∧ b = b' ∧ r = r' := by
  obtain ⟨t, ha, hb⟩ := h
  obtain ⟨t', ha', hb'⟩ := h'
  obtain ⟨rfl, ht⟩ := ha.unique ha'
  cases ht
  exact ⟨rfl, hb.unique hb'⟩

theorem Run.takeWhile_eq {s ds r : List Char} (h : Run s ds r) : s.takeWhile isDigit = ds := by
  have hr : r.takeWhile isDigit = [] := by
    cases r with
    | nil => rfl
    | cons c t => rw [List.takeWhile_cons_of_neg (by rw [h.stops c t rfl]; decide)]
  rw [h.eq, List.takeWhile_append_of_pos h.digits, hr, List.append_nil]

theorem Run.unique {s ds ds' r r' : List Char} (h : Run s ds r) (h' : Run s ds' r') :
    ds = ds' ∧ r = r' := by
  obtain rfl : ds = ds' := h.takeWhile_eq.symm.trans h'.takeWhile_eq
  exact ⟨rfl, List.append_cancel_left (h.eq.symm.trans h'.eq)⟩

theorem run_of_digits {c : Char} {ds : List Char} (hd : ∀ c ∈ ds, isDigit c = true)
    (hc : isDigit c = false) (r : List Char) : Run (ds ++ c :: r) ds (c :: r) := by
  refine ⟨rfl, hd, ?_⟩
  intro d t ht
  rw [← (List.cons.inj ht).1, hc]

theorem places_padded {k n : Nat} (hk : 0 < k) (h : n < 10 ^ k) (r : List Char) :
    Places k (Numeral.padded k n ++ r) n r :=
  ⟨_, rfl, Numeral.length_padded_of_lt hk h, fun _ => Numeral.isDigit_of_mem_padded,
    Numeral.value_padded k n⟩

theorem pair_two {a b : Nat} (ha : a < 100) (hb : b < 100) (c : Char) (r : List Char) :
    Pair c (Moment.two a ++ c :: (Moment.two b ++ r)) a b r :=
  ⟨_, places_padded (by decide) ha _, places_padded (by decide) hb r⟩

/-! ### The common way, which is RFC 3339 -/

/-- The fraction of a second with a point before it, which has a digit if it is there at all. -/
inductive Fraction : List Char → List Char → List Char → Prop
  | absent {r : List Char} (h : ∀ t, r ≠ '.' :: t) : Fraction r [] r
  | digits {ds s r : List Char} (h : Run s ds r) (hne : ds ≠ []) : Fraction ('.' :: s) ds r

/-- A zone at the end of a text: universal time, or hours and minutes ahead of it or behind it. -/
inductive Zone : List Char → Int → Prop
  | universal : Zone ['Z'] 0
  | ahead {h m : Nat} {s : List Char} (hs : Pair ':' s h m []) (hh : h < 24) (hm : m < 60) :
    Zone ('+' :: s) ((h * 60 + m) * 60 : Nat)
  | behind {h m : Nat} {s : List Char} (hs : Pair ':' s h m []) (hh : h < 24) (hm : m < 60) :
    Zone ('-' :: s) (-((h * 60 + m) * 60 : Nat))

/-- A stamp in RFC 3339: a year of four digits, and a zone of whole minutes. -/
structure Common (text : List Char) (s : Stamp) : Prop where
  spelled : ∃ t u v w x, Places 4 text s.date.year.toNat ('-' :: t) ∧
    Pair '-' t s.date.month s.date.day ('T' :: u) ∧ Places 2 u s.hour (':' :: v) ∧
    Pair ':' v s.minute s.second w ∧ Fraction w s.fraction x ∧ Zone x s.offset
  year : 0 ≤ s.date.year
  valid : s.IsValid

theorem Fraction.unique {s ds ds' r r' : List Char} (h : Fraction s ds r)
    (h' : Fraction s ds' r') : ds = ds' ∧ r = r' := by
  cases h with
  | absent hr =>
    cases h' with
    | absent => exact ⟨rfl, rfl⟩
    | digits => exact absurd rfl (hr _)
  | digits h =>
    cases h' with
    | absent hr => exact absurd rfl (hr _)
    | digits h' => exact h.unique h'

theorem Zone.unique {s : List Char} {z z' : Int} (h : Zone s z) (h' : Zone s z') : z = z' := by
  cases h with
  | universal =>
    cases h'
    rfl
  | ahead hs =>
    cases h' with
    | ahead hs' =>
      obtain ⟨rfl, rfl, -⟩ := hs.unique hs'
      rfl
  | behind hs =>
    cases h' with
    | behind hs' =>
      obtain ⟨rfl, rfl, -⟩ := hs.unique hs'
      rfl

theorem Common.unique {text : List Char} {s s' : Stamp} (h : Common text s)
    (h' : Common text s') : s = s' := by
  obtain ⟨⟨t, u, v, w, x, hyear, hday, hhour, hminute, hfraction, hzone⟩, hera, -⟩ := h
  obtain ⟨⟨t', u', v', w', x', hyear', hday', hhour', hminute', hfraction', hzone'⟩, hera', -⟩ := h'
  obtain ⟨hy, ht⟩ := hyear.unique hyear'
  cases ht
  obtain ⟨hm, hd, hu⟩ := hday.unique hday'
  cases hu
  obtain ⟨hh, hv⟩ := hhour.unique hhour'
  cases hv
  obtain ⟨hmin, hsec, rfl⟩ := hminute.unique hminute'
  obtain ⟨hf, rfl⟩ := hfraction.unique hfraction'
  have hz := hzone.unique hzone'
  obtain ⟨⟨year, month, day⟩, hour, minute, second, fraction, offset⟩ := s
  obtain ⟨⟨year', month', day'⟩, hour', minute', second', fraction', offset'⟩ := s'
  simp only at hy hm hd hh hmin hsec hf hz hera hera'
  obtain rfl : year = year' := by omega
  simp only [hm, hd, hh, hmin, hsec, hf, hz]

/-! ### The long way, which is for display -/

/-- A year of at least four digits, with a sign or without. -/
inductive Year : List Char → Int → List Char → Prop
  | plain {s ds r : List Char} (h : Run s ds r) (hl : 4 ≤ ds.length) : Year s (Numeral.value ds) r
  | plus {s ds r : List Char} (h : Run s ds r) (hl : 4 ≤ ds.length) :
    Year ('+' :: s) (Numeral.value ds) r
  | minus {s ds r : List Char} (h : Run s ds r) (hl : 4 ≤ ds.length) :
    Year ('-' :: s) (-Numeral.value ds) r

/-- A zone at the end of a text: hours, minutes and seconds ahead of universal time or behind it. -/
inductive LongZone : List Char → Int → Prop
  | ahead {hs s t : List Char} {m n : Nat} (h : Run s hs (':' :: t)) (hp : Pair ':' t m n []) :
    LongZone ('+' :: s) ((Numeral.value hs * 60 + m) * 60 + n : Nat)
  | behind {hs s t : List Char} {m n : Nat} (h : Run s hs (':' :: t)) (hp : Pair ':' t m n []) :
    LongZone ('-' :: s) (-((Numeral.value hs * 60 + m) * 60 + n : Nat))

/-- A stamp in the display text: a year of any era, a fraction at any rate, and a zone to the
second. -/
structure Long (text : List Char) (s : Stamp) : Prop where
  spelled : ∃ t hs u v w x, Year text s.date.year ('-' :: t) ∧
    Pair '-' t s.date.month s.date.day (' ' :: u) ∧ Run u hs (':' :: v) ∧
    Numeral.value hs = s.hour ∧ Pair ':' v s.minute s.second ('.' :: w) ∧
    Run w s.fraction (' ' :: x) ∧ LongZone x s.offset
  fraction : s.fraction ≠ []
  valid : s.IsValid

/-- Where no digit stands, there are no digits. -/
theorem Run.not_digit {c : Char} {s ds r : List Char} (h : Run (c :: s) ds r)
    (hc : isDigit c = false) : ¬ 4 ≤ ds.length := by
  rw [← h.takeWhile_eq, List.takeWhile_cons_of_neg (by rw [hc]; decide)]
  decide

theorem Year.unique {s r r' : List Char} {y y' : Int} (h : Year s y r) (h' : Year s y' r') :
    y = y' ∧ r = r' := by
  cases h with
  | plain h hl =>
    cases h' with
    | plain h' =>
      obtain ⟨rfl, rfl⟩ := h.unique h'
      exact ⟨rfl, rfl⟩
    | plus => exact absurd hl (h.not_digit rfl)
    | minus => exact absurd hl (h.not_digit rfl)
  | plus h =>
    cases h' with
    | plain h' hl' => exact absurd hl' (h'.not_digit rfl)
    | plus h' =>
      obtain ⟨rfl, rfl⟩ := h.unique h'
      exact ⟨rfl, rfl⟩
  | minus h =>
    cases h' with
    | plain h' hl' => exact absurd hl' (h'.not_digit rfl)
    | minus h' =>
      obtain ⟨rfl, rfl⟩ := h.unique h'
      exact ⟨rfl, rfl⟩

theorem LongZone.unique {s : List Char} {z z' : Int} (h : LongZone s z) (h' : LongZone s z') :
    z = z' := by
  cases h with
  | ahead h hp =>
    cases h' with
    | ahead h' hp' =>
      obtain ⟨rfl, ht⟩ := h.unique h'
      cases ht
      obtain ⟨rfl, rfl, -⟩ := hp.unique hp'
      rfl
  | behind h hp =>
    cases h' with
    | behind h' hp' =>
      obtain ⟨rfl, ht⟩ := h.unique h'
      cases ht
      obtain ⟨rfl, rfl, -⟩ := hp.unique hp'
      rfl

theorem Long.unique {text : List Char} {s s' : Stamp} (h : Long text s) (h' : Long text s') :
    s = s' := by
  obtain ⟨⟨t, hs, u, v, w, x, hyear, hday, hrun, hhour, hminute, hfraction, hzone⟩, -, -⟩ := h
  obtain ⟨⟨t', hs', u', v', w', x', hyear', hday', hrun', hhour', hminute', hfraction', hzone'⟩,
    -, -⟩ := h'
  obtain ⟨hy, ht⟩ := hyear.unique hyear'
  cases ht
  obtain ⟨hm, hd, hu⟩ := hday.unique hday'
  cases hu
  obtain ⟨rfl, hv⟩ := hrun.unique hrun'
  cases hv
  obtain ⟨hmin, hsec, hw⟩ := hminute.unique hminute'
  cases hw
  obtain ⟨hf, hx⟩ := hfraction.unique hfraction'
  cases hx
  have hz := hzone.unique hzone'
  obtain ⟨⟨year, month, day⟩, hour, minute, second, fraction, offset⟩ := s
  obtain ⟨⟨year', month', day'⟩, hour', minute', second', fraction', offset'⟩ := s'
  simp only at hy hm hd hhour hhour' hmin hsec hf hz
  simp only [hy, hm, hd, ← hhour, ← hhour', hmin, hsec, hf, hz]

end Stamp

end Stagehand
