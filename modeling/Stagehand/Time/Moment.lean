import Stagehand.Text.Numeral
import Stagehand.Time.Date

/-!
# Moments
A moment is an instant together with the offset from universal time at which it is shown. Its text
is that of RFC 3339 where this can express it, here called the common text, and the display text of
such a moment elsewhere, here called the long text.
-/

namespace Stagehand

/-- An instant, in nanoseconds since the start of 1970, and an offset to show it at, in seconds. -/
structure Moment where
  nanos : Int
  offset : Int := 0
deriving DecidableEq

namespace Moment

/-- The nanoseconds of a second. -/
def nanosPerSecond : Int := 1000000000

/-- The seconds of a day. -/
def secondsPerDay : Int := 86400

/-- The seconds since the start of 1970 that a local clock counts. -/
def localSeconds (m : Moment) : Int := m.nanos / nanosPerSecond + m.offset

/-- The local day. -/
def date (m : Moment) : Date := Date.ofDayNumber (m.localSeconds / secondsPerDay)

/-- The seconds since the local midnight. -/
def secondOfDay (m : Moment) : Nat := (m.localSeconds % secondsPerDay).toNat

/-- The nanoseconds since the last full second. -/
def fraction (m : Moment) : Nat := (m.nanos % nanosPerSecond).toNat

/-- The digits of a fraction of nine places, without the zeros at the end. -/
def fractionDigits (n : Nat) : List Char :=
  ((Numeral.padded 9 n).reverse.dropWhile (· == '0')).reverse

/-- Two digits. -/
def two (n : Nat) : List Char := Numeral.padded 2 n

/-! ### The common text, which is that of RFC 3339 -/

/-- Whether RFC 3339 can express a moment: a year of four digits and an offset of whole minutes
within a day. -/
def isCommon (m : Moment) : Bool :=
  0 ≤ m.date.year ∧ m.date.year ≤ 9999 ∧ m.offset % 60 = 0 ∧ m.offset.natAbs < 86400

/-- The offset in RFC 3339. -/
def commonOffset (offset : Int) : List Char :=
  if offset = 0 then ['Z']
  else
    let minutes := offset.natAbs / 60
    (if offset < 0 then '-' else '+') :: two (minutes / 60) ++ ':' :: two (minutes % 60)

/-- The text of a moment in RFC 3339, with no more digits of the second's fraction than needed. -/
def commonText (m : Moment) : List Char :=
  let s := m.secondOfDay
  Numeral.padded 4 m.date.year.toNat ++ '-' :: two m.date.month ++ '-' :: two m.date.day ++
    'T' :: two (s / 3600) ++ ':' :: two (s / 60 % 60) ++ ':' :: two (s % 60) ++
    (if m.fraction = 0 then [] else '.' :: fractionDigits m.fraction) ++
    commonOffset m.offset

/-! ### The long text, which is for display -/

/-- A year with at least four digits, and with a sign where it does not have just four. -/
def signedYear (year : Int) : List Char :=
  let digits := Numeral.padded 4 year.natAbs
  if year < 0 then '-' :: digits else if 9999 < year then '+' :: digits else digits

/-- The offset in the display text. -/
def longOffset (offset : Int) : List Char :=
  let s := offset.natAbs
  (if offset < 0 then '-' else '+') ::
    two (s / 3600) ++ ':' :: two (s / 60 % 60) ++ ':' :: two (s % 60)

/-- The display text of a moment, which every moment has. -/
def longText (m : Moment) : List Char :=
  let s := m.secondOfDay
  signedYear m.date.year ++ '-' :: two m.date.month ++ '-' :: two m.date.day ++
    ' ' :: Numeral.ofNat (s / 3600) ++ ':' :: two (s / 60 % 60) ++ ':' :: two (s % 60) ++
    '.' :: (if m.fraction = 0 then ['0'] else fractionDigits m.fraction) ++
    ' ' :: longOffset m.offset

/-- The text of a moment: in RFC 3339 where that can express it, and for display elsewhere. -/
def text (m : Moment) : String :=
  String.ofList (if m.isCommon then m.commonText else m.longText)

/-! ### The text of log lines -/

/-- The text of a moment at the head of a log line: universal time to the microsecond. -/
def lineText (m : Moment) : String :=
  let m : Moment := { m with offset := 0 }
  let s := m.secondOfDay
  String.ofList (signedYear m.date.year ++ '-' :: two m.date.month ++ '-' :: two m.date.day ++
    'T' :: two (s / 3600) ++ ':' :: two (s / 60 % 60) ++ ':' :: two (s % 60) ++
    '.' :: Numeral.padded 6 (m.fraction / 1000) ++ ['Z'])

end Moment

end Stagehand
