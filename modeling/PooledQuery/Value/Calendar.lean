/-
Dates, times of day, moments and durations, with their ISO texts.
-/
import PooledQuery.Text.CodePoint

namespace PooledQuery

/-- A day of the proleptic Gregorian calendar. -/
structure Date where
  year : Nat
  month : Nat
  day : Nat
  deriving DecidableEq, Repr

/-- A time of day. -/
structure ClockTime where
  hour : Nat
  minute : Nat
  second : Nat
  microsecond : Nat
  deriving DecidableEq, Repr

/-- A length of time: a number of days of either sign, and what lies beyond full days. -/
structure Duration where
  days : Int
  seconds : Nat
  microseconds : Nat
  deriving DecidableEq, Repr

namespace Date

def iso (date : Date) : Text :=
  Text.padded 4 date.year ++ "-" ++ Text.padded 2 date.month ++ "-" ++ Text.padded 2 date.day

end Date

def fractionText (microseconds : Nat) : Text :=
  if microseconds = 0 then [] else .char '.' :: Text.padded 6 microseconds

namespace ClockTime

def iso (time : ClockTime) : Text :=
  Text.padded 2 time.hour ++ ":" ++ Text.padded 2 time.minute ++ ":" ++
    Text.padded 2 time.second ++ fractionText time.microsecond

def toSeconds (time : ClockTime) : Nat :=
  time.hour * 3600 + time.minute * 60 + time.second

end ClockTime

def offsetText (minutes : Int) : Text :=
  (if minutes < 0 then "-" else "+" : Text) ++ Text.padded 2 (minutes.natAbs / 60) ++ ":" ++
    Text.padded 2 (minutes.natAbs % 60)

def momentText (separator : Text) (date : Date) (time : ClockTime) (offset : Option Int) : Text :=
  date.iso ++ separator ++ time.iso ++
    match offset with
    | some minutes => offsetText minutes
    | none => []

def daysBeforeYear (year : Nat) : Nat :=
  let past := year - 1
  past * 365 + past / 4 - past / 100 + past / 400

def isLeapYear (year : Nat) : Bool :=
  year % 4 == 0 && (year % 100 != 0 || year % 400 == 0)

def monthLengths (year : Nat) : List Nat :=
  [31, if isLeapYear year then 29 else 28, 31, 30, 31, 30, 31, 31, 30, 31, 30, 31]

namespace Date

def ordinal (date : Date) : Nat :=
  daysBeforeYear date.year + ((monthLengths date.year).take (date.month - 1)).foldl (· + ·) 0 + date.day

end Date

/-- The microseconds from the start of the calendar to a moment, in universal time. -/
def momentMicroseconds (date : Date) (time : ClockTime) (offset : Int) : Int :=
  (((date.ordinal * 86400 + time.toSeconds : Nat) : Int) - offset * 60) * 1000000 + time.microsecond

namespace Duration

def isZero (duration : Duration) : Bool :=
  duration.days == 0 && duration.seconds == 0 && duration.microseconds == 0

def text (duration : Duration) : Text :=
  let days : Text :=
    if duration.days = 0 then []
    else Text.ofInt duration.days ++
      (if duration.days.natAbs = 1 then " day, " else " days, " : Text)
  days ++ Text.ofNat (duration.seconds / 3600) ++ ":" ++
    Text.padded 2 (duration.seconds / 60 % 60) ++ ":" ++ Text.padded 2 (duration.seconds % 60) ++
    fractionText duration.microseconds

def hours (duration : Duration) : Int :=
  ((duration.seconds / 3600 % 24 : Nat) : Int) + duration.days * 24

end Duration
end PooledQuery
