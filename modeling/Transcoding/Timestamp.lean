import Transcoding.Text.Numeral

/-!
Moments with a fixed offset from universal time, to the second. The offset itself is kept to the
microsecond; it is less than a day either way. A moment is written as date and time joined by a `T`,
and the offset: the exact notation shows seconds and microseconds of the offset where they are not
zero; the short notation rounds the offset to seconds, shows only its hours and minutes, and writes
universal time as `Z`.
-/

namespace Transcoding

def isLeapYear (year : Nat) : Bool :=
  year % 4 == 0 && (year % 100 != 0 || year % 400 == 0)

def daysIn (year month : Nat) : Nat :=
  if month == 2 then if isLeapYear year then 29 else 28
  else if month == 4 || month == 6 || month == 9 || month == 11 then 30
  else 31

structure Date where
  year : Nat
  month : Nat
  day : Nat
  year_range : 1 ≤ year ∧ year ≤ 9999
  month_range : 1 ≤ month ∧ month ≤ 12
  day_range : 1 ≤ day ∧ day ≤ daysIn year month
  deriving DecidableEq, Repr

structure TimeOfDay where
  hour : Nat
  minute : Nat
  second : Nat
  hour_lt : hour < 24
  minute_lt : minute < 60
  second_lt : second < 60
  deriving DecidableEq, Repr

def microsPerSecond : Int := 1000000
def microsPerDay : Int := 86400 * microsPerSecond

/-- How far a clock is ahead of universal time. -/
structure Offset where
  micros : Int
  range : -microsPerDay < micros ∧ micros < microsPerDay
  deriving DecidableEq, Repr

structure Timestamp where
  date : Date
  time : TimeOfDay
  offset : Offset
  deriving DecidableEq, Repr

namespace Timestamp

open Numeral

def dateText (d : Date) : List Char :=
  padded d.year 4 ++ '-' :: (twoDigits d.month ++ '-' :: twoDigits d.day)

def timeText (t : TimeOfDay) : List Char :=
  twoDigits t.hour ++ ':' :: (twoDigits t.minute ++ ':' :: twoDigits t.second)

def localText (t : Timestamp) : List Char :=
  dateText t.date ++ 'T' :: timeText t.time

def signChar (i : Int) : Char :=
  if i < 0 then '-' else '+'

def hoursAndMinutes (seconds : Nat) : List Char :=
  twoDigits (seconds / 3600) ++ ':' :: twoDigits (seconds / 60 % 60)

def exactOffset (o : Offset) : List Char :=
  let micros := o.micros.natAbs
  let seconds := micros / 1000000
  let fraction := if micros % 1000000 == 0 then [] else '.' :: padded (micros % 1000000) 6
  let rest := if micros % 60000000 == 0 then [] else ':' :: (twoDigits (seconds % 60) ++ fraction)
  signChar o.micros :: (hoursAndMinutes seconds ++ rest)

def shortOffset (o : Offset) : List Char :=
  let seconds := (o.micros.natAbs + 500000) / 1000000
  if seconds == 0 then ['Z'] else signChar o.micros :: hoursAndMinutes seconds

def exactText (t : Timestamp) : String :=
  String.ofList (localText t ++ exactOffset t.offset)

def shortText (t : Timestamp) : String :=
  String.ofList (localText t ++ shortOffset t.offset)

end Timestamp
end Transcoding
