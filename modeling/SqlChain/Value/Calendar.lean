import SqlChain.Text.Padding
import SqlChain.Value.Basic

/-!
# Days and moments

Days and moments are bound as the text that SQLite's own date functions write.
-/

namespace SqlChain

open Text (zeroPadded)

/-- A day of the proleptic Gregorian calendar. -/
structure Day where
  year : Int
  month : Nat
  day : Nat
deriving DecidableEq, Repr

/-- A moment of a day. A leap second is carried by a fraction of a second or
more in the nanoseconds. -/
structure Moment where
  day : Day
  hour : Nat
  minute : Nat
  second : Nat
  nanosecond : Nat
deriving DecidableEq, Repr

/-- Four digits of year; a year that does not fit them has a sign. -/
def Day.yearText (year : Int) : String :=
  if year < 0 then "-" ++ zeroPadded 4 year.natAbs
  else if year ≤ 9999 then zeroPadded 4 year.natAbs
  else "+" ++ zeroPadded 4 year.natAbs

/-- Year, month and day, separated by hyphens. -/
def Day.text (d : Day) : String :=
  yearText d.year ++ "-" ++ zeroPadded 2 d.month ++ "-" ++ zeroPadded 2 d.day

/-- Hour, minute and second, separated by colons; a leap second is the sixtieth. -/
def Moment.clock (m : Moment) : String :=
  zeroPadded 2 m.hour ++ ":" ++ zeroPadded 2 m.minute ++ ":" ++
    zeroPadded 2 (m.second + m.nanosecond / 1000000000)

/-- The day and the clock, separated by a blank. -/
def Moment.text (m : Moment) : String := m.day.text ++ " " ++ m.clock

/-- A day to bind. -/
def Value.ofDay (d : Day) : Value := .text d.text

/-- A moment to bind. -/
def Value.ofMoment (m : Moment) : Value := .text m.text

end SqlChain
