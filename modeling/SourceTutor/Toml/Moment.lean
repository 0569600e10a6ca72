/-!
# Dates and times of TOML

A moment is a date, a time of day, or both; only with both there may be a distance from universal
time. However a moment is spelled in a document, its text is always the same: digits filled up with
zeros, a `T` between date and time, and no zeros at the end of the part of a second.
-/

set_option autoImplicit false

namespace SourceTutor.Toml

/-- A day of the calendar. -/
structure Date where
  year : Nat
  /-- The month, from 1. -/
  month : Nat
  /-- The day of the month, from 1. -/
  day : Nat
  deriving DecidableEq

/-- A time of day. -/
structure DayTime where
  hour : Nat
  minute : Nat
  /-- The second; 60 for a leap second. -/
  second : Nat
  /-- The nanoseconds beyond the second. -/
  nanos : Nat
  deriving DecidableEq

/-- The distance from universal time. -/
inductive Offset where
  /-- Universal time itself. -/
  | universal
  /-- So many minutes ahead, or behind if negative. -/
  | minutes (n : Int)
  deriving DecidableEq

/-- A date, a time of day, or both. -/
inductive Moment where
  | date (d : Date)
  | time (t : DayTime)
  | both (d : Date) (t : DayTime) (offset : Option Offset)
  deriving DecidableEq

/-- The decimal digits of a number, filled up with zeros to a width. -/
def padded (width n : Nat) : List Char :=
  let digits := Nat.toDigits 10 n
  List.replicate (width - digits.length) '0' ++ digits

/-- The text of a date. -/
def Date.text (d : Date) : List Char :=
  padded 4 d.year ++ ['-'] ++ padded 2 d.month ++ ['-'] ++ padded 2 d.day

/-- The part of a second with its point; nothing if it is zero. -/
def fractionText (nanos : Nat) : List Char :=
  if nanos == 0 then [] else '.' :: ((padded 9 nanos).reverse.dropWhile (· == '0')).reverse

/-- The text of a time of day. -/
def DayTime.text (t : DayTime) : List Char :=
  padded 2 t.hour ++ [':'] ++ padded 2 t.minute ++ [':'] ++ padded 2 t.second ++
    fractionText t.nanos

/-- The text of a distance from universal time. -/
def Offset.text : Offset → List Char
  | .universal => ['Z']
  | .minutes n =>
    (if n < 0 then '-' else '+') ::
      (padded 2 (n.natAbs / 60) ++ [':'] ++ padded 2 (n.natAbs % 60))

/-- The text of a moment. -/
def Moment.text : Moment → String
  | .date d => String.ofList d.text
  | .time t => String.ofList t.text
  | .both d t offset =>
    String.ofList (d.text ++ ['T'] ++ t.text ++ ((offset.map Offset.text).getD []))

end SourceTutor.Toml
