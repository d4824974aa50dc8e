/-! Dates and times as configuration files write them. -/

namespace TemplateLint

structure Date where
  year : Nat
  month : Nat
  day : Nat
  deriving DecidableEq, Repr

structure TimeOfDay where
  hour : Nat
  minute : Nat
  second : Nat
  microsecond : Nat
  deriving DecidableEq, Repr

/-- A moment; the offset of a date with a time is in minutes east of universal time. -/
inductive Moment where
  | date (date : Date)
  | time (time : TimeOfDay)
  | dateTime (date : Date) (time : TimeOfDay) (offset : Option Int)
  deriving DecidableEq, Repr

def Date.isLeapYear (year : Nat) : Bool :=
  year % 4 = 0 && (year % 100 ≠ 0 || year % 400 = 0)

def Date.daysIn (year month : Nat) : Nat :=
  if month = 2 then if Date.isLeapYear year then 29 else 28
  else if month = 4 ∨ month = 6 ∨ month = 9 ∨ month = 11 then 30
  else 31

/-- Years count from one. -/
def Date.isValid (d : Date) : Bool :=
  1 ≤ d.year && 1 ≤ d.month && d.month ≤ 12 && 1 ≤ d.day && d.day ≤ Date.daysIn d.year d.month

def Date.parts (d : Date) : List Nat :=
  [d.year, d.month, d.day]

/-- Seconds and microseconds are left out from the end while they are zero. -/
def TimeOfDay.parts (t : TimeOfDay) : List Nat :=
  if t.microsecond ≠ 0 then [t.hour, t.minute, t.second, t.microsecond]
  else if t.second ≠ 0 then [t.hour, t.minute, t.second]
  else [t.hour, t.minute]

/-- An offset as a number of seconds within a day, with a day taken off west of universal time. -/
def Moment.displayOffset (minutes : Int) : String :=
  if minutes = 0 then "datetime.timezone.utc"
  else if 0 < minutes then
    "datetime.timezone(datetime.timedelta(seconds=" ++ toString (minutes * 60) ++ "))"
  else
    "datetime.timezone(datetime.timedelta(days=-1, seconds=" ++ toString (86400 + minutes * 60)
      ++ "))"

def Moment.display : Moment → String
  | .date d => "datetime.date(" ++ commaed (d.parts.map toString) ++ ")"
  | .time t => "datetime.time(" ++ commaed (t.parts.map toString) ++ ")"
  | .dateTime d t offset =>
    let zone := offset.toList.map fun minutes => "tzinfo=" ++ displayOffset minutes
    "datetime.datetime(" ++ commaed ((d.parts ++ t.parts).map toString ++ zone) ++ ")"
where
  commaed (parts : List String) : String := ", ".intercalate parts

end TemplateLint
