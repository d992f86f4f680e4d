/-!
Moments: a day, or a time on a day.
-/

namespace MemoryAtlas

/-- The offset counts minutes ahead of universal time, if it is known. -/
structure Clock where
  hour : Nat
  minute : Nat
  second : Nat
  micro : Nat
  offset : Option Int
deriving DecidableEq

structure Moment where
  year : Nat
  month : Nat
  day : Nat
  clock : Option Clock
deriving DecidableEq

namespace Moment

/-- Why there is no such moment. -/
inductive Fault where
  | offset (minutes : Int)
  | year (n : Nat)
  | month
  | day
  | hour
  | minute
  | second
deriving DecidableEq

def isLeapYear (year : Nat) : Bool := year % 4 = 0 && (year % 100 != 0 || year % 400 = 0)

def daysIn (year month : Nat) : Nat :=
  if month = 2 then (if isLeapYear year then 29 else 28)
  else if month ∈ [4, 6, 9, 11] then 30 else 31

/-- Offsets are less than a day. -/
def checkOffset (c : Clock) : Except Fault Unit :=
  match c.offset with
  | some n => if n.natAbs < 24 * 60 then .ok () else .error (.offset n)
  | none => .ok ()

def checkDay (m : Moment) : Except Fault Unit :=
  if m.year = 0 then .error (.year m.year)
  else if m.month = 0 ∨ 12 < m.month then .error .month
  else if m.day = 0 ∨ daysIn m.year m.month < m.day then .error .day
  else .ok ()

def checkTime (c : Clock) : Except Fault Unit :=
  if 23 < c.hour then .error .hour
  else if 59 < c.minute then .error .minute
  else if 59 < c.second then .error .second
  else .ok ()

/-- The moment, if there is such a one. -/
def checked (m : Moment) : Except Fault Moment := do
  match m.clock with
  | none => m.checkDay
  | some c =>
    checkOffset c
    m.checkDay
    checkTime c
  return m

def padded (width n : Nat) : String :=
  let digits := Nat.toDigits 10 n
  String.ofList (List.replicate (width - digits.length) '0' ++ digits)

def offsetText (minutes : Int) : String :=
  (if minutes < 0 then "-" else "+") ++ padded 2 (minutes.natAbs / 60) ++ ":" ++ padded 2 (minutes.natAbs % 60)

def clockText (c : Clock) : String :=
  padded 2 c.hour ++ ":" ++ padded 2 c.minute ++ ":" ++ padded 2 c.second
    ++ (if c.micro = 0 then "" else "." ++ padded 6 c.micro) ++ (c.offset.map offsetText).getD ""

/-- The moment alone. -/
def display (m : Moment) : String :=
  padded 4 m.year ++ "-" ++ padded 2 m.month ++ "-" ++ padded 2 m.day
    ++ (m.clock.map fun c => " " ++ clockText c).getD ""

/-- A difference in days and seconds, with the seconds counted forward. -/
def difference (minutes : Int) : String :=
  let days := minutes.fdiv (24 * 60)
  let seconds := minutes.fmod (24 * 60) * 60
  let parts := (if days = 0 then [] else ["days=" ++ toString days])
    ++ (if seconds = 0 then [] else ["seconds=" ++ toString seconds])
  "datetime.timedelta(" ++ (if parts.isEmpty then "0" else String.intercalate ", " parts) ++ ")"

def zone (minutes : Int) : String :=
  if minutes = 0 then "datetime.timezone.utc" else "datetime.timezone(" ++ difference minutes ++ ")"

/-- Seconds are left out if they are zero, and so is their fraction. -/
def clockNumbers (c : Clock) : List Nat :=
  [c.hour, c.minute]
    ++ (if c.micro = 0 then (if c.second = 0 then [] else [c.second]) else [c.second, c.micro])

/-- The moment within a list or record. -/
def inner (m : Moment) : String :=
  let day := [m.year, m.month, m.day].map toString
  match m.clock with
  | none => "datetime.date(" ++ String.intercalate ", " day ++ ")"
  | some c =>
    let time := (clockNumbers c).map toString ++ (c.offset.map fun n => "tzinfo=" ++ zone n).toList
    "datetime.datetime(" ++ String.intercalate ", " (day ++ time) ++ ")"

def Fault.message : Fault → String
  | .offset minutes =>
    "offset must be a timedelta strictly between -timedelta(hours=24) and timedelta(hours=24), not "
      ++ difference minutes ++ "."
  | .year n => "year " ++ toString n ++ " is out of range"
  | .month => "month must be in 1..12"
  | .day => "day is out of range for month"
  | .hour => "hour must be in 0..23"
  | .minute => "minute must be in 0..59"
  | .second => "second must be in 0..59"

end Moment

end MemoryAtlas
