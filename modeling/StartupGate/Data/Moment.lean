import StartupGate.Text.Quoted
/-!
# Moments

A moment is a calendar day, or a day with a time of day that may carry an offset from universal
time. `Moment.day?` and `Moment.instant?` build one from the numbers that were written, and refuse
numbers that are out of range; of several faults the first in the order year, month, day, hour,
minute, second is reported.
-/

namespace StartupGate

/-- Why written numbers are not a moment. -/
inductive MomentError where
  /-- There is no year zero. -/
  | year (n : Nat)
  | month
  | day
  | hour
  | minute
  | second
  /-- An offset of a day or more, in minutes. -/
  | offset (minutes : Int)
deriving Repr, DecidableEq

/-- A day, or a day with a time. -/
structure Moment where
  year : Nat
  month : Nat
  day : Nat
  /-- Hour, minute, second and microsecond. -/
  time : Option (Nat × Nat × Nat × Nat) := none
  /-- Minutes ahead of universal time. -/
  offset : Option Int := none
deriving Repr, DecidableEq

namespace Moment

/-- Whether a year has a 29th of February. -/
def isLeapYear (y : Nat) : Bool := y % 4 == 0 && (y % 100 != 0 || y % 400 == 0)

/-- The count of days of a month. -/
def daysInMonth (y m : Nat) : Nat :=
  if m = 2 then (if isLeapYear y then 29 else 28)
  else if m = 4 ∨ m = 6 ∨ m = 9 ∨ m = 11 then 30
  else 31

/-- Checks the numbers of a day. -/
def checkDay (y m d : Nat) : Except MomentError Unit :=
  if y = 0 then .error (.year y)
  else if m = 0 ∨ 12 < m then .error .month
  else if d = 0 ∨ daysInMonth y m < d then .error .day
  else .ok ()

/-- Checks the numbers of a time of day. -/
def checkTime (h mi s : Nat) : Except MomentError Unit :=
  if 23 < h then .error .hour
  else if 59 < mi then .error .minute
  else if 59 < s then .error .second
  else .ok ()

/-- The day with these numbers. -/
def day? (y m d : Nat) : Except MomentError Moment := do
  checkDay y m d
  return { year := y, month := m, day := d }

/-- The instant with these numbers; the offset is judged first. -/
def instant? (y m d h mi s micro : Nat) (offset : Option Int) : Except MomentError Moment := do
  match offset with
  | some minutes => if 24 * 60 ≤ minutes.natAbs then throw (.offset minutes)
  | none => pure ()
  checkDay y m d
  checkTime h mi s
  return { year := y, month := m, day := d, time := some (h, mi, s, micro), offset }

/-- The count of days before the first of January of a year. -/
def daysBeforeYear (y : Nat) : Nat :=
  let p := y - 1
  p * 365 + p / 4 - p / 100 + p / 400

/-- The count of days up to and including this one. -/
def ordinal (m : Moment) : Nat :=
  let before := daysBeforeYear m.year
  (List.range (m.month - 1)).foldl (fun n i => n + daysInMonth m.year (i + 1)) before + m.day

/-- Microseconds on the scale of universal time; only for comparing instants that have an offset. -/
def universal (m : Moment) : Int :=
  match m.time with
  | none => (m.ordinal : Int) * 86400000000
  | some (h, mi, s, micro) =>
    (((m.ordinal : Int) * 24 + h) * 60 + mi - m.offset.getD 0) * 60000000 + s * 1000000 + micro

/-- Whether two moments are the same: both days, both instants without offset and equal in all
numbers, or both instants with an offset and at the same universal time. -/
def same (a b : Moment) : Bool :=
  a.time.isSome == b.time.isSome && a.offset.isSome == b.offset.isSome && a.universal == b.universal

/-- A duration in whole minutes, as a count of days and the seconds beyond. -/
def durationText (minutes : Int) : String :=
  let days := minutes / 1440
  let seconds := minutes % 1440 * 60
  let parts := (if days = 0 then [] else ["days=" ++ toString days])
    ++ (if seconds = 0 then [] else ["seconds=" ++ toString seconds])
  "datetime.timedelta(" ++ (if parts.isEmpty then "0" else ", ".intercalate parts) ++ ")"

/-- A moment written as the call that builds it. -/
def display (m : Moment) : String :=
  let head := [m.year, m.month, m.day].map toString
  match m.time with
  | none => "datetime.date(" ++ ", ".intercalate head ++ ")"
  | some (h, mi, s, micro) =>
    let clock := [toString h, toString mi]
      ++ (if s = 0 ∧ micro = 0 then [] else [toString s])
      ++ (if micro = 0 then [] else [toString micro])
    let zone := match m.offset with
      | none => []
      | some 0 => ["tzinfo=datetime.timezone.utc"]
      | some o => ["tzinfo=datetime.timezone(" ++ durationText o ++ ")"]
    "datetime.datetime(" ++ ", ".intercalate (head ++ clock ++ zone) ++ ")"

/-- A number with zeros before it, up to a width. -/
def padded (width n : Nat) : String :=
  let ds := toString n
  String.ofList (List.replicate (width - ds.length) '0') ++ ds

/-- A time of day with colons between its numbers. -/
def clockText (h mi s micro : Nat) : String :=
  ":".intercalate [padded 2 h, padded 2 mi, padded 2 s]
    ++ (if micro = 0 then "" else "." ++ padded 6 micro)

/-- A moment with dashes, colons and its offset. -/
def plain (m : Moment) : String :=
  let day := "-".intercalate [padded 4 m.year, padded 2 m.month, padded 2 m.day]
  match m.time with
  | none => day
  | some (h, mi, s, micro) =>
    let zone := match m.offset with
      | none => ""
      | some o =>
        (if o < 0 then "-" else "+") ++ padded 2 (o.natAbs / 60) ++ ":" ++ padded 2 (o.natAbs % 60)
    day ++ " " ++ clockText h mi s micro ++ zone

/-- A time of day written as the call that builds it. -/
def displayClock (h mi s micro : Nat) : String :=
  "datetime.time(" ++ ", ".intercalate ([toString h, toString mi]
      ++ (if s = 0 ∧ micro = 0 then [] else [toString s])
      ++ (if micro = 0 then [] else [toString micro])) ++ ")"

end Moment

/-- The wording of a moment error. -/
def MomentError.message : MomentError → String
  | .year n => "year " ++ toString n ++ " is out of range"
  | .month => "month must be in 1..12"
  | .day => "day is out of range for month"
  | .hour => "hour must be in 0..23"
  | .minute => "minute must be in 0..59"
  | .second => "second must be in 0..59"
  | .offset minutes =>
    "offset must be a timedelta strictly between -timedelta(hours=24) and timedelta(hours=24), not "
      ++ Moment.durationText minutes ++ "."

end StartupGate
