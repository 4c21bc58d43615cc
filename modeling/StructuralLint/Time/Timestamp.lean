import StructuralLint.Number.Binary64

/-!
# Points in time

Dates with an optional time of day and zone, as configuration files write them:

* `2006-1-2T15:4:5.999Z`, with `T` or `t`, and `Z` or an offset such as `+02:00`;
* `2006-1-2 15:4:5.999`;
* `2006-1-2`.

Months, days, hours, minutes and seconds have one or two digits; a fraction of a second may
follow a point or a comma. The day must exist in its month.
-/

namespace StructuralLint

/-- A point in time, with the zone it is given in. -/
structure Timestamp where
  year : Nat
  month : Nat
  day : Nat
  hour : Nat := 0
  minute : Nat := 0
  second : Nat := 0
  /-- Billionths of a second. -/
  nanosecond : Nat := 0
  /-- The distance to universal time in seconds, where a number says it. -/
  offset : Option Int := none
  deriving DecidableEq, Repr, Inhabited

namespace Timestamp

/-- Whether a year has a 29th of February. -/
def isLeapYear (year : Nat) : Bool :=
  year % 4 = 0 && (year % 100 ≠ 0 || year % 400 = 0)

/-- The number of days of a month. -/
def daysIn (year month : Nat) : Nat :=
  if month = 2 then (if isLeapYear year then 29 else 28)
  else if month = 4 ∨ month = 6 ∨ month = 9 ∨ month = 11 then 30
  else 31

/-- A number of one or two digits, and the rest. -/
def shortNumber? (t : Text) : Option (Nat × Text) :=
  match t.takeWhile (Rune.holds Char.isDigit) |>.take 2 with
  | [] => none
  | ds => some (Binary64.ofDigits (Binary64.digitValues ds), t.drop ds.length)

/-- A number of exactly `width` digits, and the rest. -/
def fixedNumber? (width : Nat) (t : Text) : Option (Nat × Text) :=
  let ds := t.take width
  if ds.length = width ∧ ds.all (Rune.holds Char.isDigit) then
    some (Binary64.ofDigits (Binary64.digitValues ds), t.drop width)
  else none

/-- Passes over one scalar. -/
def expect? (c : Char) : Text → Option Text
  | r :: rest => if r.isChar c then some rest else none
  | [] => none

/-- A fraction of a second in billionths, and the rest; none is zero. -/
def fraction (t : Text) : Nat × Text :=
  match t with
  | .char p :: rest =>
    let ds := rest.takeWhile (Rune.holds Char.isDigit)
    if (p == '.' || p == ',') && !ds.isEmpty then
      let kept := (Binary64.digitValues ds).take 9
      (Binary64.ofDigits kept * powerOfTen (9 - kept.length), rest.drop ds.length)
    else (0, t)
  | _ => (0, t)

/-- The date part, and the rest. -/
def date? (t : Text) : Option (Timestamp × Text) := do
  let (year, t) ← fixedNumber? 4 t
  let (month, t) ← shortNumber? (← expect? '-' t)
  let (day, t) ← shortNumber? (← expect? '-' t)
  if 1 ≤ month ∧ month ≤ 12 ∧ 1 ≤ day ∧ day ≤ daysIn year month then
    some ({ year, month, day }, t)
  else none

/-- The time of day, and the rest. -/
def clock? (d : Timestamp) (t : Text) : Option (Timestamp × Text) := do
  let (hour, t) ← shortNumber? t
  let (minute, t) ← shortNumber? (← expect? ':' t)
  let (second, t) ← shortNumber? (← expect? ':' t)
  let (nanosecond, t) := fraction t
  if hour < 24 ∧ minute < 60 ∧ second < 60 then
    some ({ d with hour, minute, second, nanosecond }, t)
  else none

/-- The zone: `Z`, or a signed number of hours and minutes. -/
def zone? : Text → Option (Option Int × Text)
  | .char 'Z' :: rest => some (none, rest)
  | .char s :: rest => do
    let (hours, t) ← fixedNumber? 2 rest
    let (minutes, t) ← fixedNumber? 2 (← expect? ':' t)
    let seconds : Int := (hours * 60 + minutes) * 60
    if 24 < hours ∨ 60 < minutes then none
    else if s == '+' then some (some seconds, t)
    else if s == '-' then some (some (-seconds), t)
    else none
  | _ => none

/-- The point in time a text denotes, if it is written as one. -/
def parse? (t : Text) : Option Timestamp := do
  let (d, rest) ← date? t
  match rest with
  | [] => some d
  | .char ' ' :: rest =>
    let (ts, rest) ← clock? d (rest.dropWhile (Rune.isChar ' '))
    if rest.isEmpty then some ts else none
  | .char c :: rest =>
    if c == 'T' || c == 't' then
      let (ts, rest) ← clock? d rest
      let (offset, rest) ← zone? rest
      if rest.isEmpty then some { ts with offset } else none
    else none
  | _ => none

/-- The first moment of the next day. -/
def nextDay (ts : Timestamp) : Timestamp :=
  let midnight := { ts with hour := 0, minute := 0, second := 0 }
  if ts.day < daysIn ts.year ts.month then { midnight with day := ts.day + 1 }
  else if ts.month < 12 then { midnight with month := ts.month + 1, day := 1 }
  else { midnight with year := ts.year + 1, month := 1, day := 1 }

/-- A leap second as the first second of the next minute. -/
def carried (ts : Timestamp) : Timestamp :=
  if ts.second < 60 then ts
  else if ts.minute < 59 then { ts with minute := ts.minute + 1, second := 0 }
  else if ts.hour < 23 then { ts with hour := ts.hour + 1, minute := 0, second := 0 }
  else ts.nextDay

/-- A number in at least `width` digits. -/
def padded (width n : Nat) : List Char :=
  let ds := Nat.toDigits 10 n
  List.replicate (width - ds.length) '0' ++ ds

/-- A fraction of a second with its point, without trailing zeros. -/
def fractionText (nanosecond : Nat) : List Char :=
  if nanosecond = 0 then []
  else '.' :: ((padded 9 nanosecond).reverse.dropWhile (· == '0')).reverse

/-- A zone offset such as `+0200`. -/
def offsetText (offset : Int) : List Char :=
  let minutes := offset.natAbs / 60
  (if offset < 0 then '-' else '+') :: (padded 2 (minutes / 60) ++ padded 2 (minutes % 60))

/-- The date as `2006-01-02`. -/
def dateText (ts : Timestamp) : List Char :=
  padded 4 ts.year ++ '-' :: padded 2 ts.month ++ '-' :: padded 2 ts.day

/-- The time of day as `15:04:05.999`. -/
def clockText (ts : Timestamp) : List Char :=
  padded 2 ts.hour ++ ':' :: padded 2 ts.minute ++ ':' :: padded 2 ts.second ++
    fractionText ts.nanosecond

/-- The text of a point in time: date, time, offset, and the name of the zone, which for a bare
offset is the offset again. -/
def text (ts : Timestamp) : Text :=
  let offset := ts.offset.getD 0
  let name := if offset = 0 then "UTC".toList else offsetText offset
  (ts.dateText ++ ' ' :: ts.clockText ++ ' ' :: offsetText offset ++ ' ' :: name).map .char

/-- The days before a year since the start of the calendar. -/
def daysBefore (year : Nat) : Int :=
  let past : Int := (year : Int) - 1
  365 * past + past / 4 - past / 100 + past / 400

/-- The seconds of universal time since the start of the calendar. -/
def seconds (ts : Timestamp) : Int :=
  let monthDays := (List.range (ts.month - 1)).foldl (fun n m => n + daysIn ts.year (m + 1)) 0
  let days := daysBefore ts.year + (monthDays + ts.day : Nat) - 1
  ((days * 24 + ts.hour) * 60 + ts.minute) * 60 + ts.second - ts.offset.getD 0

end Timestamp

end StructuralLint
