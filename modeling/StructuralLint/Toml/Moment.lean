import StructuralLint.Time.Timestamp
import StructuralLint.Toml.Basic

/-!
# TOML dates and times

Four kinds of points in time: a date and a time with a zone, without one, a date alone, and a time
alone. `Moment.scan` cuts the runes of one out of a text and tells its kind by the marks among
them; `Moment.text` checks what was cut out and says how it is shown.
-/

namespace StructuralLint.Toml

/-- How much a date or a time says. -/
inductive MomentKind where
  /-- A date and a time in a zone. -/
  | zoned
  /-- A date and a time. -/
  | unzoned
  /-- A date. -/
  | date
  /-- A time. -/
  | time
  deriving DecidableEq, Repr

/-- A date or a time as it is written. -/
structure Moment where
  kind : MomentKind
  written : Text
  deriving DecidableEq, Repr

namespace Moment

/-- Whether a date or a time starts here rather than a number. -/
def starts (t : Text) : Bool :=
  let digits := (t.take 5).takeWhile isDigit
  (digits.length = 2 && headIs ':' (t.drop 2)) || (digits.length = 4 && headIs '-' (t.drop 4))

/-! ### Cutting out -/

/-- What has been seen of a date or a time. -/
structure Marks where
  /-- The runes, last first; each takes one byte. -/
  taken : Text := []
  hasDate : Bool := false
  hasTime : Bool := false
  hasZone : Bool := false
  hasSpace : Bool := false

/-- The kind that the marks tell. -/
def Marks.kind (m : Marks) : MomentKind :=
  if m.hasTime then
    if m.hasDate then (if m.hasZone then .zoned else .unzoned) else .time
  else .date

/-- Takes the runes of a date or a time. One space may stand before the time, if a digit follows
it, and then the byte after that digit is taken whatever it is. -/
def scanMarks (m : Marks) : Text → Marks × Text
  | [] => (m, [])
  | r :: rest =>
    let next := { m with taken := r :: m.taken }
    if isDigit r then scanMarks next rest
    else if r.isChar '-' then
      scanMarks { next with hasDate := true, hasZone := m.hasZone || 8 ≤ m.taken.length } rest
    else if r.holds fun c => c == 'T' || c == 't' || c == ':' || c == '.' then
      scanMarks { next with hasTime := true } rest
    else if r.holds fun c => c == '+' || c == 'Z' || c == 'z' then
      scanMarks { next with hasZone := true } rest
    else if r.isChar ' ' && !m.hasSpace && rest.head?.any isDigit then
      match rest with
      | [] => (m, r :: rest)
      | [d] => ({ next with taken := d :: next.taken, hasSpace := true, hasTime := true }, [])
      | d :: x :: after =>
        let spaced := { next with hasSpace := true, hasTime := true }
        match x.toBytes with
        | b :: more@(_ :: _) =>
          ({ spaced with taken := .stray b :: d :: spaced.taken }, more.map Rune.stray ++ after)
        | _ => scanMarks { spaced with taken := x :: d :: spaced.taken } after
    else (m, r :: rest)

/-- Cuts a date or a time out of a text. -/
def scan (t : Text) : Moment × Text :=
  let (m, rest) := scanMarks {} t
  (⟨m.kind, m.taken.reverse⟩, rest)

/-! ### Checking -/

/-- Reads decimal digits. -/
def digits (t : Text) : Except ReadError Nat :=
  if t.all isDigit then .ok (Binary64.ofDigits (Binary64.digitValues t))
  else refuse "expected digit (0-9)"

/-- A date in ten runes. -/
def date (t : Text) : Except ReadError Timestamp := do
  if t.length ≠ 10 || !headIs '-' (t.drop 4) || !headIs '-' (t.drop 7) then
    refuse "dates are expected to have the format YYYY-MM-DD"
  let year ← digits (t.take 4)
  let month ← digits ((t.drop 5).take 2)
  let day ← digits (t.drop 8)
  if 1 ≤ month ∧ month ≤ 12 ∧ 1 ≤ day ∧ day ≤ Timestamp.daysIn year month then
    return { year, month, day }
  else refuse "impossible date"

/-- A time of day with the number of digits its fraction is shown in. -/
structure Clock where
  hour : Nat
  minute : Nat
  second : Nat
  /-- Billionths of a second. -/
  nanosecond : Nat := 0
  precision : Nat := 0
  deriving DecidableEq, Repr

/-- The digits after the point of a time, and the rest. Those beyond the ninth are ignored. -/
def fraction (c : Clock) (t : Text) : Except ReadError (Clock × Text) :=
  let ds := t.takeWhile isDigit
  if ds.isEmpty then
    if t.isEmpty then refuse "nanoseconds need at least one digit"
    else refuse "need at least one digit after fraction point"
  else
    let kept := Binary64.digitValues (ds.take 9)
    .ok ({ c with
      nanosecond := Binary64.ofDigits kept * powerOfTen (9 - kept.length)
      precision := kept.length }, t.drop ds.length)

/-- A time of day, and the rest. -/
def clock (t : Text) : Except ReadError (Clock × Text) := do
  if t.length < 8 then refuse "times are expected to have the format HH:MM:SS[.NNNNNN]"
  let hour ← digits (t.take 2)
  if 23 < hour then refuse "hour cannot be greater 23"
  if !headIs ':' (t.drop 2) then refuse "expecting colon between hours and minutes"
  let minute ← digits ((t.drop 3).take 2)
  if 59 < minute then refuse "minutes cannot be greater 59"
  if !headIs ':' (t.drop 5) then refuse "expecting colon between minutes and seconds"
  let second ← digits ((t.drop 6).take 2)
  if 60 < second then refuse "seconds cannot be greater 60"
  let c : Clock := { hour, minute, second }
  match t.drop 8 with
  | .char '.' :: rest => fraction c rest
  | rest => return (c, rest)

/-- A date and a time of day, and the rest. -/
def dateAndClock (t : Text) : Except ReadError (Timestamp × Clock × Text) := do
  if t.length < 11 then
    refuse "local datetimes are expected to have the format YYYY-MM-DDTHH:MM:SS[.NNNNNNNNN]"
  let d ← date (t.take 10)
  match t.drop 10 with
  | joint :: rest =>
    if joint.isChar 'T' || joint.isChar 't' || joint.isChar ' ' then
      let (c, rest) ← clock rest
      return (d, c, rest)
    else refuse "datetime separator is expected to be T or a space"
  | [] => refuse "datetime separator is expected to be T or a space"

/-- The distance of a zone to universal time, in seconds. -/
def zone (t : Text) : Except ReadError Int :=
  match t with
  | .char 'Z' :: rest | .char 'z' :: rest =>
    if rest.isEmpty then .ok 0 else refuse "extra bytes at the end of the timezone"
  | _ => do
    if t.length ≠ 6 then refuse "invalid date-time timezone"
    if !headIs '+' t && !headIs '-' t then refuse "invalid timezone offset character"
    if !headIs ':' (t.drop 3) then refuse "expected a : separator"
    let hours ← digits ((t.drop 1).take 2)
    if 23 < hours then refuse "invalid timezone offset hours"
    let minutes ← digits (t.drop 4)
    if 59 < minutes then refuse "invalid timezone offset minutes"
    let seconds : Int := (hours * 60 + minutes) * 60
    return if headIs '-' t then -seconds else seconds

/-- A time of day as `15:04:05`, with the digits of its fraction. -/
def Clock.text (c : Clock) : List Char :=
  let point := if c.precision = 0 then [] else ['.']
  Timestamp.padded 2 c.hour ++ ':' :: Timestamp.padded 2 c.minute ++
    ':' :: Timestamp.padded 2 c.second ++ point ++
    (Timestamp.padded 9 c.nanosecond).take c.precision

/-- How a date or a time is shown. -/
def text (m : Moment) : Except ReadError Text :=
  match m.kind with
  | .date => do return (← date m.written).dateText.map Rune.char
  | .time => do
    let (c, rest) ← clock m.written
    if !rest.isEmpty then refuse "extra characters at the end of a local time"
    return c.text.map Rune.char
  | .unzoned => do
    let (d, c, rest) ← dateAndClock m.written
    if !rest.isEmpty then refuse "extra characters at the end of a local date time"
    return (d.dateText ++ 'T' :: c.text).map Rune.char
  | .zoned => do
    let (d, c, rest) ← dateAndClock m.written
    let offset ← zone rest
    let ts : Timestamp :=
      { d with
        hour := c.hour, minute := c.minute, second := c.second
        nanosecond := c.nanosecond, offset := some offset }
    return ts.carried.text

end Moment

end StructuralLint.Toml
