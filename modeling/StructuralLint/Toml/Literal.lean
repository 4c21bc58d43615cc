import StructuralLint.Toml.Moment
import StructuralLint.Toml.Number
import StructuralLint.Toml.Quoted

/-!
# TOML literals

Values without parts. A literal is cut out of the text first and keeps the runes it is written
in; what a number or a date denotes is asked later, when the whole expression around it has been
read and its key is known to be new.
-/

namespace StructuralLint.Toml

/-- A value without parts, as it is written. -/
inductive Literal where
  | bool (b : Bool)
  | string (t : Text)
  | integer (written : Text)
  | float (written : Text)
  | moment (m : Moment)
  deriving DecidableEq, Repr, Inhabited

/-- What a literal denotes. -/
def Literal.scalar : Literal → Except ReadError Scalar
  | bool b => .ok (.bool b)
  | string t => .ok (.str t)
  | integer t => (Toml.integer t).map .int
  | float t => (Toml.float t).map .float
  | moment m => m.text.map .time

/-- A rune of a decimal number. -/
def isNumberRune (r : Rune) : Bool :=
  isDigit r || r.holds fun c => c == '+' || c == '-' || c == '_' || c == '.' || c == 'e' || c == 'E'

/-- Cuts out a number in base ten, or one that is spelled out. -/
def scanDecimal (t : Text) : Except ReadError (Literal × Text) :=
  let run := t.takeWhile isNumberRune
  let rest := t.drop run.length
  if startsWith "inf" rest || startsWith "nan" rest then
    .ok (.float (run ++ rest.take 3), rest.drop 3)
  else if headIs 'i' rest then refuse "unexpected character 'i' while scanning for a number"
  else if headIs 'n' rest then refuse "unexpected character 'n' while scanning for a number"
  else if run.isEmpty then refuse "incomplete number"
  else if run.any fun r => r.isChar '.' || r.isChar 'e' || r.isChar 'E' then
    .ok (.float run, rest)
  else .ok (.integer run, rest)

/-- Whether a rune is an underscore or a digit of a base. -/
def isDigitOf (base : Nat) (r : Rune) : Bool :=
  r.isChar '_' || r.holds fun c => (Integer.digitValue? c).any (· < base)

/-- The base that the letter after a zero tells. -/
def base? (r : Rune) : Option Nat :=
  if r.isChar 'x' then some 16
  else if r.isChar 'o' then some 8
  else if r.isChar 'b' then some 2
  else none

/-- Cuts out a number. A zero with anything but a base, a point or an exponent after it stands
alone. -/
def scanNumber (t : Text) : Except ReadError (Literal × Text) :=
  match t with
  | .char '0' :: r :: d :: rest =>
    if r.isChar '.' || r.isChar 'e' || r.isChar 'E' then scanDecimal t
    else
      match base? r with
      | some base =>
        let run := (d :: rest).takeWhile (isDigitOf base)
        .ok (.integer (.char '0' :: r :: run), (d :: rest).drop run.length)
      | none => .ok (.integer [.char '0'], r :: d :: rest)
  | _ => scanDecimal t

/-- Reads a number or a date. -/
def scanNumberOrMoment (t : Text) : Except ReadError (Literal × Text) :=
  if headIs 'i' t && !startsWith "inf" t then refuse "expected 'inf'"
  else if headIs 'n' t && !startsWith "nan" t then refuse "expected 'nan'"
  else if Moment.starts t then
    let (m, rest) := Moment.scan t
    .ok (.moment m, rest)
  else scanNumber t

end StructuralLint.Toml
