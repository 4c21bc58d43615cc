import StructuralLint.Settings.Value
import StructuralLint.Toml.Basic

/-!
# TOML numbers

A number is first cut out of the text by the runes it may have, and is read only when the
expression around it is complete. Underscores may stand between digits; integers and
floating-point numbers differ in what they make of the other places.
-/

namespace StructuralLint.Toml

/-! ### Underscores -/

/-- Whether two underscores stand side by side. -/
def hasDoubleUnderscore (t : Text) : Bool :=
  (t.zip t.tail).any fun (a, b) => a.isChar '_' && b.isChar '_'

/-- Drops the underscores of an integer: none may stand at an end or beside another. -/
def dropIntegerUnderscores (t : Text) : Except ReadError Text :=
  let body := (Integer.splitSign t).2
  if headIs '_' body then refuse "number cannot start with underscore"
  else if body.getLast?.any (Rune.isChar '_') then refuse "number cannot end with underscore"
  else if hasDoubleUnderscore t then
    refuse "number must have at least one digit between underscores"
  else .ok (t.filter fun r => !r.isChar '_')

/-- Looks at the underscores of a floating-point number from the left. `afterDigit` says whether
a digit came since the last sign or underscore, `previous` is the rune before. -/
def checkFloatUnderscores (afterDigit : Bool) (previous : Option Rune) :
    Text → Except ReadError Unit
  | [] => .ok ()
  | r :: rest =>
    if r.isChar '_' then
      if !afterDigit then refuse "number must have at least one digit between underscores"
      else if headIs 'e' rest || headIs 'E' rest then
        refuse "cannot have underscore before exponent"
      else checkFloatUnderscores false (some r) rest
    else if r.isChar '+' || r.isChar '-' then checkFloatUnderscores false (some r) rest
    else if r.isChar 'e' || r.isChar 'E' then
      if headIs '_' rest then refuse "cannot have underscore after exponent"
      else checkFloatUnderscores afterDigit (some r) rest
    else if r.isChar '.' then
      if headIs '_' rest then refuse "cannot have underscore after decimal point"
      else if previous.any (Rune.isChar '_') then
        refuse "cannot have underscore before decimal point"
      else checkFloatUnderscores afterDigit (some r) rest
    else checkFloatUnderscores true (some r) rest

/-- Drops the underscores of a floating-point number. -/
def dropFloatUnderscores (t : Text) : Except ReadError Text := do
  if headIs '_' t then refuse "number cannot start with underscore"
  if t.getLast?.any (Rune.isChar '_') then refuse "number cannot end with underscore"
  if t.any (Rune.isChar '_') then checkFloatUnderscores false none t
  return t.filter fun r => !r.isChar '_'

/-! ### Integers -/

/-- The words for a number that cannot be read. -/
def unreadNumber (kind : String) (digits : Text) (e : IntegerError) : ReadError :=
  let why := match e with
    | .malformed => "invalid syntax"
    | .outOfRange => "value out of range"
  ⟨Text.ofString ("couldn't parse " ++ kind ++ " number: strconv.ParseInt: parsing ") ++
    digits.quoted ++ Text.ofString (": " ++ why)⟩

/-- Reads an integer in a base other than ten, after its two letters. -/
def basedInteger (base : Nat) (kind : String) (t : Text) : Except ReadError Int := do
  let digits ← dropIntegerUnderscores t
  (Integer.parseBase base digits).mapError (unreadNumber kind digits)

/-- Reads an integer in base ten. -/
def decimalInteger (t : Text) : Except ReadError Int := do
  let digits ← dropIntegerUnderscores t
  let body := (Integer.splitSign digits).2
  if 1 < body.length && headIs '0' body then
    refuse "leading zero not allowed on decimal number"
  (Integer.parseBase 10 digits).mapError (unreadNumber "decimal" digits)

/-- Reads an integer. -/
def integer (t : Text) : Except ReadError Int :=
  match t with
  | .char '0' :: .char 'x' :: d :: rest => basedInteger 16 "hexadecimal" (d :: rest)
  | .char '0' :: .char 'o' :: d :: rest => basedInteger 8 "octal" (d :: rest)
  | .char '0' :: .char 'b' :: d :: rest => basedInteger 2 "binary" (d :: rest)
  | _ => decimalInteger t

/-! ### Floating-point numbers -/

/-- The numbers that are spelled out. -/
def spelledNumber? (t : Text) : Option Binary64 :=
  if t = Text.ofString "inf" ∨ t = Text.ofString "+inf" then some (.infinite false)
  else if t = Text.ofString "-inf" then some (.infinite true)
  else if t = Text.ofString "nan" ∨ t = Text.ofString "+nan" ∨ t = Text.ofString "-nan" then
    some .nan
  else none

/-- Looks at the points of a number from the left: there is one at most, with digits on both
sides. -/
def checkPoints (seen : Bool) (previous : Option Rune) : Text → Except ReadError Unit
  | [] => .ok ()
  | r :: rest =>
    if r.isChar '.' then
      if seen then refuse "float can have at most one decimal point"
      else if !previous.any isDigit then refuse "float decimal point must be preceded by a digit"
      else if !rest.head?.any isDigit then
        refuse "float decimal point must be followed by a digit"
      else checkPoints true (some r) rest
    else checkPoints seen (some r) rest

/-- Reads a floating-point number. -/
def float (t : Text) : Except ReadError Binary64 := do
  let digits ← dropFloatUnderscores t
  if headIs '.' digits then refuse "float cannot start with a dot"
  if digits.getLast?.any (Rune.isChar '.') then refuse "float cannot end with a dot"
  checkPoints false none digits
  let body := (Integer.splitSign digits).2
  if headIs '0' body && (body.drop 1).head?.any isDigit then
    refuse "float integer part cannot have leading zeroes"
  match spelledNumber? digits with
  | some x => return x
  | none =>
    match (Binary64.readDecimal? digits).map Binary64.ofDecimal? with
    | some (some x) => return x
    | outOfRange? =>
      .error ⟨Text.ofString "unable to parse float: strconv.ParseFloat: parsing " ++
        digits.quoted ++
        Text.ofString
          (if outOfRange?.isSome then ": value out of range" else ": invalid syntax")⟩

end StructuralLint.Toml
