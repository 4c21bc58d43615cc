import StructuralLint.Number.Power
import StructuralLint.Text.Basic

/-!
# Integer literals

Integers of 64 bits as programs write them: an optional sign, an optional base (`0x`, `0o`, `0b`,
or a bare leading zero for octal), digits, and underscores between digits. A literal is refused
as malformed or as out of range, whichever shows first from the left.
-/

namespace StructuralLint

/-- Why a literal denotes no integer. -/
inductive IntegerError where
  /-- It is not written as an integer. -/
  | malformed
  /-- It needs more than 64 bits. -/
  | outOfRange
  deriving DecidableEq, Repr

namespace Integer

/-- The value of a digit, letters counting on from ten. -/
def digitValue? (c : Char) : Option Nat :=
  if '0' ≤ c ∧ c ≤ '9' then some (c.toNat - 0x30)
  else if 'a' ≤ c ∧ c ≤ 'z' then some (c.toNat - 0x61 + 10)
  else if 'A' ≤ c ∧ c ≤ 'Z' then some (c.toNat - 0x41 + 10)
  else none

/-- Reads digits of a base onto a number below `2 ^ 64`; underscores are passed over if
`underscores` allows them. -/
def readDigits (base : Nat) (underscores : Bool) (n : Nat) : Text → Except IntegerError Nat
  | [] => .ok n
  | .stray _ :: _ => .error .malformed
  | .char c :: rest =>
    if underscores && c == '_' then readDigits base underscores n rest
    else
      match digitValue? c with
      | none => .error .malformed
      | some d =>
        if base ≤ d then .error .malformed
        else if unsignedLimit ≤ n * base + d then .error .outOfRange
        else readDigits base underscores (n * base + d) rest

/-- What stands before a position, for the rule on underscores. -/
inductive Preceding where
  | start
  | digit
  | underscore
  | other
  deriving DecidableEq, Repr

/-- Whether every underscore stands between digits; a base prefix counts as a digit. -/
def underscoresSeparateDigits (isHex : Bool) (before : Preceding) : Text → Bool
  | [] => before ≠ .underscore
  | r :: rest =>
    let isDigit := r.holds fun c =>
      c.isDigit || (isHex && (('a' ≤ c && c ≤ 'f') || ('A' ≤ c && c ≤ 'F')))
    if isDigit then underscoresSeparateDigits isHex .digit rest
    else if r.isChar '_' then
      before = .digit && underscoresSeparateDigits isHex .underscore rest
    else before ≠ .underscore && underscoresSeparateDigits isHex .other rest

/-- Splits off a sign: whether it is a minus, and the rest. -/
def splitSign : Text → Bool × Text
  | .char '-' :: rest => (true, rest)
  | .char '+' :: rest => (false, rest)
  | t => (false, t)

/-- Whether the underscores of a literal are where they may be. -/
def underscoresAllowed (t : Text) : Bool :=
  match (splitSign t).2 with
  | .char '0' :: .char b :: rest =>
    let b := b.toLower
    if b == 'b' || b == 'o' || b == 'x' then
      underscoresSeparateDigits (b == 'x') .digit rest
    else underscoresSeparateDigits false .digit (.char b :: rest)
  | body => underscoresSeparateDigits false .start body

/-- The base of an unsigned literal, and its digits. -/
def splitBase : Text → Nat × Text
  | .char '0' :: .char b :: c :: rest =>
    let l := b.toLower
    if l == 'b' then (2, c :: rest)
    else if l == 'o' then (8, c :: rest)
    else if l == 'x' then (16, c :: rest)
    else (8, .char b :: c :: rest)
  | .char '0' :: rest => (8, rest)
  | t => (10, t)

/-- The magnitude of an unsigned literal in any base. -/
def magnitude (body whole : Text) : Except IntegerError Nat :=
  if body.isEmpty then .error .malformed
  else do
    let (base, digits) := splitBase body
    let n ← readDigits base true 0 digits
    if digits.any (Rune.isChar '_') && !underscoresAllowed whole then .error .malformed
    else .ok n

/-- Applies a sign to a magnitude, within the 64-bit signed range. -/
def withSign (negative : Bool) (n : Nat) : Except IntegerError Int :=
  if negative then (if n ≤ signedLimit then .ok (-(n : Int)) else .error .outOfRange)
  else if n < signedLimit then .ok n
  else .error .outOfRange

/-- Reads a signed literal whose base is given by its own notation. -/
def parse (t : Text) : Except IntegerError Int := do
  let (negative, body) := splitSign t
  withSign negative (← magnitude body t)

/-- Reads an unsigned literal whose base is given by its own notation. -/
def parseUnsigned (t : Text) : Except IntegerError Nat :=
  magnitude t t

/-- Reads a signed number with digits of the given base. -/
def parseBase (base : Nat) (t : Text) : Except IntegerError Int :=
  let (negative, body) := splitSign t
  if body.isEmpty then .error .malformed
  else do withSign negative (← readDigits base false 0 body)

/-- Reads an unsigned number with digits of the given base. -/
def parseUnsignedBase (base : Nat) (t : Text) : Except IntegerError Nat :=
  if t.isEmpty then .error .malformed else readDigits base false 0 t

end Integer

end StructuralLint
