import StructuralLint.Number.Integer

/-!
# Binary floating point

Numbers of the 64-bit binary format as exact pairs of significand and exponent, so that reading
a decimal (to the nearest number, ties to even) and writing the shortest decimal that reads
back are plain arithmetic on natural numbers.
-/

namespace StructuralLint

/-- A number of the 64-bit binary format. -/
inductive Binary64 where
  /-- The number `significand * 2 ^ exponent`, with its sign. -/
  | finite (negative : Bool) (significand : Nat) (exponent : Int)
  /-- An infinity. -/
  | infinite (negative : Bool)
  /-- Not a number. -/
  | nan
  deriving DecidableEq, Repr, Inhabited

namespace Binary64

/-- The quotient rounded to the nearest integer, a tie to the even one. -/
def roundedQuotient (num den : Nat) : Nat :=
  let q := num / den
  let r := num % den
  if den < 2 * r then q + 1
  else if 2 * r = den ∧ q % 2 = 1 then q + 1
  else q

/-- The least exponent of the format. -/
def minExponent : Int := -1074

/-- The greatest exponent of the format. -/
def maxExponent : Int := 971

/-- The quotient `num / den` scaled down by `2 ^ e` and rounded. -/
def scaled (num den : Nat) (e : Int) : Nat :=
  if 0 ≤ e then roundedQuotient num (den * powerOfTwo e.toNat)
  else roundedQuotient (num * powerOfTwo (-e).toNat) den

/-- The number nearest to `num / den`; `none` beyond the largest number. -/
def ofRatio? (negative : Bool) (num den : Nat) : Option Binary64 :=
  if num = 0 then some (finite negative 0 minExponent)
  else
    -- The exponent that leaves 53 binary digits, give or take one.
    let guess : Int := (Nat.log2 num : Int) - (Nat.log2 den : Int) - 52
    let e₀ := if guess < minExponent then minExponent else guess
    let m₀ := scaled num den e₀
    -- One digit too few: take a finer exponent.
    let e₁ := if m₀ < powerOfTwo 52 ∧ minExponent < e₀ then e₀ - 1 else e₀
    let m₁ := scaled num den e₁
    -- Rounding may carry into one digit more.
    let (m, e) := if powerOfTwo 53 ≤ m₁ then (scaled num den (e₁ + 1), e₁ + 1) else (m₁, e₁)
    if maxExponent < e then none else some (finite negative m e)

/-- A decimal literal taken apart: digits without leading zeros, and the power of ten of the
last of them. -/
structure Decimal where
  /-- Whether there is a minus. -/
  negative : Bool
  /-- The digits read as one number. -/
  digits : Nat
  /-- How many digits that number has. -/
  width : Nat
  /-- The power of ten. -/
  exponent : Int
  deriving DecidableEq, Repr

/-- The number nearest to a decimal; `none` beyond the largest number. -/
def ofDecimal? (d : Decimal) : Option Binary64 :=
  let position := (d.width : Int) + d.exponent
  if d.digits = 0 ∨ position < -330 then some (finite d.negative 0 minExponent)
  else if 310 < position then none
  else if 0 ≤ d.exponent then ofRatio? d.negative (d.digits * powerOfTen d.exponent.toNat) 1
  else ofRatio? d.negative d.digits (powerOfTen (-d.exponent).toNat)

/-- The decimal digits of a text, as numbers. -/
def digitValues (t : Text) : List Nat :=
  t.filterMap fun r =>
    match r with
    | .char c => if c.isDigit then some (c.toNat - 0x30) else none
    | .stray _ => none

/-- The number with the given decimal digits. -/
def ofDigits (ds : List Nat) : Nat :=
  ds.foldl (fun n d => n * 10 + d) 0

/-- Reads the exponent part of a literal, the letter `e` included; an absent part is zero. -/
def readExponent? : Text → Option Int
  | [] => some 0
  | .char 'e' :: rest | .char 'E' :: rest =>
    let (negative, digits) := Integer.splitSign rest
    if digits.isEmpty || !digits.all (Rune.holds Char.isDigit) then none
    else
      -- Exponents beyond this size all mean the same.
      let n : Int := ofDigits ((digitValues digits).dropWhile (· = 0) |>.take 6)
      some (if negative then -n else n)
  | _ => none

/-- Takes apart a decimal literal: sign, digits with at most one point and at least one digit,
and an exponent. -/
def readDecimal? (t : Text) : Option Decimal := do
  let (negative, body) := Integer.splitSign t
  let whole := body.takeWhile (Rune.holds Char.isDigit)
  let rest := body.drop whole.length
  let (fraction, tail) : Text × Text :=
    match rest with
    | .char '.' :: rest =>
      (rest.takeWhile (Rune.holds Char.isDigit), rest.dropWhile (Rune.holds Char.isDigit))
    | _ => ([], rest)
  if whole.isEmpty && fraction.isEmpty then none
  else
    let e ← readExponent? tail
    let ds := (digitValues (whole ++ fraction)).dropWhile (· = 0)
    some ⟨negative, ofDigits ds, ds.length, e - fraction.length⟩

/-- Reads a decimal literal, in which underscores may separate digits. -/
def parse? (t : Text) : Option Binary64 :=
  if t.any (Rune.isChar '_') && !Integer.underscoresAllowed t then none
  else (readDecimal? (t.filter fun r => !r.isChar '_')).bind ofDecimal?

/-- Whether the decimal `n * 10 ^ k` reads back as the number `m * 2 ^ e`. -/
def readsBack (m : Nat) (e : Int) (n : Nat) (k : Int) : Bool :=
  let value :=
    if 0 ≤ k then ofRatio? false (n * powerOfTen k.toNat) 1
    else ofRatio? false n (powerOfTen (-k).toNat)
  value = some (finite false m e)

/-- The number `m * 2 ^ e` in units of `10 ^ k`, as a fraction. -/
def inUnits (m : Nat) (e k : Int) : Nat × Nat :=
  let num := m * powerOfTwo e.toNat * powerOfTen (-k).toNat
  let den := powerOfTwo (-e).toNat * powerOfTen k.toNat
  (num, den)

/-- The decimal closest to `m * 2 ^ e` on the grid of multiples of `10 ^ k`, if it reads back. -/
def onGrid? (m : Nat) (e k : Int) : Option (Nat × Int) :=
  let (num, den) := inUnits m e k
  let down := num / den
  let up := down + 1
  let near := if 2 * (num % den) ≤ den then [down, up] else [up, down]
  (near.find? fun n => n ≠ 0 && readsBack m e n k).map fun n => (n, k)

/-- The number of decimal digits. -/
def decimalWidth (n : Nat) : Nat :=
  (Nat.toDigits 10 n).length

/-- The shortest decimal that reads back as `m * 2 ^ e`: grids are tried from coarse to fine. -/
def shortest (m : Nat) (e : Int) : Nat × Int :=
  if m = 0 then (0, 0)
  else
    let (num, den) := inUnits m e 0
    -- The power of ten of the leading digit, or one more.
    let top : Int :=
      if den ≤ num then decimalWidth (num / den)
      else 1 - (decimalWidth (den / num) : Int)
    ((List.range 20).findSome? fun (i : Nat) => onGrid? m e (top - i)).getD (num / den, 0)

/-- Writes a number without exponent, in the fewest digits that read back. -/
def positional : Binary64 → Text
  | nan => "NaN"
  | infinite negative => if negative then "-Inf" else "+Inf"
  | finite negative m e =>
    let (n, k) := shortest m e
    let digits := Nat.toDigits 10 n
    let body : List Char :=
      if 0 ≤ k then digits ++ (if n = 0 then [] else List.replicate k.toNat '0')
      else
        let places := (-k).toNat
        let padded := List.replicate (places + 1 - digits.length) '0' ++ digits
        let whole := padded.take (padded.length - places)
        let fraction := padded.drop (padded.length - places)
        -- The grid may be finer than needed by zeros only.
        let fraction := (fraction.reverse.dropWhile (· == '0')).reverse
        if fraction.isEmpty then whole else whole ++ '.' :: fraction
    ((if negative then ['-'] else []) ++ body).map .char

/-- A decimal digit, a point and the other digits if there are any, and the power of ten in two
digits or more. -/
def scientific (digits : List Char) (exponent : Int) : List Char :=
  let power := Nat.toDigits 10 exponent.natAbs
  let tail := digits.drop 1
  digits.take 1 ++ (if tail.isEmpty then [] else '.' :: tail) ++
    'e' :: (if exponent < 0 then '-' else '+') :: (List.replicate (2 - power.length) '0' ++ power)

/-- Writes a number in the fewest digits that read back, with a power of ten where the first of
them stands for less than a ten-thousandth, or for a million and more. -/
def compact : Binary64 → Text
  | finite negative m e =>
    let (n, k) := shortest m e
    let digits := Nat.toDigits 10 n
    let exponent : Int := digits.length - 1 + k
    if m = 0 ∨ (-4 ≤ exponent ∧ exponent < 6) then (finite negative m e).positional
    else
      let digits := (digits.reverse.dropWhile (· == '0')).reverse
      ((if negative then ['-'] else []) ++ scientific digits exponent).map .char
  | x => x.positional

/-- Where a number stands among all others, in units of the least positive one. The infinities
lie beyond all numbers, and what is not a number comes first. -/
def rank : Binary64 → Int
  | finite negative m e =>
    let n : Int := (m * powerOfTwo (e - minExponent).toNat : Nat)
    if negative then -n else n
  | infinite negative => if negative then -(powerOfTwo 2100 : Int) else powerOfTwo 2100
  | nan => -(powerOfTwo 2100 : Int) - 1

/-- The integer part of a number that fits into 64 bits, else the least 64-bit integer. -/
def truncated : Binary64 → Int
  | finite negative m e =>
    let n : Int :=
      if 0 ≤ e then (m * powerOfTwo e.toNat : Nat) else (m / powerOfTwo (-e).toNat : Nat)
    let n := if negative then -n else n
    if -(signedLimit : Int) ≤ n ∧ n < signedLimit then n else -(signedLimit : Int)
  | _ => -(signedLimit : Int)

/-- Whether the number is a zero. -/
def isZero : Binary64 → Bool
  | finite _ m _ => m = 0
  | _ => false

/-- The number nearest to an integer. -/
def ofInt (n : Int) : Binary64 :=
  (ofRatio? (n < 0) n.natAbs 1).getD nan

end Binary64

end StructuralLint
