import StructuralLint.Text.Quoted
import StructuralLint.Yaml.Implicit

/-!
# Writing YAML scalars

A text is written plain if it reads back as itself, and otherwise in single quotes, in double
quotes, or, when it has line feeds, as a literal block. A text that is not well-formed UTF-8 is
written as tagged base64. `Yaml.writeScalar` gives everything from the scalar's first character
to the end of its last line.
-/

namespace StructuralLint.Yaml

/-- How a scalar is written. -/
inductive Style where
  | plain
  | single
  | double
  | literal
  deriving DecidableEq, Repr

/-- Whether a scalar breaks lines. -/
def isBreakChar (c : Char) : Bool :=
  c == '\n' || c == '\r' || c == '\x85' || c == '\u2028' || c == '\u2029'

/-- Whether a scalar may be shown as it is. -/
def isShownChar (c : Char) : Bool :=
  let n := c.toNat
  n == 0x0A || (0x20 ≤ n && n ≤ 0x7E) || (0xA0 ≤ n && n ≤ 0xD7FF) ||
    (0xE000 ≤ n && n ≤ 0xFFFD && n != 0xFEFF)

/-- Whether a rune breaks lines. -/
def isBreak : Rune → Bool :=
  Rune.holds isBreakChar

/-- Whether a rune is a space or a tab. -/
def isBlank (r : Rune) : Bool :=
  r.isChar ' ' || r.isChar '\t'

/-- The runes of a text, each with the one before it and the one after it. -/
def inContext (t : Text) : List (Option Rune × Rune × Option Rune) :=
  (none :: t.map some).zip (t.zip ((t.drop 1).map some ++ [none]))

/-- Whether a text has a line break right after a space. -/
def hasSpaceBreak (t : Text) : Bool :=
  (inContext t).any fun (before, r, _) => isBreak r && before = some (.char ' ')

/-- Whether a text has a space right after a line break. -/
def hasBreakSpace (t : Text) : Bool :=
  (inContext t).any fun (before, r, _) => r.isChar ' ' && before.any isBreak

/-- Whether a text has something that no unescaped style can show. -/
def hasSpecial (t : Text) : Bool :=
  t.any fun r => !r.isChar '\t' && !r.holds isShownChar

/-- The characters that cannot start a plain scalar. -/
def leadingIndicators : List Char :=
  ['#', ',', '[', ']', '{', '}', '&', '*', '!', '|', '>', '\x27', '"', '%', '@', '\x60']

/-- Whether a rune, between its neighbours, has a meaning of its own in a plain scalar. -/
def isIndicator (before : Option Rune) (r : Rune) (after : Option Rune) : Bool :=
  let beforeBlank := after.all isBlank
  match before with
  | none =>
    r.holds leadingIndicators.contains ||
      ((r.isChar '?' || r.isChar ':' || r.isChar '-') && beforeBlank)
  | some b =>
    (r.isChar ':' && beforeBlank) || (r.isChar '#' && (isBlank b || isBreak b))

/-- Whether a text starts like a document marker. -/
def startsLikeMarker (t : Text) : Bool :=
  (Text.ofString "---").isPrefixOf t || (Text.ofString "...").isPrefixOf t

/-- Whether single quotes are enough. -/
def singleAllowed (t : Text) : Bool :=
  !hasBreakSpace t && !hasSpaceBreak t && !t.any (Rune.isChar '\t') && !hasSpecial t

/-- Whether no quotes are needed to keep the characters. -/
def plainAllowed (t : Text) : Bool :=
  let edge (r : Option Rune) : Bool := r.any fun r => r.isChar ' ' || isBreak r
  singleAllowed t && !edge t.head? && !edge t.getLast? && !t.any isBreak && !startsLikeMarker t &&
    !(inContext t).any fun (before, r, after) => isIndicator before r after

/-- Whether a literal block keeps the characters. -/
def literalAllowed (t : Text) : Bool :=
  t.getLast? ≠ some (.char ' ') && !hasSpaceBreak t && !hasSpecial t

/-- Whether a text is a number in base sixty, such as `190:20:30`. -/
def isSexagesimal (t : Text) : Bool :=
  let digitOrUnderscore (r : Rune) : Bool := r.holds fun c => c.isDigit || c == '_'
  let place (p : Text) : Bool :=
    match p with
    | [r] => r.holds Char.isDigit
    | [q, r] => q.holds (fun c => '0' ≤ c && c ≤ '5') && r.holds Char.isDigit
    | _ => false
  match Text.splitOn ':' (Integer.splitSign t).2 with
  | [] | [_] => false
  | first :: places =>
    let leading :=
      match first with
      | r :: rest => r.holds Char.isDigit && rest.all digitOrUnderscore
      | [] => false
    let last : Text := places.getLastD []
    let fractionOk := (Text.cut '.' last).2.all (·.all digitOrUnderscore)
    leading && places.dropLast.all place && place (Text.cut '.' last).1 && fractionOk

/-- The words that other readers take for truth values. -/
def looseBooleans : List String :=
  ["y", "Y", "yes", "Yes", "YES", "on", "On", "ON",
   "n", "N", "no", "No", "NO", "off", "Off", "OFF"]

/-- Whether every reader takes the plain text for a string. -/
def isSafeWord (t : Text) : Bool :=
  readsAsString t && !isSexagesimal t && !looseBooleans.any fun w => t = Text.ofString w

/-- The style of a well-formed text; `safe` says that it may go unquoted. -/
def styleOf (safe : Bool) (t : Text) : Style :=
  if t.any (Rune.isChar '\n') then (if literalAllowed t then .literal else .double)
  else if safe then
    (if plainAllowed t then .plain else if singleAllowed t then .single else .double)
  else .double

/-- The upper-case hexadecimal digits of a number. -/
def upperHex (width n : Nat) : List Char :=
  (hexDigits width n).map Char.toUpper

/-- The escape of a character, without its backslash. -/
def escape (c : Char) : List Char :=
  match c.toNat with
  | 0x00 => ['0']
  | 0x07 => ['a']
  | 0x08 => ['b']
  | 0x09 => ['t']
  | 0x0A => ['n']
  | 0x0B => ['v']
  | 0x0C => ['f']
  | 0x0D => ['r']
  | 0x1B => ['e']
  | 0x22 => ['"']
  | 0x5C => ['\\']
  | 0x85 => ['N']
  | 0xA0 => ['_']
  | 0x2028 => ['L']
  | 0x2029 => ['P']
  | n =>
    if n ≤ 0xFF then 'x' :: upperHex 2 n
    else if n ≤ 0xFFFF then 'u' :: upperHex 4 n
    else 'U' :: upperHex 8 n

/-- Whether a character stands for itself between double quotes. -/
def isUnescaped (c : Char) : Bool :=
  isShownChar c && !isBreakChar c && c != '"' && c != '\\'

/-- Spaces. -/
def spaces (n : Nat) : Text :=
  List.replicate n (.char ' ')

/-- A text whose lines after the first are indented. -/
def indentBreaks (indent : Nat) (first : Bool) (t : Text) : Text :=
  (inContext t).flatMap fun (before, r, _) =>
    let afterBreak := match before with
      | none => first
      | some b => isBreak b
    if afterBreak && !isBreak r then spaces indent ++ [r] else [r]

/-- What follows the bar of a literal block: the indent if the text could hide it, and whether
final line breaks are dropped or kept. -/
def literalHints (t : Text) : Text :=
  let indentation : Text :=
    if t.head?.any fun r => r.isChar ' ' || isBreak r then "2" else []
  let chomping : Text :=
    match t.reverse with
    | [] => "-"
    | last :: rest =>
      if !isBreak last then "-"
      else if rest.isEmpty || rest.head?.any isBreak then "+"
      else []
  indentation ++ chomping

/-- The literal block of a text. A leading line break takes the place of the one after the
header. -/
def writeLiteral (indent : Nat) (t : Text) : Text :=
  let opening : Text := if t.head?.any isBreak then [] else "\n"
  let closing : Text := if t.getLast?.any isBreak then [] else "\n"
  .char '|' :: (literalHints t ++ opening ++ indentBreaks indent true t ++ closing)

/-- A text in single quotes. -/
def writeSingle (indent : Nat) (t : Text) : Text :=
  let doubled : Text := t.flatMap fun r => if r.isChar '\x27' then [r, r] else [r]
  Text.ofString "'" ++ indentBreaks indent false doubled ++ Text.ofString "'\n"

/-- A text in double quotes. In one that starts with a byte order mark everything is escaped. -/
def writeDouble (t : Text) : Text :=
  let isMarked := t.head?.any (Rune.isChar '\uFEFF')
  let body : Text := t.flatMap fun r =>
    match r with
    | .char c => if isUnescaped c && !isMarked then [r] else .char '\\' :: (escape c).map .char
    | .stray _ => [r]
  Text.ofString "\"" ++ body ++ Text.ofString "\"\n"

/-- A well-formed text in a style. -/
def writeStyled (indent : Nat) (style : Style) (t : Text) : Text :=
  match style with
  | .plain => t ++ Text.ofString "\n"
  | .single => writeSingle indent t
  | .double => writeDouble t
  | .literal => writeLiteral indent t

/-- The base64 digit of a number below 64. -/
def base64Digit (n : Nat) : Char :=
  if n < 26 then Char.ofNat (0x41 + n)
  else if n < 52 then Char.ofNat (0x61 + (n - 26))
  else if n < 62 then Char.ofNat (0x30 + (n - 52))
  else if n = 62 then '+'
  else '/'

/-- Bytes in base64, padded to a multiple of four digits. -/
def base64 : List UInt8 → List Char
  | a :: b :: c :: rest =>
    let n := a.toNat * 0x10000 + b.toNat * 0x100 + c.toNat
    base64Digit (n / 0x40000) :: base64Digit (n / 0x1000 % 0x40) ::
      base64Digit (n / 0x40 % 0x40) :: base64Digit (n % 0x40) :: base64 rest
  | [a, b] =>
    let n := a.toNat * 0x100 + b.toNat
    [base64Digit (n / 0x400), base64Digit (n / 0x10 % 0x40), base64Digit (n % 0x10 * 4), '=']
  | [a] => [base64Digit (a.toNat / 4), base64Digit (a.toNat % 4 * 0x10), '=', '=']
  | [] => []

/-- The number of base64 digits on a line. -/
def base64LineLength : Nat := 70

/-- Cuts a list into pieces of the given length; `fuel` bounds their number. -/
def chunks {α : Type} (length : Nat) : (fuel : Nat) → List α → List (List α)
  | 0, _ => []
  | fuel + 1, xs => if xs.isEmpty then [] else xs.take length :: chunks length fuel (xs.drop length)

/-- Base64 on one line, or in lines that each end in a line feed when there is more than one. -/
def base64Lines (bytes : List UInt8) : Text :=
  let digits := base64 bytes
  if digits.length < base64LineLength then digits.map .char
  else
    ((chunks base64LineLength digits.length digits).flatMap fun line => line ++ ['\n']).map .char

/-- A text as a YAML scalar whose further lines are indented by `indent`, up to and including
the end of its last line. -/
def writeScalar (indent : Nat) (t : Text) : Text :=
  if t.toString?.isSome then writeStyled indent (styleOf (isSafeWord t) t) t
  else
    let digits := base64Lines t.toBytes
    Text.ofString "!!binary " ++ writeStyled indent (styleOf true digits) digits

end StructuralLint.Yaml
