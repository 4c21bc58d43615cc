import StructuralLint.Text.Quoted
import StructuralLint.Text.Utf8

/-!
# TOML texts

What every reader of a TOML text needs: the errors, the classes of runes, and the names of
characters in messages. A reader takes the text from where it stands and gives what it read with
the text after it.
-/

namespace StructuralLint.Toml

/-- What is wrong with a TOML text, in words. -/
structure ReadError where
  reason : Text
  deriving DecidableEq, Repr

/-- The wording of an error. -/
def ReadError.message (e : ReadError) : Text :=
  Text.ofString "toml: " ++ e.reason

/-- Refuses a text. -/
def refuse {α : Type} (reason : String) : Except ReadError α :=
  .error ⟨Text.ofString reason⟩

/-- The first byte of a rune as a character of its own. -/
def firstByte (r : Rune) : Char :=
  Char.ofNat ((r.toBytes.head?).map UInt8.toNat |>.getD 0)

/-- A character by its number, and as itself if it can be shown. -/
def numbered (c : Char) : Text :=
  let digits := Nat.toDigits 16 c.toNat |>.map Char.toUpper
  let padded := List.replicate (4 - digits.length) '0' ++ digits
  let shown : List Char := if isPrintableChar c then [' ', '\x27', c, '\x27'] else []
  (['U', '+'] ++ padded ++ shown).map Rune.char

/-- Refuses a rune, which is named by its first byte. -/
def refuseRune {α : Type} (reason : String) (r : Rune) : Except ReadError α :=
  .error ⟨Text.ofString reason ++ numbered (firstByte r)⟩

/-- Whether a rune may stand in a string or a comment: no stray byte and no control character
but the tab and those of line breaks. -/
def isPlain : Rune → Bool :=
  Rune.holds fun c =>
    c == '\t' || c == '\n' || c == '\r' || (0x20 ≤ c.toNat && c.toNat ≠ 0x7F)

/-- A space or a tab. -/
def isGap (r : Rune) : Bool :=
  r.isChar ' ' || r.isChar '\t'

/-- Passes over spaces and tabs. -/
def skipGaps (t : Text) : Text :=
  t.dropWhile isGap

/-- Whether a text starts with some characters. -/
def startsWith (s : String) (t : Text) : Bool :=
  (Text.ofString s).isPrefixOf t

/-- Whether the first rune of a text is a given character. -/
def headIs (c : Char) (t : Text) : Bool :=
  t.head?.any (Rune.isChar c)

/-- A decimal digit. -/
def isDigit : Rune → Bool :=
  Rune.holds Char.isDigit

/-- Passes over one given character. -/
def expect (c : Char) (t : Text) : Except ReadError Text :=
  match t with
  | [] => refuse ("expected character " ++ String.singleton c ++ " but the document ended here")
  | r :: rest =>
    if r.isChar c then .ok rest else refuse ("expected character " ++ String.singleton c)

/-- Passes over a comment, up to the end of its line. -/
def skipComment : Text → Except ReadError Text
  | [] => .ok []
  | .char '\n' :: rest => .ok (.char '\n' :: rest)
  | .char '\r' :: rest =>
    if headIs '\n' rest then .ok (.char '\r' :: rest) else refuse "invalid character in comment"
  | r :: rest => if isPlain r then skipComment rest else refuse "invalid character in comment"

/-- Passes over a line break. -/
def skipBreak : Text → Except ReadError Text
  | [] => .ok []
  | .char '\n' :: rest => .ok rest
  | .char '\r' :: rest =>
    match rest with
    | [] => refuse "windows new line expected"
    | .char '\n' :: rest => .ok rest
    | _ => refuse "windows new line should be \\r\\n"
  | r :: _ => refuseRune "expected newline but got " r

end StructuralLint.Toml
