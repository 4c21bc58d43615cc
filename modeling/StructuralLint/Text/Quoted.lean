import StructuralLint.Text.Printable
import StructuralLint.Text.Utf8

/-!
# Quoted text

A text in double quotes, on one line, with nothing invisible in it: quotes and backslashes are
escaped, the usual control characters have their letters, other invisible scalars are written
`\xNN`, `\uNNNN` or `\UNNNNNNNN`, and a stray byte is `\xNN`.
-/

namespace StructuralLint

/-- The lower-case hexadecimal digit of a number below sixteen. -/
def hexDigit (n : Nat) : Char :=
  if n < 10 then Char.ofNat (0x30 + n) else Char.ofNat (0x61 + (n - 10))

/-- The last `width` hexadecimal digits of a number. -/
def hexDigits : (width : Nat) → Nat → List Char
  | 0, _ => []
  | width + 1, n => hexDigits width (n / 16) ++ [hexDigit (n % 16)]

namespace Rune

/-- How a rune is written between double quotes. -/
def quoted : Rune → List Char
  | stray b => '\\' :: 'x' :: hexDigits 2 b.toNat
  | char c =>
    if c == '"' || c == '\\' then ['\\', c]
    else if isPrintableChar c then [c]
    else
      match c.toNat with
      | 0x07 => ['\\', 'a']
      | 0x08 => ['\\', 'b']
      | 0x0C => ['\\', 'f']
      | 0x0A => ['\\', 'n']
      | 0x0D => ['\\', 'r']
      | 0x09 => ['\\', 't']
      | 0x0B => ['\\', 'v']
      | n =>
        if n < 0x20 || n == 0x7F then '\\' :: 'x' :: hexDigits 2 n
        else if n < 0x10000 then '\\' :: 'u' :: hexDigits 4 n
        else '\\' :: 'U' :: hexDigits 8 n

end Rune

/-- The text in double quotes. -/
def Text.quoted (t : Text) : Text :=
  .char '"' :: (t.flatMap (fun r => r.quoted.map Rune.char) ++ [.char '"'])

end StructuralLint
