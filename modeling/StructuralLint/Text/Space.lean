import StructuralLint.Text.Basic

/-!
# White space

Two notions of white space meet in this library. `Char.isBlank` is Unicode's `White_Space`
property and is what trimming removes. `Char.isPatternSpace` is the smaller, ASCII class of
the key grammar: tab, line feed, form feed, carriage return and space, without the vertical
tab. A stray byte is in neither.
-/

namespace StructuralLint

/-- The Unicode property `White_Space`. -/
def isBlankChar (c : Char) : Bool :=
  let n := c.toNat
  (0x09 ≤ n && n ≤ 0x0D) || n == 0x20 || n == 0x85 || n == 0xA0 || n == 0x1680 ||
    (0x2000 ≤ n && n ≤ 0x200A) || n == 0x2028 || n == 0x2029 || n == 0x202F || n == 0x205F ||
    n == 0x3000

/-- The white space of the key grammar. -/
def isPatternSpaceChar (c : Char) : Bool :=
  c == '\t' || c == '\n' || c == '\x0c' || c == '\r' || c == ' '

namespace Rune

/-- Whether trimming removes the rune. -/
def isBlank : Rune → Bool :=
  holds isBlankChar

/-- Whether the key grammar passes over the rune. -/
def isPatternSpace : Rune → Bool :=
  holds isPatternSpaceChar

end Rune

namespace Text

/-- The text without its leading white space. -/
def trimStart (t : Text) : Text :=
  t.dropWhile Rune.isBlank

/-- The text without its trailing white space. -/
def trimEnd (t : Text) : Text :=
  (t.reverse.dropWhile Rune.isBlank).reverse

/-- The text without white space at either end. -/
def trim (t : Text) : Text :=
  trimEnd (trimStart t)

/-- The maximal runs of runes that are not white space. -/
def words (t : Text) : List Text :=
  let pieces := t.foldr
    (fun r (acc : Text × List Text) =>
      if r.isBlank then ([], if acc.1.isEmpty then acc.2 else acc.1 :: acc.2)
      else (r :: acc.1, acc.2))
    ([], [])
  if pieces.1.isEmpty then pieces.2 else pieces.1 :: pieces.2

end Text

end StructuralLint
