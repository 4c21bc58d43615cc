/-!
# Text

Everything this library reads is a byte string that is *meant* to be UTF-8 and need not be.
`Text` keeps both cases apart once and for all: it is a list of runes, and a rune is either
a Unicode scalar value or one byte that belongs to no encoded scalar. All rules of the
library (trimming, cutting at a colon, lower-casing, quoting) are list functions on runes, and
only the size limits look at bytes.

`Text.ofBytes` reads a byte string and `Text.toBytes` writes it back; the decoder itself is in
`StructuralLint.Text.Utf8`.
-/

namespace StructuralLint

/-- One unit of text: a Unicode scalar value, or a byte that is part of none. -/
inductive Rune where
  /-- A well-encoded scalar value. -/
  | char (c : Char)
  /-- A byte that starts no well-formed sequence. -/
  | stray (b : UInt8)
  deriving DecidableEq, Repr, Inhabited

/-- A byte string, seen as runes. -/
abbrev Text := List Rune

namespace Rune

/-- The number of bytes a rune takes. -/
def size : Rune → Nat
  | char c => c.utf8Size
  | stray _ => 1

/-- Whether the rune is the given scalar. -/
def isChar (c : Char) : Rune → Bool
  | char d => d == c
  | stray _ => false

/-- Whether the rune is a scalar that satisfies `p`; a stray byte satisfies nothing. -/
def holds (p : Char → Bool) : Rune → Bool
  | char c => p c
  | stray _ => false

end Rune

namespace Text

/-- The text of a string. -/
def ofString (s : String) : Text :=
  s.toList.map .char

instance : Coe String Text := ⟨ofString⟩

/-- The number of bytes of a text. -/
def size (t : Text) : Nat :=
  t.foldl (fun n r => n + r.size) 0

/-- The scalars of a text that has no stray byte. -/
def scalars? (t : Text) : Option (List Char) :=
  t.foldr
    (fun r acc =>
      match r, acc with
      | .char c, some cs => some (c :: cs)
      | _, _ => none)
    (some [])

/-- The text between separators; there is always at least one piece. -/
def splitOn (sep : Char) (t : Text) : List Text :=
  t.foldr
    (fun r acc =>
      if r.isChar sep then [] :: acc
      else
        match acc with
        | [] => [[r]]
        | p :: ps => (r :: p) :: ps)
    [[]]

/-- The texts with a separator between neighbours. -/
def joinWith (sep : Text) : List Text → Text
  | [] => []
  | t :: ts => t ++ ts.flatMap (sep ++ ·)

/-- The text before the first separator and, when there is one, the text after it. -/
def cut (sep : Char) (t : Text) : Text × Option Text :=
  match t.dropWhile (fun r => !r.isChar sep) with
  | [] => (t, none)
  | _ :: rest => (t.takeWhile (fun r => !r.isChar sep), some rest)

/-- The decimal text of an integer. -/
def ofInt (n : Int) : Text :=
  ofString (toString n)

end Text

end StructuralLint
