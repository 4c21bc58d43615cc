import StructuralLint.Text.Basic

/-!
# Lines

A document is a list of lines, each with its 0-based index. Indices and line numbers are
64-bit words and wrap around; `Line.number` is the 1-based number that findings carry.

`Line.ofTexts` numbers a list of texts and `Line.split` cuts an in-memory document at its line
feeds. A final line feed ends the last line and starts no new one.
-/

namespace StructuralLint

/-- One line of a document, without its line feed. -/
structure Line where
  /-- The 0-based position in the document. -/
  index : Int64
  /-- What stands on the line. -/
  text : Text
  deriving DecidableEq, Repr, Inhabited

namespace Line

/-- The 1-based line number. -/
def number (line : Line) : Int64 :=
  line.index + 1

/-- Numbers texts from the given position on. -/
def ofTextsFrom (start : Nat) : List Text → List Line
  | [] => []
  | t :: ts => ⟨Int64.ofNat start, t⟩ :: ofTextsFrom (start + 1) ts

/-- Numbers texts from zero. -/
def ofTexts (texts : List Text) : List Line :=
  ofTextsFrom 0 texts

/-- Drops one final occurrence of the scalar, if the text ends in it. -/
def dropFinal (c : Char) (t : Text) : Text :=
  match t.getLast? with
  | some r => if r.isChar c then t.dropLast else t
  | none => t

/-- The lines of an in-memory document. -/
def split (document : Text) : List Line :=
  if document.isEmpty then []
  else ofTexts (Text.splitOn '\n' (dropFinal '\n' document))

end Line

end StructuralLint
