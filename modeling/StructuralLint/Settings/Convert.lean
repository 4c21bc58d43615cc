import StructuralLint.Settings.Value
import StructuralLint.Text.Space

/-!
# Reading settings from data

A setting is a text, a flag, a count or a list of texts, and data of another kind is converted
where that makes sense: a number is a flag that says whether it is zero, a text may spell a flag
or a number, and a single datum is a list of one. What cannot be converted is the empty text,
`false`, zero or the empty list.
-/

namespace StructuralLint

/-- The text of a scalar. -/
def Scalar.text : Scalar → Text
  | .null => []
  | .bool b => if b then "true" else "false"
  | .int n => Text.ofInt n
  | .float x => x.positional
  | .time shown => shown
  | .str t => t

/-- The spellings of the two flags. -/
def flagSpellings : List (String × Bool) :=
  [("1", true), ("t", true), ("T", true), ("true", true), ("TRUE", true), ("True", true),
   ("0", false), ("f", false), ("F", false), ("false", false), ("FALSE", false), ("False", false)]

/-- The flag that a text spells. -/
def spelledFlag? (t : Text) : Option Bool :=
  (flagSpellings.find? fun e => t = Text.ofString e.1).map (·.2)

/-- The flag that a scalar stands for. -/
def Scalar.flag : Scalar → Bool
  | .null => false
  | .bool b => b
  | .int n => n ≠ 0
  | .float x => !x.isZero
  | .time _ => false
  | .str t => (spelledFlag? t).getD false

/-- A decimal without its fraction; any other text as it is. -/
def dropFraction (t : Text) : Text :=
  let (signed, fraction) := t.cut '.'
  match fraction with
  | none => t
  | some fraction =>
    let digits := match signed with
      | .char '-' :: digits | .char '+' :: digits => digits
      | digits => digits
    if digits.all (Rune.holds Char.isDigit) && fraction.all (Rune.holds Char.isDigit) then
      if digits.isEmpty then signed ++ Text.ofString "0" else signed
    else t

/-- The count that a scalar stands for, as a 64-bit number. -/
def Scalar.count : Scalar → Int64
  | .null => 0
  | .bool b => if b then 1 else 0
  | .int n => Int64.ofInt n
  | .float x => Int64.ofInt x.truncated
  | .time _ => 0
  | .str t =>
    if t.isEmpty then 0
    else
      match Integer.parse (dropFraction t) with
      | .ok n => Int64.ofInt n
      | .error _ => 0

namespace Value

/-- The text of a value; a collection has none. -/
def text? : Value → Option Text
  | scalar s => some s.text
  | _ => none

/-- The text of a value, empty for a collection. -/
def text (v : Value) : Text :=
  v.text?.getD []

/-- The flag that a value stands for. -/
def flag : Value → Bool
  | scalar s => s.flag
  | _ => false

/-- The count that a value stands for. -/
def count : Value → Int64
  | scalar s => s.count
  | _ => 0

/-- The texts that a value stands for: the words of a text, the texts of the items of a list,
or the text of any other scalar. A list with a collection in it stands for none. -/
def texts : Value → List Text
  | scalar .null => []
  | scalar (.str t) => t.words
  | scalar s => [s.text]
  | list items => (items.mapM text?).getD []
  | map _ => []

end Value

end StructuralLint
