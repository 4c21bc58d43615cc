import StructuralLint.Settings.Convert
import StructuralLint.Text.Quoted
import StructuralLint.Time.Timestamp

/-!
# Data of a YAML document

What the trees of a document denote, before it becomes configuration data. Unlike configuration
data, a map here may have keys of every kind of atom: it is *textual* if all keys of the mapping
it comes from are texts, and only a map that is not textual can have others. Two keys are the
same if they are of one kind and equal, where the two zeros are equal and what is not a number is
equal to nothing.

`Datum.literal` spells a datum out with the type of every collection in it. It sorts the keys of
a map, so that the spelling does not depend on the order of the entries. `Datum.value` is the
configuration data that a datum stands for.
-/

namespace StructuralLint.Yaml

/-- What a scalar denotes. -/
inductive Atom where
  | null
  | bool (b : Bool)
  | int (n : Int)
  | float (x : Binary64)
  | time (ts : Timestamp)
  | str (t : Text)
  deriving DecidableEq, Repr, Inhabited

/-- What a tree denotes. -/
inductive Datum where
  | atom (a : Atom)
  | list (items : List Datum)
  | map (isTextual : Bool) (entries : List (Atom × Datum))
  deriving Repr, Inhabited

namespace Atom

/-- The configuration data of an atom. -/
def scalar : Atom → Scalar
  | null => .null
  | bool b => .bool b
  | int n => .int n
  | float x => .float x
  | time ts => .time ts.text
  | str t => .str t

/-- Whether two keys are the same. -/
def isSameKey : Atom → Atom → Bool
  | float x, float y => x ≠ .nan && x.rank = y.rank
  | a, b => a = b

/-! ### Spelling out -/

/-- The months by name. -/
def monthNames : List String :=
  ["January", "February", "March", "April", "May", "June", "July", "August", "September",
   "October", "November", "December"]

/-- How the zone of a point in time is spelled out. -/
def zoneLiteral : Option Int → String
  | none => "time.UTC"
  | some offset => if offset = 0 then "time.Local" else "time.Location(\"\")"

/-- A point in time spelled out. -/
def timeLiteral (ts : Timestamp) : Text :=
  let parts : List Text :=
    [Text.ofInt ts.year, Text.ofString ("time." ++ monthNames.getD (ts.month - 1) ""),
     Text.ofInt ts.day, Text.ofInt ts.hour, Text.ofInt ts.minute, Text.ofInt ts.second,
     Text.ofInt ts.nanosecond, Text.ofString (zoneLiteral ts.offset)]
  Text.ofString "time.Date(" ++ Text.joinWith (Text.ofString ", ") parts ++ Text.ofString ")"

/-- An atom spelled out. Integers that need all 64 bits are in hexadecimal. -/
def literal : Atom → Text
  | null => "interface \x7b\x7d(nil)"
  | bool b => if b then "true" else "false"
  | int n =>
    if n < (signedLimit : Int) then Text.ofInt n
    else (("0x".toList ++ Nat.toDigits 16 n.toNat).map .char)
  | float x => x.compact
  | time ts => timeLiteral ts
  | str t => t.quoted

/-- The kinds of keys in their order. -/
def kindRank : Atom → Nat
  | null => 0
  | str _ => 1
  | bool _ => 2
  | int n => if n < (signedLimit : Int) then 3 else 4
  | float _ => 5
  | time _ => 6

/-- Whether one list of numbers comes before another of the same length or is the same. -/
def lexLe : List Int → List Int → Bool
  | a :: as, b :: bs => a < b || (a = b && lexLe as bs)
  | _, _ => true

/-- What points in time are sorted by: the fraction of the second first. -/
def timeRank (ts : Timestamp) : List Int :=
  [ts.nanosecond, ts.seconds, if ts.offset.isSome then 1 else 0, ts.offset.getD 0]

/-- Whether a key is written before another or at its place: keys go by kind, then by value. -/
def le : Atom → Atom → Bool
  | int a, int b => a ≤ b
  | str a, str b => Text.byteLe a b
  | bool a, bool b => !a || b
  | float a, float b => a.rank ≤ b.rank
  | time a, time b => lexLe (timeRank a) (timeRank b)
  | a, b => a.kindRank ≤ b.kindRank

end Atom

namespace Datum

/-- The type of a map. -/
def mapType (isTextual : Bool) : String :=
  if isTextual then "map[string]interface \x7b\x7d"
  else "map[interface \x7b\x7d]interface \x7b\x7d"

/-- The type of a list. -/
def listType : String := "[]interface \x7b\x7d"

/-- A collection spelled out: its type and the spellings of its parts. -/
def collectionLiteral (type : String) (parts : List Text) : Text :=
  Text.ofString type ++ Text.ofString "\x7b" ++ Text.joinWith (Text.ofString ", ") parts ++
    Text.ofString "\x7d"

mutual

/-- A datum spelled out. -/
def literal : Datum → Text
  | atom a => a.literal
  | list items => collectionLiteral listType (itemLiterals items)
  | map isTextual entries =>
    collectionLiteral (mapType isTextual)
      (((entryLiterals entries).mergeSort fun a b => a.1.le b.1).map (·.2))

/-- Items spelled out. -/
def itemLiterals : List Datum → List Text
  | [] => []
  | d :: ds => d.literal :: itemLiterals ds

/-- Entries spelled out, by key. -/
def entryLiterals : List (Atom × Datum) → List (Atom × Text)
  | [] => []
  | (k, d) :: rest =>
    (k, k.literal ++ Text.ofString ":" ++ d.literal) :: entryLiterals rest

end

/-! ### Maps -/

/-- Sets a key: an entry of the same key changes in place, a new one comes last. -/
def setEntry (key : Atom) (d : Datum) : List (Atom × Datum) → List (Atom × Datum)
  | [] => [(key, d)]
  | (k, v) :: rest =>
    if k.isSameKey key then (key, d) :: rest else (k, v) :: setEntry key d rest

mutual

/-- The configuration data that a datum stands for. -/
def value : Datum → Value
  | atom a => .scalar a.scalar
  | list items => .list (itemValues items)
  | map _ entries => .map (entryValues entries [])

/-- The configuration data of items. -/
def itemValues : List Datum → List Value
  | [] => []
  | d :: ds => d.value :: itemValues ds

/-- The configuration data of entries, each under the text of its key, after those in `acc`. -/
def entryValues : List (Atom × Datum) → List (Text × Value) → List (Text × Value)
  | [], acc => acc
  | (k, d) :: rest, acc => entryValues rest (setKey k.scalar.text d.value acc)

end

end Datum

end StructuralLint.Yaml
