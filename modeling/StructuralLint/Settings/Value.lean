import StructuralLint.Number.Binary64
import StructuralLint.Text.Lower

/-!
# Configuration data

What a configuration file can say, whatever its notation: scalars, lists, and maps whose keys are
texts. `Value.lowered` brings all keys to lower case, so that look-ups need not care.
-/

namespace StructuralLint

/-- A single datum. -/
inductive Scalar where
  | null
  | bool (b : Bool)
  | int (n : Int)
  | float (x : Binary64)
  /-- A date or a time, by the way it is shown. -/
  | time (shown : Text)
  | str (t : Text)
  deriving DecidableEq, Repr, Inhabited

/-- A datum with its parts. -/
inductive Value where
  | scalar (s : Scalar)
  | list (items : List Value)
  | map (entries : List (Text × Value))
  deriving Repr, Inhabited

namespace Value

/-- The absent value. -/
def null : Value := scalar .null

/-- A text. -/
def str (t : Text) : Value := scalar (.str t)

/-- Whether a value is absent. -/
def isNull : Value → Bool
  | scalar .null => true
  | _ => false

end Value

/-- Sets a key: the value of a key that is there changes in place, a new key comes last. -/
def setKey {α : Type} (key : Text) (value : α) : List (Text × α) → List (Text × α)
  | [] => [(key, value)]
  | (k, v) :: rest => if k = key then (k, value) :: rest else (k, v) :: setKey key value rest

/-- Entries under lower-case keys. Where keys meet, those that were not in lower case win. -/
def lowerKeys {α : Type} (entries : List (Text × α)) : List (Text × α) :=
  let (lower, other) := entries.partition fun e => e.1.lower = e.1
  (lower ++ other).foldl (fun acc e => setKey e.1.lower e.2 acc) []

mutual

/-- A value with all its keys in lower case. -/
def Value.lowered : Value → Value
  | .scalar s => .scalar s
  | .list items => .list (loweredItems items)
  | .map entries => .map (lowerKeys (loweredEntries entries))

/-- Items with all their keys in lower case. -/
def loweredItems : List Value → List Value
  | [] => []
  | v :: vs => v.lowered :: loweredItems vs

/-- Entries whose values have all their keys in lower case. -/
def loweredEntries : List (Text × Value) → List (Text × Value)
  | [] => []
  | (k, v) :: rest => (k, v.lowered) :: loweredEntries rest

end

end StructuralLint
