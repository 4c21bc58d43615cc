import StructuralLint.Toml.Definitions

/-!
# TOML documents

`Toml.entries` reads a document as configuration data. Expressions are taken one by one: each is
read to its end, then its keys are checked against those before it, and only then are its numbers
and dates looked at.
-/

namespace StructuralLint.Toml

/-- Puts a value at a path. A path through an array goes on in its last table. -/
def putAt (value : Value) : List Text → List (Text × Value) → List (Text × Value)
  | [], entries => entries
  | [k], entries => setKey k value entries
  | k :: rest, entries =>
    match entries.lookup k with
    | some (.map inner) => setKey k (.map (putAt value rest inner)) entries
    | some (.list items) =>
      match items.getLast? with
      | some (.map inner) =>
        setKey k (.list (items.dropLast ++ [.map (putAt value rest inner)])) entries
      | _ => entries
    | _ => setKey k (.map (putAt value rest [])) entries

/-- What is at a path. -/
def getAt? : List Text → List (Text × Value) → Option Value
  | [], entries => some (.map entries)
  | [k], entries => entries.lookup k
  | k :: rest, entries =>
    match entries.lookup k with
    | some (.map inner) => getAt? rest inner
    | some (.list items) =>
      match items.getLast? with
      | some (.map inner) => getAt? rest inner
      | _ => none
    | _ => none

mutual

/-- A written value as configuration data. -/
def Written.toValue : Written → Except ReadError Value
  | .literal l => l.scalar.map .scalar
  | .array items => do return .list (← toValues items)
  | .inlineTable members => do return .map (← putMembers [] members)

/-- Written items as configuration data. -/
def toValues : List Written → Except ReadError (List Value)
  | [] => .ok []
  | w :: ws => do
    let v ← w.toValue
    return v :: (← toValues ws)

/-- Puts the members of an inline table to those before them. -/
def putMembers (entries : List (Text × Value)) :
    List (Key × Written) → Except ReadError (List (Text × Value))
  | [] => .ok entries
  | (key, value) :: rest => do
    let v ← value.toValue
    putMembers (putAt v key.parts entries) rest

end

/-- A document half read. -/
structure Building where
  /-- The data so far. -/
  entries : List (Text × Value) := []
  /-- What has been defined. -/
  defined : Definitions := {}
  deriving Inhabited

/-- Takes in an expression. -/
def Building.add (b : Building) (e : Expression) : Except ReadError Building := do
  let defined ← b.defined.check e
  match e with
  | .assignment key value =>
    let v ← value.toValue
    return { entries := putAt v (defined.current ++ key.parts) b.entries, defined }
  | .table key =>
    match getAt? key.parts b.entries with
    | some _ => return { b with defined }
    | none => return { entries := putAt (.map []) key.parts b.entries, defined }
  | .arrayTable key =>
    let before := match getAt? key.parts b.entries with
      | some (.list items) => items
      | _ => []
    return { entries := putAt (.list (before ++ [.map []])) key.parts b.entries, defined }

/-- Takes in expressions, one on a line. -/
def Building.addAll (b : Building) (isFirst : Bool) :
    (fuel : Nat) → Text → Except ReadError Building
  | 0, _ => .ok b
  | fuel + 1, t => do
    let t ← if isFirst then pure t else skipBreak t
    if t.isEmpty then return b
    let (e, rest) ← readExpression t
    match e with
    | some e => addAll (← b.add e) false fuel rest
    | none => addAll b false fuel rest

/-- The data of a document. -/
def entries (document : Text) : Except ReadError (List (Text × Value)) := do
  return (← ({} : Building).addAll true (document.length + 2) document).entries

end StructuralLint.Toml
