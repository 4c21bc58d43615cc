import StructuralLint.Toml.Expression

/-!
# What a TOML document defines

No key is defined twice, and a table that has been closed is not added to. `Definitions` is the
tree of what a document has defined so far, and `Definitions.check` takes in one expression or says
what it collides with. Values play no part in it.

A table comes to be by its own head, on the way to a longer head, or on the way of a dotted key.
The last are open only until the next head and count as having had one from then on.
-/

namespace StructuralLint.Toml

/-- What has been defined at a key. -/
inductive Defined where
  | value
  | table
  | arrayTable
  deriving DecidableEq, Repr

/-- The word for what has been defined. -/
def Defined.word : Defined → String
  | value => "value"
  | table => "table"
  | arrayTable => "array table"

/-- A definition at a key. -/
structure Definition where
  kind : Defined
  /-- Whether it has had its head, so that it may not have one again. -/
  isClosed : Bool
  /-- Whether it came by a key of the table that is still being filled. -/
  isOpenKey : Bool
  deriving DecidableEq, Repr

/-- A definition with those below it, by key. -/
inductive Branch where
  | branch (own : Definition) (members : List (Text × Branch))
  deriving Repr

namespace Branch

/-- The definition itself. -/
def own : Branch → Definition
  | branch own _ => own

/-- The definitions below it. -/
def members : Branch → List (Text × Branch)
  | branch _ members => members

/-- A definition with nothing below it. -/
def leaf (own : Definition) : Branch :=
  branch own []

end Branch

/-- What a document has defined so far. -/
structure Definitions where
  /-- The definitions at the top, by key. -/
  top : List (Text × Branch) := []
  /-- The path of the current table. -/
  current : List Text := []
  deriving Repr, Inhabited

/-- Refuses a part of a key. -/
def refusePart {α : Type} (before : String) (part : Text) (after : String) : Except ReadError α :=
  .error ⟨Text.ofString before ++ part ++ Text.ofString after⟩

namespace Definitions

/-! ### Paths -/

/-- Changes the definitions below a path of tables. -/
def changeBelow (f : List (Text × Branch) → Except ReadError (List (Text × Branch))) :
    List Text → List (Text × Branch) → Except ReadError (List (Text × Branch))
  | [], branches => f branches
  | k :: rest, branches =>
    match branches.lookup k with
    | some b => do
      return setKey k (.branch b.own (← changeBelow f rest b.members)) branches
    | none => .ok branches

/-- Changes the definition at the end of a key. What `onWay` makes of a definition on the way to
it takes its place. -/
def change (onWay : Text → Option Definition → Except ReadError Definition)
    (atEnd : Text → Option Branch → Except ReadError Branch) (last : Text) :
    List Text → List (Text × Branch) → Except ReadError (List (Text × Branch))
  | [], branches => do
    return setKey last (← atEnd last (branches.lookup last)) branches
  | k :: rest, branches => do
    let found := branches.lookup k
    let own ← onWay k (found.map Branch.own)
    let members ← change onWay atEnd last rest ((found.map Branch.members).getD [])
    return setKey k (.branch own members) branches

/-- Closes everything that came by keys. -/
def closeKeys : List (Text × Branch) → List (Text × Branch)
  | [] => []
  | (k, .branch own members) :: rest =>
    let own := if own.isOpenKey then { own with isClosed := true, isOpenKey := false } else own
    (k, .branch own (closeKeys members)) :: closeKeys rest

/-- The definitions once the current table has ended: what came by its keys is closed. -/
def ended (d : Definitions) : Except ReadError (List (Text × Branch)) :=
  changeBelow (fun branches => .ok (closeKeys branches)) d.current d.top

/-! ### Heads -/

/-- On the way of a head tables come to be, and only values bar it. -/
def onWayOfHead (k : Text) : Option Definition → Except ReadError Definition
  | none => .ok ⟨.table, false, false⟩
  | some e =>
    if e.kind = .value then refusePart "expected " k (" to be a table, not a " ++ e.kind.word)
    else .ok e

/-- A table gets its head once. -/
def headed (k : Text) : Option Branch → Except ReadError Branch
  | none => .ok (.leaf ⟨.table, true, false⟩)
  | some b =>
    if b.own.kind ≠ .table then
      refusePart "key " k (" should be a table, not a " ++ b.own.kind.word)
    else if b.own.isClosed then refusePart "table " k " already exists"
    else .ok (.branch { b.own with isClosed := true } b.members)

/-- With every further table of an array, what is below it starts anew. -/
def headedAgain (k : Text) : Option Branch → Except ReadError Branch
  | none => .ok (.leaf ⟨.arrayTable, true, false⟩)
  | some b =>
    if b.own.kind ≠ .arrayTable then
      refusePart ("key " ++ b.own.kind.word ++ " already exists as a ") k
        ",  but should be an array table"
    else .ok (.leaf b.own)

/-- Takes in the head of a table. -/
def addTable (d : Definitions) (key : Key) : Except ReadError Definitions := do
  return ⟨← change onWayOfHead headed key.last key.way (← d.ended), key.parts⟩

/-- Takes in the head of one more table of an array. -/
def addArrayTable (d : Definitions) (key : Key) : Except ReadError Definitions := do
  return ⟨← change onWayOfHead headedAgain key.last key.way (← d.ended), key.parts⟩

/-! ### Keys -/

/-- On the way of a dotted key tables come to be, and only a table that is open is added to. -/
def onWayOfKey (k : Text) : Option Definition → Except ReadError Definition
  | none => .ok ⟨.table, false, true⟩
  | some e =>
    if e.kind ≠ .table then refusePart "expected " k (" to be a table, not a " ++ e.kind.word)
    else if e.isClosed then
      refusePart "cannot redefine table " k " that has already been explicitly defined"
    else .ok e

/-- A key gets its value once. -/
def assigned (k : Text) : Option Branch → Except ReadError Branch
  | none => .ok (.leaf ⟨.value, false, true⟩)
  | some _ => refusePart "key " k " is already defined"

/-- Takes in a key of the current table. -/
def addKey (d : Definitions) (key : Key) : Except ReadError Definitions := do
  let add := change onWayOfKey assigned key.last key.way
  return { d with top := ← changeBelow add d.current d.top }

end Definitions

mutual

/-- Checks the keys inside a value; those of an inline table are by themselves. -/
def Written.checkKeys : Written → Except ReadError Unit
  | .literal _ => .ok ()
  | .array items => checkItems items
  | .inlineTable members => checkMembers {} members

/-- Checks the keys inside the items of an array. -/
def checkItems : List Written → Except ReadError Unit
  | [] => .ok ()
  | w :: ws => do
    w.checkKeys
    checkItems ws

/-- Checks the keys of an inline table, of which `d` are known. -/
def checkMembers (d : Definitions) : List (Key × Written) → Except ReadError Unit
  | [] => .ok ()
  | (key, value) :: rest => do
    let d ← d.addKey key
    value.checkKeys
    checkMembers d rest

end

/-- Takes in an expression. -/
def Definitions.check (d : Definitions) : Expression → Except ReadError Definitions
  | .assignment key value => do
    let d ← d.addKey key
    value.checkKeys
    return d
  | .table key => d.addTable key
  | .arrayTable key => d.addArrayTable key

end StructuralLint.Toml
