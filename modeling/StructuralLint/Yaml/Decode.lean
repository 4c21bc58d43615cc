import StructuralLint.Yaml.Tagged

/-!
# Data in YAML

What a document says: the data that its tree denotes. A stream must hold a mapping, or nothing.
Keys may not be repeated, a `<<` key brings in the entries of other mappings without overriding
any, and an alias stands for a copy of what its anchor names, which must not contain the alias
again.

While mappings are merged, the keys that are settled already are kept in the state: a key that is
settled is passed over together with its value. The keys of a mapping are settled only when its
entries have been decoded, and the entries themselves are decoded with nothing settled.
-/

namespace StructuralLint.Yaml

/-! ### Trees -/

namespace Tree

/-- The tree that an alias stands for, or the tree itself. -/
def followed (anchored : List (Nat × Tree)) : Tree → Tree
  | .reference line name n => (anchored.lookup n).getD (.reference line name n)
  | t => t

/-- The tag of a tree that is no alias. -/
def tag : Tree → Text
  | .scalar _ tag value form => scalarTag tag value form
  | .sequence _ tag _ => tag.getD Tag.sequence
  | .mapping _ tag _ => tag.getD Tag.mapping
  | .reference _ _ _ => []

/-- Whether a key is a text, or asks for a merge. -/
def isTextKey (anchored : List (Nat × Tree)) (t : Tree) : Bool :=
  [Tag.str, Tag.merge].contains (t.followed anchored).tag

/-- Whether a key asks for a merge. -/
def isMergeKey : Tree → Bool
  | .scalar _ tag value form => value = ['<', '<'] && scalarTag tag value form = Tag.merge
  | _ => false

/-- Whether two keys are written alike. -/
def sameKey : Tree → Tree → Bool
  | .scalar _ _ a _, .scalar _ _ b _ => a = b
  | .reference _ a _, .reference _ b _ => a = b
  | .sequence _ _ _, .sequence _ _ _ => true
  | .mapping _ _ _, .mapping _ _ _ => true
  | _, _ => false

/-- The characters of a tree that has no parts. -/
def characters : Tree → List Char
  | .scalar _ _ value _ => value
  | .reference _ name _ => name
  | _ => []

end Tree

/-- The faults of repeated keys, in the order of the first of each pair. -/
def repeatedKeys : List (Tree × Tree) → List Fault
  | [] => []
  | (key, _) :: rest =>
    (rest.filterMap fun (later, _) =>
      if key.sameKey later then some (.repeated later.line later.characters key.line) else none) ++
    repeatedKeys rest

/-- How much of a value a fault quotes: ten bytes, or the first seven of more. -/
def excerpt (t : Text) : Text :=
  let shown := if 10 < t.size then Text.ofBytes (t.toBytes.take 7) ++ Text.ofString "..." else t
  Text.ofString " \x60" ++ shown ++ Text.ofString "\x60"

/-- The fault of a tree that is not what is expected. Under the tag of a collection nothing is
quoted. -/
def Tree.mistypedAs (target : Target) (t : Tree) : Fault :=
  let shown := t.characters.map Rune.char
  let isCollection := [Tag.sequence, Tag.mapping].contains t.tag
  .mistyped t.line t.tag (if isCollection then shown else excerpt shown) target

/-! ### The state of decoding -/

/-- What has come up while decoding. -/
structure DecodeState where
  /-- The faults so far, last first. -/
  faults : List Fault := []
  /-- How many trees have been decoded. -/
  decoded : Nat := 0
  /-- How many of them inside copies. -/
  copied : Nat := 0
  /-- The keys that merging may not set; `none` where nothing is merged. -/
  settled : Option (List Atom) := none
  deriving Inhabited

/-- Decoding parts of a document. -/
abbrev Decoder := StateT DecodeState (Except DecodeError)

/-- Whether copies make up too much: 99 in 100 for small documents, down to 1 in 10 for large
ones. -/
def DecodeState.isExcessive (s : DecodeState) : Bool :=
  100 < s.copied && 1000 < s.decoded &&
    (if s.decoded ≤ 400000 then 99 * s.decoded < 100 * s.copied
    else if 4000000 ≤ s.decoded then s.decoded < 10 * s.copied
    else
      s.decoded * (99 * 3600000 - 89 * (s.decoded - 400000)) < s.copied * 3600000 * 100)

/-- What aliases can refer to. -/
structure Scope where
  /-- The trees that anchors name, by number. -/
  anchored : List (Nat × Tree)
  /-- The anchors being copied. -/
  active : List Nat := []
  deriving Inhabited

/-- Counts one more tree. -/
def countTree (scope : Scope) : Decoder Unit := do
  let s ← get
  let s := { s with
    decoded := s.decoded + 1
    copied := if scope.active.isEmpty then s.copied else s.copied + 1 }
  if s.isExcessive then throw .tooManyCopies
  set s

/-- Notes a fault. -/
def noteFault (f : Fault) : Decoder Unit :=
  modify fun s => { s with faults := f :: s.faults }

/-- Sets the keys that merging may not set. -/
def settle (keys : Option (List Atom)) : Decoder Unit :=
  modify fun s => { s with settled := keys }

/-- Starts a copy of what an anchor names. -/
def Scope.enter (scope : Scope) (name : List Char) (n : Nat) : Decoder Scope := do
  if scope.active.contains n then throw (.circular name)
  return { scope with active := n :: scope.active }

/-! ### Decoding -/

/-- A map half built. -/
structure PartialMap where
  /-- Whether its keys are texts. -/
  isTextual : Bool
  /-- Its entries. -/
  entries : List (Atom × Datum) := []
  /-- The keys that it may not set. -/
  settled : Option (List Atom) := none
  deriving Inhabited

mutual

/-- Decodes a tree; `none` if it is faulty. -/
def decodeTree (scope : Scope) (t : Tree) : (fuel : Nat) → Decoder (Option Datum)
  | 0 => pure none
  | fuel + 1 => do
    countTree scope
    match t with
    | .reference _ name n =>
      decodeTree (← scope.enter name n) (t.followed scope.anchored) fuel
    | .scalar _ tag value form => return some (.atom (← atomOf tag value form))
    | .sequence _ _ items => return some (.list (← decodeItems scope items fuel))
    | .mapping _ _ entries =>
      let isTextual := entries.all fun e => e.1.isTextKey scope.anchored
      let built ← decodeMapping scope entries isTextual [] fuel
      return built.map (.map isTextual)

/-- Decodes the items of a sequence, without the faulty ones. -/
def decodeItems (scope : Scope) : List Tree → (fuel : Nat) → Decoder (List Datum)
  | _, 0 => pure []
  | [], _ => pure []
  | t :: ts, fuel + 1 => do
    let d ← decodeTree scope t fuel
    let ds ← decodeItems scope ts fuel
    return d.toList ++ ds

/-- Decodes a key that has to be a text; `none` if it is faulty or absent. -/
def decodeTextKey (scope : Scope) (t : Tree) : (fuel : Nat) → Decoder (Option Atom)
  | 0 => pure none
  | fuel + 1 => do
    countTree scope
    match t with
    | .reference _ name n =>
      decodeTextKey (← scope.enter name n) (t.followed scope.anchored) fuel
    | .scalar _ tag value form =>
      match ← atomOf tag value form with
      | .null => return none
      | .str t => return some (.str t)
      | _ => return some (.str (value.map Rune.char))
    | .mapping _ _ entries =>
      let faults := repeatedKeys entries
      if faults.isEmpty then noteFault (t.mistypedAs .text) else faults.forM noteFault
      return none
    | .sequence _ _ _ =>
      noteFault (t.mistypedAs .text)
      return none

/-- Decodes a key of a map; `none` if it is faulty or absent. -/
def decodeKey (scope : Scope) (m : PartialMap) (t : Tree) : (fuel : Nat) → Decoder (Option Atom)
  | 0 => pure none
  | fuel + 1 =>
    if m.isTextual then decodeTextKey scope t fuel
    else do
      match ← decodeTree scope t fuel with
      | none => return none
      | some d => return some (← d.key m.settled.isSome)

/-- Decodes the entries of a mapping into those of a map; `none` if keys are repeated. -/
def decodeMapping (scope : Scope) (entries : List (Tree × Tree)) (isTextual : Bool)
    (before : List (Atom × Datum)) : (fuel : Nat) → Decoder (Option (List (Atom × Datum)))
  | 0 => pure none
  | fuel + 1 => do
    let faults := repeatedKeys entries
    if !faults.isEmpty then
      faults.forM noteFault
      return none
    let m : PartialMap := { isTextual, entries := before, settled := (← get).settled }
    settle none
    let m ← decodeEntries scope entries m fuel
    settle m.settled
    match (entries.filter fun e => e.1.isMergeKey).getLast? with
    | none => return some m.entries
    | some (_, source) =>
      if m.settled.isSome then return some (← mergeFrom scope source isTextual m.entries fuel)
      settle (some [])
      settleKeys scope (entries.map (·.1)) fuel
      let merged ← mergeFrom scope source isTextual m.entries fuel
      settle none
      return some merged

/-- Decodes the entries of a mapping one by one, merge keys apart. -/
def decodeEntries (scope : Scope) :
    List (Tree × Tree) → PartialMap → (fuel : Nat) → Decoder PartialMap
  | _, m, 0 => pure m
  | [], m, _ => pure m
  | (k, v) :: rest, m, fuel + 1 => do
    if k.isMergeKey then decodeEntries scope rest m fuel
    else
      match ← decodeKey scope m k fuel with
      | none => decodeEntries scope rest m fuel
      | some key =>
        if m.settled.any fun keys => keys.any (·.isSameKey key) then
          decodeEntries scope rest m fuel
        else
          let m := { m with settled := m.settled.map (key :: ·) }
          match ← decodeTree scope v fuel with
          | none => decodeEntries scope rest m fuel
          | some d =>
            decodeEntries scope rest { m with entries := Datum.setEntry key d m.entries } fuel

/-- Settles the keys of the mapping into which others are merged. -/
def settleKeys (scope : Scope) : List Tree → (fuel : Nat) → Decoder Unit
  | _, 0 => pure ()
  | [], _ => pure ()
  | t :: ts, fuel + 1 => do
    match ← decodeTree scope t fuel with
    | none => pure ()
    | some d =>
      let key ← d.key true
      modify fun s => { s with settled := s.settled.map (key :: ·) }
    settleKeys scope ts fuel

/-- Merges a mapping, or the mappings of a sequence, into the entries of a map. -/
def mergeFrom (scope : Scope) (source : Tree) (isTextual : Bool) (before : List (Atom × Datum)) :
    (fuel : Nat) → Decoder (List (Atom × Datum))
  | 0 => pure before
  | fuel + 1 =>
    match source with
    | .sequence _ _ items => mergeAll scope items isTextual before fuel
    | _ => mergeAll scope [source] isTextual before fuel

/-- Merges several mappings, the first of which counts most. -/
def mergeAll (scope : Scope) :
    List Tree → (isTextual : Bool) → (before : List (Atom × Datum)) → (fuel : Nat) →
      Decoder (List (Atom × Datum))
  | _, _, before, 0 => pure before
  | [], _, before, _ => pure before
  | t :: ts, isTextual, before, fuel + 1 => do
    match t, t.followed scope.anchored with
    | .reference _ name n, .mapping _ _ entries =>
      countTree scope
      let copy ← scope.enter name n
      countTree copy
      let merged ← decodeMapping copy entries isTextual before fuel
      mergeAll scope ts isTextual (merged.getD before) fuel
    | _, .mapping _ _ entries =>
      countTree scope
      let merged ← decodeMapping scope entries isTextual before fuel
      mergeAll scope ts isTextual (merged.getD before) fuel
    | _, _ => throw .badMerge

end

/-! ### Documents -/

mutual

/-- The number of trees in a tree. -/
def Tree.count : Tree → Nat
  | .scalar _ _ _ _ | .reference _ _ _ => 1
  | .sequence _ _ items => 1 + countItems items
  | .mapping _ _ entries => 1 + countEntries entries

/-- The number of trees in some trees. -/
def countItems : List Tree → Nat
  | [] => 0
  | t :: ts => t.count + countItems ts

/-- The number of trees in some entries. -/
def countEntries : List (Tree × Tree) → Nat
  | [] => 0
  | (k, v) :: rest => k.count + v.count + countEntries rest

end

/-- How deep decoding can go: an alias is not followed inside its own copy, so along any branch
each anchored tree is entered at most once. -/
def Document.depthBound (d : Document) : Nat :=
  8 * ((d.tree.map Tree.count).getD 0 + d.anchored.foldl (fun n e => n + e.2.count) 0) + 16

/-- Decodes the tree at the top, which has to be a mapping; what is absent is an empty one. -/
def decodeTop (d : Document) (t : Tree) : Decoder (List (Atom × Datum)) := do
  let scope : Scope := { anchored := d.anchored }
  countTree scope
  match t with
  | .mapping _ _ entries =>
    return (← decodeMapping scope entries true [] d.depthBound).getD []
  | .sequence _ _ _ =>
    noteFault (t.mistypedAs .mapping)
    return []
  | .scalar _ tag value form =>
    match ← atomOf tag value form with
    | .null => return []
    | _ =>
      noteFault (t.mistypedAs .mapping)
      return []
  | .reference _ _ _ => return []

/-- The mapping that a stream holds. -/
def decode (bytes : List UInt8) : Except DecodeError (List (Text × Value)) :=
  match readDocument bytes with
  | .error e => .error (.unread e)
  | .ok d =>
    match d.tree with
    | none => .ok []
    | some t =>
      match (decodeTop d t).run {} with
      | .error e => .error e
      | .ok (entries, s) =>
        if s.faults.isEmpty then .ok (Datum.entryValues entries [])
        else .error (.faulty s.faults.reverse)

end StructuralLint.Yaml
