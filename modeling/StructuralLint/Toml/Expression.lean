import StructuralLint.Toml.Literal

/-!
# TOML expressions

A document is a sequence of expressions, one on a line: `key = value`, the head of a table, or the
head of one more table of an array. Reading an expression finds all faults of its notation, and
none of its meaning.
-/

namespace StructuralLint.Toml

/-- A key: its parts, of which there is at least one. -/
structure Key where
  /-- The parts before the last. -/
  way : List Text
  last : Text
  deriving DecidableEq, Repr, Inhabited

/-- The parts of a key. -/
def Key.parts (k : Key) : List Text :=
  k.way ++ [k.last]

/-- A value as it is written. -/
inductive Written where
  | literal (l : Literal)
  | array (items : List Written)
  | inlineTable (members : List (Key × Written))
  deriving Repr, Inhabited

/-- One expression of a document. -/
inductive Expression where
  /-- A value for a key. -/
  | assignment (key : Key) (value : Written)
  /-- The head of a table. -/
  | table (key : Key)
  /-- The head of one more table of an array. -/
  | arrayTable (key : Key)
  deriving Repr, Inhabited

/-! ### Keys -/

/-- A rune of a bare key. -/
def isBareRune : Rune → Bool :=
  Rune.holds fun c => c.isAlphanum || c == '-' || c == '_'

/-- Reads one part of a key. -/
def readKeyPart (t : Text) : Except ReadError (Text × Text) :=
  match t with
  | [] => refuse "expected key but found none"
  | r :: _ =>
    if r.isChar '"' || r.isChar '\x27' then readShortString t
    else if isBareRune r then .ok (t.takeWhile isBareRune, t.dropWhile isBareRune)
    else
      .error ⟨Text.ofString "invalid character at start of key: " ++ [.char (firstByte r)]⟩

/-- Reads the parts of a key, joined by dots; `way` holds those read, last first. -/
def readKeyParts (way : List Text) : (fuel : Nat) → Text → Except ReadError (Key × Text)
  | 0, t => do
    let (part, rest) ← readKeyPart t
    return (⟨way.reverse, part⟩, rest)
  | fuel + 1, t => do
    let (part, rest) ← readKeyPart t
    match skipGaps rest with
    | .char '.' :: after => readKeyParts (part :: way) fuel (skipGaps after)
    | rest => return (⟨way.reverse, part⟩, rest)

/-- Reads a key and the blanks after it. -/
def readKey (t : Text) : Except ReadError (Key × Text) :=
  readKeyParts [] t.length t

/-! ### Values -/

/-- Passes over blanks, comments and line breaks inside an array. -/
def skipInArray : (fuel : Nat) → Text → Except ReadError Text
  | 0, t => .ok t
  | fuel + 1, t =>
    match skipGaps t with
    | .char '#' :: rest => do skipInArray fuel (← skipComment rest)
    | .char '\n' :: rest => skipInArray fuel rest
    | .char '\r' :: rest => do skipInArray fuel (← skipBreak (.char '\r' :: rest))
    | t => .ok t

mutual

/-- Reads a value. -/
def readValue : (fuel : Nat) → Text → Except ReadError (Written × Text)
  | 0, _ => refuse "expected value, not eof"
  | fuel + 1, t =>
    match t with
    | [] => refuse "expected value, not eof"
    | r :: rest =>
      if r.isChar '"' || r.isChar '\x27' then do
        let (s, rest) ← readString t
        return (.literal (.string s), rest)
      else if r.isChar 't' then
        if startsWith "true" t then .ok (.literal (.bool true), t.drop 4)
        else refuse "expected 'true'"
      else if r.isChar 'f' then
        if startsWith "false" t then .ok (.literal (.bool false), t.drop 5)
        else refuse "expected 'false'"
      else if r.isChar '[' then do
        let (items, rest) ← readItems [] fuel rest
        return (.array items, rest)
      else if r.isChar '\x7b' then do
        let (members, rest) ← readMembers [] fuel rest
        return (.inlineTable members, rest)
      else do
        let (l, rest) ← scanNumberOrMoment t
        return (.literal l, rest)
termination_by structural fuel => fuel

/-- Reads the items of an array after its opening bracket or after an item; `acc` holds those
read, last first. -/
def readItems (acc : List Written) :
    (fuel : Nat) → Text → Except ReadError (List Written × Text)
  | 0, _ => refuse "array is incomplete"
  | fuel + 1, t => do
    if t.isEmpty then return (acc.reverse, ← expect ']' t)
    match ← skipInArray (fuel + 1) t with
    | [] => refuse "array is incomplete"
    | r :: rest =>
      if r.isChar ']' then return (acc.reverse, rest)
      else if r.isChar ',' then
        if acc.isEmpty then refuse "array cannot start with comma"
        else
          match ← skipInArray (fuel + 1) rest with
          | .char ']' :: rest => return (acc.reverse, rest)
          | rest =>
            let (item, rest) ← readValue fuel rest
            readItems (item :: acc) fuel rest
      else if !acc.isEmpty then refuse "array elements must be separated by commas"
      else
        let (item, rest) ← readValue fuel (r :: rest)
        readItems (item :: acc) fuel rest
termination_by structural fuel => fuel

/-- Reads a key with its value. -/
def readAssignment : (fuel : Nat) → Text → Except ReadError ((Key × Written) × Text)
  | 0, _ => refuse "expected key but found none"
  | fuel + 1, t => do
    let (key, rest) ← readKey t
    if rest.isEmpty then refuse "expected = after a key, but the document ends there"
    let rest ← expect '=' rest
    let (value, rest) ← readValue fuel (skipGaps rest)
    return ((key, value), rest)
termination_by structural fuel => fuel

/-- Reads the members of an inline table after its opening brace or after a member; `acc` holds
those read, last first. -/
def readMembers (acc : List (Key × Written)) :
    (fuel : Nat) → Text → Except ReadError (List (Key × Written) × Text)
  | 0, _ => refuse "inline table is incomplete"
  | fuel + 1, t => do
    if t.isEmpty then return (acc.reverse, ← expect '\x7d' t)
    match skipGaps t with
    | [] => refuse "inline table is incomplete"
    | r :: rest =>
      if r.isChar '\x7d' then return (acc.reverse, rest)
      let start ← if acc.isEmpty then pure (r :: rest) else expect ',' (r :: rest)
      let (member, rest) ← readAssignment fuel (skipGaps start)
      readMembers (member :: acc) fuel rest
termination_by structural fuel => fuel

end

/-! ### Expressions -/

/-- Reads the head of a table at its bracket. -/
def readHead (t : Text) : Except ReadError (Expression × Text) := do
  if startsWith "[[" t then
    let (key, rest) ← readKey (skipGaps (t.drop 2))
    let rest ← expect ']' rest
    return (.arrayTable key, ← expect ']' rest)
  else
    let (key, rest) ← readKey (skipGaps (t.drop 1))
    return (.table key, ← expect ']' rest)

/-- Reads an expression, if there is one, with the comment after it. -/
def readExpression (t : Text) : Except ReadError (Option Expression × Text) :=
  match skipGaps t with
  | [] => .ok (none, [])
  | r :: rest =>
    if r.isChar '#' then (skipComment rest).map fun rest => (none, rest)
    else if r.isChar '\n' || r.isChar '\r' then .ok (none, r :: rest)
    else do
      let (e, rest) ←
        if r.isChar '[' then readHead (r :: rest)
        else do
          let ((key, value), rest) ← readAssignment (2 * rest.length + 8) (r :: rest)
          pure (Expression.assignment key value, rest)
      match skipGaps rest with
      | .char '#' :: rest => return (some e, ← skipComment rest)
      | rest => return (some e, rest)

end StructuralLint.Toml
