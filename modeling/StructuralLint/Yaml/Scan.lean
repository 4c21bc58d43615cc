import StructuralLint.Yaml.Property

/-!
# Reading YAML tokens

Indentation and mapping keys show up late in YAML: that a scalar was a key is only known at the
colon after it. So tokens that have been made stay open to insertions until they are taken. A
scanner also keeps the columns of the open blocks, and for each level of brackets the place where
a key may have started. A token is taken once two more are known and no key is pending at it.

Pending keys are looked up by the number of their token. A closing bracket forgets the number that
its level noted last, and a level without a key noted the number of its opening bracket; so a key
that starts with such a bracket no longer holds its token back. If its colon still comes, the
tokens for it are too late to be inserted and go to the end.

`tokens` reads a whole stream: the tokens that can be taken, and the problem that ends them, if
any.
-/

namespace StructuralLint.Yaml

/-- A place where a mapping key may have started. -/
structure KeyPlace where
  /-- Whether one may have. -/
  isPossible : Bool := false
  /-- Whether nothing but a key can stand there. -/
  isRequired : Bool := false
  /-- The number of the token there. -/
  number : Nat := 0
  /-- Where it is. -/
  mark : Mark := {}
  deriving DecidableEq, Repr, Inhabited

/-- A stream half read. -/
structure Scanner where
  /-- The rest of the stream. -/
  cursor : Cursor
  /-- The tokens made so far, by their numbers. -/
  made : Array Token := #[]
  /-- How many tokens have been taken. -/
  taken : Nat := 0
  /-- Whether the token for the start of the stream has been made. -/
  started : Bool := false
  /-- The columns of the open blocks, innermost last. -/
  indents : Array Nat := #[]
  /-- Whether a mapping key may start here. -/
  keyAllowed : Bool := true
  /-- Where a key may have started: outside all brackets, and at each level of brackets,
  innermost last. -/
  keys : Array KeyPlace := #[{}]
  /-- The levels of pending keys by the numbers of their tokens, in the order of the numbers. -/
  pending : List (Nat × Nat) := []
  deriving Repr

namespace Scanner

/-- The column of the innermost block, `-1` outside all blocks. -/
def indent (s : Scanner) : Int :=
  match s.indents.back? with
  | none => -1
  | some column => column

/-- Whether the scanner is inside brackets. -/
def inFlow (s : Scanner) : Bool :=
  1 < s.keys.size

/-- The place of the key at the current level. -/
def key (s : Scanner) : KeyPlace :=
  s.keys.back?.getD {}

/-- Changes the place of the key at the current level. -/
def setKeyPlace (s : Scanner) (k : KeyPlace) : Scanner :=
  { s with keys := s.keys.pop.push k }

/-- How deep brackets and blocks may be nested. -/
def depthLimit : Nat := 10000

/-- The problem of too deep nesting. -/
def tooDeep : String := "exceeded max depth of 10000"

/-- A problem at the cursor. -/
def refuse {α : Type} (s : Scanner) (context : Mark) (text : String) : Except Problem α :=
  s.cursor.problem context text

/-! ### Making tokens -/

/-- Makes a token. -/
def push (s : Scanner) (kind : TokenKind) (start stop : Mark) : Scanner :=
  { s with made := s.made.push ⟨kind, start, stop⟩ }

/-- Makes a token of no width before the one with the given number, or as the last if that one
has been taken. -/
def insertBefore (s : Scanner) (number : Nat) (kind : TokenKind) (mark : Mark) : Scanner :=
  if number < s.taken then s.push kind mark mark
  else { s with made := s.made.insertIdxIfInBounds number ⟨kind, mark, mark⟩ }

/-- The number of the next token to be made. -/
def nextNumber (s : Scanner) : Nat :=
  s.made.size

/-- Makes a token of the next `width` characters. -/
def advance (s : Scanner) (kind : TokenKind) (width : Nat) : Scanner :=
  let cursor := s.cursor.skipMany width
  { s.push kind s.cursor.mark cursor.mark with cursor }

/-! ### Blocks -/

/-- Opens a block at a column before the token with the given number, unless it is open
already. -/
def openBlock (s : Scanner) (column number : Nat) (kind : TokenKind) (mark : Mark) :
    Except Problem Scanner :=
  if s.inFlow || (column : Int) ≤ s.indent then .ok s
  else if depthLimit ≤ s.indents.size then s.refuse s.key.mark tooDeep
  else .ok { s.insertBefore number kind mark with indents := s.indents.push column }

/-- Closes the blocks that are deeper than a column. -/
def closeBlocks (s : Scanner) (column : Int) (mark : Mark) : Scanner :=
  if s.inFlow then s
  else
    let kept := s.indents.popWhile fun (i : Nat) => column < i
    let closed := Array.replicate (s.indents.size - kept.size) (⟨.blockEnd, mark, mark⟩ : Token)
    { s with made := s.made ++ closed, indents := kept }

/-! ### Keys -/

/-- Forgets the pending key at the token with the given number. -/
def forget (s : Scanner) (number : Nat) : Scanner :=
  { s with pending := s.pending.filter (·.1 ≠ number) }

/-- Whether the key at a level can still be completed: its colon must come on the same line and
not too far away. A key that cannot is given up. -/
def checkKey (s : Scanner) (level : Nat) : Except Problem (Bool × Scanner) :=
  let k := s.keys[level]?.getD {}
  if !k.isPossible then .ok (false, s)
  else if k.mark.line < s.cursor.mark.line ∨ k.mark.index + 1024 < s.cursor.mark.index then
    if k.isRequired then s.refuse k.mark "could not find expected ':'"
    else
      .ok (false, { s with keys := s.keys.setIfInBounds level { k with isPossible := false } })
  else .ok (true, s)

/-- Gives up the possible key at the current level. -/
def dropKey (s : Scanner) : Except Problem Scanner :=
  let k := s.key
  if !k.isPossible then .ok s
  else if k.isRequired then s.refuse k.mark "could not find expected ':'"
  else .ok ((s.setKeyPlace { k with isPossible := false }).forget k.number)

/-- Notes that a key may start here. -/
def saveKey (s : Scanner) : Except Problem Scanner :=
  if s.keyAllowed then do
    let mark := s.cursor.mark
    let k : KeyPlace :=
      { isPossible := true
        isRequired := !s.inFlow && s.indent == mark.column
        number := s.nextNumber
        mark }
    let s := (← s.dropKey).setKeyPlace k
    let pending := s.pending.dropWhile (·.1 < s.taken)
    return { s with pending := pending ++ [(k.number, s.keys.size - 1)] }
  else .ok s

/-! ### Tokens -/

/-- Passes over blanks, comments and line breaks. Tabs count as blanks only where no key may
start. At the start of a line one character is lost if a byte order mark stood where blocks were
last loaded. -/
def skipToToken (s : Scanner) : (fuel : Nat) → Except Problem Scanner
  | 0 => .ok s
  | fuel + 1 => do
    let c ← s.cursor.ensure 1
    let c := if c.mark.column = 0 && c.isMarked then c.skip else c
    let isPassed (x : Char) : Bool := x == ' ' || (x == '\t' && (s.inFlow || !s.keyAllowed))
    let (_, c) ← c.skipWhile isPassed
    let c ← if c.isAt 0 '#' then c.skipComments c.steps else pure c
    if c.isBreakAt 0 then
      let c ← c.ensure 2
      skipToToken { s with cursor := c.skipLine, keyAllowed := s.keyAllowed || !s.inFlow } fuel
    else return { s with cursor := c }

/-- Reads what ends all blocks: a directive or a document marker. -/
def leaveBlocks (s : Scanner) : Except Problem Scanner := do
  let s ← (s.closeBlocks (-1) s.cursor.mark).dropKey
  return { s with keyAllowed := false }

/-- The end of the stream; it counts as the start of a line. -/
def fetchEnd (s : Scanner) : Except Problem Scanner := do
  let m := s.cursor.mark
  let m := if m.column = 0 then m else { m with line := m.line + 1, column := 0 }
  let s ← { s with cursor := { s.cursor with mark := m } }.leaveBlocks
  return s.push .streamEnd m m

/-- A directive. -/
def fetchDirective (s : Scanner) : Except Problem Scanner := do
  let s ← s.leaveBlocks
  let (kind, stop, cursor) ← readDirective s.cursor
  return { s.push kind s.cursor.mark stop with cursor }

/-- A document marker. -/
def fetchMarker (s : Scanner) (kind : TokenKind) : Except Problem Scanner := do
  return (← s.leaveBlocks).advance kind 3

/-- An opening bracket. -/
def fetchOpening (s : Scanner) (kind : TokenKind) : Except Problem Scanner := do
  let s ← s.saveKey
  if depthLimit < s.keys.size then s.refuse s.cursor.mark tooDeep
  let level : KeyPlace := { number := s.nextNumber, mark := s.cursor.mark }
  return { s with keys := s.keys.push level, keyAllowed := true }.advance kind 1

/-- A closing bracket. -/
def fetchClosing (s : Scanner) (kind : TokenKind) : Except Problem Scanner := do
  let s ← s.dropKey
  let s := if s.inFlow then { s.forget s.key.number with keys := s.keys.pop } else s
  return { s with keyAllowed := false }.advance kind 1

/-- A comma between brackets. -/
def fetchComma (s : Scanner) : Except Problem Scanner := do
  let s ← s.dropKey
  return { s with keyAllowed := true }.advance .flowEntry 1

/-- The hyphen of a list entry. -/
def fetchEntry (s : Scanner) : Except Problem Scanner := do
  let mark := s.cursor.mark
  if !s.inFlow && !s.keyAllowed then
    s.refuse mark "block sequence entries are not allowed in this context"
  let s ← s.openBlock mark.column s.nextNumber .blockSequenceStart mark
  let s ← s.dropKey
  return { s with keyAllowed := true }.advance .blockEntry 1

/-- The question mark before a key. -/
def fetchKey (s : Scanner) : Except Problem Scanner := do
  let mark := s.cursor.mark
  if !s.inFlow && !s.keyAllowed then
    s.refuse mark "mapping keys are not allowed in this context"
  let s ← s.openBlock mark.column s.nextNumber .blockMappingStart mark
  let s ← s.dropKey
  return { s with keyAllowed := !s.inFlow }.advance .key 1

/-- The colon before a value. It makes the possible key at this level a key. -/
def fetchValue (s : Scanner) : Except Problem Scanner := do
  let mark := s.cursor.mark
  let (isKey, s) ← s.checkKey (s.keys.size - 1)
  if isKey then
    let k := s.key
    let s := s.insertBefore k.number .key k.mark
    let s ← s.openBlock k.mark.column k.number .blockMappingStart k.mark
    let s := (s.setKeyPlace { k with isPossible := false }).forget k.number
    return { s with keyAllowed := false }.advance .value 1
  else
    if !s.inFlow && !s.keyAllowed then
      s.refuse mark "mapping values are not allowed in this context"
    let s ← s.openBlock mark.column s.nextNumber .blockMappingStart mark
    return { s with keyAllowed := !s.inFlow }.advance .value 1

/-- An anchor or an alias. -/
def fetchName (s : Scanner) (kind : List Char → TokenKind) : Except Problem Scanner := do
  let s ← s.saveKey
  let (name, cursor) ← readName s.cursor
  return { s.push (kind name) s.cursor.mark cursor.mark with cursor, keyAllowed := false }

/-- A tag. -/
def fetchTag (s : Scanner) : Except Problem Scanner := do
  let s ← s.saveKey
  let (kind, cursor) ← readTag s.cursor
  return { s.push kind s.cursor.mark cursor.mark with cursor, keyAllowed := false }

/-- A block scalar. -/
def fetchBlock (s : Scanner) (literal : Bool) : Except Problem Scanner := do
  let s ← s.dropKey
  let (text, cursor) ← readBlock literal s.indent s.cursor
  return { s.push (.scalar text .quoted) s.cursor.mark cursor.mark with cursor, keyAllowed := true }

/-- A quoted scalar. -/
def fetchQuoted (s : Scanner) (single : Bool) : Except Problem Scanner := do
  let s ← s.saveKey
  let (text, cursor) ← readQuoted single s.cursor.mark s.cursor.skip [] s.cursor.steps
  return { s.push (.scalar text .quoted) s.cursor.mark cursor.mark with
    cursor, keyAllowed := false }

/-- A plain scalar. After one that ended with its line a key may start. -/
def fetchPlain (s : Scanner) : Except Problem Scanner := do
  let s ← s.saveKey
  let start := s.cursor.mark
  let (t, cursor) ←
    readPlain s.inFlow (s.indent + 1).toNat start s.cursor { stop := start } s.cursor.steps
  return { s.push (.scalar t.reversed.reverse .plain) start t.stop with
    cursor, keyAllowed := t.gap.lineEnded }

/-- Whether a plain scalar may start at the cursor. -/
def startsPlain (c : Cursor) : Bool :=
  match c.peek? 0 with
  | none => false
  | some x =>
    if x == '-' then !c.isBlankAt 1
    else if x == '?' || x == ':' then !c.isGapAt 1
    else !(c.isGapAt 0 || ",[]\x7b\x7d#&*!|>'\"%@\x60".toList.contains x)

/-- A token that starts inside a line, by its first characters. -/
def fetchInner (s : Scanner) : Except Problem Scanner :=
  let c := s.cursor
  let isFlowOrGap := s.inFlow || c.isGapAt 1
  if c.isAt 0 '[' then s.fetchOpening .flowSequenceStart
  else if c.isAt 0 '\x7b' then s.fetchOpening .flowMappingStart
  else if c.isAt 0 ']' then s.fetchClosing .flowSequenceEnd
  else if c.isAt 0 '\x7d' then s.fetchClosing .flowMappingEnd
  else if c.isAt 0 ',' then s.fetchComma
  else if c.isAt 0 '-' && c.isGapAt 1 then s.fetchEntry
  else if c.isAt 0 '?' && isFlowOrGap then s.fetchKey
  else if c.isAt 0 ':' && isFlowOrGap then s.fetchValue
  else if c.isAt 0 '*' then s.fetchName .reference
  else if c.isAt 0 '&' then s.fetchName .anchor
  else if c.isAt 0 '!' then s.fetchTag
  else if c.isAt 0 '|' && !s.inFlow then s.fetchBlock true
  else if c.isAt 0 '>' && !s.inFlow then s.fetchBlock false
  else if c.isAt 0 '\x27' then s.fetchQuoted true
  else if c.isAt 0 '"' then s.fetchQuoted false
  else if startsPlain c then s.fetchPlain
  else s.refuse c.mark "found character that cannot start any token"

/-- Passes over the comment that may follow a token on its line; after the hyphen of a list
entry it is left for the next token. -/
def skipTrailingComment (s : Scanner) : Except Problem Scanner := do
  if (s.made.back?.map (·.kind)) = some .blockEntry then return s
  return { s with cursor := ← s.cursor.skipLineComment }

/-- Makes the next token, with the tokens that it brings along. -/
def fetch (s : Scanner) : Except Problem Scanner := do
  let s := { s with cursor := ← s.cursor.ensure 1 }
  if !s.started then
    return { s.push .streamStart s.cursor.mark s.cursor.mark with started := true }
  let before := s.cursor.mark
  let s ← s.skipToToken s.cursor.steps
  let s := s.closeBlocks s.cursor.mark.column before
  let c ← s.cursor.ensure 4
  let s := { s with cursor := c }
  if c.isAtEnd then s.fetchEnd
  else if c.mark.column = 0 && c.isAt 0 '%' then s.fetchDirective
  else if c.isDocumentMarker '-' then s.fetchMarker .documentStart
  else if c.isDocumentMarker '.' then s.fetchMarker .documentEnd
  else (← s.fetchInner).skipTrailingComment

/-- Whether the next token can be taken: two more are known, and no key is pending at it. -/
def checkNext (s : Scanner) : Except Problem (Bool × Scanner) :=
  if s.made.size < s.taken + 3 then .ok (false, s)
  else
    match s.pending.lookup s.taken with
    | none => .ok (true, s)
    | some level => do
      let (isOpen, s) ← s.checkKey level
      return (!isOpen, s)

/-- Takes tokens until the end of the stream or a problem; `acc` holds those taken, last
first. -/
def takeTokens (acc : List Token) (s : Scanner) : (fuel : Nat) → List Token × Option Problem
  | 0 => (acc.reverse, none)
  | fuel + 1 =>
    match s.checkNext with
    | .error e => (acc.reverse, some e)
    | .ok (false, s) =>
      match s.fetch with
      | .error e => (acc.reverse, some e)
      | .ok s => takeTokens acc s fuel
    | .ok (true, s) =>
      match s.made[s.taken]? with
      | none => (acc.reverse, none)
      | some t =>
        if t.kind = .streamEnd then ((t :: acc).reverse, none)
        else takeTokens (t :: acc) { s with taken := s.taken + 1 } fuel

end Scanner

/-- The tokens of a stream, and the problem that ends them. A character makes at most four
tokens, each of which takes two steps. -/
def tokens (stream : List Block) : List Token × Option Problem :=
  let cursor := Cursor.ofBlocks stream
  Scanner.takeTokens [] { cursor } (8 * cursor.size + 64)

end StructuralLint.Yaml
