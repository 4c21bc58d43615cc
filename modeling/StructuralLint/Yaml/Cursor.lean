import StructuralLint.Yaml.Characters

/-!
# Moving through a YAML stream

A cursor is a place in a stream. What it shows are the characters that have been loaded and not
passed; `Cursor.ensure` loads more blocks when too few are left, and fails with the problem of
such a block. All movement goes through `Cursor.skip` and `Cursor.skipLine`, which keep the
position right. Past the end of the stream nothing is shown.
-/

namespace StructuralLint.Yaml

/-- A place in a stream. -/
structure Cursor where
  /-- What has been loaded and not passed. -/
  rest : List Char := []
  /-- How many characters have been loaded and not passed; each look past the end of the stream
  counts as one more. -/
  unread : Nat := 0
  /-- The blocks still to be loaded. -/
  later : List Block
  /-- The number of characters of the whole stream. -/
  size : Nat
  /-- Whether a byte order mark stood at the cursor when blocks were last loaded. -/
  isMarked : Bool := false
  /-- Where the cursor stands. -/
  mark : Mark := {}
  /-- The number of line breaks since the last character that is not blank. -/
  newlines : Nat := 0
  deriving DecidableEq, Repr

/-- A space or a tab. -/
def isBlankScalar (c : Char) : Bool :=
  c == ' ' || c == '\t'

/-- A line break. -/
def isBreakScalar (c : Char) : Bool :=
  c == '\n' || c == '\r' || c == '\x85' || c == '\u2028' || c == '\u2029'

/-- A letter, a digit, an underscore or a hyphen. -/
def isWordScalar (c : Char) : Bool :=
  c.isAlphanum || c == '_' || c == '-'

namespace Cursor

/-- The start of a stream. -/
def ofBlocks (blocks : List Block) : Cursor where
  later := blocks
  size := blocks.foldl (fun n b => n + b.characters.length) 0

/-- A bound on the steps that lead through the rest of the stream one character at a time. -/
def steps (c : Cursor) : Nat :=
  c.size + 2

/-! ### Loading -/

/-- Loads blocks until `n` characters are there or one has a problem, of which what it shows
remains. -/
def loadFrom (c : Cursor) (n : Nat) : List Block → Cursor × Option Problem
  | [] => ({ c with unread := c.unread + 1, later := [] }, none)
  | b :: later =>
    let c' : Cursor :=
      { c with rest := c.rest ++ b.characters, unread := c.unread + b.characters.length, later }
    match b.problem with
    | some p => ({ c' with later := [⟨[], some p⟩] }, some p)
    | none => if n ≤ c'.unread then (c', none) else loadFrom c' n later

/-- Loads blocks if fewer than `n` characters are there. -/
def load (c : Cursor) (n : Nat) : Cursor × Option Problem :=
  if n ≤ c.unread then (c, none)
  else
    let (c, problem) := c.loadFrom n c.later
    ({ c with isMarked := c.rest.head? == some '\uFEFF' }, problem)

/-- Makes sure that `n` characters are there, or that the stream ends before. -/
def ensure (c : Cursor) (n : Nat) : Except Problem Cursor :=
  match c.load n with
  | (c, none) => .ok c
  | (_, some p) => .error p

/-! ### Looking -/

/-- The character `n` places on. -/
def peek? (c : Cursor) (n : Nat) : Option Char :=
  c.rest[n]?

/-- Whether the character `n` places on is the given one. -/
def isAt (c : Cursor) (n : Nat) (x : Char) : Bool :=
  c.peek? n == some x

/-- Whether a blank stands `n` places on. -/
def isBlankAt (c : Cursor) (n : Nat) : Bool :=
  (c.peek? n).any isBlankScalar

/-- Whether a line break stands `n` places on. -/
def isBreakAt (c : Cursor) (n : Nat) : Bool :=
  (c.peek? n).any isBreakScalar

/-- Whether a line break or the end of the stream is `n` places on. -/
def isLineEndAt (c : Cursor) (n : Nat) : Bool :=
  (c.peek? n).all isBreakScalar

/-- Whether a blank, a line break or the end of the stream is `n` places on. -/
def isGapAt (c : Cursor) (n : Nat) : Bool :=
  (c.peek? n).all fun x => isBlankScalar x || isBreakScalar x

/-- Whether the stream is used up. -/
def isAtEnd (c : Cursor) : Bool :=
  c.rest.isEmpty

/-- Whether a document marker made of `x` stands here, at the start of a line. -/
def isDocumentMarker (c : Cursor) (x : Char) : Bool :=
  c.mark.column == 0 && c.isAt 0 x && c.isAt 1 x && c.isAt 2 x && c.isGapAt 3

/-- Whether any document marker stands here. -/
def isAnyDocumentMarker (c : Cursor) : Bool :=
  c.isDocumentMarker '-' || c.isDocumentMarker '.'

/-- A problem at the cursor, found while reading what started at `context`. -/
def problem {α : Type} (c : Cursor) (context : Mark) (text : String) : Except Problem α :=
  .error ⟨.tokens, context.line, c.mark.line, text⟩

/-! ### Moving -/

/-- Passes over one character. -/
def skip (c : Cursor) : Cursor :=
  { c with
    rest := c.rest.tail
    unread := c.unread - 1
    mark := { c.mark with index := c.mark.index + 1, column := c.mark.column + 1 }
    newlines := if c.isBlankAt 0 then c.newlines else 0 }

/-- Passes over some characters. -/
def skipMany (c : Cursor) : Nat → Cursor
  | 0 => c
  | n + 1 => c.skip.skipMany n

/-- Passes over a line break, if there is one. -/
def skipLine (c : Cursor) : Cursor :=
  let after (width : Nat) (rest : List Char) : Cursor :=
    { c with
      rest
      unread := c.unread - width
      mark := { index := c.mark.index + width, line := c.mark.line + 1, column := 0 }
      newlines := c.newlines + 1 }
  match c.rest with
  | '\r' :: '\n' :: rest => after 2 rest
  | x :: rest => if isBreakScalar x then after 1 rest else c
  | [] => c

/-- The line break at the cursor as it enters a scalar: a line feed, or a Unicode separator as
it is; nothing at the end of the stream. -/
def lineBreak (c : Cursor) : List Char :=
  match c.rest with
  | x :: _ =>
    if x == '\u2028' || x == '\u2029' then [x]
    else if isBreakScalar x then ['\n']
    else []
  | [] => []

/-- Passes over characters as long as they satisfy `p`; `acc` holds those passed, last first. -/
def skipWhileOnto (p : Char → Bool) (acc : List Char) (c : Cursor) :
    (fuel : Nat) → Except Problem (List Char × Cursor)
  | 0 => .ok (acc.reverse, c)
  | fuel + 1 => do
    let c ← c.ensure 1
    match c.peek? 0 with
    | some x =>
      if p x then skipWhileOnto p (x :: acc) c.skip fuel else return (acc.reverse, c)
    | none => return (acc.reverse, c)

/-- Passes over characters as long as they satisfy `p`: those passed, and the cursor then. -/
def skipWhile (c : Cursor) (p : Char → Bool) : Except Problem (List Char × Cursor) :=
  skipWhileOnto p [] c c.steps

/-- Passes over blanks. -/
def skipBlanks (c : Cursor) : Except Problem Cursor :=
  (c.skipWhile isBlankScalar).map (·.2)

/-- Passes over the rest of a line. -/
def skipToLineEnd (c : Cursor) : Except Problem Cursor :=
  (c.skipWhile fun x => !isBreakScalar x).map (·.2)

/-- Passes over the rest of a line, if it is a comment, and then over the line break; a problem
if there is something else. -/
def skipRestOfLine (c : Cursor) (context : Mark) : Except Problem Cursor := do
  let c ← c.skipBlanks
  let c ← if c.isAt 0 '#' then c.skipToLineEnd else pure c
  if !c.isLineEndAt 0 then c.problem context "did not find expected comment or line break"
  if c.isBreakAt 0 then return (← c.ensure 2).skipLine
  return c

/-! ### Comments -/

/-- The number of places that are looked ahead for a comment. -/
def commentReach : Nat := 512

/-- Looks for a comment from `n` places on, behind characters that satisfy `p`. It does not
matter if a block has a problem: the look ends there. -/
def findComment (p : Char → Bool) (c : Cursor) (n : Nat) : (fuel : Nat) → Cursor × Option Nat
  | 0 => (c, none)
  | fuel + 1 =>
    match c.load (n + 1) with
    | (c, some _) => (c, none)
    | (c, none) =>
      match c.peek? n with
      | some x =>
        if p x then findComment p c (n + 1) fuel
        else (c, if x == '#' then some n else none)
      | none => (c, none)

/-- Passes over blanks and line breaks up to the character with the given index. -/
def skipGapTo (index : Nat) (c : Cursor) : (fuel : Nat) → Except Problem Cursor
  | 0 => .ok c
  | fuel + 1 => do
    let c ← c.ensure 1
    if index ≤ c.mark.index then return c
    if c.isBreakAt 0 then
      let c ← c.ensure 2
      skipGapTo index c.skipLine fuel
    else skipGapTo index c.skip fuel

/-- Passes over a comment at the cursor and over the comments on the lines below it, up to the
end of the last one's line. -/
def skipComments (c : Cursor) : (fuel : Nat) → Except Problem Cursor
  | 0 => .ok c
  | fuel + 1 => do
    let c ← c.skipToLineEnd
    let isPassed (x : Char) : Bool := isBlankScalar x || x == '\n' || x == '\r'
    match c.findComment isPassed 1 (commentReach - 1) with
    | (c, some n) =>
      let c ← c.skipGapTo (c.mark.index + n) (n + 1)
      c.skipComments fuel
    | (c, none) => return c

/-- Passes over a comment on the rest of the line. -/
def skipLineComment (c : Cursor) : Except Problem Cursor :=
  if 0 < c.newlines then .ok c
  else
    match c.findComment isBlankScalar 0 commentReach with
    | (c, some _) => c.skipToLineEnd
    | (c, none) => .ok c

end Cursor

end StructuralLint.Yaml
