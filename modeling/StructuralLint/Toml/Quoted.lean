import StructuralLint.Number.Integer
import StructuralLint.Toml.Basic

/-!
# TOML strings

A string is first cut out of the text by its quotes, and what it holds is looked at only then.
Between single quotes everything stands for itself. Between double quotes a backslash starts an
escape; a string without any is checked as a whole, one with escapes rune by rune.
-/

namespace StructuralLint.Toml

/-- A string between double quotes, cut out of a text. -/
structure Quoted where
  /-- What stands between the quotes. -/
  inner : Text
  /-- Whether a backslash does. -/
  hasEscape : Bool
  /-- The text after the closing quotes. -/
  rest : Text
  deriving DecidableEq, Repr

/-! ### Finding the closing quotes -/

/-- The runes before a closing double quote; `acc` holds those passed, last first. -/
def splitBasic (acc : Text) (hasEscape : Bool) : Text → Except ReadError Quoted
  | [] => refuse "basic string not terminated by \""
  | r :: rest =>
    if r.isChar '"' then .ok ⟨acc.reverse, hasEscape, rest⟩
    else if r.isChar '\n' || r.isChar '\r' then refuse "basic strings cannot have new lines"
    else if r.isChar '\\' then
      match rest with
      | [] => refuse "need a character after \\"
      | e :: rest => splitBasic (e :: r :: acc) true rest
    else splitBasic (r :: acc) hasEscape rest

/-- The runes before a closing single quote, and the rest. -/
def splitLiteral (acc : Text) : Text → Except ReadError (Text × Text)
  | [] => refuse "unterminated literal string"
  | r :: rest =>
    if r.isChar '\x27' then .ok (acc.reverse, rest)
    else if r.isChar '\n' || r.isChar '\r' then refuse "literal strings cannot have new lines"
    else if isPlain r then splitLiteral (r :: acc) rest
    else refuse "invalid character"

/-- The number of quotes of a closing run that belong to the string: three close it, and up to
two more may stand before them. -/
def innerQuotes (refusal : String) (quote : Char) (t : Text) : Except ReadError Nat :=
  match (t.takeWhile (Rune.isChar quote)).length with
  | 3 => .ok 0
  | 4 => .ok 1
  | 5 => .ok 2
  | _ => refuse refusal

/-- The runes before three closing double quotes. -/
def splitLongBasic (acc : Text) (hasEscape : Bool) : Text → Except ReadError Quoted
  | [] => refuse "multiline basic string not terminated by \"\"\""
  | r :: rest =>
    if startsWith "\"\"\"" (r :: rest) then do
      let n ← innerQuotes "\"\"\" not allowed in multiline basic string" '"' (r :: rest)
      return ⟨acc.reverse ++ List.replicate n (.char '"'), hasEscape, (r :: rest).drop (n + 3)⟩
    else if r.isChar '\\' then
      match rest with
      | [] => refuse "need a character after \\"
      | e :: rest => splitLongBasic (e :: r :: acc) true rest
    else if r.isChar '\r' then
      match rest with
      | .char '\n' :: rest => splitLongBasic (.char '\n' :: r :: acc) hasEscape rest
      | _ => refuse "need a \\n after \\r"
    else splitLongBasic (r :: acc) hasEscape rest

/-- The runes before three closing single quotes, and the rest. -/
def splitLongLiteral (acc : Text) : Text → Except ReadError (Text × Text)
  | [] => refuse "multiline literal string not terminated by '''"
  | r :: rest =>
    if startsWith "'''" (r :: rest) then do
      let n ← innerQuotes "''' not allowed in multiline literal string" '\x27' (r :: rest)
      return (acc.reverse ++ List.replicate n (.char '\x27'), (r :: rest).drop (n + 3))
    else if r.isChar '\r' then
      match rest with
      | .char '\n' :: rest => splitLongLiteral (.char '\n' :: r :: acc) rest
      | _ => refuse "need a \\n after \\r"
    else if isPlain r then splitLongLiteral (r :: acc) rest
    else refuse "invalid character"

/-! ### Escapes -/

/-- The characters that a letter after a backslash stands for. -/
def shortEscapes : List (Char × Char) :=
  [('"', '"'), ('\\', '\\'), ('b', '\x08'), ('f', '\x0c'), ('n', '\n'), ('r', '\r'), ('t', '\t'),
   ('e', '\x1b')]

/-- The character that a rune after a backslash stands for by itself. -/
def shortEscape? : Rune → Option Char
  | .char c => shortEscapes.lookup c
  | .stray _ => none

/-- The value of a hexadecimal digit. -/
def hexValue? : Rune → Option Nat
  | .char c => (Integer.digitValue? c).filter (· < 16)
  | .stray _ => none

/-- Reads the hexadecimal number of an escape. -/
def readCode (width : Nat) (t : Text) : Except ReadError Char :=
  let digits := t.take width
  if Text.size digits < width then
    refuse ("unicode point needs " ++ toString width ++ " character, not " ++
      toString (Text.size digits))
  else
    match digits.mapM hexValue? with
    | none => refuse "non-hex character"
    | some ds =>
      let n := ds.foldl (fun n d => n * 16 + d) 0
      if 0x10FFFF < n ∨ (0xD800 ≤ n ∧ n ≤ 0xDFFF) then
        refuse "escape sequence is invalid Unicode code point"
      else .ok (Char.ofNat n)

/-- Whether nothing but blanks stands before the end of the line. -/
def endsLine : Text → Bool
  | .char ' ' :: t | .char '\t' :: t => endsLine t
  | .char '\n' :: _ | .char '\r' :: .char '\n' :: _ => true
  | _ => false

/-- A blank or a part of a line break. -/
def isBlank (r : Rune) : Bool :=
  isGap r || r.isChar '\n' || r.isChar '\r'

/-- What a string with escapes denotes. `skip` runes belong to an escape and are passed over.
In a string of several lines a backslash at the end of a line takes the line break and the blanks
after it away, and the digits of an escape are looked for beyond the end, in the closing
quotes. -/
def unescape (isLong : Bool) (acc : Text) : (skip : Nat) → Text → Except ReadError Text
  | _, [] => .ok acc.reverse
  | skip + 1, _ :: rest => unescape isLong acc skip rest
  | 0, r :: rest =>
    if r.isChar '\\' then
      if isLong && endsLine rest then
        unescape isLong acc (rest.takeWhile isBlank).length rest
      else
        match rest with
        | [] => refuse "need a character after \\"
        | e :: after =>
          match shortEscape? e with
          | some x => unescape isLong (.char x :: acc) 1 rest
          | none =>
            if e.isChar 'u' || e.isChar 'U' then do
              let width := if e.isChar 'u' then 4 else 8
              let closing := if isLong then List.replicate 3 (Rune.char '"') else []
              let x ← readCode width (after.take width ++ closing)
              unescape isLong (.char x :: acc) (1 + width) rest
            else refuseRune "invalid escaped character " e
    else if isPlain r then unescape isLong (r :: acc) 0 rest
    else refuseRune "invalid character " r

/-- What a string between double quotes denotes. -/
def Quoted.denoted (isLong : Bool) (q : Quoted) : Except ReadError Text :=
  if q.hasEscape then unescape isLong [] 0 q.inner
  else if q.inner.all isPlain then .ok q.inner
  else refuse "invalid UTF-8"

/-! ### Reading strings -/

/-- Drops a line break right after the opening quotes. -/
def dropFirstBreak : Text → Text
  | .char '\n' :: t | .char '\r' :: .char '\n' :: t => t
  | t => t

/-- Reads a string on one line at its opening quote. -/
def readShortString (t : Text) : Except ReadError (Text × Text) :=
  if headIs '"' t then do
    let q ← splitBasic [] false (t.drop 1)
    return (← q.denoted false, q.rest)
  else splitLiteral [] (t.drop 1)

/-- Reads a string at its opening quote, or at three of them. -/
def readString (t : Text) : Except ReadError (Text × Text) :=
  if startsWith "\"\"\"" t then do
    let q ← splitLongBasic [] false (t.drop 3)
    return (← { q with inner := dropFirstBreak q.inner }.denoted true, q.rest)
  else if startsWith "'''" t then do
    let (inner, rest) ← splitLongLiteral [] (t.drop 3)
    return (dropFirstBreak inner, rest)
  else readShortString t

end StructuralLint.Toml
