import StructuralLint.Settings.Dotenv.Lines
import StructuralLint.Settings.Value
import StructuralLint.Text.Encoding
import StructuralLint.Text.Space

/-!
# Variable files

Files of lines such as `KEY=value`, `KEY: value` or `export KEY=value`. A value may stand in
quotes, in which case it may run over several lines, and a comment may follow it. Outside single
quotes `$NAME` and `${NAME}` stand for a variable of the environment, or else for one set further
up in the file.
-/

namespace StructuralLint.Dotenv

/-- Why a file of variables cannot be read. -/
inductive ReadError where
  /-- A quote is not closed. -/
  | missingQuotes
  /-- A line sets no variable. -/
  | malformed (line : Text)
  /-- A line exports a variable that is not set. -/
  | unset (line : Text)
  /-- A line is too long. -/
  | lineTooLong
  deriving DecidableEq, Repr

/-- The wording of an error. -/
def ReadError.message : ReadError → Text
  | missingQuotes => "missing quotes"
  | malformed line => Text.ofString "line \x60" ++ line ++ Text.ofString "\x60 doesn't match format"
  | unset line => Text.ofString "line \x60" ++ line ++ Text.ofString "\x60 has an unset variable"
  | lineTooLong => "bufio.Scanner: token too long"

/-! ### Lines -/

/-- A rune of a name. -/
def isNameRune : Rune → Bool :=
  Rune.holds fun c => c.isAlphanum || c == '_' || c == '.'

/-- What may follow a value: blanks, and a comment on the same line. -/
def isTail (t : Text) : Bool :=
  match t.dropWhile Rune.isPatternSpace with
  | [] => true
  | r :: rest => r.isChar '#' && !rest.any (Rune.isChar '\n')

/-- The longest value in the given quotes at the start of a text that a tail can follow, the
quotes included. -/
def quotedValue? (quote : Char) (t : Text) : Option Text :=
  if t.head?.any (Rune.isChar quote) then
    ((List.range t.length).reverse.find? fun i =>
      0 < i && (t[i]?).any (Rune.isChar quote) && isTail (t.drop (i + 1))).map
    fun i => t.take (i + 1)
  else none

/-- The unquoted value at the start of a text, if a tail follows it. -/
def plainValue? (t : Text) : Option Text :=
  let run := t.takeWhile fun r => !(r.isChar '#' || r.isChar '\n')
  if !run.isEmpty && isTail (t.drop run.length) then some run else none

/-- The value at the start of a text, possibly empty. -/
def value? (t : Text) : Option Text :=
  quotedValue? '\x27' t <|> quotedValue? '"' t <|> plainValue? t <|>
    (if isTail t then some [] else none)

/-- The name and the value that a text sets. After a colon the value may start at any of the
blanks, the first that works. -/
def assignment? (t : Text) : Option (Text × Text) :=
  let name := t.takeWhile isNameRune
  let rest := t.drop name.length
  if name.isEmpty then none
  else
    match rest.dropWhile Rune.isPatternSpace with
    | .char '=' :: value => (value? (value.dropWhile Rune.isPatternSpace)).map fun v => (name, v)
    | _ =>
      match rest with
      | .char ':' :: value =>
        let gap := value.takeWhile Rune.isPatternSpace
        ((List.range gap.length).findSome? fun i => value? (value.drop (i + 1))).map
          fun v => (name, v)
      | _ => none

/-- The word before an exported assignment. -/
def exportWord : Text := "export"

/-- The name and the value that a line sets. -/
def lineAssignment? (line : Text) : Option (Text × Text) :=
  let t := line.dropWhile Rune.isPatternSpace
  let exported : Option (Text × Text) :=
    let rest := t.drop exportWord.length
    if exportWord.isPrefixOf t && rest.head?.any Rune.isPatternSpace then
      assignment? (rest.dropWhile Rune.isPatternSpace)
    else none
  exported <|> assignment? t

/-! ### Values -/

/-- Replaces two characters by one, wherever they stand together. -/
def replacePair (a b c : Char) : Text → Text
  | r :: s :: rest =>
    if r.isChar a && s.isChar b then .char c :: replacePair a b c rest
    else r :: replacePair a b c (s :: rest)
  | t => t

/-- Drops the backslash before every rune but a dollar sign. -/
def unescape : Text → Text
  | r :: s :: rest =>
    if r.isChar '\\' && !s.isChar '$' then s :: unescape rest else r :: unescape (s :: rest)
  | t => t

/-- A rune of the name of a variable to put in. -/
def isVariableRune : Rune → Bool :=
  Rune.holds fun c => c.isUpper || c.isDigit || c == '_'

/-- A reference to a variable at a dollar sign: its name, and the runes it takes. -/
def reference (t : Text) : Text × Nat :=
  let afterDollar := t.drop 1
  let opening := if afterDollar.head?.any (Rune.isChar '\x7b') then 1 else 0
  let name := (afterDollar.drop opening).takeWhile isVariableRune
  let afterName := afterDollar.drop (opening + name.length)
  let closing := if afterName.head?.any (Rune.isChar '\x7d') then 1 else 0
  (name, 1 + opening + name.length + closing)

/-- Puts in the values of variables. The first `skip` runes are passed over: they belong to a
reference. -/
def putIn (lookUp : Text → Text) : (skip : Nat) → Text → Text
  | _, [] => []
  | skip + 1, _ :: rest => putIn lookUp skip rest
  | 0, r :: rest =>
    if r.isChar '\\' && rest.head?.any (Rune.isChar '$') then
      let (_, width) := reference rest
      rest.take width ++ putIn lookUp width rest
    else if r.isChar '$' then
      let (name, width) := reference (r :: rest)
      (if name.isEmpty then (r :: rest).take width else lookUp name) ++
        putIn lookUp (width - 1) rest
    else r :: putIn lookUp 0 rest

/-- Whether a text starts and ends with a quote. -/
def isQuotedBy (quote : Char) (t : Text) : Bool :=
  2 ≤ t.length && t.head?.any (Rune.isChar quote) && t.getLast?.any (Rune.isChar quote)

/-- What a written value means. -/
def meaning (lookUp : Text → Text) (written : Text) : Text :=
  let t := written.trim
  if isQuotedBy '\x27' t then t.tail.dropLast
  else if isQuotedBy '"' t then
    putIn lookUp 0
      (unescape (replacePair '\\' 'r' '\r' (replacePair '\\' 'n' '\n' t.tail.dropLast)))
  else putIn lookUp 0 t

/-! ### Files -/

/-- A file half read. -/
structure Progress where
  /-- The variables set so far. -/
  set : List (Text × Text) := []
  /-- A quote that is open, and the lines since it was opened. -/
  opened : Option (Char × Text) := none
  deriving Inhabited

/-- The position of the last occurrence of a byte. -/
def lastIndex? (b : UInt8) (bytes : List UInt8) : Option Nat :=
  ((bytes.zipIdx.filter (·.1 = b)).getLast?).map (·.2)

/-- The quote that a line leaves open. -/
def leftOpen? (line : Text) : Option Char :=
  let after : Text := match line.cut '=' with
    | (before, some value) => if before.isEmpty then [] else value
    | (_, none) =>
      match line.cut ':' with
      | (before, some value) => if before.isEmpty then [] else value
      | (_, none) => []
  let value : Text := Text.trim after
  match value with
  | .char q :: rest =>
    if q == '"' || q == '\x27' then
      match lastIndex? (UInt8.ofNat q.toNat) (Text.toBytes (Text.trim rest)) with
      | some i => if value.toBytes[i]? = some 0x5C then some q else none
      | none => some q
    else none
  | _ => none

/-- Whether a line closes a quote: its last one must not be escaped. -/
def closes (quote : Char) (line : Text) : Bool :=
  let bytes := line.toBytes
  match lastIndex? (UInt8.ofNat quote.toNat) bytes with
  | some i => !(0 < i && bytes[i - 1]? = some 0x5C)
  | none => false

/-- The value of a variable: from the environment, or else from further up. -/
def lookUp (environment set : List (Text × Text)) (name : Text) : Text :=
  ((environment.lookup name) <|> (set.lookup name)).getD []

/-- Takes in a whole line. -/
def takeLine (environment : List (Text × Text)) (p : Progress) (line : Text) :
    Except ReadError Progress :=
  match lineAssignment? line with
  | some (name, written) =>
    let value := meaning (lookUp environment p.set) written
    .ok { set := setKey name value p.set }
  | none =>
    let t := line.trim
    let exported := t.cut ' '
    match exported with
    | (_, some name) =>
      if exportWord.isPrefixOf t && (p.set.lookup name).isNone then .error (.unset t)
      else .error (.malformed line)
    | (_, none) => .error (.malformed line)

/-- Takes in the next piece between line breaks. -/
def takePiece (environment : List (Text × Text)) (p : Progress) (piece : Text) :
    Except ReadError Progress :=
  match p.opened with
  | some (quote, lines) =>
    let lines := lines ++ .char '\n' :: piece
    if closes quote piece then takeLine environment { p with opened := none } lines
    else .ok { p with opened := some (quote, lines) }
  | none =>
    let line := piece.trim
    if line.isEmpty || line.head?.any (Rune.isChar '#') then .ok p
    else
      match leftOpen? line with
      | some quote => .ok { p with opened := some (quote, line) }
      | none => takeLine environment p line

/-- Reads a file of variables, given the environment. -/
def read (environment : List (Text × Text)) (file : Text) :
    Except ReadError (List (Text × Text)) := do
  let (pieces, isCutShort) := lines file.unmarked
  let p ← pieces.foldlM (takePiece environment) {}
  if p.opened.isSome then .error .missingQuotes
  if isCutShort then .error .lineTooLong
  return p.set

/-- The variables of a file as configuration data. -/
def entries (environment : List (Text × Text)) (file : Text) :
    Except ReadError (List (Text × Value)) := do
  return (← read environment file).map fun (name, value) => (name, .str value)

end StructuralLint.Dotenv
