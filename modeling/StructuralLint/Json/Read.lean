import StructuralLint.Json.Basic
import StructuralLint.Settings.Value
import StructuralLint.Text.Encoding
import StructuralLint.Text.Quoted

/-!
# Reading JSON

Reads a JSON text byte by byte. A text that ends before its value does has ended too early,
wherever that is; any other fault is blamed on the character at which reading stops.

`Json.entries` gives the members of an object as configuration data: numbers are floating point,
and `null` counts as an empty object. It asks what a number denotes only when all of the text is
known to be JSON.
-/

namespace StructuralLint

/-- Why a text is no JSON object. -/
inductive JsonError where
  /-- The text ends too early. -/
  | unexpectedEnd
  /-- A rune cannot stand where it is. -/
  | unexpected (rune : Rune) (place : String)
  /-- A backslash starts no escape. -/
  | badEscape (written : Text)
  /-- Collections are nested too deeply. -/
  | tooDeep
  /-- The text is JSON of another kind. -/
  | mistyped (kind : String)
  /-- A number at a path is beyond the range of floating point. -/
  | outOfRange (literal : Text) (path : List Text)
  deriving DecidableEq, Repr

/-- A rune in single quotes. -/
def Rune.inQuotes (r : Rune) : Text :=
  if r.isChar '\x27' then "'\\''"
  else if r.isChar '"' then "'\"'"
  else .char '\x27' :: (r.quoted.map Rune.char ++ [.char '\x27'])

/-- Whether a rune can be shown between back quotes. -/
def Rune.isShown : Rune → Bool :=
  Rune.holds fun c => c ≠ '\x60' && c ≠ ' ' && c ≠ '\uFFFD' && isPrintableChar c

/-- A part of a path in which the separator and its escape are escaped. -/
def pathPart (part : Text) : Text :=
  part.flatMap fun r =>
    if r.isChar '~' then Text.ofString "~0"
    else if r.isChar '/' then Text.ofString "~1"
    else [r]

/-- The words for where a number stands. -/
def placeOfNumber (path : List Text) : Text :=
  match Text.joinWith (Text.ofString ".") (path.map pathPart) with
  | [] => "value"
  | field => Text.ofString "struct field ." ++ field

/-- The wording of an error. -/
def JsonError.message : JsonError → Text
  | unexpectedEnd => "unexpected end of JSON input"
  | unexpected r place =>
    Text.ofString "invalid character " ++ r.inQuotes ++ Text.ofString " " ++ Text.ofString place
  | badEscape written =>
    Text.ofString "invalid escape sequence " ++
      (if written.all Rune.isShown then .char '\x60' :: (written ++ [.char '\x60'])
       else written.quoted) ++
      Text.ofString " in string"
  | tooDeep => "exceeded max depth"
  | mistyped kind =>
    Text.ofString "json: cannot unmarshal " ++ Text.ofString kind ++
      Text.ofString " into Go value of type map[string]interface \x7b\x7d"
  | outOfRange literal path =>
    Text.ofString "json: cannot unmarshal number " ++ literal ++ Text.ofString " into Go " ++
      placeOfNumber path ++ Text.ofString " of type float64"

namespace Json

/-- The byte of an ASCII character. -/
def byteOf (c : Char) : UInt8 :=
  UInt8.ofNat c.toNat

/-- A blank between tokens. -/
def isGapByte (b : UInt8) : Bool :=
  b = 0x20 || b = 0x09 || b = 0x0D || b = 0x0A

/-- A decimal digit. -/
def isDigitByte (b : UInt8) : Bool :=
  0x30 ≤ b && b ≤ 0x39

/-- Passes over blanks. -/
def skipGaps (bytes : List UInt8) : List UInt8 :=
  bytes.dropWhile isGapByte

/-- Refuses the rune at the head of the bytes; where there is none, the text has ended. -/
def refuse {α : Type} (place : String) (bytes : List UInt8) : Except JsonError α :=
  match Text.ofBytes (bytes.take 4) with
  | [] => .error .unexpectedEnd
  | r :: _ => .error (.unexpected r place)

/-- Reads the letters of a literal after the first ones. -/
def readLetters (place : String) : List Char → List UInt8 → Except JsonError (List UInt8)
  | [], bytes => .ok bytes
  | _ :: _, [] => .error .unexpectedEnd
  | c :: cs, b :: rest =>
    if b = byteOf c then readLetters place cs rest
    else
      refuse ("in literal " ++ place ++ " (expecting '" ++ String.singleton c ++ "')") (b :: rest)

/-! ### Strings -/

/-- The character that a letter after a backslash stands for. -/
def escape? (b : UInt8) : Option Char :=
  [(byteOf 'b', '\x08'), (byteOf 'f', '\x0c'), (byteOf 'n', '\n'), (byteOf 'r', '\r'),
   (byteOf 't', '\t'), (byteOf '\\', '\\'), (byteOf '/', '/'), (byteOf '"', '"')].lookup b

/-- The value of a hexadecimal digit. -/
def hexValue? (b : UInt8) : Option Nat :=
  if isDigitByte b then some (b.toNat - 0x30)
  else if 0x61 ≤ b && b ≤ 0x66 then some (b.toNat - 0x61 + 10)
  else if 0x41 ≤ b && b ≤ 0x46 then some (b.toNat - 0x41 + 10)
  else none

/-- The escape with the given bytes after its backslash and its letter. -/
def badEscape (letter : UInt8) (bytes : List UInt8) : JsonError :=
  .badEscape (Text.ofBytes (byteOf '\\' :: letter :: bytes))

/-- Reads four hexadecimal digits after the letter of an escape. Where the text ends among them
it has ended too early. -/
def readHex (bytes : List UInt8) : Except JsonError (Nat × List UInt8) :=
  let four := bytes.take 4
  match four.mapM hexValue? with
  | none => .error (badEscape (byteOf 'u') four)
  | some digits =>
    if digits.length < 4 then .error .unexpectedEnd
    else .ok (digits.foldl (fun n d => n * 16 + d) 0, bytes.drop 4)

/-- A unit of a string before surrogates are joined. -/
inductive Unit16 where
  /-- A byte as it stands. -/
  | byte (b : UInt8)
  /-- A number written in hexadecimal. -/
  | code (n : Nat)
  deriving DecidableEq, Repr

/-- Reads a string after its opening quote; `acc` holds the units, last first. -/
def readUnits (acc : List Unit16) :
    (fuel : Nat) → List UInt8 → Except JsonError (List Unit16 × List UInt8)
  | 0, _ | _, [] => .error .unexpectedEnd
  | fuel + 1, b :: rest =>
    if b = byteOf '"' then .ok (acc.reverse, rest)
    else if b = byteOf '\\' then
      match rest with
      | [] => .error .unexpectedEnd
      | e :: rest =>
        if e = byteOf 'u' then
          match readHex rest with
          | .error err => .error err
          | .ok (n, rest) => readUnits (.code n :: acc) fuel rest
        else
          match escape? e with
          | some c => readUnits (.byte (byteOf c) :: acc) fuel rest
          | none => .error (badEscape e [])
    else if b < 0x20 then refuse "in string" (b :: rest)
    else readUnits (.byte b :: acc) fuel rest

/-- The text of some bytes, each stray one replaced. -/
def plainText (bytes : List UInt8) : Text :=
  (Text.ofBytes bytes).map fun r =>
    match r with
    | .stray _ => .replacement
    | r => r

/-- The text of units: surrogates are joined in pairs, and a lone one is replaced. `pending`
holds the bytes since the last number, last first, and `high` an open first half of a pair; at
most one of them is not empty. -/
def joinUnits (pending : List UInt8) (high : Option Nat) : List Unit16 → Text
  | [] => plainText pending.reverse ++ (if high.isSome then [.replacement] else [])
  | .byte b :: rest =>
    (if high.isSome then [.replacement] else []) ++ joinUnits (b :: pending) none rest
  | .code n :: rest =>
    if 0xD800 ≤ n ∧ n ≤ 0xDBFF then
      plainText pending.reverse ++ (if high.isSome then [.replacement] else []) ++
        joinUnits [] (some n) rest
    else if 0xDC00 ≤ n ∧ n ≤ 0xDFFF then
      match high with
      | some h =>
        .char (Char.ofNat (0x10000 + (h - 0xD800) * 0x400 + (n - 0xDC00))) ::
          joinUnits [] none rest
      | none => plainText pending.reverse ++ .replacement :: joinUnits [] none rest
    else
      plainText pending.reverse ++ (if high.isSome then [.replacement] else []) ++
        .char (Char.ofNat n) :: joinUnits [] none rest

/-- Reads a string after its opening quote. -/
def readString (fuel : Nat) (bytes : List UInt8) : Except JsonError (Text × List UInt8) := do
  let (units, rest) ← readUnits [] fuel bytes
  return (joinUnits [] none units, rest)

/-! ### Numbers -/

/-- Reads digits of which there must be one. -/
def readSomeDigits (bytes : List UInt8) : Except JsonError (List UInt8 × List UInt8) :=
  if bytes.head?.any isDigitByte then
    .ok (bytes.takeWhile isDigitByte, bytes.dropWhile isDigitByte)
  else refuse "in numeric literal" bytes

/-- Reads the digits before the point: a lone zero, or digits that start with none. -/
def readWhole (bytes : List UInt8) : Except JsonError (List UInt8 × List UInt8) :=
  match bytes with
  | 0x30 :: rest => .ok ([0x30], rest)
  | bytes => readSomeDigits bytes

/-- Reads a point and the digits after it, if there is a point. -/
def readFraction (bytes : List UInt8) : Except JsonError (List UInt8 × List UInt8) :=
  match bytes with
  | 0x2E :: rest => do
    let (digits, rest) ← readSomeDigits rest
    return (0x2E :: digits, rest)
  | bytes => .ok ([], bytes)

/-- Reads an exponent, if there is one. -/
def readExponent (bytes : List UInt8) : Except JsonError (List UInt8 × List UInt8) :=
  match bytes with
  | e :: rest =>
    if e = byteOf 'e' || e = byteOf 'E' then do
      let (sign, rest) : List UInt8 × List UInt8 :=
        match rest with
        | s :: rest' => if s = byteOf '+' || s = byteOf '-' then ([s], rest') else ([], rest)
        | [] => ([], [])
      let (digits, rest) ← readSomeDigits rest
      return (e :: sign ++ digits, rest)
    else .ok ([], bytes)
  | [] => .ok ([], [])

/-- Reads a number. -/
def readNumber (bytes : List UInt8) : Except JsonError (Text × List UInt8) := do
  let (sign, bytes) : List UInt8 × List UInt8 :=
    match bytes with
    | 0x2D :: rest => ([0x2D], rest)
    | bytes => ([], bytes)
  let (whole, bytes) ← readWhole bytes
  let (fraction, bytes) ← readFraction bytes
  let (exponent, bytes) ← readExponent bytes
  return (Text.ofBytes (sign ++ whole ++ fraction ++ exponent), bytes)

/-! ### Values -/

/-- How deep collections may be nested. -/
def depthLimit : Nat := 10000

mutual

/-- Reads a value. -/
def readValue (depth : Nat) : (fuel : Nat) → List UInt8 → Except JsonError (Json × List UInt8)
  | 0, _ => .error .unexpectedEnd
  | fuel + 1, bytes =>
    match skipGaps bytes with
    | [] => .error .unexpectedEnd
    | b :: rest =>
      if b = byteOf '\x7b' then
        if depthLimit ≤ depth then .error .tooDeep
        else do
          let (members, rest) ← readMembers (depth + 1) true [] fuel rest
          return (.object members, rest)
      else if b = byteOf '[' then
        if depthLimit ≤ depth then .error .tooDeep
        else do
          let (items, rest) ← readItems (depth + 1) true [] fuel rest
          return (.array items, rest)
      else if b = byteOf '"' then do
        let (t, rest) ← readString fuel rest
        return (.string t, rest)
      else if b = byteOf 't' then do
        return (.bool true, ← readLetters "true" ['r', 'u', 'e'] rest)
      else if b = byteOf 'f' then do
        return (.bool false, ← readLetters "false" ['a', 'l', 's', 'e'] rest)
      else if b = byteOf 'n' then do
        return (.null, ← readLetters "null" ['u', 'l', 'l'] rest)
      else if b = byteOf '-' || isDigitByte b then do
        let (literal, rest) ← readNumber (b :: rest)
        return (.number literal, rest)
      else refuse "looking for beginning of value" (b :: rest)
termination_by structural fuel => fuel

/-- Reads the items of an array after its opening bracket or after an item. -/
def readItems (depth : Nat) (isFirst : Bool) (acc : List Json) :
    (fuel : Nat) → List UInt8 → Except JsonError (List Json × List UInt8)
  | 0, _ => .error .unexpectedEnd
  | fuel + 1, bytes =>
    match skipGaps bytes with
    | [] => .error .unexpectedEnd
    | b :: rest =>
      if b = byteOf ']' then .ok (acc.reverse, rest)
      else if isFirst then do
        let (item, rest) ← readValue depth fuel (b :: rest)
        readItems depth false (item :: acc) fuel rest
      else if b = byteOf ',' then do
        let (item, rest) ← readValue depth fuel rest
        readItems depth false (item :: acc) fuel rest
      else refuse "after array element" (b :: rest)
termination_by structural fuel => fuel

/-- Reads one member of an object at its key. -/
def readMember (depth : Nat) :
    (fuel : Nat) → List UInt8 → Except JsonError ((Text × Json) × List UInt8)
  | 0, _ => .error .unexpectedEnd
  | fuel + 1, bytes =>
    match skipGaps bytes with
    | [] => .error .unexpectedEnd
    | b :: rest =>
      if b = byteOf '"' then do
        let (key, rest) ← readString fuel rest
        match skipGaps rest with
        | [] => .error .unexpectedEnd
        | b :: rest =>
          if b = byteOf ':' then
            let (value, rest) ← readValue depth fuel rest
            return ((key, value), rest)
          else refuse "after object key" (b :: rest)
      else refuse "looking for beginning of object key string" (b :: rest)
termination_by structural fuel => fuel

/-- Reads the members of an object after its opening brace or after a member. -/
def readMembers (depth : Nat) (isFirst : Bool) (acc : List (Text × Json)) :
    (fuel : Nat) → List UInt8 → Except JsonError (List (Text × Json) × List UInt8)
  | 0, _ => .error .unexpectedEnd
  | fuel + 1, bytes =>
    match skipGaps bytes with
    | [] => .error .unexpectedEnd
    | b :: rest =>
      if b = byteOf '\x7d' then .ok (acc.reverse, rest)
      else if isFirst then do
        let (member, rest) ← readMember depth fuel (b :: rest)
        readMembers depth false (member :: acc) fuel rest
      else if b = byteOf ',' then do
        let (member, rest) ← readMember depth fuel rest
        readMembers depth false (member :: acc) fuel rest
      else refuse "after object key:value pair" (b :: rest)
termination_by structural fuel => fuel

end

/-- Reads a JSON text. No byte takes more than two calls. -/
def read (bytes : List UInt8) : Except JsonError Json := do
  let (value, rest) ← readValue 0 (2 * bytes.length + 8) bytes
  match skipGaps rest with
  | [] => return value
  | rest => refuse "after top-level value" rest

/-! ### Configuration data -/

mutual

/-- A JSON value as configuration data; `path` leads to it, its last part first. -/
def toValue (path : List Text) : Json → Except JsonError Value
  | null => .ok .null
  | bool b => .ok (.scalar (.bool b))
  | number literal =>
    match Binary64.parse? literal with
    | some x => .ok (.scalar (.float x))
    | none => .error (.outOfRange literal path.reverse)
  | string t => .ok (.str t)
  | array items => do return .list (← toItems path 0 items)
  | object members => do return .map (← toEntries path [] members)

/-- The items of an array from the given position on as configuration data. -/
def toItems (path : List Text) (position : Nat) : List Json → Except JsonError (List Value)
  | [] => .ok []
  | j :: js => do
    let v ← toValue (Text.ofString (toString position) :: path) j
    return v :: (← toItems path (position + 1) js)

/-- The members of an object as configuration data; the last of equal keys counts. -/
def toEntries (path : List Text) (acc : List (Text × Value)) :
    List (Text × Json) → Except JsonError (List (Text × Value))
  | [] => .ok acc
  | (key, j) :: rest => do
    let v ← toValue (key :: path) j
    toEntries path (setKey key v acc) rest

end

/-- What a JSON value is, in one word. -/
def kindName : Json → String
  | null => "null"
  | bool _ => "bool"
  | number _ => "number"
  | string _ => "string"
  | array _ => "array"
  | object _ => "object"

/-- The entries of the object that a JSON text holds. -/
def entries (bytes : List UInt8) : Except JsonError (List (Text × Value)) := do
  match ← read bytes with
  | object members => toEntries [] [] members
  | null => return []
  | other => .error (.mistyped (kindName other))

end Json

end StructuralLint
