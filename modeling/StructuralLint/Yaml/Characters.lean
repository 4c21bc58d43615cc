import StructuralLint.Text.Utf8
import StructuralLint.Yaml.Token

/-!
# The characters of a YAML stream

A stream is UTF-8, with or without a byte order mark, or UTF-16 with one. It is read in blocks of
512 bytes, and what is wrong with the characters of a block shows only when that block is asked
for. A character that a block cuts in two belongs to the next block. Control characters are
refused. A stream without any byte counts as one empty line.
-/

namespace StructuralLint.Yaml

/-- A block of a stream: the characters that could be read, and the problem that ended them. -/
structure Block where
  characters : List Char
  problem : Option Problem := none
  deriving DecidableEq, Repr

/-- A problem with the characters of a stream; it has no line. -/
def charactersProblem (text : String) : Problem :=
  ⟨.grammar, 0, 0, text⟩

/-- Whether a character may stand in a stream. -/
def isAllowed (c : Char) : Bool :=
  let n := c.toNat
  n = 0x09 || n = 0x0A || n = 0x0D || (0x20 ≤ n && n ≤ 0x7E) || n = 0x85 ||
    (0xA0 ≤ n && n ≤ 0xD7FF) || (0xE000 ≤ n && n ≤ 0xFFFD) || 0x10000 ≤ n

/-- A character that may stand in a stream. -/
def allowed (n : Nat) : Except Problem Char :=
  if isAllowed (Char.ofNat n) then .ok (Char.ofNat n)
  else .error (charactersProblem "control characters are not allowed")

/-- What reading some bytes gives: the characters, the bytes of a last character that is not
complete, and what is wrong. -/
structure Decoded where
  characters : List Char
  incomplete : List UInt8 := []
  problem : Option Problem := none
  deriving DecidableEq, Repr

/-! ### UTF-8 -/

/-- The number of bytes that a leading byte announces; `none` for a byte that cannot lead. -/
def announcedWidth? (b : UInt8) : Option Nat :=
  if b < 0x80 then some 1
  else if 0xC0 ≤ b && b < 0xE0 then some 2
  else if 0xE0 ≤ b && b < 0xF0 then some 3
  else if 0xF0 ≤ b && b < 0xF8 then some 4
  else none

/-- The payload of a leading byte. -/
def leadingPayload (b : UInt8) : Nat :=
  if b < 0x80 then b.toNat
  else if b < 0xE0 then b.toNat % 0x20
  else if b < 0xF0 then b.toNat % 0x10
  else b.toNat % 0x08

/-- The least code point that takes the given number of bytes. -/
def leastOfWidth (width : Nat) : Nat :=
  match width with
  | 2 => 0x80
  | 3 => 0x800
  | 4 => 0x10000
  | _ => 0

/-- The character with the given leading byte and the bytes after it. -/
def decodeScalar (b : UInt8) (tail : List UInt8) : Except Problem Char :=
  if !tail.all Utf8.isContinuation then
    .error (charactersProblem "invalid trailing UTF-8 octet")
  else
    let n := tail.foldl (fun n b => n * 0x40 + Utf8.payload b) (leadingPayload b)
    if n < leastOfWidth (tail.length + 1) then
      .error (charactersProblem "invalid length of a UTF-8 sequence")
    else if (0xD800 ≤ n ∧ n ≤ 0xDFFF) ∨ 0x10FFFF < n then
      .error (charactersProblem "invalid Unicode character")
    else allowed n

/-- Reads UTF-8, passing over the first `skip` bytes; `acc` holds what is read, last first. -/
def decodeUtf8 (acc : List Char) : (skip : Nat) → List UInt8 → Decoded
  | _, [] => ⟨acc.reverse, [], none⟩
  | skip + 1, _ :: rest => decodeUtf8 acc skip rest
  | 0, b :: rest =>
    match announcedWidth? b with
    | none => ⟨acc.reverse, [], some (charactersProblem "invalid leading UTF-8 octet")⟩
    | some width =>
      let tail := rest.take (width - 1)
      if tail.length + 1 < width then ⟨acc.reverse, b :: rest, none⟩
      else
        match decodeScalar b tail with
        | .error e => ⟨acc.reverse, [], some e⟩
        | .ok c => decodeUtf8 (c :: acc) (width - 1) rest

/-! ### UTF-16 -/

/-- A unit of two bytes. -/
def unitOf (bigEndian : Bool) (a b : UInt8) : Nat :=
  if bigEndian then a.toNat * 0x100 + b.toNat else b.toNat * 0x100 + a.toNat

/-- Reads UTF-16; `acc` holds what is read, last first. -/
def decodeUtf16 (bigEndian : Bool) (acc : List Char) : List UInt8 → Decoded
  | [] => ⟨acc.reverse, [], none⟩
  | [a] => ⟨acc.reverse, [a], none⟩
  | a :: b :: rest =>
    let u := unitOf bigEndian a b
    if 0xDC00 ≤ u ∧ u ≤ 0xDFFF then
      ⟨acc.reverse, [], some (charactersProblem "unexpected low surrogate area")⟩
    else if 0xD800 ≤ u ∧ u ≤ 0xDBFF then
      match rest with
      | c :: d :: rest =>
        let v := unitOf bigEndian c d
        if 0xDC00 ≤ v ∧ v ≤ 0xDFFF then
          match allowed (0x10000 + (u - 0xD800) * 0x400 + (v - 0xDC00)) with
          | .error e => ⟨acc.reverse, [], some e⟩
          | .ok x => decodeUtf16 bigEndian (x :: acc) rest
        else ⟨acc.reverse, [], some (charactersProblem "expected low surrogate area")⟩
      | rest => ⟨acc.reverse, a :: b :: rest, none⟩
    else
      match allowed u with
      | .error e => ⟨acc.reverse, [], some e⟩
      | .ok x => decodeUtf16 bigEndian (x :: acc) rest

/-! ### Blocks -/

/-- How the characters of a stream are encoded. -/
inductive Encoding where
  | utf8
  | utf16 (bigEndian : Bool)
  deriving DecidableEq, Repr

/-- Reads some bytes. -/
def Encoding.decode : Encoding → List UInt8 → Decoded
  | utf8, bytes => decodeUtf8 [] 0 bytes
  | utf16 bigEndian, bytes => decodeUtf16 bigEndian [] bytes

/-- The problem of a stream that ends inside a character. -/
def Encoding.cutShort : Encoding → List UInt8 → Problem
  | utf8, _ => charactersProblem "incomplete UTF-8 octet sequence"
  | utf16 _, bytes =>
    if bytes.length < 2 then charactersProblem "incomplete UTF-16 character"
    else charactersProblem "incomplete UTF-16 surrogate pair"

/-- The number of bytes in a block. -/
def blockSize : Nat := 512

/-- The blocks of some bytes, the first of which has `size` bytes; `fuel` bounds their number. -/
def blocksOf (encoding : Encoding) (size : Nat) : (fuel : Nat) → List UInt8 → List Block
  | 0, _ | _, [] => []
  | fuel + 1, bytes =>
    let d := encoding.decode (bytes.take size)
    if d.problem.isSome then [⟨d.characters, d.problem⟩]
    else
      match bytes.drop size with
      | [] =>
        if d.incomplete.isEmpty then [⟨d.characters, none⟩]
        else [⟨d.characters, none⟩, ⟨[], some (encoding.cutShort d.incomplete)⟩]
      | rest => ⟨d.characters, none⟩ :: blocksOf encoding blockSize fuel (d.incomplete ++ rest)

/-- The blocks of a stream. The mark that tells the encoding counts as a part of the first. -/
def blocks (bytes : List UInt8) : List Block :=
  match bytes with
  | [] => [⟨['\n'], none⟩]
  | 0xEF :: 0xBB :: 0xBF :: rest => blocksOf .utf8 (blockSize - 3) bytes.length rest
  | 0xFF :: 0xFE :: rest => blocksOf (.utf16 false) (blockSize - 2) bytes.length rest
  | 0xFE :: 0xFF :: rest => blocksOf (.utf16 true) (blockSize - 2) bytes.length rest
  | bytes => blocksOf .utf8 blockSize bytes.length bytes

end StructuralLint.Yaml
