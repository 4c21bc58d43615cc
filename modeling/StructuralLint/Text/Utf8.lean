import StructuralLint.Number.Power
import StructuralLint.Text.Basic

/-!
# UTF-8

Reading bytes as runes and writing runes as bytes. A sequence is well formed when it is the
shortest encoding of a scalar value: no surrogates, no overlong forms, nothing above U+10FFFF.
A byte at which no well-formed sequence starts is one stray rune, and reading goes on at the
next byte, so no byte is ever lost.
-/

namespace StructuralLint

namespace Utf8

/-- Whether a byte continues a sequence, i.e. lies in `80 .. BF`. -/
def isContinuation (b : UInt8) : Bool :=
  0x80 ≤ b && b ≤ 0xBF

/-- The six payload bits of a continuation byte. -/
def payload (b : UInt8) : Nat :=
  b.toNat % 0x40

/-- The scalar value that starts at the head of the bytes, with the number of further bytes it
takes; `none` when no well-formed sequence starts there. -/
def leading? : List UInt8 → Option (Char × Nat)
  | [] => none
  | b :: rest =>
    if b < 0x80 then some (Char.ofNat b.toNat, 0)
    else if 0xC2 ≤ b && b ≤ 0xDF then
      match rest with
      | c :: _ =>
        if isContinuation c then some (Char.ofNat (b.toNat % 0x20 * 0x40 + payload c), 1) else none
      | [] => none
    else if 0xE0 ≤ b && b ≤ 0xEF then
      match rest with
      | c :: d :: _ =>
        let lo : UInt8 := if b = 0xE0 then 0xA0 else 0x80
        let hi : UInt8 := if b = 0xED then 0x9F else 0xBF
        if lo ≤ c && c ≤ hi && isContinuation d then
          some (Char.ofNat ((b.toNat % 0x10 * 0x40 + payload c) * 0x40 + payload d), 2)
        else none
      | _ => none
    else if 0xF0 ≤ b && b ≤ 0xF4 then
      match rest with
      | c :: d :: e :: _ =>
        let lo : UInt8 := if b = 0xF0 then 0x90 else 0x80
        let hi : UInt8 := if b = 0xF4 then 0x8F else 0xBF
        if lo ≤ c && c ≤ hi && isContinuation d && isContinuation e then
          some (Char.ofNat
            (((b.toNat % 0x08 * 0x40 + payload c) * 0x40 + payload d) * 0x40 + payload e), 3)
        else none
      | _ => none
    else none

/-- Reads bytes, passing over the first `skip` of them; `acc` holds the runes read, last first. -/
def decodeOnto (acc : Text) : Nat → List UInt8 → Text
  | _, [] => acc
  | skip + 1, _ :: rest => decodeOnto acc skip rest
  | 0, b :: rest =>
    match leading? (b :: rest) with
    | some (c, n) => decodeOnto (.char c :: acc) n rest
    | none => decodeOnto (.stray b :: acc) 0 rest

/-- The bytes of a scalar value. -/
def encodeChar (c : Char) : List UInt8 :=
  let n := c.toNat
  let tail (k : Nat) : UInt8 := UInt8.ofNat (0x80 + n / powerOfTwo (6 * k) % 0x40)
  if n < 0x80 then [UInt8.ofNat n]
  else if n < 0x800 then [UInt8.ofNat (0xC0 + n / 0x40), tail 0]
  else if n < 0x10000 then [UInt8.ofNat (0xE0 + n / 0x1000), tail 1, tail 0]
  else [UInt8.ofNat (0xF0 + n / 0x40000), tail 2, tail 1, tail 0]

end Utf8

/-- The bytes of a rune. -/
def Rune.toBytes : Rune → List UInt8
  | char c => Utf8.encodeChar c
  | stray b => [b]

namespace Text

/-- Reads a byte string. -/
def ofBytes (bytes : List UInt8) : Text :=
  (Utf8.decodeOnto [] 0 bytes).reverse

/-- The bytes of a text. -/
def toBytes (t : Text) : List UInt8 :=
  t.flatMap Rune.toBytes

/-- Whether one text comes before another or is the same, byte by byte. -/
def byteLe (a b : Text) : Bool :=
  !decide (b.toBytes < a.toBytes)

/-- The text as a string, when its bytes are well-formed UTF-8. -/
def toString? (t : Text) : Option String :=
  (scalars? (ofBytes t.toBytes)).map String.ofList

end Text

end StructuralLint
