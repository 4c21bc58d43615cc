import StructuralLint.Text.Utf8

/-!
# Encodings that a mark tells

A text may start with a byte order mark, which tells how the rest is encoded. What is no character
in that encoding is replaced, so a marked text has no stray bytes; a text without a mark is taken
as it stands.
-/

namespace StructuralLint

/-- The character that stands for what is no character. -/
def Rune.replacement : Rune := .char '\uFFFD'

namespace Utf8

/-- The number of bytes that may follow a first byte before the sequence is complete, all but the
last of them, and the least and the greatest of the first of these. -/
def openTail (b : UInt8) : Nat × UInt8 × UInt8 :=
  if 0xE0 ≤ b && b ≤ 0xEF then
    (1, if b = 0xE0 then 0xA0 else 0x80, if b = 0xED then 0x9F else 0xBF)
  else if 0xF0 ≤ b && b ≤ 0xF4 then
    (2, if b = 0xF0 then 0x90 else 0x80, if b = 0xF4 then 0x8F else 0xBF)
  else (0, 0x80, 0xBF)

/-- The number of runes after a stray byte that belong to the same sequence, which is cut
short. -/
def cutShort (b : UInt8) (t : Text) : Nat :=
  let (most, lo, hi) := openTail b
  let continues (lo hi : UInt8) : Rune → Bool
    | .stray c => lo ≤ c && c ≤ hi
    | .char _ => false
  match t with
  | first :: second :: _ =>
    if most = 0 || !continues lo hi first then 0
    else if most = 1 || !continues 0x80 0xBF second then 1
    else 2
  | [first] => if most = 0 || !continues lo hi first then 0 else 1
  | [] => 0

end Utf8

namespace Text

/-- Replaces stray bytes, those of one sequence that is cut short together. The first `skip` runes
are passed over. -/
def replaceStrays (acc : Text) : (skip : Nat) → Text → Text
  | _, [] => acc.reverse
  | skip + 1, _ :: rest => replaceStrays acc skip rest
  | 0, .stray b :: rest => replaceStrays (.replacement :: acc) (Utf8.cutShort b rest) rest
  | 0, r :: rest => replaceStrays (r :: acc) 0 rest

end Text

namespace Utf16

/-- The units of some bytes; `swapped` says that the lower byte comes first. A last byte without
a partner is no unit. -/
def units (swapped : Bool) : List UInt8 → List (Option Nat)
  | [] => []
  | [_] => [none]
  | a :: b :: rest =>
    some (if swapped then b.toNat * 0x100 + a.toNat else a.toNat * 0x100 + b.toNat) ::
      units swapped rest

/-- A first half of a pair. -/
def isHigh (n : Nat) : Bool :=
  0xD800 ≤ n && n ≤ 0xDBFF

/-- A second half of a pair. -/
def isLow (n : Nat) : Bool :=
  0xDC00 ≤ n && n ≤ 0xDFFF

/-- The text of some units. A half without its partner is replaced, and so are two second halves
together. `half` is a half that waits for its partner, `acc` holds the runes, last first. -/
def decode (acc : Text) (half : Option Nat) : List (Option Nat) → Text
  | [] => (half.elim acc fun _ => .replacement :: acc).reverse
  | none :: rest => decode (.replacement :: half.elim acc fun _ => .replacement :: acc) none rest
  | some n :: rest =>
    match half with
    | some h =>
      if isLow n then
        let joined : Rune :=
          if isHigh h then .char (Char.ofNat (0x10000 + (h - 0xD800) * 0x400 + (n - 0xDC00)))
          else .replacement
        decode (joined :: acc) none rest
      else if isHigh n then decode (.replacement :: acc) (some n) rest
      else decode (.char (Char.ofNat n) :: .replacement :: acc) none rest
    | none =>
      if isHigh n || isLow n then decode acc (some n) rest
      else decode (.char (Char.ofNat n) :: acc) none rest

end Utf16

/-- The text that a mark, if there is one, tells how to read. -/
def Text.unmarked (t : Text) : Text :=
  match t with
  | .char '\uFEFF' :: rest => Text.replaceStrays [] 0 rest
  | .stray 0xFF :: .stray 0xFE :: rest =>
    Utf16.decode [] none (Utf16.units true (Text.toBytes rest))
  | .stray 0xFE :: .stray 0xFF :: rest =>
    Utf16.decode [] none (Utf16.units false (Text.toBytes rest))
  | t => t

end StructuralLint
