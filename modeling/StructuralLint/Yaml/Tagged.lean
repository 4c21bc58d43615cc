import StructuralLint.Yaml.Fault
import StructuralLint.Yaml.Implicit

/-!
# Tagged YAML scalars

What a scalar denotes when its tag and its quotes are taken into account. The tags of the
language itself are checked, except that an integer may be tagged as a decimal fraction; binary
data is written in base 64; under any other tag a scalar is a text.
-/

namespace StructuralLint.Yaml

namespace Tag

/-- The tag of texts. -/
def str : Text := "!!str"

/-- The tag of points in time. -/
def timestamp : Text := "!!timestamp"

/-- The tag of decimal fractions. -/
def float : Text := "!!float"

/-- The tag of binary data. -/
def binary : Text := "!!binary"

/-- The tag of a merge key. -/
def merge : Text := "!!merge"

/-- The tag of sequences. -/
def sequence : Text := "!!seq"

/-- The tag of mappings. -/
def mapping : Text := "!!map"

/-- The tags that a scalar must live up to. -/
def checked : List Text :=
  ["!!null", "!!bool", "!!int", float, timestamp]

end Tag

/-- The tag of an atom. -/
def Atom.tag : Atom → Text
  | .null => "!!null"
  | .bool _ => "!!bool"
  | .int _ => "!!int"
  | .float _ => Tag.float
  | .time _ => Tag.timestamp
  | .str _ => Tag.str

/-! ### Binary data -/

/-- The value of a base 64 digit. -/
def base64Value? (c : Char) : Option Nat :=
  if 'A' ≤ c ∧ c ≤ 'Z' then some (c.toNat - 0x41)
  else if 'a' ≤ c ∧ c ≤ 'z' then some (c.toNat - 0x61 + 26)
  else if '0' ≤ c ∧ c ≤ '9' then some (c.toNat - 0x30 + 52)
  else if c == '+' then some 62
  else if c == '/' then some 63
  else none

/-- Reads base 64 in groups of four, the last of which may be padded. -/
def decodeBase64? : List Char → Option (List UInt8)
  | [] => some []
  | [a, b, '=', '='] => do
    let n := (← base64Value? a) * 64 + (← base64Value? b)
    return [UInt8.ofNat (n / 16)]
  | [a, b, c, '='] => do
    let n := ((← base64Value? a) * 64 + (← base64Value? b)) * 64 + (← base64Value? c)
    return [UInt8.ofNat (n / 1024), UInt8.ofNat (n / 4)]
  | a :: b :: c :: d :: rest => do
    let n := (((← base64Value? a) * 64 + (← base64Value? b)) * 64 + (← base64Value? c)) * 64 +
      (← base64Value? d)
    let tail ← decodeBase64? rest
    return UInt8.ofNat (n / 65536) :: UInt8.ofNat (n / 256) :: UInt8.ofNat n :: tail
  | _ => none

/-! ### Scalars -/

/-- What a scalar with an explicit tag denotes. -/
def taggedAtom (tag : Text) (value : List Char) : Except DecodeError Atom :=
  let t := value.map Rune.char
  if tag = Tag.binary then
    match decodeBase64? (value.filter fun c => c != '\n' && c != '\r') with
    | some bytes => .ok (.str (Text.ofBytes bytes))
    | none => .error .badBinary
  else if Tag.checked.contains tag then
    let found := implicit (tag = Tag.timestamp) t
    if found.tag = tag then .ok found
    else
      match found with
      | .int n =>
        if tag = Tag.float ∧ n < (signedLimit : Int) then .ok (.float (Binary64.ofInt n))
        else .error (.untagged found.tag value tag)
      | _ => .error (.untagged found.tag value tag)
  else .ok (.str t)

/-- What a scalar denotes. -/
def atomOf (tag : Option Text) (value : List Char) (form : ScalarForm) :
    Except DecodeError Atom :=
  match tag, form with
  | some tag, _ => taggedAtom tag value
  | none, .quoted => .ok (.str (value.map Rune.char))
  | none, .plain => .ok (implicit true (value.map Rune.char))

/-- The tag that a scalar has, written or not. -/
def scalarTag (tag : Option Text) (value : List Char) (form : ScalarForm) : Text :=
  match tag, form with
  | some tag, _ => tag
  | none, .quoted => Tag.str
  | none, .plain =>
    if value = ['<', '<'] then Tag.merge else (implicit true (value.map Rune.char)).tag

end StructuralLint.Yaml
