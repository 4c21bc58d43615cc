/-!
# Powers

The powers of two and ten, and the bounds of fixed-width integers.
-/

namespace StructuralLint

/-- `2` to the power `n`. -/
def powerOfTwo (n : Nat) : Nat :=
  Nat.pow 2 n

/-- `10` to the power `n`. -/
def powerOfTen (n : Nat) : Nat :=
  Nat.pow 10 n

/-- The first number that is too big for a signed 64-bit integer. -/
def signedLimit : Nat :=
  powerOfTwo 63

/-- The first number that is too big for an unsigned 64-bit integer. -/
def unsignedLimit : Nat :=
  powerOfTwo 64

end StructuralLint
