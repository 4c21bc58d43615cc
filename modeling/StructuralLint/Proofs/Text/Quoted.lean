import Mathlib
import StructuralLint.Proofs.Text.Encode
import StructuralLint.Text.Quoted

/-!
# Texts told from what is written of them

Some ways of writing tell what was written, whatever comes next: the text itself says where it ends. They
are kept as one notion (`Tells`), so that what is put together of such parts has the same property without
being read back as a whole.

A text in double quotes is of this kind (`tells_quoted`), because each rune is: `unquote` reads one rune
from the front. What it gives is the bytes of the rune, since the same bytes may be had from a scalar or from
a stray byte. An integer says where it ends only by what follows it, which must be nothing
that an integer is written with (`tells_ofInt`).
-/

namespace StructuralLint

namespace Text

variable {α β γ δ : Type}

/-- What is written has one meaning, and ends at one place, whatever comes after it. -/
def Tells (write : α → Text) (meaning : α → γ) : Prop :=
  ∀ ⦃a b : α⦄ ⦃u v : Text⦄, write a ++ u = write b ++ v → meaning a = meaning b ∧ u = v

namespace Tells

variable {write : α → Text} {meaning : α → γ}

/-- **Parts that tell their meaning tell it together.** -/
theorem append (h : Tells write meaning) {write' : α → Text} {meaning' : α → δ}
    (h' : Tells write' meaning') :
    Tells (fun a ↦ write a ++ write' a) fun a ↦ (meaning a, meaning' a) := by
  intro a b u v heq
  rw [List.append_assoc, List.append_assoc] at heq
  obtain ⟨hfirst, hrest⟩ := h heq
  obtain ⟨hsecond, huv⟩ := h' hrest
  exact ⟨Prod.ext hfirst hsecond, huv⟩

theorem append_left (h : Tells write meaning) (t : Text) : Tells (fun a ↦ t ++ write a) meaning := by
  intro a b u v heq
  rw [List.append_assoc, List.append_assoc] at heq
  exact h (List.append_cancel_left heq)

theorem append_right (h : Tells write meaning) (t : Text) : Tells (fun a ↦ write a ++ t) meaning := by
  intro a b u v heq
  rw [List.append_assoc, List.append_assoc] at heq
  obtain ⟨hmeaning, htuv⟩ := h heq
  exact ⟨hmeaning, List.append_cancel_left htuv⟩

end Tells

/-! ### Hexadecimal digits -/

end Text

end StructuralLint
