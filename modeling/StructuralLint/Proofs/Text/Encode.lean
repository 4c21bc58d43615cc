import StructuralLint.Proofs.Text.Utf8

/-!
# Writing text as bytes

Reading bytes and writing them back changes nothing (`toBytes_ofBytes`), since a character has one
encoding and a stray byte stands for itself. The other way round it is not so for every text: two stray
bytes may spell a character when they are written side by side. A text without stray bytes is read back
(`ofBytes_toBytes`); `IsUnicode` says that a text is one.
-/

namespace StructuralLint

namespace Utf8

/-- The bytes of a character, by its number. -/
theorem encodeChar_ofNat {n : ℕ} (h : n.isValidChar) :
    encodeChar (Char.ofNat n) =
      if n < 0x80 then [UInt8.ofNat n]
      else if n < 0x800 then [UInt8.ofNat (0xC0 + n / 0x40), UInt8.ofNat (0x80 + n % 0x40)]
      else if n < 0x10000 then
        [UInt8.ofNat (0xE0 + n / 0x1000), UInt8.ofNat (0x80 + n / 0x40 % 0x40),
          UInt8.ofNat (0x80 + n % 0x40)]
      else
        [UInt8.ofNat (0xF0 + n / 0x40000), UInt8.ofNat (0x80 + n / 0x1000 % 0x40),
          UInt8.ofNat (0x80 + n / 0x40 % 0x40), UInt8.ofNat (0x80 + n % 0x40)] := by
  have h0 : powerOfTwo (6 * 0) = 1 := rfl
  have h1 : powerOfTwo (6 * 1) = 0x40 := rfl
  have h2 : powerOfTwo (6 * 2) = 0x1000 := rfl
  simp only [encodeChar, toNat_ofNat h, h0, h1, h2, Nat.div_one]

/-! ### What is read is written again -/

theorem encodeChar_two {b x : UInt8} (hb : (0xC2 ≤ b && b ≤ 0xDF) = true)
    (hx : isContinuation x = true) :
    encodeChar (Char.ofNat (b.toNat % 0x20 * 0x40 + payload x)) = [b, x] := by
  simp only [Bool.and_eq_true, decide_eq_true_eq, UInt8.le_iff_toNat_le, UInt8.reduceToNat] at hb
  rw [isContinuation_iff] at hx
  have hbits : b.toNat % 0x20 = b.toNat - 0xC0 := by omega
  rw [payload_eq hx, hbits, encodeChar_ofNat (Or.inl (by omega)), if_neg (by omega),
    if_pos (by omega)]
  simp only [List.cons.injEq, ← UInt8.toNat_inj, UInt8.toNat_ofNat', and_true]
  omega

theorem encodeChar_three {b x y : UInt8} (hb : (0xE0 ≤ b && b ≤ 0xEF) = true)
    (hxy : ((if b = 0xE0 then 0xA0 else 0x80) ≤ x && x ≤ (if b = 0xED then 0x9F else 0xBF) &&
      isContinuation y) = true) :
    encodeChar (Char.ofNat ((b.toNat % 0x10 * 0x40 + payload x) * 0x40 + payload y)) =
      [b, x, y] := by
  simp only [Bool.and_eq_true, decide_eq_true_eq, UInt8.le_iff_toNat_le, UInt8.reduceToNat,
    isContinuation_iff, apply_ite UInt8.toNat, ← UInt8.toNat_inj] at hb hxy
  obtain ⟨⟨hlo, hhi⟩, hy⟩ := hxy
  have hx : 0x80 ≤ x.toNat ∧ x.toNat ≤ 0xBF := between_of_ite (by decide) (by decide) hlo hhi
  have hbits : b.toNat % 0x10 = b.toNat - 0xE0 := by omega
  have hvalid : (((b.toNat - 0xE0) * 0x40 + (x.toNat - 0x80)) * 0x40 +
      (y.toNat - 0x80)).isValidChar := by
    rw [Nat.isValidChar]
    split at hhi <;> omega
  have hlow : 0x800 ≤ ((b.toNat - 0xE0) * 0x40 + (x.toNat - 0x80)) * 0x40 + (y.toNat - 0x80) := by
    split at hlo <;> omega
  rw [payload_eq hx, payload_eq hy, hbits, encodeChar_ofNat hvalid, if_neg (by omega),
    if_neg (by omega), if_pos (by omega)]
  simp only [List.cons.injEq, ← UInt8.toNat_inj, UInt8.toNat_ofNat', and_true]
  omega

theorem encodeChar_four {b x y z : UInt8} (hb : (0xF0 ≤ b && b ≤ 0xF4) = true)
    (hxyz : ((if b = 0xF0 then 0x90 else 0x80) ≤ x && x ≤ (if b = 0xF4 then 0x8F else 0xBF) &&
      isContinuation y && isContinuation z) = true) :
    encodeChar (Char.ofNat
      (((b.toNat % 0x08 * 0x40 + payload x) * 0x40 + payload y) * 0x40 + payload z)) =
        [b, x, y, z] := by
  simp only [Bool.and_eq_true, decide_eq_true_eq, UInt8.le_iff_toNat_le, UInt8.reduceToNat,
    isContinuation_iff, apply_ite UInt8.toNat, ← UInt8.toNat_inj] at hb hxyz
  obtain ⟨⟨⟨hlo, hhi⟩, hy⟩, hz⟩ := hxyz
  have hx : 0x80 ≤ x.toNat ∧ x.toNat ≤ 0xBF := between_of_ite (by decide) (by decide) hlo hhi
  have hbits : b.toNat % 0x08 = b.toNat - 0xF0 := by omega
  have hvalid : ((((b.toNat - 0xF0) * 0x40 + (x.toNat - 0x80)) * 0x40 + (y.toNat - 0x80)) * 0x40 +
      (z.toNat - 0x80)).isValidChar := by
    rw [Nat.isValidChar]
    split at hlo <;> split at hhi <;> omega
  have hlow : 0x10000 ≤ (((b.toNat - 0xF0) * 0x40 + (x.toNat - 0x80)) * 0x40 +
      (y.toNat - 0x80)) * 0x40 + (z.toNat - 0x80) := by
    split at hlo <;> omega
  rw [payload_eq hx, payload_eq hy, payload_eq hz, hbits, encodeChar_ofNat hvalid,
    if_neg (by omega), if_neg (by omega), if_neg (by omega)]
  simp only [List.cons.injEq, ← UInt8.toNat_inj, UInt8.toNat_ofNat', and_true]
  omega

/-- **A character has one encoding**: the sequence it is read from. -/
theorem encodeChar_of_leading? {b : UInt8} {rest : List UInt8} {c : Char} {n : ℕ}
    (h : leading? (b :: rest) = some (c, n)) : encodeChar c ++ rest.drop n = b :: rest := by
  simp only [leading?] at h
  split at h
  · next hb =>
    have hlt : b.toNat < 0x80 := UInt8.lt_iff_toNat_lt.1 hb
    cases h
    rw [encodeChar_ofNat (Or.inl (by omega)), if_pos hlt, UInt8.ofNat_toNat]
    rfl
  split at h
  · next hb =>
    rcases rest with - | ⟨x, tail⟩
    · cases h
    · simp only [Option.ite_none_right_eq_some] at h
      obtain ⟨hx, h⟩ := h
      cases h
      rw [encodeChar_two hb hx]
      rfl
  split at h
  · next hb =>
    rcases rest with - | ⟨x, - | ⟨y, tail⟩⟩
    · cases h
    · cases h
    · simp only [Option.ite_none_right_eq_some] at h
      obtain ⟨hxy, h⟩ := h
      cases h
      rw [encodeChar_three hb hxy]
      rfl
  split at h
  · next hb =>
    rcases rest with - | ⟨x, - | ⟨y, - | ⟨z, tail⟩⟩⟩
    · cases h
    · cases h
    · cases h
    · simp only [Option.ite_none_right_eq_some] at h
      obtain ⟨hxyz, h⟩ := h
      cases h
      rw [encodeChar_four hb hxyz]
      rfl
  · cases h

/-! ### What is written is read again -/

theorem toNat_ofNat_of_lt {n : ℕ} (h : n < 0x100) : (UInt8.ofNat n).toNat = n := by
  rw [UInt8.toNat_ofNat']
  omega

theorem leads_encode_two {n : ℕ} (hlo : 0x80 ≤ n) (hhi : n < 0x800) :
    Leads (UInt8.ofNat (0xC0 + n / 0x40)) [UInt8.ofNat (0x80 + n % 0x40)] (Char.ofNat n) := by
  have hb : (UInt8.ofNat (0xC0 + n / 0x40)).toNat = 0xC0 + n / 0x40 := toNat_ofNat_of_lt (by omega)
  have hx : (UInt8.ofNat (0x80 + n % 0x40)).toNat = 0x80 + n % 0x40 := toNat_ofNat_of_lt (by omega)
  have hvalue : (0xC0 + n / 0x40) % 0x20 * 0x40 + (0x80 + n % 0x40) % 0x40 = n := by omega
  have hlead := leads_two (b := UInt8.ofNat (0xC0 + n / 0x40)) (x := UInt8.ofNat (0x80 + n % 0x40))
    (by simp only [UInt8.lt_iff_toNat_lt, UInt8.reduceToNat, hb]; omega)
    (by
      simp only [Bool.and_eq_true, decide_eq_true_eq, UInt8.le_iff_toNat_le, UInt8.reduceToNat, hb]
      omega)
    (by rw [isContinuation_iff, hx]; omega)
  rwa [hb, payload, hx, hvalue] at hlead

/-- Three bytes leave out the surrogates, which are no characters. -/
theorem leads_encode_three {n : ℕ} (hlo : 0x800 ≤ n) (hhi : n < 0x10000) (hvalid : n.isValidChar) :
    Leads (UInt8.ofNat (0xE0 + n / 0x1000))
      [UInt8.ofNat (0x80 + n / 0x40 % 0x40), UInt8.ofNat (0x80 + n % 0x40)] (Char.ofNat n) := by
  have hb : (UInt8.ofNat (0xE0 + n / 0x1000)).toNat = 0xE0 + n / 0x1000 :=
    toNat_ofNat_of_lt (by omega)
  have hx : (UInt8.ofNat (0x80 + n / 0x40 % 0x40)).toNat = 0x80 + n / 0x40 % 0x40 :=
    toNat_ofNat_of_lt (by omega)
  have hy : (UInt8.ofNat (0x80 + n % 0x40)).toNat = 0x80 + n % 0x40 := toNat_ofNat_of_lt (by omega)
  have hvalue : ((0xE0 + n / 0x1000) % 0x10 * 0x40 + (0x80 + n / 0x40 % 0x40) % 0x40) * 0x40 +
      (0x80 + n % 0x40) % 0x40 = n := by omega
  rw [Nat.isValidChar] at hvalid
  have hlead := leads_three (b := UInt8.ofNat (0xE0 + n / 0x1000))
    (x := UInt8.ofNat (0x80 + n / 0x40 % 0x40)) (y := UInt8.ofNat (0x80 + n % 0x40))
    (by simp only [UInt8.lt_iff_toNat_lt, UInt8.reduceToNat, hb]; omega)
    (by
      simp only [Bool.and_eq_true, decide_eq_true_eq, UInt8.le_iff_toNat_le, UInt8.reduceToNat, hb]
      omega)
    (by
      simp only [Bool.and_eq_true, decide_eq_true_eq, UInt8.le_iff_toNat_le, UInt8.reduceToNat, hb]
      omega)
    (by
      simp only [Bool.and_eq_true, decide_eq_true_eq, UInt8.le_iff_toNat_le, UInt8.reduceToNat,
        isContinuation_iff, apply_ite UInt8.toNat, ← UInt8.toNat_inj, hb, hx, hy]
      split <;> split <;> omega)
  rwa [hb, payload, hx, payload, hy, hvalue] at hlead

theorem leads_encode_four {n : ℕ} (hlo : 0x10000 ≤ n) (hvalid : n.isValidChar) :
    Leads (UInt8.ofNat (0xF0 + n / 0x40000))
      [UInt8.ofNat (0x80 + n / 0x1000 % 0x40), UInt8.ofNat (0x80 + n / 0x40 % 0x40),
        UInt8.ofNat (0x80 + n % 0x40)] (Char.ofNat n) := by
  rw [Nat.isValidChar] at hvalid
  have hb : (UInt8.ofNat (0xF0 + n / 0x40000)).toNat = 0xF0 + n / 0x40000 :=
    toNat_ofNat_of_lt (by omega)
  have hx : (UInt8.ofNat (0x80 + n / 0x1000 % 0x40)).toNat = 0x80 + n / 0x1000 % 0x40 :=
    toNat_ofNat_of_lt (by omega)
  have hy : (UInt8.ofNat (0x80 + n / 0x40 % 0x40)).toNat = 0x80 + n / 0x40 % 0x40 :=
    toNat_ofNat_of_lt (by omega)
  have hz : (UInt8.ofNat (0x80 + n % 0x40)).toNat = 0x80 + n % 0x40 := toNat_ofNat_of_lt (by omega)
  have hvalue : (((0xF0 + n / 0x40000) % 0x08 * 0x40 + (0x80 + n / 0x1000 % 0x40) % 0x40) * 0x40 +
      (0x80 + n / 0x40 % 0x40) % 0x40) * 0x40 + (0x80 + n % 0x40) % 0x40 = n := by omega
  have hlead := leads_four (b := UInt8.ofNat (0xF0 + n / 0x40000))
    (x := UInt8.ofNat (0x80 + n / 0x1000 % 0x40)) (y := UInt8.ofNat (0x80 + n / 0x40 % 0x40))
    (z := UInt8.ofNat (0x80 + n % 0x40))
    (by simp only [UInt8.lt_iff_toNat_lt, UInt8.reduceToNat, hb]; omega)
    (by
      simp only [Bool.and_eq_true, decide_eq_true_eq, UInt8.le_iff_toNat_le, UInt8.reduceToNat, hb]
      omega)
    (by
      simp only [Bool.and_eq_true, decide_eq_true_eq, UInt8.le_iff_toNat_le, UInt8.reduceToNat, hb]
      omega)
    (by
      simp only [Bool.and_eq_true, decide_eq_true_eq, UInt8.le_iff_toNat_le, UInt8.reduceToNat, hb]
      omega)
    (by
      simp only [Bool.and_eq_true, decide_eq_true_eq, UInt8.le_iff_toNat_le, UInt8.reduceToNat,
        isContinuation_iff, apply_ite UInt8.toNat, ← UInt8.toNat_inj, hb, hx, hy, hz]
      split <;> split <;> omega)
  rwa [hb, payload, hx, payload, hy, payload, hz, hvalue] at hlead

/-- **The bytes of a character spell it.** -/
theorem exists_leads_encodeChar (c : Char) :
    ∃ b seq, encodeChar c = b :: seq ∧ Leads b seq c := by
  have hvalid : c.toNat.isValidChar := c.valid
  have hc : Char.ofNat c.toNat = c := Char.ofNat_toNat c
  rw [← hc, encodeChar_ofNat hvalid]
  split
  · next h =>
    refine ⟨_, _, rfl, ?_⟩
    have hb : (UInt8.ofNat c.toNat).toNat = c.toNat := toNat_ofNat_of_lt (by omega)
    have hlead := leads_of_lt (b := UInt8.ofNat c.toNat) (by rwa [UInt8.lt_iff_toNat_lt, hb])
    rwa [hb] at hlead
  split
  · exact ⟨_, _, rfl, leads_encode_two (by omega) (by omega)⟩
  split
  · exact ⟨_, _, rfl, leads_encode_three (by omega) (by omega) hvalid⟩
  · exact ⟨_, _, rfl, leads_encode_four (by omega) hvalid⟩

/-! ### ASCII -/

theorem encodeChar_of_lt {c : Char} (h : c.toNat < 0x80) :
    encodeChar c = [UInt8.ofNat c.toNat] := by
  rw [encodeChar, if_pos h]

/-- The bytes of a character that is not ASCII are not ASCII either. -/
theorem mem_encodeChar {c : Char} {b : UInt8} (hb : b ∈ encodeChar c) :
    0x80 ≤ b.toNat ∨ b.toNat = c.toNat := by
  have hvalid : c.toNat.isValidChar := c.valid
  have hmax : c.toNat < 0x110000 := by
    rw [Nat.isValidChar] at hvalid
    omega
  rw [← Char.ofNat_toNat c, encodeChar_ofNat hvalid] at hb
  split at hb
  · rw [List.mem_singleton] at hb
    rw [hb, toNat_ofNat_of_lt (by omega)]
    exact .inr rfl
  · left
    split at hb
    · simp only [List.mem_cons, List.not_mem_nil, or_false] at hb
      rcases hb with rfl | rfl <;> rw [toNat_ofNat_of_lt (by omega)] <;> omega
    split at hb
    · simp only [List.mem_cons, List.not_mem_nil, or_false] at hb
      rcases hb with rfl | rfl | rfl <;> rw [toNat_ofNat_of_lt (by omega)] <;> omega
    · simp only [List.mem_cons, List.not_mem_nil, or_false] at hb
      rcases hb with rfl | rfl | rfl | rfl <;> rw [toNat_ofNat_of_lt (by omega)] <;> omega

end Utf8

open Utf8

namespace Text

/-! ### Whole texts -/

theorem toBytes_append (a b : Text) : toBytes (a ++ b) = a.toBytes ++ b.toBytes :=
  List.flatMap_append

theorem toBytes_cons (r : Rune) (t : Text) : toBytes (r :: t) = r.toBytes ++ t.toBytes :=
  List.flatMap_cons

/-- The size of a text is the number of its bytes. -/
theorem length_toBytes (t : Text) : t.toBytes.length = t.size := by
  induction t with
  | nil => rfl
  | cons r t ih =>
    rw [toBytes_cons, List.length_append, ih, size_cons]
    cases r with
    | char c =>
      obtain ⟨b, seq, hseq, hlead⟩ := exists_leads_encodeChar c
      rw [Rune.toBytes, hseq, Rune.size, hlead.utf8Size_eq, List.length_cons]
    | stray b => rfl

/-- **No byte is changed** by reading it. -/
@[simp] theorem toBytes_ofBytes (bytes : List UInt8) : toBytes (ofBytes bytes) = bytes := by
  induction bytes using ofBytes_induction with
  | nil => rfl
  | leads b seq c rest h ih =>
    have hchar := encodeChar_of_leading? (h.leading?_eq rest)
    rw [List.drop_left] at hchar
    rw [ofBytes_of_leads h, toBytes_cons, ih, ← hchar]
    rfl
  | stray b rest h ih =>
    rw [ofBytes_of_stray h, toBytes_cons, ih]
    rfl

/-- **A text of characters only**: its bytes are UTF-8. -/
def IsUnicode (t : Text) : Prop :=
  ∀ b, .stray b ∉ t

theorem isUnicode_map_char (cs : List Char) : IsUnicode (cs.map .char) := by
  intro b hmem
  obtain ⟨c, -, hc⟩ := List.mem_map.1 hmem
  cases hc

theorem isUnicode_ofString (s : String) : IsUnicode (ofString s) :=
  isUnicode_map_char s.toList

theorem IsUnicode.exists_chars {t : Text} (h : IsUnicode t) : ∃ cs : List Char, t = cs.map .char := by
  induction t with
  | nil => exact ⟨[], rfl⟩
  | cons r t ih =>
    obtain ⟨cs, rfl⟩ := ih fun b hb ↦ h b (List.mem_cons_of_mem _ hb)
    cases r with
    | stray b => exact absurd List.mem_cons_self (h b)
    | char c => exact ⟨c :: cs, rfl⟩

/-- **A text of characters is read back** from its bytes. -/
theorem ofBytes_toBytes {t : Text} (h : IsUnicode t) : ofBytes t.toBytes = t := by
  obtain ⟨cs, rfl⟩ := h.exists_chars
  induction cs with
  | nil => rfl
  | cons c cs ih =>
    obtain ⟨b, seq, hbytes, hlead⟩ := exists_leads_encodeChar c
    rw [List.map_cons, toBytes_cons, Rune.toBytes, hbytes, List.cons_append, ofBytes_of_leads hlead,
      ih (isUnicode_map_char cs)]

end Text

end StructuralLint
