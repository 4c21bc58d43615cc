import Mathlib.Data.List.Basic
import StructuralLint.Text.Utf8

/-!
# Bytes and the text they spell

The decoder reads a sequence of at most four bytes at a time. `Utf8.Leads` says what such a sequence
is without saying how it is recognised, and `ofBytes_induction` is induction along the sequences:
everything about `Text.ofBytes` is proved by it, and the decoder's loop is opened once
(`decodeOnto_eq`).

**Where byte strings may be put together.** A sequence starts with a byte that continues nothing and
goes on with bytes that start nothing, so two byte strings are read apart as soon as one of the two is
well formed (`ofBytes_append_left`, `ofBytes_append_right`).

**ASCII bytes stand for themselves.** A byte below `80` is never inside a sequence, so a byte string
may be cut at it before or after it is read (`ofBytes_append_cons`), and a text ends in an ASCII
character exactly when its last byte is that character.
-/

namespace StructuralLint

namespace Utf8

/-! ### One sequence -/

/-- **A sequence of bytes**, the first one apart, **spells a character** whatever follows it. -/
structure Leads (b : UInt8) (seq : List UInt8) (c : Char) : Prop where
  /-- The sequence is recognised at the head of any bytes. -/
  leading?_eq : ∀ rest, leading? (b :: (seq ++ rest)) = some (c, seq.length)
  /-- No byte after the first is an ASCII byte. -/
  not_ascii : ∀ d ∈ seq, 0x80 ≤ d
  /-- No byte is lost. -/
  utf8Size_eq : c.utf8Size = seq.length + 1
  /-- An ASCII character is its own byte. -/
  toNat_eq : c.toNat < 0x80 → b.toNat = c.toNat

theorem toNat_ofNat {n : ℕ} (h : n.isValidChar) : (Char.ofNat n).toNat = n := by
  rw [Char.ofNat, dif_pos h]
  rfl

theorem isContinuation_iff {b : UInt8} :
    isContinuation b = true ↔ 0x80 ≤ b.toNat ∧ b.toNat ≤ 0xBF := by
  simp [isContinuation, UInt8.le_iff_toNat_le]

theorem payload_eq {b : UInt8} (h : 0x80 ≤ b.toNat ∧ b.toNat ≤ 0xBF) :
    payload b = b.toNat - 0x80 := by
  rw [payload]
  omega

theorem utf8Size_ofNat {n : ℕ} (h : n.isValidChar) :
    (Char.ofNat n).utf8Size =
      if n ≤ 0x7F then 1 else if n ≤ 0x7FF then 2 else if n ≤ 0xFFFF then 3 else 4 := by
  simp only [Char.utf8Size, UInt32.le_iff_toNat_le, Char.toNat_val, toNat_ofNat h]
  rfl

/-- A sequence of one byte. -/
theorem leads_of_lt {b : UInt8} (h : b < 0x80) : Leads b [] (Char.ofNat b.toNat) := by
  have hb : b.toNat < 0x80 := UInt8.lt_iff_toNat_lt.1 h
  have hvalid : b.toNat.isValidChar := Or.inl (by omega)
  refine ⟨fun rest ↦ ?_, by simp, ?_, fun _ ↦ (toNat_ofNat hvalid).symm⟩
  · simp only [leading?, if_pos h, List.length_nil]
  · rw [utf8Size_ofNat hvalid, if_pos (by omega), List.length_nil]

/-- A sequence of several bytes, from the number that it spells. -/
theorem leads_of_value {b : UInt8} {seq : List UInt8} {n : ℕ}
    (hlead : ∀ rest, leading? (b :: (seq ++ rest)) = some (Char.ofNat n, seq.length))
    (hseq : ∀ d ∈ seq, 0x80 ≤ d.toNat) (hvalid : n.isValidChar)
    (hsize : 0x7F < n ∧ n ≤ 0x7FF ∧ seq.length = 1 ∨ 0x7FF < n ∧ n ≤ 0xFFFF ∧ seq.length = 2 ∨
      0xFFFF < n ∧ seq.length = 3) : Leads b seq (Char.ofNat n) := by
  refine ⟨hlead, fun d hd ↦ UInt8.le_iff_toNat_le.2 (hseq d hd), ?_, ?_⟩
  · rw [utf8Size_ofNat hvalid, if_neg (by omega)]
    split
    · omega
    · split <;> omega
  · rw [toNat_ofNat hvalid]
    omega

theorem leads_two {b x : UInt8} (h1 : ¬ b < 0x80) (hb : (0xC2 ≤ b && b ≤ 0xDF) = true)
    (hx : isContinuation x = true) :
    Leads b [x] (Char.ofNat (b.toNat % 0x20 * 0x40 + payload x)) := by
  have hlead : ∀ rest, leading? (b :: ([x] ++ rest)) =
      some (Char.ofNat (b.toNat % 0x20 * 0x40 + payload x), 1) := by
    intro rest
    simp only [leading?, List.singleton_append, if_neg h1, if_pos hb, if_pos hx]
  simp only [Bool.and_eq_true, decide_eq_true_eq, UInt8.le_iff_toNat_le, UInt8.reduceToNat] at hb
  rw [isContinuation_iff] at hx
  have hbits : b.toNat % 0x20 = b.toNat - 0xC0 := by omega
  refine leads_of_value hlead (by simpa using hx.1) ?_ ?_
  · rw [payload_eq hx, hbits, Nat.isValidChar]
    omega
  · rw [payload_eq hx, hbits, List.length_singleton]
    omega

/-- After some first bytes the range of the second is narrower; it is part of the usual one. -/
theorem between_of_ite {p q : Prop} [Decidable p] [Decidable q] {lo hi n : ℕ} (hlo : 0x80 ≤ lo)
    (hhi : hi ≤ 0xBF) (hn : (if p then lo else 0x80) ≤ n) (hn' : n ≤ if q then hi else 0xBF) :
    0x80 ≤ n ∧ n ≤ 0xBF := by
  constructor
  · split at hn <;> omega
  · split at hn' <;> omega

theorem leads_three {b x y : UInt8} (h1 : ¬ b < 0x80) (h2 : ¬ (0xC2 ≤ b && b ≤ 0xDF) = true)
    (hb : (0xE0 ≤ b && b ≤ 0xEF) = true)
    (hxy : ((if b = 0xE0 then 0xA0 else 0x80) ≤ x && x ≤ (if b = 0xED then 0x9F else 0xBF) &&
      isContinuation y) = true) :
    Leads b [x, y] (Char.ofNat ((b.toNat % 0x10 * 0x40 + payload x) * 0x40 + payload y)) := by
  have hlead : ∀ rest, leading? (b :: ([x, y] ++ rest)) =
      some (Char.ofNat ((b.toNat % 0x10 * 0x40 + payload x) * 0x40 + payload y), 2) := by
    intro rest
    simp only [leading?, List.cons_append, List.nil_append, if_neg h1, if_neg h2, if_pos hb,
      if_pos hxy]
  simp only [Bool.and_eq_true, decide_eq_true_eq, UInt8.le_iff_toNat_le, UInt8.reduceToNat,
    isContinuation_iff, apply_ite UInt8.toNat, ← UInt8.toNat_inj] at hb hxy
  obtain ⟨⟨hlo, hhi⟩, hy⟩ := hxy
  have hx : 0x80 ≤ x.toNat ∧ x.toNat ≤ 0xBF := between_of_ite (by decide) (by decide) hlo hhi
  have hbits : b.toNat % 0x10 = b.toNat - 0xE0 := by omega
  refine leads_of_value hlead (by simpa using ⟨hx.1, hy.1⟩) ?_ ?_
  · rw [payload_eq hx, payload_eq hy, hbits, Nat.isValidChar]
    split at hhi <;> omega
  · rw [payload_eq hx, payload_eq hy, hbits, List.length_cons, List.length_singleton]
    split at hlo <;> omega

theorem leads_four {b x y z : UInt8} (h1 : ¬ b < 0x80) (h2 : ¬ (0xC2 ≤ b && b ≤ 0xDF) = true)
    (h3 : ¬ (0xE0 ≤ b && b ≤ 0xEF) = true) (hb : (0xF0 ≤ b && b ≤ 0xF4) = true)
    (hxyz : ((if b = 0xF0 then 0x90 else 0x80) ≤ x && x ≤ (if b = 0xF4 then 0x8F else 0xBF) &&
      isContinuation y && isContinuation z) = true) :
    Leads b [x, y, z] (Char.ofNat
      (((b.toNat % 0x08 * 0x40 + payload x) * 0x40 + payload y) * 0x40 + payload z)) := by
  have hlead : ∀ rest, leading? (b :: ([x, y, z] ++ rest)) =
      some (Char.ofNat
        (((b.toNat % 0x08 * 0x40 + payload x) * 0x40 + payload y) * 0x40 + payload z), 3) := by
    intro rest
    simp only [leading?, List.cons_append, List.nil_append, if_neg h1, if_neg h2, if_neg h3,
      if_pos hb, if_pos hxyz]
  simp only [Bool.and_eq_true, decide_eq_true_eq, UInt8.le_iff_toNat_le, UInt8.reduceToNat,
    isContinuation_iff, apply_ite UInt8.toNat, ← UInt8.toNat_inj] at hb hxyz
  obtain ⟨⟨⟨hlo, hhi⟩, hy⟩, hz⟩ := hxyz
  have hx : 0x80 ≤ x.toNat ∧ x.toNat ≤ 0xBF := between_of_ite (by decide) (by decide) hlo hhi
  have hbits : b.toNat % 0x08 = b.toNat - 0xF0 := by omega
  refine leads_of_value hlead (by simpa using ⟨hx.1, hy.1, hz.1⟩) ?_ ?_
  · rw [payload_eq hx, payload_eq hy, payload_eq hz, hbits, Nat.isValidChar]
    split at hlo <;> split at hhi <;> omega
  · rw [payload_eq hx, payload_eq hy, payload_eq hz, hbits, List.length_cons, List.length_cons,
      List.length_singleton]
    split at hlo <;> omega

theorem isContinuation_eq_false_of_lt {b : UInt8} (h : b < 0x80) : isContinuation b = false := by
  rw [← Bool.not_eq_true, isContinuation_iff]
  have hb : b.toNat < 0x80 := UInt8.lt_iff_toNat_lt.1 h
  omega

/-- A byte above all continuation bytes continues nothing. -/
theorem isContinuation_eq_false_of_between {b lo hi : UInt8} (hlo : 0xC0 ≤ lo)
    (h : (lo ≤ b && b ≤ hi) = true) : isContinuation b = false := by
  simp only [Bool.and_eq_true, decide_eq_true_eq, UInt8.le_iff_toNat_le, UInt8.reduceToNat] at hlo h
  rw [← Bool.not_eq_true, isContinuation_iff]
  omega

/-- The second byte of a sequence continues it, although its range may be narrower. -/
theorem isContinuation_of_between {b x c lo c' hi : UInt8} (hlo : 0x80 ≤ lo) (hhi : hi ≤ 0xBF)
    (h : ((if b = c then lo else 0x80) ≤ x && x ≤ (if b = c' then hi else 0xBF)) = true) :
    isContinuation x = true := by
  simp only [Bool.and_eq_true, decide_eq_true_eq, UInt8.le_iff_toNat_le, UInt8.reduceToNat,
    apply_ite UInt8.toNat] at hlo hhi h
  exact isContinuation_iff.2 (between_of_ite hlo hhi h.1 h.2)

/-- **What is recognised is such a sequence**: the recogniser reads nothing beyond it. Continuation
bytes continue a sequence and never start one. -/
theorem exists_leads {b : UInt8} {rest : List UInt8} {c : Char} {n : ℕ}
    (h : leading? (b :: rest) = some (c, n)) :
    ∃ seq tail, rest = seq ++ tail ∧ seq.length = n ∧ Leads b seq c ∧ isContinuation b = false ∧
      ∀ d ∈ seq, isContinuation d = true := by
  simp only [leading?] at h
  split at h
  · next hb =>
    cases h
    exact ⟨[], rest, rfl, rfl, leads_of_lt hb, isContinuation_eq_false_of_lt hb, by simp⟩
  next h1 =>
  split at h
  · next hb =>
    have hstart := isContinuation_eq_false_of_between (by decide) hb
    rcases rest with - | ⟨x, tail⟩
    · cases h
    · simp only [Option.ite_none_right_eq_some] at h
      obtain ⟨hx, h⟩ := h
      cases h
      exact ⟨[x], tail, rfl, rfl, leads_two h1 hb hx, hstart, by simpa using hx⟩
  next h2 =>
  split at h
  · next hb =>
    have hstart := isContinuation_eq_false_of_between (by decide) hb
    rcases rest with - | ⟨x, - | ⟨y, tail⟩⟩
    · cases h
    · cases h
    · simp only [Option.ite_none_right_eq_some] at h
      obtain ⟨hxy, h⟩ := h
      cases h
      obtain ⟨hx, hy⟩ := Bool.and_eq_true_iff.1 hxy
      have hx' := isContinuation_of_between (by decide) (by decide) hx
      exact ⟨[x, y], tail, rfl, rfl, leads_three h1 h2 hb hxy, hstart, by simp [hx', hy]⟩
  next h3 =>
  split at h
  · next hb =>
    have hstart := isContinuation_eq_false_of_between (by decide) hb
    rcases rest with - | ⟨x, - | ⟨y, - | ⟨z, tail⟩⟩⟩
    · cases h
    · cases h
    · cases h
    · simp only [Option.ite_none_right_eq_some] at h
      obtain ⟨hxyz, h⟩ := h
      cases h
      obtain ⟨hxy, hz⟩ := Bool.and_eq_true_iff.1 hxyz
      obtain ⟨hx, hy⟩ := Bool.and_eq_true_iff.1 hxy
      have hx' := isContinuation_of_between (by decide) (by decide) hx
      exact ⟨[x, y, z], tail, rfl, rfl, leads_four h1 h2 h3 hb hxyz, hstart, by simp [hx', hy, hz]⟩
  · cases h

/-- **A byte that continues nothing ends what is looked at.** -/
theorem leading?_append_of_not_continuation {d : UInt8} (hd : isContinuation d = false) (b : UInt8)
    (rest tail : List UInt8) : leading? (b :: (rest ++ d :: tail)) = leading? (b :: rest) := by
  have hshort : ∀ c n, leading? (b :: (rest ++ d :: tail)) = some (c, n) →
      leading? (b :: rest) = some (c, n) := by
    intro c n h
    obtain ⟨seq, tail', happ, rfl, hlead, -, hseq⟩ := exists_leads h
    obtain ⟨u, rfl, hu⟩ | ⟨u, rfl, -⟩ := List.append_eq_append_iff.1 happ
    · -- the sequence cannot reach the byte
      rcases u with - | ⟨d', u⟩
      · simpa using hlead.leading?_eq []
      · have hd' : d = d' := (List.cons.inj hu).1
        exact absurd (hseq d' (by simp)) (by simp [← hd', hd])
    · exact hlead.leading?_eq u
  rcases h : leading? (b :: (rest ++ d :: tail)) with - | ⟨c, n⟩
  · rcases h' : leading? (b :: rest) with - | ⟨c, n⟩
    · rfl
    · obtain ⟨seq, tail', rfl, rfl, hlead, -⟩ := exists_leads h'
      rw [List.append_assoc, hlead.leading?_eq] at h
      cases h
  · exact (hshort c n h).symm

/-! ### The loop of the decoder -/

theorem decodeOnto_drop (acc : Text) (skip : ℕ) (bytes : List UInt8) :
    decodeOnto acc skip bytes = decodeOnto acc 0 (bytes.drop skip) := by
  induction bytes generalizing skip with
  | nil => cases skip <;> rfl
  | cons b rest ih =>
    cases skip with
    | zero => rfl
    | succ skip => exact ih skip

/-- What is read is put onto what was read before. -/
theorem decodeOnto_eq (acc : Text) (skip : ℕ) (bytes : List UInt8) :
    decodeOnto acc skip bytes = decodeOnto [] skip bytes ++ acc := by
  induction bytes generalizing acc skip with
  | nil => cases skip <;> rfl
  | cons b rest ih =>
    cases skip with
    | zero =>
      rw [decodeOnto, decodeOnto]
      split
      · next c n _ => rw [ih (.char c :: acc), ih [.char c], List.append_assoc, List.singleton_append]
      · rw [ih (.stray b :: acc), ih [.stray b], List.append_assoc, List.singleton_append]
    | succ skip => exact ih acc skip

end Utf8

open Utf8

namespace Text

/-! ### Reading, sequence by sequence -/

@[simp] theorem ofBytes_nil : ofBytes [] = [] := rfl

theorem ofBytes_of_leads {b : UInt8} {seq : List UInt8} {c : Char} (h : Leads b seq c)
    (rest : List UInt8) : ofBytes (b :: (seq ++ rest)) = .char c :: ofBytes rest := by
  have hread : decodeOnto [] 0 (b :: (seq ++ rest)) = decodeOnto [.char c] 0 rest := by
    rw [decodeOnto, h.leading?_eq]
    simp only
    rw [decodeOnto_drop, List.drop_left]
  rw [ofBytes, hread, decodeOnto_eq, List.reverse_append]
  rfl

theorem ofBytes_of_stray {b : UInt8} {rest : List UInt8} (h : leading? (b :: rest) = none) :
    ofBytes (b :: rest) = .stray b :: ofBytes rest := by
  have hread : decodeOnto [] 0 (b :: rest) = decodeOnto [.stray b] 0 rest := by
    rw [decodeOnto, h]
  rw [ofBytes, hread, decodeOnto_eq, List.reverse_append]
  rfl

/-- **Induction along the sequences** of a byte string. -/
theorem ofBytes_induction {motive : List UInt8 → Prop} (nil : motive [])
    (leads : ∀ b seq c rest, Leads b seq c → motive rest → motive (b :: (seq ++ rest)))
    (stray : ∀ b rest, leading? (b :: rest) = none → motive rest → motive (b :: rest))
    (bytes : List UInt8) : motive bytes := by
  induction hn : bytes.length using Nat.strongRecOn generalizing bytes with
  | ind n ih =>
    rcases bytes with - | ⟨b, rest⟩
    · exact nil
    · rcases h : leading? (b :: rest) with - | ⟨c, n⟩
      · exact stray b rest h (ih rest.length (by simp [← hn]) rest rfl)
      · obtain ⟨seq, tail, rfl, -, hlead, -⟩ := exists_leads h
        refine leads b seq c tail hlead (ih tail.length ?_ tail rfl)
        rw [← hn, List.length_cons, List.length_append]
        omega

/-! ### Sizes -/

theorem size_cons (r : Rune) (t : Text) : size (r :: t) = r.size + size t := by
  have hacc : ∀ (t : Text) (n : ℕ), t.foldl (fun n r ↦ n + r.size) n = n + size t := by
    intro t
    induction t with
    | nil => simp [size]
    | cons r t ih =>
      intro n
      rw [size, List.foldl_cons, List.foldl_cons, ih, ih]
      omega
  rw [size, List.foldl_cons, hacc, Nat.zero_add]

/-- **No byte is lost.** -/
@[simp] theorem size_ofBytes (bytes : List UInt8) : (ofBytes bytes).size = bytes.length := by
  induction bytes using ofBytes_induction with
  | nil => rfl
  | leads b seq c rest h ih =>
    rw [ofBytes_of_leads h, size_cons, ih, Rune.size, h.utf8Size_eq, List.length_cons,
      List.length_append]
    omega
  | stray b rest h ih =>
    rw [ofBytes_of_stray h, size_cons, ih, Rune.size, List.length_cons]
    omega

/-! ### Byte strings put together -/

/-- What goes before a byte that continues nothing is read on its own. -/
theorem ofBytes_append_of_head? {tail : List UInt8}
    (h : ∀ d, tail.head? = some d → isContinuation d = false) (bytes : List UInt8) :
    ofBytes (bytes ++ tail) = ofBytes bytes ++ ofBytes tail := by
  rcases tail with - | ⟨d, tail⟩
  · simp
  have hd : isContinuation d = false := h d rfl
  induction bytes using ofBytes_induction with
  | nil => rfl
  | leads b seq c rest hlead ih =>
    rw [ofBytes_of_leads hlead, List.cons_append, List.append_assoc, ofBytes_of_leads hlead, ih,
      List.cons_append]
  | stray b rest hstray ih =>
    have hstray' : leading? (b :: (rest ++ d :: tail)) = none := by
      rw [leading?_append_of_not_continuation hd, hstray]
    rw [ofBytes_of_stray hstray, List.cons_append, ofBytes_of_stray hstray', ih, List.cons_append]

section Scalars

variable {bytes : List UInt8} (h : ∀ b, .stray b ∉ ofBytes bytes)
include h

/-- **Well-formed bytes are read on their own**, whatever stands after them. -/
theorem ofBytes_append_left (tail : List UInt8) :
    ofBytes (bytes ++ tail) = ofBytes bytes ++ ofBytes tail := by
  induction bytes using ofBytes_induction with
  | nil => rfl
  | leads b seq c rest hlead ih =>
    rw [ofBytes_of_leads hlead] at h ⊢
    rw [List.cons_append, List.append_assoc, ofBytes_of_leads hlead,
      ih fun d hd ↦ h d (List.mem_cons_of_mem _ hd), List.cons_append]
  | stray b rest hstray _ =>
    rw [ofBytes_of_stray hstray] at h
    exact absurd List.mem_cons_self (h b)

/-- **Well-formed bytes are read on their own**, whatever stands before them. -/
theorem ofBytes_append_right (before : List UInt8) :
    ofBytes (before ++ bytes) = ofBytes before ++ ofBytes bytes := by
  refine ofBytes_append_of_head? (fun d hd ↦ ?_) before
  obtain ⟨rest, rfl⟩ := List.head?_eq_some_iff.1 hd
  rcases hlead : leading? (d :: rest) with - | ⟨c, n⟩
  · rw [ofBytes_of_stray hlead] at h
    exact absurd List.mem_cons_self (h d)
  · obtain ⟨-, -, -, -, -, hd, -⟩ := exists_leads hlead
    exact hd

end Scalars

/-! ### ASCII bytes -/

section Ascii

variable {d : UInt8} (hd : d < 0x80)
include hd

/-- **An ASCII byte splits the text** where it splits the bytes. -/
theorem ofBytes_append_cons (bytes tail : List UInt8) :
    ofBytes (bytes ++ d :: tail) = ofBytes bytes ++ .char (Char.ofNat d.toNat) :: ofBytes tail := by
  have hhead : ∀ d', (d :: tail).head? = some d' → isContinuation d' = false := by
    rintro _ ⟨⟩
    exact isContinuation_eq_false_of_lt hd
  rw [ofBytes_append_of_head? hhead]
  exact congrArg _ (ofBytes_of_leads (leads_of_lt hd) tail)

/-- An ASCII character is read from its byte alone. -/
theorem eq_nil_of_leads {b : UInt8} {seq : List UInt8} (h : Leads b seq (Char.ofNat d.toNat)) :
    b = d ∧ seq = [] := by
  have hlt : d.toNat < 0x80 := UInt8.lt_iff_toNat_lt.1 hd
  have hvalid : d.toNat.isValidChar := Or.inl (by omega)
  have hc : (Char.ofNat d.toNat).toNat = d.toNat := toNat_ofNat hvalid
  have hb : b.toNat = d.toNat := by
    rw [h.toNat_eq (by rw [hc]; exact hlt), hc]
  have hsize := h.utf8Size_eq
  rw [utf8Size_ofNat hvalid, if_pos (by omega)] at hsize
  exact ⟨UInt8.toNat_inj.1 hb, List.eq_nil_of_length_eq_zero (by omega)⟩

theorem mem_of_mem_ofBytes {bytes : List UInt8}
    (h : .char (Char.ofNat d.toNat) ∈ ofBytes bytes) : d ∈ bytes := by
  induction bytes using ofBytes_induction with
  | nil => cases h
  | leads b seq c rest hlead ih =>
    rw [ofBytes_of_leads hlead, List.mem_cons] at h
    rcases h with h | h
    · cases h
      rw [(eq_nil_of_leads hd hlead).1]
      exact List.mem_cons_self
    · exact List.mem_cons_of_mem _ (List.mem_append_right _ (ih h))
  | stray b rest hstray ih =>
    rw [ofBytes_of_stray hstray, List.mem_cons] at h
    rcases h with h | h
    · cases h
    · exact List.mem_cons_of_mem _ (ih h)

/-- An ASCII character at the end of the text is the last byte. -/
theorem getLast?_eq_of_ofBytes {bytes : List UInt8}
    (h : (ofBytes bytes).getLast? = some (.char (Char.ofNat d.toNat))) :
    bytes.getLast? = some d := by
  -- if more follows a rune, it is what follows that ends in the character
  have hmore : ∀ (r : Rune) (rest : List UInt8), rest ≠ [] →
      (r :: ofBytes rest).getLast? = (ofBytes rest).getLast? := by
    intro r rest hne
    obtain ⟨s, t, ht⟩ : ∃ s t, ofBytes rest = s :: t := by
      refine List.exists_cons_of_ne_nil fun hnil ↦ hne (List.eq_nil_of_length_eq_zero ?_)
      rw [← size_ofBytes, hnil]
      rfl
    rw [ht, List.getLast?_cons_cons]
  induction bytes using ofBytes_induction with
  | nil => cases h
  | leads b seq c rest hlead ih =>
    rw [ofBytes_of_leads hlead] at h
    by_cases hrest : rest = []
    · subst hrest
      cases h
      obtain ⟨rfl, rfl⟩ := eq_nil_of_leads hd hlead
      rfl
    · rw [hmore _ rest hrest] at h
      rw [← List.cons_append, List.getLast?_append, ih h]
      rfl
  | stray b rest hstray ih =>
    rw [ofBytes_of_stray hstray] at h
    by_cases hrest : rest = []
    · subst hrest
      cases h
    · rw [hmore _ rest hrest] at h
      rw [← List.singleton_append, List.getLast?_append, ih h]
      rfl

end Ascii

end Text

end StructuralLint
