import StructuralLint.Json.Read
import StructuralLint.Proofs.Text.Encode

/-!
# Strings and numbers in JSON

A string is written with escapes and read as a list of units, some of them bytes and some of them
numbers. Which of the two a character becomes depends on how it is escaped, so what is said of the units is
only that they spell the text (`Spelled`); that is enough to put it together again (`joinUnits_of_spelled`).

A number is an integer in decimal digits. It does not say where it ends: that is seen from what follows it,
and nothing that could go on with it may follow (`EndsValue`).
-/

namespace StructuralLint

open Utf8

namespace Json

/-! ### How a character is written -/

/-- A byte of a string that stands for itself. -/
def IsPlain (b : UInt8) : Prop :=
  b ≠ byteOf '"' ∧ b ≠ byteOf '\\' ∧ ¬ b < 0x20

theorem isPlain_iff {b : UInt8} : IsPlain b ↔ b.toNat ≠ 0x22 ∧ b.toNat ≠ 0x5C ∧ 0x20 ≤ b.toNat := by
  rw [IsPlain, show byteOf '"' = 0x22 from rfl, show byteOf '\\' = 0x5C from rfl]
  simp only [ne_eq, ← UInt8.toNat_inj, UInt8.reduceToNat, UInt8.lt_iff_toNat_lt, Nat.not_lt]

theorem isPlain_of_mem_encodeChar {c : Char} (hquote : c ≠ '"') (hslash : c ≠ '\\')
    (hlow : 0x20 ≤ c.toNat) {b : UInt8} (hb : b ∈ encodeChar c) : IsPlain b := by
  rw [isPlain_iff]
  rcases mem_encodeChar hb with h | h
  · omega
  · rw [h]
    exact ⟨fun h ↦ hquote (Char.toNat_inj.1 h), fun h ↦ hslash (Char.toNat_inj.1 h), hlow⟩

/-- **A character is written in one of three ways**: as a letter after a backslash, as a number, or as it
is. -/
theorem escaped_cases (c : Char) :
    (∃ e, escaped (.char c) = ['\\', e] ∧
      (e.toNat < 0x80 ∧ e ≠ 'u' ∧ escape? (byteOf e) = some c ∧ c.toNat < 0x80)) ∨
    (escaped (.char c) = '\\' :: 'u' :: hexDigits 4 c.toNat ∧ c.toNat < 0x10000) ∨
    (escaped (.char c) = [c] ∧ ∀ b ∈ encodeChar c, IsPlain b) := by
  have hc : ∀ {n : ℕ}, c.toNat = n → c = Char.ofNat n := fun h ↦ by rw [← h, Char.ofNat_toNat]
  rw [escaped]
  split
  · next hmark =>
    rw [Bool.or_eq_true, beq_iff_eq, beq_iff_eq] at hmark
    rcases hmark with rfl | rfl
    · exact .inl ⟨'"', rfl, by decide⟩
    · exact .inl ⟨'\\', rfl, by decide⟩
  · next hmark =>
    rw [Bool.or_eq_true, beq_iff_eq, beq_iff_eq, not_or] at hmark
    split
    · next h => cases hc h; exact .inl ⟨'b', rfl, by decide⟩
    · next h => cases hc h; exact .inl ⟨'f', rfl, by decide⟩
    · next h => cases hc h; exact .inl ⟨'n', rfl, by decide⟩
    · next h => cases hc h; exact .inl ⟨'r', rfl, by decide⟩
    · next h => cases hc h; exact .inl ⟨'t', rfl, by decide⟩
    · split
      · next h =>
        refine .inr (.inl ⟨rfl, ?_⟩)
        simp only [Bool.or_eq_true, decide_eq_true_eq, beq_iff_eq] at h
        rcases h with ((((h | rfl) | rfl) | rfl) | h) | h
        · omega
        all_goals first | decide | omega
      · next h =>
        simp only [Bool.or_eq_true, decide_eq_true_eq, beq_iff_eq, not_or, Nat.not_lt] at h
        exact .inr (.inr ⟨rfl, fun b ↦ isPlain_of_mem_encodeChar hmark.1 hmark.2 (by omega)⟩)

/-- The bytes that a character is written with. -/
def escapedBytes (c : Char) : List UInt8 :=
  Text.toBytes ((escaped (.char c)).map .char)

theorem toBytes_char {c : Char} (h : c.toNat < 0x80) : (Rune.char c).toBytes = [byteOf c] :=
  encodeChar_of_lt h

/-! ### Hexadecimal numbers -/

theorem hexValue?_hexDigit : ∀ d < 16, hexValue? (byteOf (hexDigit d)) = some d := by
  decide

theorem toNat_hexDigit_lt : ∀ d < 16, (hexDigit d).toNat < 0x80 := by
  decide

/-- **Four hexadecimal digits are read back.** -/
theorem readHex_hexDigits {n : ℕ} (h : n < 0x10000) (rest : List UInt8) :
    readHex (Text.toBytes ((hexDigits 4 n).map .char) ++ rest) = .ok (n, rest) := by
  have hdigit : ∀ m, (Rune.char (hexDigit (m % 16))).toBytes = [byteOf (hexDigit (m % 16))] :=
    fun m ↦ toBytes_char (toNat_hexDigit_lt _ (Nat.mod_lt m (by decide)))
  have hvalue : ∀ m, hexValue? (byteOf (hexDigit (m % 16))) = some (m % 16) :=
    fun m ↦ hexValue?_hexDigit _ (Nat.mod_lt m (by decide))
  have hbytes : Text.toBytes ((hexDigits 4 n).map .char) =
      [byteOf (hexDigit (n / 16 / 16 / 16 % 16)), byteOf (hexDigit (n / 16 / 16 % 16)),
        byteOf (hexDigit (n / 16 % 16)), byteOf (hexDigit (n % 16))] := by
    simp only [hexDigits, List.nil_append, List.cons_append, List.map_cons, List.map_nil,
      Text.toBytes_cons, hdigit]
    rfl
  have hsum : ((n / 16 / 16 / 16 % 16 * 16 + n / 16 / 16 % 16) * 16 + n / 16 % 16) * 16 + n % 16 =
      n := by omega
  rw [hbytes, readHex]
  simp [hvalue, hsum]

/-! ### Strings -/

theorem readUnits_quote (acc : List Unit16) (fuel : ℕ) (rest : List UInt8) :
    readUnits acc (fuel + 1) (byteOf '"' :: rest) = .ok (acc.reverse, rest) := rfl

theorem readUnits_plain {b : UInt8} (h : IsPlain b) (acc : List Unit16) (fuel : ℕ)
    (rest : List UInt8) :
    readUnits acc (fuel + 1) (b :: rest) = readUnits (.byte b :: acc) fuel rest := by
  obtain ⟨hquote, hslash, hlow⟩ := h
  rw [readUnits.eq_def]
  simp only [if_neg hquote, if_neg hslash, if_neg hlow]

theorem readUnits_letter {e : UInt8} {c : Char} (he : e ≠ byteOf 'u') (hc : escape? e = some c)
    (acc : List Unit16) (fuel : ℕ) (rest : List UInt8) :
    readUnits acc (fuel + 1) (byteOf '\\' :: e :: rest) =
      readUnits (.byte (byteOf c) :: acc) fuel rest := by
  rw [readUnits.eq_def]
  simp only [if_neg (show byteOf '\\' ≠ byteOf '"' by decide), if_neg he, hc, if_true]

theorem readUnits_code {n : ℕ} {bytes rest : List UInt8} (h : readHex bytes = .ok (n, rest))
    (acc : List Unit16) (fuel : ℕ) :
    readUnits acc (fuel + 1) (byteOf '\\' :: byteOf 'u' :: bytes) =
      readUnits (.code n :: acc) fuel rest := by
  rw [readUnits.eq_def]
  simp only [if_neg (show byteOf '\\' ≠ byteOf '"' by decide), h, if_true]

theorem readUnits_all_plain {bytes : List UInt8} (h : ∀ b ∈ bytes, IsPlain b) (acc : List Unit16)
    (fuel : ℕ) (rest : List UInt8) :
    readUnits acc (bytes.length + fuel) (bytes ++ rest) =
      readUnits ((bytes.map .byte).reverse ++ acc) fuel rest := by
  induction bytes generalizing acc with
  | nil => rw [List.length_nil, Nat.zero_add]; rfl
  | cons b bytes ih =>
    have hlength : (b :: bytes).length + fuel = bytes.length + fuel + 1 := by
      rw [List.length_cons, Nat.add_right_comm]
    rw [hlength, List.cons_append, readUnits_plain (h b List.mem_cons_self),
      ih fun b hb ↦ h b (List.mem_cons_of_mem _ hb)]
    simp

/-- **The units of some characters**: each is spelled by its bytes or by its number. -/
inductive Spelled : List Unit16 → List Char → Prop where
  /-- No units. -/
  | nil : Spelled [] []
  /-- A character by its bytes. -/
  | bytes (c : Char) {units : List Unit16} {cs : List Char} (h : Spelled units cs) :
      Spelled ((encodeChar c).map .byte ++ units) (c :: cs)
  /-- A character by its number. -/
  | code (c : Char) {units : List Unit16} {cs : List Char} (h : Spelled units cs) :
      Spelled (.code c.toNat :: units) (c :: cs)

/-- **A character is read as units that spell it**, one call for each unit. -/
theorem exists_readUnits_escaped (c : Char) :
    ∃ first, first.length ≤ (escapedBytes c).length ∧
      (∀ units cs, Spelled units cs → Spelled (first ++ units) (c :: cs)) ∧
      ∀ acc fuel rest, readUnits acc (first.length + fuel) (escapedBytes c ++ rest) =
        readUnits (first.reverse ++ acc) fuel rest := by
  rcases escaped_cases c with ⟨e, hwritten, he, hu, hletter, hc⟩ | ⟨hwritten, hc⟩ | ⟨hwritten, hc⟩
  · have hbytes : escapedBytes c = [byteOf '\\', byteOf e] := by
      rw [escapedBytes, hwritten]
      simp only [List.map_cons, List.map_nil, Text.toBytes_cons, toBytes_char he]
      rfl
    have hne : byteOf e ≠ byteOf 'u' := by
      rw [ne_eq, ← UInt8.toNat_inj, byteOf, toNat_ofNat_of_lt (by omega)]
      exact fun h ↦ hu (Char.toNat_inj.1 h)
    refine ⟨(encodeChar c).map .byte, ?_, fun units cs h ↦ .bytes c h, fun acc fuel rest ↦ ?_⟩
    · rw [encodeChar_of_lt hc, hbytes]
      exact Nat.le_succ 1
    · rw [encodeChar_of_lt hc, hbytes, List.map_singleton, List.length_singleton, Nat.add_comm]
      exact readUnits_letter hne hletter acc fuel rest
  · have hbytes : escapedBytes c =
        byteOf '\\' :: byteOf 'u' :: Text.toBytes ((hexDigits 4 c.toNat).map .char) := by
      rw [escapedBytes, hwritten]
      rfl
    refine ⟨[.code c.toNat], ?_, fun units cs h ↦ .code c h, fun acc fuel rest ↦ ?_⟩
    · rw [hbytes, List.length_singleton, List.length_cons]
      omega
    · rw [hbytes, List.length_singleton, Nat.add_comm]
      exact readUnits_code (readHex_hexDigits hc rest) acc fuel
  · have hbytes : escapedBytes c = encodeChar c := by
      rw [escapedBytes, hwritten]
      exact List.append_nil _
    refine ⟨(encodeChar c).map .byte, ?_, fun units cs h ↦ .bytes c h, fun acc fuel rest ↦ ?_⟩
    · exact Nat.le_of_eq (by rw [hbytes, List.length_map])
    · rw [hbytes, List.length_map]
      exact readUnits_all_plain hc acc fuel rest

/-- The bytes between the quotes of a text. -/
def writtenBytes (t : Text) : List UInt8 :=
  Text.toBytes (t.flatMap fun r ↦ (escaped r).map Rune.char)

theorem writtenBytes_cons (c : Char) (t : Text) :
    writtenBytes (.char c :: t) = escapedBytes c ++ writtenBytes t := by
  rw [writtenBytes, List.flatMap_cons, Text.toBytes_append]
  rfl

theorem exists_readUnits_written (cs : List Char) :
    ∃ units, units.length ≤ (writtenBytes (cs.map .char)).length ∧ Spelled units cs ∧
      ∀ acc fuel rest,
        readUnits acc (units.length + fuel) (writtenBytes (cs.map .char) ++ rest) =
          readUnits (units.reverse ++ acc) fuel rest := by
  induction cs with
  | nil =>
    refine ⟨[], Nat.le_refl 0, .nil, fun acc fuel rest ↦ ?_⟩
    rw [List.length_nil, Nat.zero_add]
    rfl
  | cons c cs ih =>
    obtain ⟨first, hfirst, hspell, hread⟩ := exists_readUnits_escaped c
    obtain ⟨units, hunits, hspelled, hreads⟩ := ih
    refine ⟨first ++ units, ?_, hspell units cs hspelled, fun acc fuel rest ↦ ?_⟩
    · rw [List.map_cons, writtenBytes_cons, List.length_append, List.length_append]
      exact Nat.add_le_add hfirst hunits
    · rw [List.map_cons, writtenBytes_cons, List.append_assoc, List.length_append, Nat.add_assoc,
        hread, hreads, List.reverse_append, List.append_assoc]

theorem plainText_toBytes (cs : List Char) :
    plainText (Text.toBytes (cs.map .char)) = cs.map .char := by
  rw [plainText, Text.ofBytes_toBytes (Text.isUnicode_map_char cs), List.map_map]
  rfl

theorem joinUnits_bytes (bytes pending : List UInt8) (units : List Unit16) :
    joinUnits pending none (bytes.map .byte ++ units) =
      joinUnits (bytes.reverse ++ pending) none units := by
  induction bytes generalizing pending with
  | nil => rfl
  | cons b bytes ih =>
    rw [List.map_cons, List.cons_append, joinUnits, ih]
    simp

/-- **What the units spell is put together again**, after the characters whose bytes are pending. -/
theorem joinUnits_of_spelled {units : List Unit16} {cs : List Char} (h : Spelled units cs)
    (pending : List Char) :
    joinUnits (Text.toBytes (pending.map .char)).reverse none units =
      (pending ++ cs).map .char := by
  induction h generalizing pending with
  | nil =>
    rw [joinUnits, List.reverse_reverse, plainText_toBytes]
    simp
  | @bytes c units cs h ih =>
    have hbytes : (encodeChar c).reverse ++ (Text.toBytes (pending.map .char)).reverse =
        (Text.toBytes ((pending ++ [c]).map .char)).reverse := by
      rw [List.map_append, Text.toBytes_append, List.reverse_append]
      simp [Text.toBytes, Rune.toBytes]
    rw [joinUnits_bytes, hbytes, ih, List.append_assoc]
    rfl
  | @code c units cs h ih =>
    have hvalid : c.toNat.isValidChar := c.valid
    have hnil : joinUnits [] none units = cs.map .char := ih []
    rw [Nat.isValidChar] at hvalid
    rw [joinUnits, if_neg (by omega), if_neg (by omega), List.reverse_reverse, plainText_toBytes,
      Char.ofNat_toNat, hnil]
    simp

/-- **A string is read back**, whatever follows it. -/
theorem readString_written {t : Text} (h : t.IsUnicode) {fuel : ℕ} {rest : List UInt8}
    (hfuel : (writtenBytes t ++ byteOf '"' :: rest).length ≤ fuel) :
    readString fuel (writtenBytes t ++ byteOf '"' :: rest) = .ok (t, rest) := by
  obtain ⟨cs, rfl⟩ := h.exists_chars
  obtain ⟨units, hunits, hspelled, hread⟩ := exists_readUnits_written cs
  have hjoin : joinUnits [] none units = cs.map .char := joinUnits_of_spelled hspelled []
  obtain ⟨fuel, rfl⟩ : ∃ more, fuel = units.length + (more + 1) := by
    rw [List.length_append, List.length_cons] at hfuel
    exact ⟨fuel - units.length - 1, by omega⟩
  rw [readString, hread, readUnits_quote]
  simp [hjoin, Bind.bind, Except.bind, pure, Except.pure]

/-! ### Numbers -/

/-- **What may follow a value**: nothing that could go on with a number. -/
inductive EndsValue : List UInt8 → Prop where
  /-- The end of the text. -/
  | nil : EndsValue []
  /-- A comma. -/
  | comma (rest : List UInt8) : EndsValue (byteOf ',' :: rest)
  /-- A line break. -/
  | newline (rest : List UInt8) : EndsValue (byteOf '\n' :: rest)

/-- **The digits of a whole number**, a zero only alone at their head. -/
structure IsWhole (digits : List UInt8) : Prop where
  /-- There are digits. -/
  ne_nil : digits ≠ []
  /-- There is nothing else. -/
  isDigit : ∀ b ∈ digits, isDigitByte b = true
  /-- No zero leads. -/
  eq_zero : digits.head? = some 0x30 → digits = [0x30]

theorem readSomeDigits_of_endsValue {digits rest : List UInt8} (hne : digits ≠ [])
    (hdigits : ∀ b ∈ digits, isDigitByte b = true) (hrest : EndsValue rest) :
    readSomeDigits (digits ++ rest) = .ok (digits, rest) := by
  have hhead : (digits ++ rest).head?.any isDigitByte = true := by
    obtain ⟨b, tail, rfl⟩ := List.exists_cons_of_ne_nil hne
    exact hdigits b List.mem_cons_self
  have htake : rest.takeWhile isDigitByte = [] := by cases hrest <;> rfl
  have hdrop : rest.dropWhile isDigitByte = rest := by cases hrest <;> rfl
  rw [readSomeDigits, if_pos hhead, List.takeWhile_append_of_pos hdigits,
    List.dropWhile_append_of_pos hdigits, htake, hdrop, List.append_nil]

theorem IsWhole.readWhole_append {digits rest : List UInt8} (h : IsWhole digits)
    (hrest : EndsValue rest) : readWhole (digits ++ rest) = .ok (digits, rest) := by
  rw [readWhole.eq_def]
  split
  · next tail hbytes =>
    have hzero : digits = [0x30] := by
      refine h.eq_zero ?_
      obtain ⟨b, more, rfl⟩ := List.exists_cons_of_ne_nil h.ne_nil
      exact congrArg List.head? hbytes
    subst hzero
    cases hbytes
    rfl
  · exact readSomeDigits_of_endsValue h.ne_nil h.isDigit hrest

theorem readFraction_of_endsValue {rest : List UInt8} (h : EndsValue rest) :
    readFraction rest = .ok ([], rest) := by
  cases h <;> rfl

theorem readExponent_of_endsValue {rest : List UInt8} (h : EndsValue rest) :
    readExponent rest = .ok ([], rest) := by
  cases h <;> rfl

theorem IsWhole.readNumber_minus {digits rest : List UInt8} (h : IsWhole digits)
    (hrest : EndsValue rest) :
    readNumber (0x2D :: (digits ++ rest)) = .ok (Text.ofBytes (0x2D :: digits), rest) := by
  simp only [readNumber, h.readWhole_append hrest, readFraction_of_endsValue hrest,
    readExponent_of_endsValue hrest, Bind.bind, Except.bind, pure, Except.pure]
  simp

theorem IsWhole.readNumber_append {digits rest : List UInt8} (h : IsWhole digits)
    (hrest : EndsValue rest) : readNumber (digits ++ rest) = .ok (Text.ofBytes digits, rest) := by
  have hminus : ∀ tail, digits ++ rest ≠ 0x2D :: tail := by
    intro tail hbytes
    obtain ⟨b, more, rfl⟩ := List.exists_cons_of_ne_nil h.ne_nil
    have hb : b = 0x2D := (List.cons.inj hbytes).1
    have hdigit := h.isDigit b List.mem_cons_self
    rw [hb] at hdigit
    exact absurd hdigit (by decide)
  simp only [readNumber, h.readWhole_append hrest, readFraction_of_endsValue hrest,
    readExponent_of_endsValue hrest, Bind.bind, Except.bind, pure, Except.pure]
  simp

/-! ### Digits of an integer -/

theorem toNat_of_isDigit {c : Char} (h : c.isDigit = true) : 0x30 ≤ c.toNat ∧ c.toNat ≤ 0x39 := by
  simpa [Char.isDigit, UInt32.le_iff_toNat_le] using h

theorem isDigitByte_byteOf {c : Char} (h : c.isDigit = true) : isDigitByte (byteOf c) = true := by
  have hc := toNat_of_isDigit h
  rw [isDigitByte, Bool.and_eq_true, decide_eq_true_eq, decide_eq_true_eq, UInt8.le_iff_toNat_le,
    UInt8.le_iff_toNat_le, byteOf, toNat_ofNat_of_lt (by omega)]
  exact hc

theorem head?_toDigits {n : ℕ} (h : ((Nat.toDigits 10 n).map byteOf).head? = some 0x30) :
    n = 0 := by
  induction n using Nat.strongRecOn with
  | ind n ih =>
    by_cases hn : n < 10
    · have hsmall : ∀ m < 10, byteOf (Nat.digitChar m) = 0x30 → m = 0 := by decide
      rw [Nat.toDigits_of_lt_base hn] at h
      exact hsmall n hn (Option.some.inj h)
    · rw [Nat.toDigits_of_base_le (by decide) (Nat.le_of_not_lt hn), List.map_append,
        List.head?_append_of_ne_nil _ (by simp [Nat.toDigits_ne_nil])] at h
      have hzero := ih (n / 10) (by omega) h
      omega

theorem isWhole_toDigits (n : ℕ) : IsWhole ((Nat.toDigits 10 n).map byteOf) where
  ne_nil := fun h ↦ Nat.toDigits_ne_nil (List.map_eq_nil_iff.1 h)
  isDigit := by
    intro b hb
    obtain ⟨c, hc, rfl⟩ := List.mem_map.1 hb
    exact isDigitByte_byteOf (Nat.isDigit_of_mem_toDigits (by decide) (by decide) hc)
  eq_zero := fun h ↦ by rw [head?_toDigits h]; rfl

theorem toBytes_digits {cs : List Char} (h : ∀ c ∈ cs, c.isDigit = true) :
    Text.toBytes (cs.map .char) = cs.map byteOf := by
  induction cs with
  | nil => rfl
  | cons c cs ih =>
    have hc := toNat_of_isDigit (h c List.mem_cons_self)
    rw [List.map_cons, Text.toBytes_cons, toBytes_char (by omega),
      ih fun d hd ↦ h d (List.mem_cons_of_mem _ hd)]
    rfl

theorem toBytes_toDigits (n : ℕ) :
    Text.toBytes ((Nat.toDigits 10 n).map .char) = (Nat.toDigits 10 n).map byteOf :=
  toBytes_digits fun _ ↦ Nat.isDigit_of_mem_toDigits (by decide) (by decide)

/-- **An integer is written in digits**, after a minus sign if it is negative. -/
theorem toBytes_ofInt_cases (z : Int) :
    ∃ digits, IsWhole digits ∧
      ((Text.ofInt z).toBytes = digits ∨ (Text.ofInt z).toBytes = 0x2D :: digits) := by
  cases z with
  | ofNat n =>
    refine ⟨_, isWhole_toDigits n, .inl ?_⟩
    rw [← toBytes_toDigits, ← Nat.toList_repr]
    rfl
  | negSucc n =>
    refine ⟨_, isWhole_toDigits (n + 1), .inr ?_⟩
    have hminus : Text.ofInt (.negSucc n) = .char '-' :: (Nat.toDigits 10 (n + 1)).map .char := by
      rw [Text.ofInt, Text.ofString, show toString (Int.negSucc n) = "-" ++ (n + 1).repr from rfl,
        String.toList_append, Nat.toList_repr]
      rfl
    rw [hminus, Text.toBytes_cons, toBytes_toDigits]
    rfl

/-- **A number is read back**, if nothing follows that could go on with it. -/
theorem readNumber_ofInt (z : Int) {rest : List UInt8} (hrest : EndsValue rest) :
    readNumber ((Text.ofInt z).toBytes ++ rest) = .ok (Text.ofInt z, rest) := by
  have hread : Text.ofBytes (Text.ofInt z).toBytes = Text.ofInt z :=
    Text.ofBytes_toBytes (Text.isUnicode_ofString _)
  obtain ⟨digits, hdigits, h | h⟩ := toBytes_ofInt_cases z
  · rw [h, hdigits.readNumber_append hrest, ← h, hread]
  · rw [h, List.cons_append, hdigits.readNumber_minus hrest, ← h, hread]

end Json

end StructuralLint
