import Mathlib.Data.List.DropRight
import StructuralLint.Proofs.Json.Literal

/-!
# JSON is read back

A value that is written over several lines is read back, whatever follows it (`Readable.readsBack`). What
the layout puts between the tokens is passed over wherever a value, an item or a member is looked for, so
that levels of indentation play no part.

The reader has two limits. It nests collections only so deep, which is why `Readable` counts the levels of
a value. And it makes only so many calls one inside the other; here a call for each byte is enough, since
what a call passes over, be it a blank, is not left to the next.
-/

namespace StructuralLint

namespace Json

/-! ### Blanks -/

theorem toBytes_newline (level : ℕ) :
    (newline level).toBytes = byteOf '\n' :: List.replicate (2 * level) 0x20 := by
  have hblanks : ∀ n, Text.toBytes (List.replicate n (.char ' ')) = List.replicate n 0x20 := by
    intro n
    induction n with
    | zero => rfl
    | succ n ih => rw [List.replicate_succ, Text.toBytes_cons, ih]; rfl
  rw [newline, Text.toBytes_cons, hblanks]
  rfl

theorem skipGaps_newline (level : ℕ) (rest : List UInt8) :
    skipGaps ((newline level).toBytes ++ rest) = skipGaps rest := by
  have hgap : ∀ b ∈ (newline level).toBytes, isGapByte b = true := by
    intro b hb
    rw [toBytes_newline, List.mem_cons, List.mem_replicate] at hb
    rcases hb with rfl | ⟨-, rfl⟩ <;> rfl
  exact List.dropWhile_append_of_pos hgap

theorem skipGaps_of_token {b : UInt8} (h : isGapByte b = false) (rest : List UInt8) :
    skipGaps (b :: rest) = b :: rest :=
  List.dropWhile_cons_of_neg (by rw [h]; exact Bool.false_ne_true)

theorem skipGaps_skipGaps (bytes : List UInt8) : skipGaps (skipGaps bytes) = skipGaps bytes :=
  List.dropWhile_idempotent _ bytes

/-- A value is looked for after what blanks there are. -/
theorem readValue_congr {a b : List UInt8} (h : skipGaps a = skipGaps b) (depth fuel : ℕ) :
    readValue depth fuel a = readValue depth fuel b := by
  cases fuel with
  | zero => rfl
  | succ fuel => rw [readValue, readValue, h]

/-- A member is looked for after what blanks there are. -/
theorem readMember_congr {a b : List UInt8} (h : skipGaps a = skipGaps b) (depth fuel : ℕ) :
    readMember depth fuel a = readMember depth fuel b := by
  cases fuel with
  | zero => rfl
  | succ fuel => rw [readMember, readMember, h]

theorem refuse_ne_ok {α : Type} (place : String) (bytes : List UInt8) (a : α) :
    refuse place bytes ≠ .ok a := by
  intro h
  rw [refuse] at h
  split at h <;> cases h

/-! ### Items and members, one at a time -/

variable {depth fuel : ℕ} {bytes rest : List UInt8}

/-- No value starts with a bracket that closes. -/
theorem ne_bracket_of_readValue {item : Json} {b : UInt8} {tail : List UInt8}
    (h : readValue depth fuel (b :: tail) = .ok (item, rest)) : b ≠ byteOf ']' := by
  rintro rfl
  cases fuel with
  | zero => cases h
  | succ fuel => exact refuse_ne_ok _ _ _ h

/-- No member starts with a brace that closes. -/
theorem ne_brace_of_readMember {member : Text × Json} {b : UInt8} {tail : List UInt8}
    (h : readMember depth fuel (b :: tail) = .ok (member, rest)) : b ≠ byteOf '\x7d' := by
  rintro rfl
  cases fuel with
  | zero => cases h
  | succ fuel => exact refuse_ne_ok _ _ _ h

theorem readItems_first {item : Json} (h : readValue depth fuel bytes = .ok (item, rest))
    (acc : List Json) :
    readItems depth true acc (fuel + 1) bytes = readItems depth false (item :: acc) fuel rest := by
  rw [readValue_congr (skipGaps_skipGaps bytes).symm] at h
  rw [readItems]
  split
  · next hnil =>
    rw [hnil] at h
    cases fuel <;> cases h
  · next b tail hcons =>
    rw [hcons] at h
    simp only [if_neg (ne_bracket_of_readValue h), if_true, h]
    rfl

theorem readItems_next {item : Json} (h : readValue depth fuel bytes = .ok (item, rest))
    (acc : List Json) :
    readItems depth false acc (fuel + 1) (byteOf ',' :: bytes) =
      readItems depth false (item :: acc) fuel rest := by
  rw [readItems, skipGaps_of_token (by rfl)]
  simp only [if_neg (show byteOf ',' ≠ byteOf ']' by decide), if_true, h]
  rfl

theorem readItems_close (isFirst : Bool) (acc : List Json) (level : ℕ) :
    readItems depth isFirst acc (fuel + 1) ((newline level).toBytes ++ byteOf ']' :: rest) =
      .ok (acc.reverse, rest) := by
  rw [readItems, skipGaps_newline]
  rfl

theorem readMembers_first {member : Text × Json}
    (h : readMember depth fuel bytes = .ok (member, rest)) (acc : List (Text × Json)) :
    readMembers depth true acc (fuel + 1) bytes =
      readMembers depth false (member :: acc) fuel rest := by
  rw [readMember_congr (skipGaps_skipGaps bytes).symm] at h
  rw [readMembers]
  split
  · next hnil =>
    rw [hnil] at h
    cases fuel <;> cases h
  · next b tail hcons =>
    rw [hcons] at h
    simp only [if_neg (ne_brace_of_readMember h), if_true, h]
    rfl

theorem readMembers_next {member : Text × Json}
    (h : readMember depth fuel bytes = .ok (member, rest)) (acc : List (Text × Json)) :
    readMembers depth false acc (fuel + 1) (byteOf ',' :: bytes) =
      readMembers depth false (member :: acc) fuel rest := by
  rw [readMembers, skipGaps_of_token (by rfl)]
  simp only [if_neg (show byteOf ',' ≠ byteOf '\x7d' by decide), if_true, h]
  rfl

theorem readMembers_close (isFirst : Bool) (acc : List (Text × Json)) (level : ℕ) :
    readMembers depth isFirst acc (fuel + 1) ((newline level).toBytes ++ byteOf '\x7d' :: rest) =
      .ok (acc.reverse, rest) := by
  rw [readMembers, skipGaps_newline]
  rfl

/-! ### Values that are read back -/

/-- **A value is read back** from how it is written at any level, whatever follows it. -/
def ReadsBack (depth : ℕ) (j : Json) : Prop :=
  ∀ level fuel rest, EndsValue rest → ((pretty level j).toBytes ++ rest).length ≤ fuel →
    readValue depth fuel ((pretty level j).toBytes ++ rest) = .ok (j, rest)

/-- A first byte takes one call, and as many remain as there are bytes after it. -/
theorem exists_eq_succ_of_length_le {b : UInt8} {tail : List UInt8}
    (h : (b :: tail).length ≤ fuel) : ∃ more, fuel = more + 1 ∧ tail.length ≤ more := by
  cases fuel with
  | zero => cases h
  | succ fuel => exact ⟨fuel, rfl, Nat.le_of_succ_le_succ h⟩

theorem readsBack_null : ReadsBack depth null := by
  intro level fuel rest _ hfuel
  obtain ⟨fuel, rfl, -⟩ := exists_eq_succ_of_length_le hfuel
  rfl

theorem readsBack_bool (b : Bool) : ReadsBack depth (bool b) := by
  intro level fuel rest _ hfuel
  cases b <;> obtain ⟨fuel, rfl, -⟩ := exists_eq_succ_of_length_le hfuel <;> rfl

theorem toBytes_quoted (t : Text) :
    (quoted t).toBytes = byteOf '"' :: (writtenBytes t ++ [byteOf '"']) := by
  rw [quoted, Text.toBytes_cons, Text.toBytes_append]
  rfl

theorem readsBack_string {t : Text} (h : t.IsUnicode) : ReadsBack depth (string t) := by
  intro level fuel rest _ hfuel
  rw [pretty, toBytes_quoted, List.cons_append, List.append_assoc, List.singleton_append] at hfuel ⊢
  obtain ⟨fuel, rfl, hmore⟩ := exists_eq_succ_of_length_le hfuel
  have hread := readString_written h hmore
  have hbrace : byteOf '"' ≠ byteOf '\x7b' := by decide
  have hbracket : byteOf '"' ≠ byteOf '[' := by decide
  rw [readValue, skipGaps_of_token (by rfl)]
  simp only [if_neg hbrace, if_neg hbracket, if_true, hread]
  rfl

theorem readValue_number {b : UInt8} {tail : List UInt8} {literal : Text}
    (hb : b = byteOf '-' ∨ isDigitByte b = true)
    (h : readNumber (b :: tail) = .ok (literal, rest)) :
    readValue depth (fuel + 1) (b :: tail) = .ok (number literal, rest) := by
  have hne : ∀ {x}, ¬ (x = byteOf '-' ∨ isDigitByte x = true) → b ≠ x := fun hx hbx ↦ hx (hbx ▸ hb)
  have hgap : isGapByte b = false := by
    simp only [isGapByte, Bool.or_eq_false_iff, decide_eq_false_iff_not]
    exact ⟨⟨⟨hne (by decide), hne (by decide)⟩, hne (by decide)⟩, hne (by decide)⟩
  have hnumber : (b = byteOf '-' || isDigitByte b) = true := by simpa using hb
  rw [readValue, skipGaps_of_token hgap]
  simp only
  rw [if_neg (hne (by decide)), if_neg (hne (by decide)), if_neg (hne (by decide)),
    if_neg (hne (by decide)), if_neg (hne (by decide)), if_neg (hne (by decide)), if_pos hnumber, h]
  rfl

theorem readsBack_ofInt (z : Int) : ReadsBack depth (ofInt z) := by
  intro level fuel rest hrest hfuel
  have hread := readNumber_ofInt z hrest
  obtain ⟨b, tail, hbytes, hb⟩ : ∃ b tail, (Text.ofInt z).toBytes = b :: tail ∧
      (b = byteOf '-' ∨ isDigitByte b = true) := by
    obtain ⟨digits, hdigits, h | h⟩ := toBytes_ofInt_cases z
    · obtain ⟨b, tail, hcons⟩ := List.exists_cons_of_ne_nil hdigits.ne_nil
      exact ⟨b, tail, h.trans hcons, .inr (hdigits.isDigit b (hcons ▸ List.mem_cons_self))⟩
    · exact ⟨_, digits, h, .inl rfl⟩
  rw [ofInt, pretty, hbytes, List.cons_append] at hfuel ⊢
  rw [hbytes, List.cons_append] at hread
  obtain ⟨fuel, rfl, -⟩ := exists_eq_succ_of_length_le hfuel
  exact readValue_number hb hread

/-! ### Collections that are read back -/

theorem length_le_of_append {a b : List UInt8} (h : (a ++ b).length ≤ fuel) : b.length ≤ fuel :=
  Nat.le_trans (by rw [List.length_append]; exact Nat.le_add_left ..) h

theorem exists_eq_succ_of_newline {level : ℕ}
    (h : ((newline level).toBytes ++ bytes).length ≤ fuel) :
    ∃ more, fuel = more + 1 ∧ bytes.length ≤ more := by
  rw [toBytes_newline, List.cons_append] at h
  obtain ⟨more, rfl, hmore⟩ := exists_eq_succ_of_length_le h
  exact ⟨more, rfl, length_le_of_append hmore⟩

theorem endsValue_newline (level : ℕ) (rest : List UInt8) :
    EndsValue ((newline level).toBytes ++ rest) := by
  rw [toBytes_newline]
  exact .newline _

theorem toBytes_prettyItems_cons (level : ℕ) (item : Json) (items : List Json) :
    (prettyItems level (item :: items)).toBytes =
      byteOf ',' :: ((newline level).toBytes ++
        ((pretty level item).toBytes ++ (prettyItems level items).toBytes)) := by
  rw [prettyItems, Text.toBytes_cons, Text.toBytes_append, Text.toBytes_append, List.append_assoc]
  rfl

theorem endsValue_prettyItems (level : ℕ) (items : List Json) (h : EndsValue rest) :
    EndsValue ((prettyItems level items).toBytes ++ rest) := by
  cases items with
  | nil => exact h
  | cons item items =>
    rw [toBytes_prettyItems_cons]
    exact .comma _

/-- **The items after the first are read back.** -/
theorem readItems_prettyItems {items : List Json} (h : ∀ item ∈ items, ReadsBack depth item)
    {level outer : ℕ} (acc : List Json)
    (hfuel : ((prettyItems level items).toBytes ++
      ((newline outer).toBytes ++ byteOf ']' :: rest)).length ≤ fuel) :
    readItems depth false acc fuel ((prettyItems level items).toBytes ++
      ((newline outer).toBytes ++ byteOf ']' :: rest)) = .ok (acc.reverse ++ items, rest) := by
  induction items generalizing acc fuel with
  | nil =>
    rw [show (prettyItems level []).toBytes = [] from rfl, List.nil_append] at hfuel ⊢
    obtain ⟨fuel, rfl, -⟩ := exists_eq_succ_of_newline hfuel
    rw [readItems_close, List.append_nil]
  | cons item items ih =>
    rw [toBytes_prettyItems_cons, List.cons_append, List.append_assoc, List.append_assoc] at hfuel ⊢
    obtain ⟨fuel, rfl, hmore⟩ := exists_eq_succ_of_length_le hfuel
    have hitem := h item List.mem_cons_self level fuel _
      (endsValue_prettyItems level items (endsValue_newline outer (byteOf ']' :: rest)))
      (length_le_of_append hmore)
    rw [← readValue_congr (skipGaps_newline level _)] at hitem
    rw [readItems_next hitem, ih (fun i hi ↦ h i (List.mem_cons_of_mem _ hi)) _
      (length_le_of_append (length_le_of_append hmore))]
    simp

theorem readValue_bracket {items : List Json} (hdepth : depth < depthLimit)
    (h : readItems (depth + 1) true [] fuel bytes = .ok (items, rest)) :
    readValue depth (fuel + 1) (byteOf '[' :: bytes) = .ok (array items, rest) := by
  rw [readValue, skipGaps_of_token (by rfl)]
  simp only [if_neg (show byteOf '[' ≠ byteOf '\x7b' by decide),
    if_neg (Nat.not_le_of_lt hdepth), if_true, h]
  rfl

theorem readsBack_array {items : List Json} (hdepth : depth < depthLimit)
    (h : ∀ item ∈ items, ReadsBack (depth + 1) item) : ReadsBack depth (array items) := by
  intro level fuel rest hrest hfuel
  cases items with
  | nil =>
    obtain ⟨fuel, rfl, hmore⟩ := exists_eq_succ_of_length_le hfuel
    obtain ⟨fuel, rfl, -⟩ := exists_eq_succ_of_length_le hmore
    exact readValue_bracket hdepth rfl
  | cons item items =>
    have hbytes : (pretty level (array (item :: items))).toBytes ++ rest =
        byteOf '[' :: ((newline (level + 1)).toBytes ++ ((pretty (level + 1) item).toBytes ++
          ((prettyItems (level + 1) items).toBytes ++
            ((newline level).toBytes ++ byteOf ']' :: rest)))) := by
      rw [pretty]
      simp only [Text.toBytes_cons, Text.toBytes_append, List.append_assoc]
      rfl
    rw [hbytes] at hfuel ⊢
    obtain ⟨fuel, rfl, hmore⟩ := exists_eq_succ_of_length_le hfuel
    obtain ⟨fuel, rfl, hless⟩ := exists_eq_succ_of_newline hmore
    have hitem := h item List.mem_cons_self (level + 1) fuel _
      (endsValue_prettyItems (level + 1) items (endsValue_newline level (byteOf ']' :: rest))) hless
    have hitems := readItems_prettyItems (fun i hi ↦ h i (List.mem_cons_of_mem _ hi)) [item]
      (length_le_of_append hless)
    rw [← readValue_congr (skipGaps_newline (level + 1) _)] at hitem
    exact readValue_bracket hdepth ((readItems_first hitem []).trans hitems)

/-! ### Objects -/

/-- The bytes of a member of an object. -/
def memberBytes (level : ℕ) (member : Text × Json) : List UInt8 :=
  byteOf '"' :: (writtenBytes member.1 ++ byteOf '"' :: byteOf ':' :: byteOf ' ' ::
    (pretty level member.2).toBytes)

theorem toBytes_member (level : ℕ) (name : Text) (value : Json) :
    (quoted name ++ Text.ofString ": " ++ pretty level value).toBytes =
      memberBytes level (name, value) := by
  rw [Text.toBytes_append, Text.toBytes_append, toBytes_quoted, memberBytes]
  simp
  rfl

/-- **A member is read back**, whatever follows it. -/
theorem readMember_memberBytes (level : ℕ) {member : Text × Json} (hname : member.1.IsUnicode)
    (hvalue : ReadsBack depth member.2) (hrest : EndsValue rest)
    (hfuel : (memberBytes level member ++ rest).length ≤ fuel) :
    readMember depth fuel (memberBytes level member ++ rest) = .ok (member, rest) := by
  obtain ⟨name, value⟩ := member
  have hbytes : memberBytes level (name, value) ++ rest =
      byteOf '"' :: (writtenBytes name ++ byteOf '"' :: byteOf ':' :: byteOf ' ' ::
        ((pretty level value).toBytes ++ rest)) := by
    simp [memberBytes]
  rw [hbytes] at hfuel ⊢
  obtain ⟨fuel, rfl, hmore⟩ := exists_eq_succ_of_length_le hfuel
  have hcolon : ∀ tail, skipGaps (byteOf ':' :: tail) = byteOf ':' :: tail :=
    skipGaps_of_token rfl
  have hblank : skipGaps (byteOf ' ' :: ((pretty level value).toBytes ++ rest)) =
      skipGaps ((pretty level value).toBytes ++ rest) := rfl
  have hread := hvalue level fuel rest hrest (by
    simp only [List.length_append, List.length_cons] at hmore ⊢
    omega)
  rw [← readValue_congr hblank] at hread
  rw [readMember, skipGaps_of_token (by rfl)]
  simp only [if_true, readString_written hname hmore, Bind.bind, Except.bind, hcolon, hread]
  rfl

theorem toBytes_prettyMembers_cons (level : ℕ) (member : Text × Json)
    (members : List (Text × Json)) :
    (prettyMembers level (member :: members)).toBytes =
      byteOf ',' :: ((newline level).toBytes ++
        (memberBytes level member ++ (prettyMembers level members).toBytes)) := by
  rw [← toBytes_member, prettyMembers]
  simp only [Text.toBytes_cons, Text.toBytes_append, List.append_assoc]
  rfl

theorem endsValue_prettyMembers (level : ℕ) (members : List (Text × Json))
    (h : EndsValue rest) :
    EndsValue ((prettyMembers level members).toBytes ++ rest) := by
  cases members with
  | nil => exact h
  | cons member members =>
    rw [toBytes_prettyMembers_cons]
    exact .comma _

/-- **The members after the first are read back.** -/
theorem readMembers_prettyMembers {members : List (Text × Json)}
    (h : ∀ member ∈ members, member.1.IsUnicode ∧ ReadsBack depth member.2)
    {level outer : ℕ} (acc : List (Text × Json))
    (hfuel : ((prettyMembers level members).toBytes ++
      ((newline outer).toBytes ++ byteOf '\x7d' :: rest)).length ≤ fuel) :
    readMembers depth false acc fuel ((prettyMembers level members).toBytes ++
      ((newline outer).toBytes ++ byteOf '\x7d' :: rest)) = .ok (acc.reverse ++ members, rest) := by
  induction members generalizing acc fuel with
  | nil =>
    rw [show (prettyMembers level []).toBytes = [] from rfl, List.nil_append] at hfuel ⊢
    obtain ⟨fuel, rfl, -⟩ := exists_eq_succ_of_newline hfuel
    rw [readMembers_close, List.append_nil]
  | cons member members ih =>
    rw [toBytes_prettyMembers_cons, List.cons_append, List.append_assoc, List.append_assoc]
      at hfuel ⊢
    obtain ⟨fuel, rfl, hmore⟩ := exists_eq_succ_of_length_le hfuel
    obtain ⟨hname, hvalue⟩ := h member List.mem_cons_self
    have hmember := readMember_memberBytes level hname hvalue
      (endsValue_prettyMembers level members (endsValue_newline outer (byteOf '\x7d' :: rest)))
      (length_le_of_append hmore)
    rw [← readMember_congr (skipGaps_newline level _)] at hmember
    rw [readMembers_next hmember, ih (fun m hm ↦ h m (List.mem_cons_of_mem _ hm)) _
      (length_le_of_append (length_le_of_append hmore))]
    simp

theorem readValue_brace {members : List (Text × Json)} (hdepth : depth < depthLimit)
    (h : readMembers (depth + 1) true [] fuel bytes = .ok (members, rest)) :
    readValue depth (fuel + 1) (byteOf '\x7b' :: bytes) = .ok (object members, rest) := by
  rw [readValue, skipGaps_of_token (by rfl)]
  simp only [if_neg (Nat.not_le_of_lt hdepth), if_true, h]
  rfl

theorem readsBack_object {members : List (Text × Json)} (hdepth : depth < depthLimit)
    (h : ∀ member ∈ members, member.1.IsUnicode ∧ ReadsBack (depth + 1) member.2) :
    ReadsBack depth (object members) := by
  intro level fuel rest hrest hfuel
  cases members with
  | nil =>
    obtain ⟨fuel, rfl, hmore⟩ := exists_eq_succ_of_length_le hfuel
    obtain ⟨fuel, rfl, -⟩ := exists_eq_succ_of_length_le hmore
    exact readValue_brace hdepth rfl
  | cons member members =>
    have hbytes : (pretty level (object (member :: members))).toBytes ++ rest =
        byteOf '\x7b' :: ((newline (level + 1)).toBytes ++ (memberBytes (level + 1) member ++
          ((prettyMembers (level + 1) members).toBytes ++
            ((newline level).toBytes ++ byteOf '\x7d' :: rest)))) := by
      rw [pretty, ← toBytes_member]
      simp only [Text.toBytes_cons, Text.toBytes_append, List.append_assoc]
      rfl
    rw [hbytes] at hfuel ⊢
    obtain ⟨fuel, rfl, hmore⟩ := exists_eq_succ_of_length_le hfuel
    obtain ⟨fuel, rfl, hless⟩ := exists_eq_succ_of_newline hmore
    obtain ⟨hname, hvalue⟩ := h member List.mem_cons_self
    have hmember := readMember_memberBytes (level + 1) hname hvalue
      (endsValue_prettyMembers (level + 1) members
        (endsValue_newline level (byteOf '\x7d' :: rest))) hless
    have hmembers := readMembers_prettyMembers (fun m hm ↦ h m (List.mem_cons_of_mem _ hm)) [member]
      (length_le_of_append hless)
    rw [← readMember_congr (skipGaps_newline (level + 1) _)] at hmember
    exact readValue_brace hdepth ((readMembers_first hmember []).trans hmembers)

/-! ### All values -/

/-- **The values that can be read back**, with a bound on how deep collections are nested in them: numbers
are integers, and strings have no stray bytes. -/
inductive Readable : ℕ → Json → Prop where
  /-- Nothing. -/
  | null {levels : ℕ} : Readable levels null
  /-- A truth value. -/
  | bool {levels : ℕ} (b : Bool) : Readable levels (bool b)
  /-- An integer. -/
  | ofInt {levels : ℕ} (z : Int) : Readable levels (ofInt z)
  /-- A string. -/
  | string {levels : ℕ} {t : Text} (h : t.IsUnicode) : Readable levels (string t)
  /-- An array; its items have a level less. -/
  | array {levels : ℕ} {items : List Json} (h : ∀ item ∈ items, Readable levels item) :
      Readable (levels + 1) (array items)
  /-- An object; the values of its members have a level less. -/
  | object {levels : ℕ} {members : List (Text × Json)}
      (hnames : ∀ member ∈ members, member.1.IsUnicode)
      (hvalues : ∀ member ∈ members, Readable levels member.2) :
      Readable (levels + 1) (object members)

theorem Readable.readsBack {levels : ℕ} {j : Json} (h : Readable levels j)
    (hdepth : depth + levels ≤ depthLimit) : ReadsBack depth j := by
  induction h generalizing depth with
  | null => exact readsBack_null
  | bool b => exact readsBack_bool b
  | ofInt z => exact readsBack_ofInt z
  | string h => exact readsBack_string h
  | array h ih =>
    exact readsBack_array (by omega) fun item hitem ↦ ih item hitem (by omega)
  | object hnames hvalues ih =>
    exact readsBack_object (by omega) fun member hmember ↦
      ⟨hnames member hmember, ih member hmember (by omega)⟩

/-- **A document is read back**: a value, a line feed, and nothing after it. -/
theorem Readable.read_pretty {levels : ℕ} {j : Json} (h : Readable levels j)
    (hlevels : levels ≤ depthLimit) : read ((pretty 0 j).toBytes ++ [byteOf '\n']) = .ok j := by
  have hdepth : 0 + levels ≤ depthLimit := by rwa [Nat.zero_add]
  have hread := h.readsBack hdepth 0 (2 * ((pretty 0 j).toBytes ++ [byteOf '\n']).length + 8) _
    (.newline []) (by omega)
  rw [read, hread]
  rfl

end Json

end StructuralLint
