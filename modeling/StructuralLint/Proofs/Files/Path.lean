import StructuralLint.Files.Path
import StructuralLint.Proofs.Document.Split

/-!
# Paths in normal form

Cleaning a path is a stack machine: each component is pushed, and `..` pops. What it leaves is a
*normal* path, some `..` and then names (`isNormal_ofText`), and a normal path is read back from its
text (`ofText_text`). Both rest on one observation: pushing what continues a normal path pops nothing
(`foldl_push_of_isNormal`).

The two facts that file names rely on are at the end. A name below a directory extends its normal form
by that name (`join_of_isName`). And a path that was reached from a base directory is named relative to
it, and the name leads from the base directory back to the path (`exists_relative?_join`): since
joining never takes back a `..` at the front of the base directory, there is always such a name.
-/

namespace StructuralLint

namespace Path

/-! ### Components -/

/-- **A name**: a component that stays below where it starts. -/
structure IsName (part : Text) : Prop where
  /-- It is not empty. -/
  ne_nil : part ≠ []
  /-- It does not stay where it is. -/
  ne_here : part ≠ here
  /-- It does not go up. -/
  ne_up : part ≠ up
  /-- It is one component. -/
  not_mem_slash : .char '/' ∉ part

instance : DecidablePred IsName := fun part ↦
  decidable_of_iff (part ≠ [] ∧ part ≠ here ∧ part ≠ up ∧ .char '/' ∉ part)
    ⟨fun h ↦ ⟨h.1, h.2.1, h.2.2.1, h.2.2.2⟩, fun h ↦ ⟨h.ne_nil, h.ne_here, h.ne_up, h.not_mem_slash⟩⟩

/-- **A normal path**: `..` can only stand at the front, and only in a path that is not rooted; the
rest are names. -/
structure IsNormal (p : Path) : Prop where
  /-- A component goes up or is a name. -/
  eq_up_or_isName : ∀ part ∈ p.parts, part = up ∨ IsName part
  /-- What stands before a component that goes up goes up, too. -/
  up_front : ∀ A B, p.parts = A ++ up :: B → p.isRooted = false ∧ ∀ part ∈ A, part = up

theorem push_nil (r : Bool) (s : List Text) : push r s [] = s := by
  simp [push]

theorem push_here (r : Bool) (s : List Text) : push r s here = s := by
  simp [push]

theorem push_of_isName {part : Text} (h : IsName part) (r : Bool) (s : List Text) :
    push r s part = part :: s := by
  simp [push, h.ne_nil, h.ne_here, h.ne_up]

theorem push_up_cons_of_ne {part : Text} (h : part ≠ up) (r : Bool) (s : List Text) :
    push r (part :: s) up = s := by
  have hnil : up ≠ [] := by decide
  have hhere : up ≠ here := by decide
  simp [push, h, hnil, hhere]

/-- On top of nothing but `..`, one more is kept. -/
theorem push_up_of_forall {s : List Text} (h : ∀ part ∈ s, part = up) : push false s up = up :: s := by
  have hnil : up ≠ [] := by decide
  have hhere : up ≠ here := by decide
  cases s with
  | nil => simp [push, hnil, hhere]
  | cons part s => simp [push, hnil, hhere, h part List.mem_cons_self]

/-- A component that is no name is skipped or goes up. -/
theorem eq_of_not_isName {part : Text} (hslash : .char '/' ∉ part) (h : ¬ IsName part) :
    part = [] ∨ part = here ∨ part = up := by
  by_contra hne
  rw [not_or, not_or] at hne
  exact h ⟨hne.1, hne.2.1, hne.2.2, hslash⟩

/-! ### Normal paths -/

theorem up_ne_nil : up ≠ [] := by decide

theorem slash_not_mem_up : .char '/' ∉ up := by decide

namespace IsNormal

variable {r : Bool} {A B : List Text}

theorem ne_nil {p : Path} (h : p.IsNormal) {part : Text} (hpart : part ∈ p.parts) : part ≠ [] := by
  obtain rfl | hname := h.eq_up_or_isName part hpart
  · exact up_ne_nil
  · exact hname.ne_nil

theorem not_mem_slash {p : Path} (h : p.IsNormal) {part : Text} (hpart : part ∈ p.parts) :
    .char '/' ∉ part := by
  obtain rfl | hname := h.eq_up_or_isName part hpart
  · exact slash_not_mem_up
  · exact hname.not_mem_slash

theorem nil (r : Bool) : IsNormal ⟨r, []⟩ :=
  ⟨by simp, by simp⟩

theorem of_append (h : IsNormal ⟨r, A ++ B⟩) : IsNormal ⟨r, A⟩ := by
  refine ⟨fun part hpart ↦ h.eq_up_or_isName part (List.mem_append_left B hpart), ?_⟩
  rintro C D rfl
  exact h.up_front C (D ++ B) (List.append_assoc _ _ _)

theorem concat (h : IsNormal ⟨r, A⟩) {name : Text} (hname : IsName name) :
    IsNormal ⟨r, A ++ [name]⟩ := by
  refine ⟨fun part hpart ↦ ?_, fun C D hCD ↦ ?_⟩
  · rcases List.mem_append.1 hpart with hpart | hpart
    · exact h.eq_up_or_isName part hpart
    · exact Or.inr (List.mem_singleton.1 hpart ▸ hname)
  · rcases List.eq_nil_or_concat' D with rfl | ⟨D, part, rfl⟩
    · exact absurd (List.append_singleton_inj.1 hCD).2 hname.ne_up
    · have hA : A ++ [name] = (C ++ up :: D) ++ [part] := hCD.trans (by simp)
      exact h.up_front C D (List.append_singleton_inj.1 hA).1

theorem append (h : IsNormal ⟨r, A⟩) (hB : ∀ name ∈ B, IsName name) : IsNormal ⟨r, A ++ B⟩ := by
  induction B generalizing A with
  | nil => rwa [List.append_nil]
  | cons name B ih =>
    have hcons := ih (h.concat (hB name List.mem_cons_self))
      fun name hname ↦ hB name (List.mem_cons_of_mem _ hname)
    rwa [List.append_assoc, List.singleton_append] at hcons

theorem of_forall_up (h : ∀ part ∈ A, part = up) : IsNormal ⟨false, A⟩ := by
  refine ⟨fun part hpart ↦ Or.inl (h part hpart), fun C D hCD ↦ ⟨rfl, fun part hpart ↦ ?_⟩⟩
  have hA : A = C ++ up :: D := hCD
  exact h part (hA ▸ List.mem_append_left _ hpart)

/-- What ends a normal path goes on after any number of `..`. -/
theorem of_forall_up_append {U : List Text} (hU : ∀ part ∈ U, part = up)
    (h : IsNormal ⟨r, A ++ B⟩) : IsNormal ⟨false, U ++ B⟩ := by
  refine ⟨fun part hpart ↦ ?_, fun C D hCD ↦ ⟨rfl, ?_⟩⟩
  · rcases List.mem_append.1 hpart with hpart | hpart
    · exact Or.inl (hU part hpart)
    · exact h.eq_up_or_isName part (List.mem_append_right A hpart)
  · rcases List.append_eq_append_iff.1 hCD with ⟨C', rfl, rfl⟩ | ⟨U', rfl, -⟩
    · have hC' := (h.up_front (A ++ C') D (List.append_assoc _ _ _).symm).2
      intro part hpart
      rcases List.mem_append.1 hpart with hpart | hpart
      · exact hU part hpart
      · exact hC' part (List.mem_append_right A hpart)
    · exact fun part hpart ↦ hU part (List.mem_append_left U' hpart)

end IsNormal

/-- **Pushing keeps the stack normal.** -/
theorem isNormal_push {r : Bool} {s : List Text} (h : IsNormal ⟨r, s.reverse⟩) {part : Text}
    (hslash : .char '/' ∉ part) : IsNormal ⟨r, (push r s part).reverse⟩ := by
  by_cases hname : IsName part
  · rw [push_of_isName hname, List.reverse_cons]
    exact h.concat hname
  · obtain rfl | rfl | rfl := eq_of_not_isName hslash hname
    · rwa [push_nil]
    · rwa [push_here]
    · rcases s with - | ⟨last, s⟩
      · cases r with
        | true => exact .nil true
        | false =>
          rw [push_up_of_forall (by simp)]
          exact .of_forall_up (by simp)
      · rw [List.reverse_cons] at h
        by_cases hlast : last = up
        · -- below a `..` there is nothing else
          subst hlast
          obtain ⟨hroot, hs⟩ := h.up_front s.reverse [] rfl
          obtain rfl : r = false := hroot
          have hall : ∀ part ∈ up :: s, part = up := by
            simpa using hs
          rw [push_up_of_forall hall]
          exact .of_forall_up (by simpa [or_imp] using hall)
        · rw [push_up_cons_of_ne hlast]
          exact h.of_append

/-- **Pushing what continues a normal path pops nothing.** -/
theorem foldl_push_of_isNormal {r : Bool} {A B : List Text} (h : IsNormal ⟨r, A ++ B⟩) :
    B.foldl (push r) A.reverse = (A ++ B).reverse := by
  induction B generalizing A with
  | nil => rw [List.append_nil, List.foldl_nil]
  | cons part B ih =>
    have hpush : push r A.reverse part = (A ++ [part]).reverse := by
      rw [List.reverse_append, List.reverse_singleton, List.singleton_append]
      obtain rfl | hname := h.eq_up_or_isName part (by simp)
      · obtain ⟨hroot, hA⟩ := h.up_front A B rfl
        obtain rfl : r = false := hroot
        exact push_up_of_forall (by simpa using hA)
      · exact push_of_isName hname r A.reverse
    have htail := ih (A := A ++ [part]) (by rwa [List.append_assoc, List.singleton_append])
    rw [List.foldl_cons, hpush, htail, List.append_assoc, List.singleton_append]

/-- Names pop nothing, whatever they are pushed on. -/
theorem foldl_push_of_forall_isName {n : List Text} (hn : ∀ name ∈ n, IsName name) (r : Bool)
    (s : List Text) : n.foldl (push r) s = n.reverse ++ s := by
  induction n generalizing s with
  | nil => rfl
  | cons name n ih =>
    rw [List.foldl_cons, push_of_isName (hn name List.mem_cons_self),
      ih fun name' hname' ↦ hn name' (List.mem_cons_of_mem name hname')]
    simp

/-! ### Text and back -/

theorem isAbsolute_append {t : Text} (h : t ≠ []) (u : Text) : isAbsolute (t ++ u) = isAbsolute t := by
  cases t with
  | nil => exact absurd rfl h
  | cons r t => rfl

theorem isAbsolute_eq_false {t : Text} (h : .char '/' ∉ t) : isAbsolute t = false := by
  cases t with
  | nil => rfl
  | cons r t =>
    have hr : r ≠ .char '/' := fun he ↦ h (he ▸ List.mem_cons_self)
    simp [isAbsolute, hr]

theorem splitOn_append_slash (t u : Text) :
    Text.splitOn '/' (t ++ .char '/' :: u) = Text.splitOn '/' t ++ Text.splitOn '/' u := by
  rw [Text.splitOn_eq, Text.splitOn_eq, Text.splitOn_eq, List.splitOn_append_cons_self]

theorem splitOn_eq_singleton {t : Text} (h : .char '/' ∉ t) : Text.splitOn '/' t = [t] := by
  rw [Text.splitOn_eq, List.splitOn_eq_singleton h]

theorem not_mem_of_mem_splitOn {t part : Text} (h : part ∈ Text.splitOn '/' t) :
    .char '/' ∉ part := by
  rw [Text.splitOn_eq] at h
  induction t generalizing part with
  | nil => simp_all
  | cons r t ih =>
    obtain ⟨p, ps, hp⟩ : ∃ p ps, List.splitOn (.char '/') t = p :: ps :=
      List.exists_cons_of_ne_nil (List.splitOn_ne_nil _ _)
    rw [hp] at ih
    rw [List.splitOn_cons_eq_if_modifyHead, hp] at h
    split at h
    · rcases List.mem_cons.1 h with rfl | h
      · exact List.not_mem_nil
      · exact ih h
    · next hr =>
      rw [List.modifyHead_cons, List.mem_cons] at h
      rcases h with rfl | h
      · rw [List.mem_cons, not_or]
        exact ⟨fun he ↦ hr (by simp [he]), ih List.mem_cons_self⟩
      · exact ih (List.mem_cons_of_mem _ h)

theorem splitOn_joinWith {parts : List Text} (h : ∀ part ∈ parts, .char '/' ∉ part)
    (hne : parts ≠ []) : Text.splitOn '/' (Text.joinWith (Text.ofString "/") parts) = parts := by
  induction parts with
  | nil => exact absurd rfl hne
  | cons part parts ih =>
    rcases parts with - | ⟨next, parts⟩
    · rw [Text.joinWith, List.flatMap_nil, List.append_nil,
        splitOn_eq_singleton (h part List.mem_cons_self)]
    · have hjoin : Text.joinWith (Text.ofString "/") (part :: next :: parts) =
          part ++ .char '/' :: Text.joinWith (Text.ofString "/") (next :: parts) := by
        simp [Text.joinWith, Text.ofString]
      rw [hjoin, splitOn_append_slash, splitOn_eq_singleton (h part List.mem_cons_self),
        ih (fun q hq ↦ h q (List.mem_cons_of_mem _ hq)) (List.cons_ne_nil _ _),
        List.singleton_append]

/-- **Cleaning leaves a normal path.** -/
theorem isNormal_ofText (t : Text) : (ofText t).IsNormal := by
  have hfold : ∀ (r : Bool) (parts s : List Text), (∀ part ∈ parts, .char '/' ∉ part) →
      IsNormal ⟨r, s.reverse⟩ → IsNormal ⟨r, (parts.foldl (push r) s).reverse⟩ := by
    intro r parts
    induction parts with
    | nil => exact fun s _ h ↦ h
    | cons part parts ih =>
      intro s hparts h
      exact ih _ (fun q hq ↦ hparts q (List.mem_cons_of_mem _ hq))
        (isNormal_push h (hparts part List.mem_cons_self))
  exact hfold _ _ [] (fun part ↦ not_mem_of_mem_splitOn) (.nil _)

@[simp] theorem isRooted_ofText (t : Text) : (ofText t).isRooted = isAbsolute t := rfl

theorem reverse_parts_ofText (t : Text) :
    (ofText t).parts.reverse = (Text.splitOn '/' t).foldl (push (isAbsolute t)) [] :=
  List.reverse_reverse _

theorem text_ne_nil {p : Path} (h : p.IsNormal) : p.text ≠ [] := by
  obtain ⟨r, parts⟩ := p
  cases r with
  | true => exact List.cons_ne_nil _ _
  | false =>
    cases parts with
    | nil => exact fun h ↦ absurd h (by decide)
    | cons part parts =>
      intro hnil
      exact h.ne_nil List.mem_cons_self (List.append_eq_nil_iff.1 hnil).1

/-- The components of the text of a normal path, an empty path aside. -/
theorem splitOn_text {p : Path} (h : p.IsNormal) (hne : p.parts ≠ []) :
    Text.splitOn '/' p.text = (if p.isRooted then [[]] else []) ++ p.parts := by
  obtain ⟨r, parts⟩ := p
  have hbody := splitOn_joinWith (fun part ↦ h.not_mem_slash) hne
  cases r with
  | true =>
    rw [text, if_pos rfl, if_pos rfl]
    exact (splitOn_append_slash [] _).trans (congrArg ([[]] ++ ·) hbody)
  | false =>
    have hempty : ¬ parts.isEmpty = true := by simpa using hne
    simp only [text, Bool.false_eq_true, if_false, hempty, hbody, List.nil_append]

theorem isAbsolute_text {p : Path} (h : p.IsNormal) : isAbsolute p.text = p.isRooted := by
  obtain ⟨r, parts⟩ := p
  cases r with
  | true => rfl
  | false =>
    cases parts with
    | nil => rfl
    | cons part parts =>
      have hpart : part ∈ (⟨false, part :: parts⟩ : Path).parts := List.mem_cons_self
      exact (isAbsolute_append (h.ne_nil hpart) _).trans (isAbsolute_eq_false (h.not_mem_slash hpart))

/-- What the text of a normal path has besides its components is skipped. -/
theorem foldl_push_splitOn_text {p : Path} (h : p.IsNormal) (r : Bool) (s : List Text) :
    (Text.splitOn '/' p.text).foldl (push r) s = p.parts.foldl (push r) s := by
  by_cases hne : p.parts = []
  · obtain ⟨rooted, parts⟩ := p
    obtain rfl : parts = [] := hne
    cases rooted with
    | true => exact (push_nil r _).trans (push_nil r s)
    | false => exact push_here r s
  · have hskip : (if p.isRooted then [[]] else []).foldl (push r) s = s := by
      cases p.isRooted with
      | true => exact push_nil r s
      | false => rfl
    rw [splitOn_text h hne, List.foldl_append, hskip]

/-- **A normal path is read back from its text.** -/
theorem ofText_text {p : Path} (h : p.IsNormal) : ofText p.text = p := by
  have hparts : (ofText p.text).parts = p.parts := by
    rw [← List.reverse_inj, reverse_parts_ofText, isAbsolute_text h, foldl_push_splitOn_text h]
    exact foldl_push_of_isNormal (r := p.isRooted) (A := []) h
  exact congrArg₂ Path.mk (isAbsolute_text h) hparts

theorem ofText_clean (t : Text) : ofText (clean t) = ofText t :=
  ofText_text (isNormal_ofText t)

/-! ### Paths in which nothing is cancelled -/

/-- Whether a component counts: it is not empty and does not stay where it is. -/
def counts (part : Text) : Bool :=
  part ≠ [] && part ≠ here

theorem IsName.counts {part : Text} (h : IsName part) : counts part = true := by
  simp [Path.counts, h.ne_nil, h.ne_here]

/-- Without `..`, cleaning only leaves out what does not count. -/
theorem parts_ofText_of_up_not_mem {t : Text} (h : up ∉ Text.splitOn '/' t) :
    (ofText t).parts = (Text.splitOn '/' t).filter counts := by
  have hfold : ∀ (r : Bool) (parts s : List Text), up ∉ parts →
      parts.foldl (push r) s = (parts.filter counts).reverse ++ s := by
    intro r parts
    induction parts with
    | nil => exact fun _ _ ↦ rfl
    | cons part parts ih =>
      intro s hup
      rw [List.mem_cons, not_or] at hup
      rw [List.foldl_cons, ih _ hup.2, List.filter_cons]
      by_cases hskip : part = [] ∨ part = here
      · have hcounts : counts part = false := by
          rcases hskip with rfl | rfl <;> rfl
        simp [push, hskip, hcounts]
      · have hcounts : counts part = true := by
          rw [not_or] at hskip
          simp [counts, hskip]
        simp [push, hskip, hcounts, Ne.symm hup.1]
  rw [← List.reverse_inj, reverse_parts_ofText, hfold _ _ _ h, List.append_nil]

/-- The components of a clean path are those that count in its text. -/
theorem filter_counts_splitOn_text {p : Path} (h : p.IsNormal) :
    (Text.splitOn '/' p.text).filter counts = p.parts := by
  have hcounts : ∀ part ∈ p.parts, counts part = true := by
    intro part hpart
    obtain rfl | hname := h.eq_up_or_isName part hpart
    · rfl
    · exact hname.counts
  by_cases hne : p.parts = []
  · obtain ⟨r, parts⟩ := p
    obtain rfl : parts = [] := hne
    cases r <;> rfl
  · rw [splitOn_text h hne, List.filter_append, List.filter_eq_self.2 hcounts]
    cases p.isRooted <;> rfl

/-! ### Joining -/

/-- **Joining goes on from the normal form of the directory.** -/
theorem ofText_join {name : Text} (h : isAbsolute name = false) (dir : Text) :
    ofText (join dir name) = ⟨isAbsolute dir, ((Text.splitOn '/' name).foldl
      (push (isAbsolute dir)) (ofText dir).parts.reverse).reverse⟩ := by
  cases dir with
  | nil =>
    have hname : ofText (join [] name) = ofText name := by
      cases name with
      | nil => rfl
      | cons r name => exact ofText_clean (r :: name)
    rw [hname, ofText, h]
    rfl
  | cons r dir =>
    have hjoin : join (r :: dir) name = clean ((r :: dir) ++ .char '/' :: name) := rfl
    rw [hjoin, ofText_clean, reverse_parts_ofText, ← List.foldl_append, ← splitOn_append_slash]
    rfl

/-- Joining leaves a clean path, unless there is nothing to join. -/
theorem join_eq_text {dir name : Text} (h : dir ≠ [] ∨ name ≠ []) :
    join dir name = (ofText (join dir name)).text := by
  have hclean : ∃ t, join dir name = clean t := by
    rw [join]
    cases dir with
    | nil =>
      cases name with
      | nil => simp at h
      | cons r name => exact ⟨r :: name, rfl⟩
    | cons r dir => exact ⟨_, rfl⟩
  obtain ⟨t, ht⟩ := hclean
  rw [ht, ofText_clean]
  rfl

/-- **A name below a path** extends its normal form. -/
theorem join_of_isName {path name : Text} (hpath : path ≠ []) (hname : IsName name) :
    join path name = text ⟨isAbsolute path, (ofText path).parts ++ [name]⟩ := by
  rw [join_eq_text (Or.inl hpath), ofText_join (isAbsolute_eq_false hname.not_mem_slash),
    splitOn_eq_singleton hname.not_mem_slash, List.foldl_cons, List.foldl_nil,
    push_of_isName hname, List.reverse_cons, List.reverse_reverse]

/-! ### Relative names -/

theorem suffix_push {U s : List Text} (hU : ∀ part ∈ U, part = up) (h : U <:+ s) (r : Bool)
    (part : Text) : U <:+ push r s part := by
  by_cases hskip : part = [] ∨ part = here
  · simpa [push, hskip] using h
  · by_cases hup : part = up
    · subst hup
      rcases s with - | ⟨last, s⟩
      · rw [List.suffix_nil.1 h]
        exact List.nil_suffix
      · by_cases hlast : last = up
        · have hpush : push r (last :: s) up = up :: last :: s := by simp [push, hskip, hlast]
          rw [hpush]
          exact h.trans (List.suffix_cons _ _)
        · rw [push_up_cons_of_ne hlast]
          rcases List.suffix_cons_iff.1 h with rfl | h
          · exact absurd (hU last List.mem_cons_self) hlast
          · exact h
    · have hpush : push r s part = part :: s := by simp [push, hskip, hup]
      rw [hpush]
      exact h.trans (List.suffix_cons _ _)

/-- **Joining takes back no `..` at the front.** -/
theorem prefix_parts_join {U : List Text} (hU : ∀ part ∈ U, part = up) {base name : Text}
    (h : U <+: (ofText base).parts) (hname : isAbsolute name = false) :
    U <+: (ofText (join base name)).parts := by
  have hfold : ∀ (r : Bool) (parts s : List Text), U.reverse <:+ s →
      U.reverse <:+ parts.foldl (push r) s := by
    intro r parts
    induction parts with
    | nil => exact fun s h ↦ h
    | cons part parts ih => exact fun s h ↦ ih _ (suffix_push (by simpa using hU) h r part)
  rw [ofText_join hname, ← List.reverse_suffix, List.reverse_reverse]
  exact hfold _ _ _ (List.reverse_suffix.2 h)

/-- Dropping a common beginning leaves lists that begin differently. -/
theorem exists_dropCommon (as bs : List Text) :
    ∃ common, as = common ++ (dropCommon as bs).1 ∧ bs = common ++ (dropCommon as bs).2 ∧
      ∀ a b, (dropCommon as bs).1.head? = some a → (dropCommon as bs).2.head? = some b → a ≠ b := by
  induction as generalizing bs with
  | nil => exact ⟨[], by simp [dropCommon]⟩
  | cons a as ih =>
    rcases bs with - | ⟨b, bs⟩
    · exact ⟨[], by simp [dropCommon]⟩
    · rw [dropCommon]
      split
      · next hab =>
        obtain ⟨common, has, hbs, hne⟩ := ih bs
        subst hab
        exact ⟨a :: common, by rw [List.cons_append, ← has], by rw [List.cons_append, ← hbs], hne⟩
      · next hab =>
        refine ⟨[], rfl, rfl, ?_⟩
        rintro x y hx hy
        rwa [← Option.some.inj hx, ← Option.some.inj hy]

theorem foldl_push_replicate_up (r : Bool) {t : List Text} (h : ∀ part ∈ t, part ≠ up)
    (s : List Text) : (List.replicate t.length up).foldl (push r) (t ++ s) = s := by
  induction t with
  | nil => rfl
  | cons part t ih =>
    rw [List.length_cons, List.replicate_succ, List.foldl_cons, List.cons_append,
      push_up_cons_of_ne (h part List.mem_cons_self),
      ih fun q hq ↦ h q (List.mem_cons_of_mem _ hq)]

/-- **Names relative to a base directory.** A path that keeps the `..` at the front of the base
directory has a name relative to it, and joined to the base directory the name is the path again. -/
theorem exists_relative?_join {base : Text} {p : Path} (hp : p.IsNormal)
    (hroot : p.isRooted = isAbsolute base)
    (hups : ∀ U : List Text, (∀ part ∈ U, part = up) → U <+: (ofText base).parts → U <+: p.parts) :
    ∃ name, relative? base p.text = some name ∧ isAbsolute name = false ∧
      join base name = p.text := by
  obtain ⟨r, parts⟩ := p
  obtain rfl : r = isAbsolute base := hroot
  obtain ⟨common, hbase, hparts, hne⟩ := exists_dropCommon (ofText base).parts parts
  rcases hdrop : dropCommon (ofText base).parts parts with ⟨above, below⟩
  rw [hdrop] at hbase hparts hne
  have hbaseNormal := isNormal_ofText base
  -- a `..` left of the base directory would stand in the path, too, and would have been dropped
  have habove : up ∉ above := by
    intro hmem
    obtain ⟨A, B, rfl⟩ := List.append_of_mem hmem
    obtain ⟨-, hA⟩ := hbaseNormal.up_front (common ++ A) B (by rw [hbase]; simp)
    have hprefix : common ++ (A ++ [up]) <+: common ++ below := by
      have h := hups (common ++ A ++ [up]) (by simpa [or_imp, forall_and] using hA)
        ⟨B, by rw [hbase]; simp⟩
      rwa [hparts, List.append_assoc] at h
    obtain ⟨C, hC⟩ := (List.prefix_append_right_inj common).1 hprefix
    have hhead : ∀ a, (A ++ up :: B).head? = some a → below.head? = some a := by
      rw [← hC]
      cases A <;> simp
    obtain ⟨a, ha⟩ : ∃ a, (A ++ up :: B).head? = some a := by
      cases A <;> simp
    exact hne a a ha (hhead a ha) rfl
  have hname : IsNormal ⟨false, above.map (fun _ ↦ up) ++ below⟩ :=
    .of_forall_up_append (by simp) (hparts ▸ hp)
  refine ⟨text ⟨false, above.map (fun _ ↦ up) ++ below⟩, ?_, isAbsolute_text hname, ?_⟩
  · have hhead : above.head? ≠ some up := fun h ↦ habove (List.mem_of_head? h)
    rw [relative?, ofText_text hp]
    simp only [isRooted_ofText, ne_eq, not_true_eq_false, if_false, hdrop, hhead]
  · have hups : above.map (fun _ ↦ up) = List.replicate above.reverse.length up := by simp
    rw [join_eq_text (Or.inr (text_ne_nil hname)), ofText_join (isAbsolute_text hname),
      foldl_push_splitOn_text hname, List.foldl_append, hups, hbase, List.reverse_append,
      foldl_push_replicate_up _ (fun part hpart he ↦ habove (he ▸ List.mem_reverse.1 hpart)),
      foldl_push_of_isNormal (hparts ▸ hp), List.reverse_reverse, ← hparts]

end Path

end StructuralLint
