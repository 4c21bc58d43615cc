import Mathlib.Data.List.FinRange

/-!
# Elements in context

A check that walks along a list and remembers something of what it has passed is a function of one
element, what stands before it and what stands after it. `contexts` lists these views, one per
element, and `mem_contexts_iff` says that they are the decompositions of the list: the position of an
element is the length of what stands before it, so no proof needs indices.

`contexts_append` cuts a list in two and `contexts_map` changes its elements; both leave the views in
order, which is what statements about the order of findings rest on. For a statement that does speak
of positions, `contexts_eq_map_finRange` lists the views by position.
-/

namespace StructuralLint

/-- One element of a list, with its surroundings. -/
structure Context (α : Type) where
  /-- What stands before it. -/
  before : List α
  /-- The element itself. -/
  here : α
  /-- What stands after it. -/
  after : List α

namespace Context

variable {α β : Type}

/-- The view of an element when all elements are changed. -/
def map (f : α → β) (x : Context α) : Context β :=
  ⟨x.before.map f, f x.here, x.after.map f⟩

/-- The view of an element when more stands in front. -/
def precededBy (A : List α) (x : Context α) : Context α :=
  ⟨A ++ x.before, x.here, x.after⟩

/-- The view of an element when more stands at the end. -/
def followedBy (B : List α) (x : Context α) : Context α :=
  ⟨x.before, x.here, x.after ++ B⟩

@[simp] theorem before_map (f : α → β) (x : Context α) : (x.map f).before = x.before.map f := rfl

@[simp] theorem here_map (f : α → β) (x : Context α) : (x.map f).here = f x.here := rfl

@[simp] theorem after_map (f : α → β) (x : Context α) : (x.map f).after = x.after.map f := rfl

@[simp] theorem before_precededBy (A : List α) (x : Context α) :
    (x.precededBy A).before = A ++ x.before := rfl

@[simp] theorem here_precededBy (A : List α) (x : Context α) : (x.precededBy A).here = x.here := rfl

@[simp] theorem after_precededBy (A : List α) (x : Context α) :
    (x.precededBy A).after = x.after := rfl

@[simp] theorem before_followedBy (B : List α) (x : Context α) :
    (x.followedBy B).before = x.before := rfl

@[simp] theorem here_followedBy (B : List α) (x : Context α) : (x.followedBy B).here = x.here := rfl

@[simp] theorem after_followedBy (B : List α) (x : Context α) :
    (x.followedBy B).after = x.after ++ B := rfl

end Context

variable {α β : Type}

/-- The elements of a list in their context, when `before` stands in front of the list. -/
def contextsFrom (before : List α) : List α → List (Context α)
  | [] => []
  | a :: after => ⟨before, a, after⟩ :: contextsFrom (before ++ [a]) after

/-- The elements of a list in their context. -/
def contexts (l : List α) : List (Context α) :=
  contextsFrom [] l

theorem contextsFrom_eq_map (before l : List α) :
    contextsFrom before l = (contexts l).map (Context.precededBy before) := by
  have key : ∀ A B : List α,
      contextsFrom (A ++ B) l = (contextsFrom B l).map (Context.precededBy A) := by
    induction l with
    | nil => exact fun _ _ ↦ rfl
    | cons a l ih =>
      intro A B
      rw [contextsFrom, contextsFrom, List.append_assoc, ih A (B ++ [a])]
      rfl
  rw [contexts, ← key, List.append_nil]

theorem contexts_cons (a : α) (l : List α) :
    contexts (a :: l) = ⟨[], a, l⟩ :: (contexts l).map (Context.precededBy [a]) := by
  rw [contexts, contextsFrom, List.nil_append, contextsFrom_eq_map]

theorem map_here_contexts (l : List α) : (contexts l).map Context.here = l := by
  induction l with
  | nil => rfl
  | cons a l ih =>
    rw [contexts_cons, List.map_cons, List.map_map]
    exact congrArg (a :: ·) ih

/-- **The contexts are the decompositions of the list.** -/
theorem mem_contexts_iff {l : List α} {x : Context α} :
    x ∈ contexts l ↔ l = x.before ++ x.here :: x.after := by
  obtain ⟨before, here, after⟩ := x
  induction l generalizing before with
  | nil => simp [contexts, contextsFrom]
  | cons a l ih =>
    rw [contexts_cons, List.mem_cons, List.mem_map]
    constructor
    · rintro (h | ⟨⟨b, h, s⟩, hmem, heq⟩)
      · obtain ⟨rfl, rfl, rfl⟩ := Context.mk.inj h
        rfl
      · obtain ⟨rfl, rfl, rfl⟩ := Context.mk.inj heq
        simpa using (ih b).1 hmem
    · intro h
      rcases before with - | ⟨b, before⟩
      · obtain ⟨rfl, rfl⟩ := List.cons.inj h
        exact Or.inl rfl
      · obtain ⟨rfl, hl⟩ := List.cons.inj h
        exact Or.inr ⟨⟨before, here, after⟩, (ih before).2 hl, rfl⟩

theorem here_mem_of_mem_contexts {l : List α} {x : Context α} (h : x ∈ contexts l) : x.here ∈ l := by
  rw [mem_contexts_iff.1 h]
  exact List.mem_append_right _ List.mem_cons_self

theorem forall_mem_contexts_iff {l : List α} {p : Context α → Prop} :
    (∀ x ∈ contexts l, p x) ↔
      ∀ before here after, l = before ++ here :: after → p ⟨before, here, after⟩ :=
  ⟨fun h _ _ _ hl ↦ h _ (mem_contexts_iff.2 hl), fun h _ hx ↦ h _ _ _ (mem_contexts_iff.1 hx)⟩

/-- The element at a position is the one with that many elements before it. -/
theorem getElem?_eq_some_iff_append {l : List α} {i : ℕ} {a : α} :
    l[i]? = some a ↔ ∃ before after, l = before ++ a :: after ∧ before.length = i := by
  constructor
  · intro h
    obtain ⟨hi, rfl⟩ := List.getElem?_eq_some_iff.1 h
    refine ⟨l.take i, l.drop (i + 1), ?_, List.length_take_of_le (Nat.le_of_lt hi)⟩
    rw [← List.drop_eq_getElem_cons hi, List.take_append_drop]
  · rintro ⟨before, after, rfl, rfl⟩
    rw [List.getElem?_append_right (Nat.le_refl _), Nat.sub_self, List.getElem?_cons_zero]

theorem contexts_append (A B : List α) :
    contexts (A ++ B) =
      (contexts A).map (Context.followedBy B) ++ (contexts B).map (Context.precededBy A) := by
  induction A with
  | nil =>
    have hid : Context.precededBy ([] : List α) = id := rfl
    rw [hid, List.map_id]
    rfl
  | cons a A ih =>
    rw [List.cons_append, contexts_cons, contexts_cons, ih, List.map_append, List.map_map,
      List.map_map, List.map_cons, List.map_map, List.cons_append]
    rfl

theorem contexts_append_cons (A : List α) (a : α) (B : List α) :
    contexts (A ++ a :: B) =
      (contexts A).map (Context.followedBy (a :: B)) ++
        ⟨A, a, B⟩ :: (contexts B).map (Context.precededBy (A ++ [a])) := by
  have hcomp : Context.precededBy A ∘ Context.precededBy [a] = Context.precededBy (A ++ [a]) := by
    funext x
    simp [Context.precededBy]
  have hhead : Context.precededBy A ⟨[], a, B⟩ = ⟨A, a, B⟩ := by
    simp [Context.precededBy]
  rw [contexts_append, contexts_cons, List.map_cons, List.map_map, hcomp, hhead]

theorem contexts_map (f : α → β) (l : List α) :
    contexts (l.map f) = (contexts l).map (Context.map f) := by
  induction l with
  | nil => rfl
  | cons a l ih =>
    rw [List.map_cons, contexts_cons, contexts_cons, ih, List.map_cons, List.map_map, List.map_map]
    rfl

/-- The contexts by position. -/
theorem contexts_eq_map_finRange (l : List α) :
    contexts l = (List.finRange l.length).map fun i ↦ ⟨l.take i, l[i], l.drop (i + 1)⟩ := by
  induction l with
  | nil => rfl
  | cons a l ih =>
    have hpositions : List.finRange (a :: l).length = 0 :: (List.finRange l.length).map Fin.succ :=
      List.finRange_succ
    rw [contexts_cons, ih, hpositions, List.map_cons, List.map_map, List.map_map]
    rfl

end StructuralLint
