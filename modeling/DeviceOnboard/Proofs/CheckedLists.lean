import Mathlib.Data.List.Forall2

/-!
# Lists that are checked item by item

A list is checked from its front. Either each of its items has a result, and then the results stand
in the order of the items, or the first item without one ends the check with its error, whatever
comes after it.
-/
namespace DeviceOnboard.Config

variable {α β ε : Type} {f : α → Except ε β} {l : List α}

theorem map_error {x : Except ε α} {f : α → β} {e : ε} (h : x.map f = .error e) : x = .error e := by
  cases x with
  | error e' =>
    cases h
    rfl
  | ok a => cases h

theorem map_ok_iff {x : Except ε α} {f : α → β} {b : β} :
    x.map f = .ok b ↔ ∃ a, x = .ok a ∧ f a = b := by
  cases x <;> simp [Except.map]

/-- A list that is read has each of its elements read in its place. -/
theorem mapM_ok_iff {l' : List β} :
    l.mapM f = .ok l' ↔ List.Forall₂ (fun a b => f a = .ok b) l l' := by
  induction l generalizing l' with
  | nil => cases l' <;> simp [pure, Except.pure]
  | cons a l ih =>
    rw [List.mapM_cons, List.forall₂_cons_left_iff]
    simp only [← ih]
    cases f a <;> cases l.mapM f <;> simp [bind, Except.bind, pure, Except.pure, eq_comm]

/-- Checks of a list pass if all of them do. -/
theorem exists_mapM_ok_iff : (∃ bs, l.mapM f = .ok bs) ↔ ∀ a ∈ l, ∃ b, f a = .ok b := by
  induction l with
  | nil => simp [pure, Except.pure]
  | cons a l ih =>
    rw [List.mapM_cons, List.forall_mem_cons, ← ih]
    cases f a <;> cases l.mapM f <;> simp [bind, Except.bind, pure, Except.pure]

/-- The first element that is refused ends the check. -/
theorem mapM_of_refused {front back : List α} {a : α} {e : ε}
    (before : ∀ x ∈ front, ∃ b, f x = .ok b) (refused : f a = .error e) :
    (front ++ a :: back).mapM f = .error e := by
  induction front with
  | nil =>
    rw [List.nil_append, List.mapM_cons, refused]
    rfl
  | cons x front ih =>
    obtain ⟨⟨b, read⟩, later⟩ := List.forall_mem_cons.mp before
    rw [List.cons_append, List.mapM_cons, read, ih later]
    rfl

/-- A list is refused with the error of the first of its elements that is refused. -/
theorem mapM_error_iff {e : ε} : l.mapM f = .error e ↔ ∃ front a back,
    l = front ++ a :: back ∧ (∀ x ∈ front, ∃ b, f x = .ok b) ∧ f a = .error e := by
  constructor
  · intro h
    induction l with
    | nil => cases h
    | cons a l ih =>
      cases first : f a with
      | error e' =>
        rw [List.mapM_cons, first] at h
        cases h
        exact ⟨[], a, l, rfl, by simp, first⟩
      | ok b =>
        have rest : l.mapM f = .error e := by
          rw [List.mapM_cons, first] at h
          exact map_error (f := (b :: ·)) h
        obtain ⟨front, a', back, rfl, before, refused⟩ := ih rest
        exact ⟨a :: front, a', back, rfl, List.forall_mem_cons.mpr ⟨⟨b, first⟩, before⟩, refused⟩
  · rintro ⟨front, a, back, rfl, before, refused⟩
    exact mapM_of_refused before refused

/-- A list that is refused has an element that is refused with the same error. -/
theorem mapM_error {e : ε} (h : l.mapM f = .error e) : ∃ a ∈ l, f a = .error e := by
  obtain ⟨front, a, back, rfl, -, refused⟩ := mapM_error_iff.mp h
  exact ⟨a, by simp, refused⟩

/-- What the check of a list comes to, where `Item` tells what the check of one item comes to: all
results in the order of the items, or the error of the first item that has one. -/
inductive Collects (Item : α → Except ε β → Prop) : List α → Except ε (List β) → Prop where
  | all {l : List α} {l' : List β} (each : List.Forall₂ (fun a b => Item a (.ok b)) l l') :
      Collects Item l (.ok l')
  | first {front back : List α} {a : α} {e : ε} (before : ∀ x ∈ front, ∃ b, Item x (.ok b))
      (refused : Item a (.error e)) : Collects Item (front ++ a :: back) (.error e)

/-- Nothing is refused of an empty list. -/
theorem Collects.ne_nil {Item : α → Except ε β → Prop} {e : ε}
    (refused : Collects Item l (.error e)) : l ≠ [] := by
  cases refused with
  | first => exact List.append_ne_nil_of_right_ne_nil _ (List.cons_ne_nil _ _)

theorem Collects.exists_refused {Item : α → Except ε β → Prop} {e : ε}
    (refused : Collects Item l (.error e)) : ∃ a ∈ l, Item a (.error e) := by
  cases refused with
  | first before refused => exact ⟨_, by simp, refused⟩

theorem Collects.forall₂ {Item : α → Except ε β → Prop} {l' : List β}
    (read : Collects Item l (.ok l')) : List.Forall₂ (fun a b => Item a (.ok b)) l l' := by
  cases read with
  | all each => exact each

theorem mapM_eq_iff {Item : α → Except ε β → Prop} (item : ∀ a r, f a = r ↔ Item a r)
    {r : Except ε (List β)} : l.mapM f = r ↔ Collects Item l r := by
  cases r with
  | ok l' =>
    simp only [mapM_ok_iff, item]
    exact ⟨.all, Collects.forall₂⟩
  | error e =>
    simp only [mapM_error_iff, item]
    constructor
    · rintro ⟨front, a, back, rfl, before, refused⟩
      exact .first before refused
    · intro h
      cases h with
      | first before refused => exact ⟨_, _, _, rfl, before, refused⟩

end DeviceOnboard.Config
