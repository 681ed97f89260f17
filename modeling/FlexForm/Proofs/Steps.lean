import Mathlib.Data.List.Forall2

/-! # Results of several steps

A computation in steps has a result exactly if each step has one, and a fault if some step has it
behind the results of the steps before.

* `exists_of_bind_ok`, `bind_eq_error_iff`, `isOk_iff_exists`: two steps, and whether they end well.
* `exists_of_forall₂`, `forall₂_of_mapM_ok`, `mapM_ok_of_forall₂`, `exists_of_mapM_error`: a step
  for each member of a list.
-/

namespace FlexForm
set_option autoImplicit false

variable {ε α β : Type} {x : Except ε α} {f : α → Except ε β} {b : β} {e : ε}

/-! ## Two steps -/

/-- A result in two steps has a result of the first step behind it. -/
theorem exists_of_bind_ok (h : x >>= f = .ok b) : ∃ a, x = .ok a ∧ f a = .ok b := by
  cases x with
  | error e => cases h
  | ok a => exact ⟨a, rfl, h⟩

/-- A fault of two steps is one of the first step, or of the second behind a result of the first. -/
theorem bind_eq_error_iff :
    x >>= f = .error e ↔ x = .error e ∨ ∃ a, x = .ok a ∧ f a = .error e := by
  cases x with
  | error e' => simp [bind, Except.bind]
  | ok a => simp [bind, Except.bind]

theorem isOk_iff_exists : x.isOk = true ↔ ∃ a, x = .ok a := by
  cases x with
  | error e => exact ⟨fun h => (by cases h), by rintro ⟨_, ⟨⟩⟩⟩
  | ok a => exact ⟨fun _ => ⟨a, rfl⟩, fun _ => rfl⟩

theorem exists_of_isOk_bind (h : (x >>= f).isOk = true) : ∃ a, x = .ok a ∧ (f a).isOk = true := by
  cases x with
  | error e => cases h
  | ok a => exact ⟨a, rfl, h⟩

theorem isOk_of_bind (h : (x >>= f).isOk = true) : x.isOk = true := by
  cases x with
  | error e => cases h
  | ok a => rfl

/-! ## A step for each member -/

variable {as : List α} {bs : List β}

/-- Each member of the one list has a partner in the other one. -/
theorem exists_of_forall₂ {R : α → β → Prop} {a : α} (h : List.Forall₂ R as bs) (ha : a ∈ as) :
    ∃ b ∈ bs, R a b := by
  induction h with
  | nil => cases ha
  | cons hab _ ih =>
    rcases List.mem_cons.1 ha with rfl | ha
    · exact ⟨_, List.mem_cons_self, hab⟩
    · obtain ⟨b, hb, h⟩ := ih ha
      exact ⟨b, List.mem_cons_of_mem _ hb, h⟩

theorem forall₂_of_mapM_ok (h : as.mapM f = .ok bs) :
    List.Forall₂ (fun a b => f a = .ok b) as bs := by
  induction as generalizing bs with
  | nil =>
    cases h
    exact .nil
  | cons a rest ih =>
    rw [List.mapM_cons] at h
    obtain ⟨b, ha, h⟩ := exists_of_bind_ok h
    obtain ⟨others, hrest, h⟩ := exists_of_bind_ok h
    cases h
    exact .cons ha (ih hrest)

theorem mapM_ok_of_forall₂ (h : List.Forall₂ (fun a b => f a = .ok b) as bs) :
    as.mapM f = .ok bs := by
  induction h with
  | nil => rfl
  | cons hab _ ih =>
    rw [List.mapM_cons, hab, ih]
    rfl

theorem exists_of_mapM_ok {a : α} (h : as.mapM f = .ok bs) (ha : a ∈ as) : ∃ b, f a = .ok b := by
  obtain ⟨b, -, hab⟩ := exists_of_forall₂ (forall₂_of_mapM_ok h) ha
  exact ⟨b, hab⟩

theorem mem_of_mapM_ok (h : as.mapM f = .ok bs) : b ∈ bs ↔ ∃ a ∈ as, f a = .ok b := by
  have hforall := forall₂_of_mapM_ok h
  clear h
  induction hforall with
  | nil => simp
  | cons hab _ ih =>
    have hhead (c : β) : b = c ↔ (Except.ok c : Except ε β) = .ok b := by simp [eq_comm]
    simp [ih, hab, hhead]

theorem isOk_of_mapM (h : (as.mapM f).isOk = true) : ∀ a ∈ as, (f a).isOk = true := by
  intro a ha
  cases hall : as.mapM f with
  | error e =>
    rw [hall] at h
    cases h
  | ok bs =>
    obtain ⟨b, hb⟩ := exists_of_mapM_ok hall ha
    rw [hb]
    rfl

theorem exists_of_mapM_error (h : as.mapM f = .error e) : ∃ a ∈ as, f a = .error e := by
  induction as with
  | nil => cases h
  | cons a rest ih =>
    rw [List.mapM_cons] at h
    rcases bind_eq_error_iff.1 h with h | ⟨b, -, h⟩
    · exact ⟨a, List.mem_cons_self, h⟩
    · rcases bind_eq_error_iff.1 h with h | ⟨bs, -, h⟩
      · obtain ⟨c, hc, h⟩ := ih h
        exact ⟨c, List.mem_cons_of_mem a hc, h⟩
      · cases h

end FlexForm
