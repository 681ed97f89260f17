import FlexForm.Proofs.Json.Null
import FlexForm.Proofs.Render.Finite

/-! # What a rendering comes to

A rendering that fails names a problem, and one with a message names none. Between the two lies one
case: a text that holds null is read without a fault, and null counts as no message.

* `OfKind.render`: a message is of the kind of the value that the produced text holds.
* `Rendering.IsSilent`: neither a message nor a problem.
* `GivesNull`: a text of null is what is read as a message.
* `isSilent_render_iff`: renderings are silent for texts of null, and for no others.
-/

namespace FlexForm.Render
set_option autoImplicit false

open Json Overlay

/-! ## Failures -/

theorem problems_of_produce {mode : Mode} {text : String} {data : Json} {rendering : Rendering}
    (h : produce mode text data = .error rendering) : rendering.problems ≠ [] := by
  cases mode with
  | grammar =>
    unfold produce byGrammar at h
    simp only at h
    split at h
    next refusal _ =>
      cases h
      cases refusal <;> exact List.cons_ne_nil _ _
    next =>
      unfold Except.mapError at h
      split at h <;> cases h
      exact List.cons_ne_nil _ _
  | legacy =>
    unfold produce byPlaceholders at h
    simp only at h
    split at h
    next =>
      cases h
      exact List.cons_ne_nil _ _
    next problems hfill =>
      cases h
      unfold Placeholder.fill at hfill
      obtain ⟨⟨_, unresolved⟩, -, hfill⟩ := exists_of_bind_ok hfill
      simp only [pure, Except.pure, Except.ok.injEq] at hfill
      split at hfill <;> cases hfill
      next hne => exact fun hnil => hne (List.isEmpty_iff.2 hnil)
    next => cases h
  | raw => cases h

/-! ## Kinds of values -/

/-- A property that all lists share, and all objects. -/
structure OfKind (p : Json → Bool) : Prop where
  arr : ∀ items more, p (.arr items) = p (.arr more)
  obj : ∀ fields more, p (.obj fields) = p (.obj more)

theorem ofKind_isNull : OfKind isNull := ⟨fun _ _ => rfl, fun _ _ => rfl⟩

theorem ofKind_isObject : OfKind isObject := ⟨fun _ _ => rfl, fun _ _ => rfl⟩

section
variable {p : Json → Bool}

theorem OfKind.expandWith (hp : OfKind p) {inner : Json → Except TooDeep Json}
    (hinner : ∀ {v w : Json}, inner v = .ok w → p w = p v) {v w : Json}
    (h : Overlay.expandWith inner v = .ok w) : p w = p v := by
  cases v with
  | arr items =>
    obtain ⟨more, -, rfl⟩ := expandWith_arr_eq_ok_iff.1 h
    exact hp.arr more items
  | obj fields =>
    obtain ⟨patch, -, h⟩ | ⟨-, more, -, rfl⟩ := expandWith_obj_eq_ok_iff.1 h
    · exact (hinner h).trans (hp.obj _ _)
    · exact hp.obj more fields
  | null | bool | int | float | str =>
    cases h
    rfl

theorem OfKind.expand (hp : OfKind p) {limit : ℤ} {v w : Json}
    (h : Overlay.expand limit v = .ok w) : p w = p v := by
  unfold Overlay.expand at h
  generalize limit.toNat = levels at h
  induction levels generalizing v w with
  | zero => exact hp.expandWith (fun h => by cases h) h
  | succ levels ih => exact hp.expandWith ih h

theorem OfKind.finish (hp : OfKind p) (message patch : Json) :
    p (Overlay.finish message patch) = p message := by
  unfold Overlay.finish
  split
  next => rw [merge]; exact hp.obj _ _
  next => rfl

/-- A message is of the kind of the value that the produced text holds. -/
theorem OfKind.render (hp : OfKind p) {limit : ℤ} {mode : Option Mode} {text : String}
    {data message : Json} (h : (Render.render limit mode text data).message = some message) :
    ∃ out v, produce (mode.getD (.detect text)) text (dataUsed data) = .ok out ∧
      Json.read false out = .ok v ∧ p message = p v := by
  obtain ⟨out, hproduce, h⟩ := render_message h
  obtain ⟨v, w, hread, hexpand, rfl⟩ := complete_message h
  exact ⟨out, v, hproduce, hread, (hp.finish w _).trans (hp.expand hexpand)⟩

end

/-! ## Silent renderings -/

/-- There is neither a message nor a problem. -/
def Rendering.IsSilent (r : Rendering) : Prop := r.message = none ∧ r.problems = []

section
variable {limit : ℤ} {data : Json} {text : String}

theorem isSilent_complete_iff :
    (complete limit data text).IsSilent ↔ IsNullText text.toList := by
  rw [← @readChars_eq_null_iff false]
  unfold complete Json.read Rendering.IsSilent
  cases hread : readChars false text.toList with
  | error fault => simp [failed]
  | ok v =>
    cases hexpand : expand limit v with
    | error fault =>
      -- Null has no markers, so it is not what failed to expand.
      have hv : v ≠ .null := by
        rintro rfl
        rw [expand_of_lacksKey limit rfl] at hexpand
        cases hexpand
      simp [failed, hexpand, hv]
    | ok w =>
      have hnull : (finish w ((overlayOf data).getD .null)).isNull = v.isNull :=
        (ofKind_isNull.finish _ _).trans (ofKind_isNull.expand hexpand)
      simp only [hexpand, at?_overlayPath, hnull, Except.ok.injEq]
      cases v <;> simp [Json.isNull]

theorem complete_of_message {message : Json}
    (h : (complete limit data text).message = some message) :
    (complete limit data text).problems = [] ∧ message.isNull = false := by
  obtain ⟨v, w, hread, hexpand, rfl⟩ := complete_message h
  unfold complete at h ⊢
  simp only [hread, hexpand, at?_overlayPath] at h ⊢
  split at h
  next => cases h
  next hnull => exact ⟨trivial, Bool.eq_false_iff.2 hnull⟩

end

/-- The text is not blank, and what the mode makes of it for the form data is a text of null. -/
def GivesNull (mode : Option Mode) (text : String) (data : Json) : Prop :=
  Text.isAllBlank text = false ∧ ∃ out,
    produce (mode.getD (.detect text)) text (dataUsed data) = .ok out ∧ IsNullText out.toList

section
variable {limit : ℤ} {mode : Option Mode} {text : String} {data : Json}

theorem render_of_not_blank (h : Text.isAllBlank text = false) :
    render limit mode text data =
      match produce (mode.getD (.detect text)) text (dataUsed data) with
      | .error rendering => rendering
      | .ok out => complete limit (dataUsed data) out := by
  unfold render
  rw [h]
  rfl

/-- A rendering is silent exactly if what is read as a message is a text of null. -/
theorem isSilent_render_iff :
    (render limit mode text data).IsSilent ↔ GivesNull mode text data := by
  unfold GivesNull
  cases hblank : Text.isAllBlank text with
  | true =>
    unfold render
    rw [hblank]
    simp [failed, Rendering.IsSilent]
  | false =>
    rw [render_of_not_blank hblank]
    cases hproduce : produce (mode.getD (.detect text)) text (dataUsed data) with
    | error rendering => simp [Rendering.IsSilent, problems_of_produce hproduce]
    | ok out => simp [isSilent_complete_iff]

theorem render_of_message {message : Json}
    (h : (render limit mode text data).message = some message) :
    (render limit mode text data).problems = [] ∧ message.isNull = false := by
  cases hblank : Text.isAllBlank text with
  | true =>
    unfold render at h
    rw [hblank] at h
    cases h
  | false =>
    obtain ⟨out, hproduce, hmessage⟩ := render_message h
    rw [render_of_not_blank hblank, hproduce]
    exact complete_of_message hmessage

end

end FlexForm.Render
