import FlexForm.Proofs.Compile.Outcome

/-! # Upgrading a template

Two ways lead from a template to the text and the form it is compiled with: it is routed whenever it
is compiled, or it is upgraded once and kept. An upgraded template is in grammar mode and so is
never routed again, although its name still tells the family.

* `Compiled.outcome`: the message and the problems.
* `Template.resolve_upgrade`, `Template.resolve_of_family`: what upgraded and routed templates are
  compiled with.
* `Template.compileBy_upgrade`: both ways come to the same message and problems.
-/

namespace FlexForm
set_option autoImplicit false

/-- The message and the problems, whatever the family. -/
def Compiled.outcome (c : Compiled) : Option Json × List Problem := (c.message, c.problems)

namespace Template

variable {t u : Template} {family : Template} {kind : Kind}

/-! ## Routing and upgrading -/

theorem mode_of_ofKind? (h : ofKind? kind = some family) : family.mode = .grammar := by
  cases kind with
  | carousel =>
    cases h
    rfl
  | single =>
    cases h
    rfl
  | custom => cases h

theorem classify_ne_custom (h : ofKind? t.classify = some family) : t.classify ≠ .custom := by
  intro hcustom
  rw [hcustom] at h
  cases h

/-- A template of a family is compiled as the family's own template, but for the kind. -/
theorem resolve_of_family (hmode : t.mode ≠ .grammar) (h : ofKind? t.classify = some family) :
    t.resolve = { family.resolve with kind := t.classify } := by
  rw [resolve_of_grammar (mode_of_ofKind? h)]
  simp [resolve, hmode, h]

theorem resolve_of_own (h : t.mode = .grammar ∨ ofKind? t.classify = none) :
    t.resolve = ⟨t.text, t.schema, .custom, t.mode⟩ := by
  rcases h with hmode | hkind
  · rw [resolve_of_grammar hmode, hmode]
  · simp [resolve, hkind]

theorem upgrade_of_own (h : t.mode = .grammar ∨ ofKind? t.classify = none) : t.upgrade = t := by
  simp [upgrade, resolve_of_own h]

theorem upgrade_of_family (hmode : t.mode ≠ .grammar) (h : ofKind? t.classify = some family) :
    t.upgrade = { t with text := family.text, schema := family.schema, mode := .grammar } := by
  have hcustom := classify_ne_custom h
  rw [upgrade, resolve_of_family hmode h, resolve_of_grammar (mode_of_ofKind? h)]
  cases hkind : t.classify with
  | carousel => rfl
  | single => rfl
  | custom => exact absurd hkind hcustom

theorem own_or_family (t : Template) : (t.mode = .grammar ∨ ofKind? t.classify = none) ∨
    t.mode ≠ .grammar ∧ ∃ family, ofKind? t.classify = some family := by
  by_cases hmode : t.mode = .grammar
  · exact .inl (.inl hmode)
  · cases h : ofKind? t.classify with
    | none => exact .inl (.inr rfl)
    | some family => exact .inr ⟨hmode, family, rfl⟩

/-- An upgraded template is compiled with the same text, form and mode as before. -/
theorem resolve_upgrade (t : Template) : t.upgrade.resolve = { t.resolve with kind := .custom } := by
  rcases own_or_family t with hown | ⟨hmode, family, h⟩
  · rw [upgrade_of_own hown, resolve_of_own hown]
  · rw [upgrade_of_family hmode h, resolve_of_family hmode h,
      resolve_of_grammar (mode_of_ofKind? h)]
    exact resolve_of_grammar rfl

theorem upgrade_upgrade (t : Template) : t.upgrade.upgrade = t.upgrade := by
  rcases own_or_family t with hown | ⟨hmode, family, h⟩
  · rw [upgrade_of_own hown, upgrade_of_own hown]
  · rw [upgrade_of_family hmode h]
    exact upgrade_of_own (.inl rfl)

theorem upgrade_eq (t : Template) : t.upgrade =
    { t with text := t.upgrade.text, schema := t.upgrade.schema, mode := t.upgrade.mode } := by
  rcases own_or_family t with hown | ⟨hmode, family, h⟩
  · rw [upgrade_of_own hown]
  · rw [upgrade_of_family hmode h]

/-! ## Compiling -/

/-- The kind has no part in the message and the problems. -/
theorem outcome_compileBy_congr (h : u.resolve = { t.resolve with kind := kind })
    (render : Renderer) (data : Json) :
    (u.compileBy render data).map Compiled.outcome =
      (t.compileBy render data).map Compiled.outcome := by
  rw [compileBy_eq, compileBy_eq, rendering, rendering, h]
  cases t.resolve.schema.check (formData data) with
  | error fault => rfl
  | ok problems => rfl

/-- An upgraded template compiles to the same message and problems as before, or stops at the same
fault; upgrading it again changes nothing, and what describes it is kept. Templates of a family that
are not in grammar mode compile as that of the catalog, whatever their text and form are. -/
theorem compileBy_upgrade (t : Template) (render : Renderer) (data : Json) :
    (t.upgrade.compileBy render data).map Compiled.outcome =
      (t.compileBy render data).map Compiled.outcome ∧
    t.upgrade.upgrade = t.upgrade ∧
    (t.upgrade.id = t.id ∧ t.upgrade.name = t.name ∧ t.upgrade.description = t.description ∧
      t.upgrade.status = t.status ∧ t.upgrade.version = t.version ∧
      t.upgrade.sample = t.sample) ∧
    (t.mode ≠ .grammar →
      (t.classify = .carousel → (t.compileBy render data).map Compiled.outcome =
        (Catalog.carousel.compileBy render data).map Compiled.outcome) ∧
      (t.classify = .single → (t.compileBy render data).map Compiled.outcome =
        (Catalog.poster.compileBy render data).map Compiled.outcome)) := by
  have hkept := upgrade_eq t
  refine ⟨outcome_compileBy_congr (resolve_upgrade t) render data, upgrade_upgrade t,
    ⟨?_, ?_, ?_, ?_, ?_, ?_⟩, fun hmode => ⟨fun hkind => ?_, fun hkind => ?_⟩⟩
  · rw [hkept]
  · rw [hkept]
  · rw [hkept]
  · rw [hkept]
  · rw [hkept]
  · rw [hkept]
  · have hfamily : ofKind? t.classify = some Catalog.carousel := by rw [hkind]; rfl
    exact outcome_compileBy_congr (resolve_of_family hmode hfamily) render data
  · have hfamily : ofKind? t.classify = some Catalog.poster := by rw [hkind]; rfl
    exact outcome_compileBy_congr (resolve_of_family hmode hfamily) render data

/-- The text and the form of an old template with a telling name play no part. -/
theorem compileBy_upgrade_old_carousel :
    let t : Template := { name := "My CAROUSEL", text := "${data.title}", mode := .legacy }
    let data : Json := .obj [("pages", .arr [])]
    t.mode ≠ .grammar ∧ t.classify = .carousel ∧
      (t.compileBy (Render.render 32) data).map Compiled.outcome =
        (Catalog.carousel.compileBy (Render.render 32) data).map Compiled.outcome := by
  intro t data
  have hmode : t.mode ≠ .grammar := by decide
  have hkind : t.classify = .carousel := by decide +kernel
  exact ⟨hmode, hkind,
    ((compileBy_upgrade t (Render.render 32) data).2.2.2 hmode).1 hkind⟩

end Template

end FlexForm
