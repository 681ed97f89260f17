import FlexForm.Proofs.Grammar.Output

/-! # Buttons of the built-in texts

The built-in texts write their buttons the same way. A button says what it does, and it carries its
own overlay as a marker, which is gone in the message.

* `Look`: what a text takes for the style, the color and the height of a button.
* `button`: a button as it is in the message.
* `markedButton`: the button as the text writes it, with its marker.
* `spelled_buttonShape`: what the parts of a shape that write a button spell.
-/

namespace FlexForm.Catalog
set_option autoImplicit false

open Json Grammar

/-! ## Pieces of words -/

/-- A key at the start of an object. -/
def lead (key : String) : List Piece := [.text key, .mark ':']

/-- A key behind other fields. -/
def next (key : String) : List Piece := .mark ',' :: lead key

/-- A field with a text behind other fields. -/
def nextText (key s : String) : List Piece := next key ++ [.text s]

/-- The start of an object with a type. -/
def typed (type : String) : List Piece := [.mark '{'] ++ lead "type" ++ [.text type]

/-! ## Buttons in the message -/

/-- The value that is shown, where null stands for nothing. -/
def shown (o : Option Json) : Json := o.getD .null

structure Look where
  style : Option Json
  color : Option Json
  height : Option Json

/-- The type of what a button does. -/
def actionType (item : Json) : Option Json := pick (item.get? "actionType") (some (.str "uri"))

/-- The field that goes with the type of what a button does. -/
def companion (item : Json) : List (String × Json) :=
  if isText (actionType item) "uri" then [("uri", shown (item.get? "url"))]
  else if isText (actionType item) "message" then [("text", shown (item.get? "text"))]
  else if isText (actionType item) "postback" then [("data", shown (item.get? "data"))]
  else []

/-- What a button does. -/
def action (item : Json) : Json :=
  .obj ([("type", shown (actionType item)), ("label", shown (item.get? "label"))] ++
    companion item)

/-- The color of a button, unless it is a link or has no color. -/
def colorField (look : Look) : List (String × Json) :=
  if !isText look.style "link" && (isTrue look.color && !isUnfilled look.color) then
    [("color", shown look.color)]
  else []

/-- The fields of a button before its own overlay. -/
def bareButton (look : Look) (item : Json) : List (String × Json) :=
  [("type", .str "button"),
   ("action", action item),
   ("style", shown look.style),
   ("height", shown look.height)] ++ colorField look

/-- The overlay of a button: an object, or a JSON text of one. -/
def buttonPatch? (item : Json) : Option (List (String × Json)) :=
  if isTrue (item.get? "buttonPatch") then (item.get? "buttonPatch").bind Overlay.patchOf? else none

/-- The button with its overlay. -/
def button (look : Look) (item : Json) : Json :=
  match buttonPatch? item with
  | some patch => (Json.obj (bareButton look item)).merge (.obj patch)
  | none => .obj (bareButton look item)

/-! ## Buttons in the text -/

/-- The button with a marker for its overlay. -/
def markedButton (look : Look) (item : Json) : Json :=
  .obj (bareButton look item ++
    if isTrue (item.get? "buttonPatch") then
      [(Overlay.marker, shown (item.get? "buttonPatch"))]
    else [])

/-- The parts of a shape that write a button behind those that bind its type and its style. -/
def buttonShape (color height : Term) : List Part :=
  [.value (typed "button" ++ next "action" ++ [.mark '{'] ++ lead "type") (.name "action_type"),
   .value (next "label") (.field (.name "button") "label"),
   .words [],
   .choose
    [(.is (.name "action_type") "uri",
      [.value (next "uri") (.field (.name "button") "url"), .words []]),
     (.is (.name "action_type") "message",
      [.value (next "text") (.field (.name "button") "text"), .words []]),
     (.is (.name "action_type") "postback",
      [.value (next "data") (.field (.name "button") "data"), .words []])],
   .value ([.mark '}'] ++ next "style") (.name "button_style"),
   .value (next "height") height,
   .words [],
   .choose
    [(.both (.isNot (.name "button_style") "link") (.holds (.fallback color .null)),
      [.value (next "color") color, .words []])],
   .words [],
   .choose
    [(.holds (.field (.name "button") "buttonPatch"),
      [.value (next Overlay.marker) (.field (.name "button") "buttonPatch"), .words []])],
   .words [.mark '}'],
   .comma,
   .words []]

theorem isTrue_pick_null (o : Option Json) :
    isTrue (pick o (some .null)) = (isTrue o && !isUnfilled o) := by
  unfold pick
  split
  · rename_i h
    rw [h, Bool.not_true, Bool.and_false]
    rfl
  · rename_i h
    simp [h]

theorem spelled_buttonShape {scope : Scope} {color height : Term} {item : Json} {look : Look}
    (hitem : scope.sense "button" = some item)
    (htype : scope.sense "action_type" = actionType item)
    (hstyle : scope.sense "button_style" = look.style) (hcolor : color.sense scope = look.color)
    (hheight : height.sense scope = look.height) (last : Bool) (qs : List Piece) :
    Part.spelledAll scope last (buttonShape color height) qs =
      pieces (markedButton look item) (bif last then qs else .mark ',' :: qs) := by
  simp only [buttonShape, Part.spelledAll, Part.spelled, Part.after, Part.spelledBranches,
    Guard.decide, Term.sense, hitem, htype, hstyle, hcolor, hheight, Option.bind_some,
    isTrue_pick_null]
  unfold markedButton bareButton action companion colorField
  generalize isText (actionType item) "uri" = isUri
  generalize isText (actionType item) "message" = isMessage
  generalize isText (actionType item) "postback" = isPostback
  generalize (!isText look.style "link" && (isTrue look.color && !isUnfilled look.color)) = colored
  generalize isTrue (item.get? "buttonPatch") = patched
  cases isUri <;> cases isMessage <;> cases isPostback <;> cases colored <;> cases patched <;> rfl

/-! ## Sound buttons -/

theorem sound_actionType {item : Json} (h : item.Sound) : SoundOr (actionType item) :=
  soundOr_pick (h.field _) (soundOr_some (sound_str _))

theorem sound_shown {o : Option Json} (h : SoundOr o) : (shown o).Sound := h.getD

theorem sound_action {item : Json} (h : item.Sound) : (action item).Sound := by
  have htype := sound_shown (sound_actionType h)
  have hfield (key : String) := sound_shown (h.field key)
  unfold action companion
  split_ifs
  all_goals
    refine sound_obj rfl ?_
    simp [htype, hfield]

/-- What a text takes for the look of a button is sound. -/
structure Look.IsSound (look : Look) : Prop where
  style : SoundOr look.style
  color : SoundOr look.color
  height : SoundOr look.height

theorem sound_bareButton {look : Look} {item : Json} (hlook : look.IsSound) (h : item.Sound) :
    (Json.obj (bareButton look item)).Sound := by
  have haction := sound_action h
  have hstyle := sound_shown hlook.style
  have hcolor := sound_shown hlook.color
  have hheight := sound_shown hlook.height
  unfold bareButton colorField
  split_ifs
  all_goals
    refine sound_obj rfl ?_
    simp [haction, hstyle, hcolor, hheight]

/-! ## Overlays of buttons -/

/-- Whether the overlays that the buttons bring in have no markers inside. -/
def arePatchesUnmarked (items : List Json) : Bool :=
  items.all fun item => (buttonPatch? item).all (fieldsLackKey Overlay.marker)

theorem hasDistinctKeys_markedButton {look : Look} {item : Json} (hlook : look.IsSound)
    (h : item.Sound) : hasDistinctKeys (markedButton look item) = true := by
  have hfields := sound_bareButton hlook h
  have hpatch := (sound_shown (h.field "buttonPatch")).keys
  have hall := hfields.keys
  rw [hereditary_hasDistinctKeys.obj, Bool.and_eq_true, List.all_eq_true] at hall
  unfold markedButton
  split_ifs
  · refine hasDistinctKeys_obj ?_ fun f hf => ?_
    · unfold bareButton colorField
      split_ifs <;> rfl
    · rcases List.mem_append.1 hf with hf | hf
      · exact hall.2 f hf
      · rw [List.mem_singleton.1 hf]
        exact hpatch
  · rw [List.append_nil]
    exact hfields.keys

theorem expandWith_markedButton {inner : Json → Except Overlay.TooDeep Json} {look : Look}
    {item : Json} (hlook : look.IsSound) (h : item.Sound)
    (hinner : ∀ v, lacksKey Overlay.marker v = true → inner v = .ok v)
    (hpatch : ∀ patch, buttonPatch? item = some patch →
      fieldsLackKey Overlay.marker patch = true) :
    Overlay.expandWith inner (markedButton look item) = .ok (button look item) := by
  have hfields := (sound_bareButton hlook h).unmarked
  unfold markedButton button
  split_ifs with htrue
  · cases hget : item.get? "buttonPatch" with
    | none =>
      rw [hget] at htrue
      cases htrue
    | some v =>
      have hpatchOf : buttonPatch? item = Overlay.patchOf? v := by
        rw [buttonPatch?, if_pos htrue, hget, Option.bind_some]
      rw [hpatchOf] at hpatch ⊢
      rw [shown, Option.getD_some, Overlay.expandWith_marked v hfields]
      cases hp : Overlay.patchOf? v with
      | none => rfl
      | some patch => exact hinner _ (lacksKey_merge _ hfields (hpatch patch hp))
  · have hnone : buttonPatch? item = none := by rw [buttonPatch?, if_neg htrue]
    rw [hnone, List.append_nil]
    exact Overlay.expandWith_of_lacksKey _ hfields

/-! ## Footers -/

/-- The field for a list of buttons, unless there are none. -/
def footerFields (f : Json → Json) (o : Option Json) : List (String × Json) :=
  if isFilledArray o then
    [("footer", .obj
      [("type", .str "box"), ("layout", .str "vertical"), ("spacing", .str "sm"),
       ("contents", .arr (((itemsOf? o).getD []).map f))])]
  else []

/-- The part of a shape that writes a list of buttons, where `sets` binds what their look needs. -/
def footerShape (source : Term) (sets : List Part) (color height : Term) : Part :=
  .choose
    [(.hasItems source,
      [.words (next "footer" ++ typed "box" ++ nextText "layout" "vertical" ++
          nextText "spacing" "sm" ++ next "contents" ++ [.mark '[']),
       .each "button" source (sets ++ buttonShape color height),
       .words [.mark ']', .mark '}']])]

theorem spelled_footerShape {scope : Scope} {source color height : Term} {sets : List Part}
    {look : Json → Look} (last : Bool) (qs : List Piece)
    (hround : ∀ item ∈ (itemsOf? (source.sense scope)).getD [], ∀ last qs,
      Part.spelledAll (scope.round "button" item (sets ++ buttonShape color height)) last
        (sets ++ buttonShape color height) qs =
          pieces (markedButton (look item) item) (bif last then qs else .mark ',' :: qs)) :
    (footerShape source sets color height).spelled scope last qs =
      moreFields (footerFields (fun item => markedButton (look item) item) (source.sense scope))
        qs := by
  have hitems := pieces_arr_of_rounds hround (.mark '}' :: qs)
  unfold footerShape footerFields
  simp only [Part.spelled, Part.spelledBranches, Part.spelledAll, Part.after, Guard.decide]
  cases isFilledArray (source.sense scope) with
  | false => rfl
  | true =>
    rw [cond_true, if_pos rfl]
    simp only [moreFields, pieces, hitems]
    rfl

theorem iterates_buttonShape (scope : Scope) (color height : Term) :
    Part.iteratesAll scope (buttonShape color height) = true := by
  simp [buttonShape, Part.iteratesAll, Part.iterates, Part.iteratesBranches]

theorem iterates_footerShape {scope : Scope} {source color height : Term} (sets : List Part)
    (hsets : ∀ scope, Part.iteratesAll scope sets = true) :
    (footerShape source sets color height).iterates scope = true := by
  have hround (scope : Scope) : Part.iteratesAll scope (sets ++ buttonShape color height) = true := by
    rw [Part.iteratesAll_append, hsets, iterates_buttonShape]
    rfl
  have hitems (h : isFilledArray (source.sense scope) = true) :
      (itemsOf? (source.sense scope)).isSome = true := by
    cases ho : source.sense scope with
    | none => rfl
    | some v =>
      rw [ho] at h
      cases v with
      | arr items => rfl
      | null | bool | int | float | str | obj => cases h
  simp only [footerShape, Part.iterates, Part.iteratesBranches, Part.iteratesAll, Guard.decide]
  cases hfilled : isFilledArray (source.sense scope) with
  | false => rfl
  | true =>
    obtain ⟨items, hsome⟩ := Option.isSome_iff_exists.1 (hitems hfilled)
    simp [Part.after, hsome, hround]

section
variable {o : Option Json} {look : Json → Look}

theorem sound_item (ho : SoundOr o) {item : Json} (hitem : item ∈ (itemsOf? o).getD []) :
    item.Sound := by
  cases hitems : itemsOf? o with
  | none =>
    rw [hitems] at hitem
    cases hitem
  | some items =>
    rw [hitems] at hitem
    exact sound_items ho hitems item hitem

theorem get?_footerFields (f : Json → Json) : Fields.get? (footerFields f o) Overlay.marker = none := by
  unfold footerFields
  split_ifs <;> rfl

theorem hasDistinctKeys_footerFields (ho : SoundOr o)
    (hlook : ∀ item, item.Sound → (look item).IsSound) :
    ∀ f ∈ footerFields (fun item => markedButton (look item) item) o,
      hasDistinctKeys f.2 = true := by
  intro f hf
  unfold footerFields at hf
  split_ifs at hf
  · rw [List.mem_singleton.1 hf]
    refine hasDistinctKeys_obj rfl fun g hg => ?_
    simp only [List.mem_cons, List.not_mem_nil, or_false] at hg
    rcases hg with rfl | rfl | rfl | rfl
    · rfl
    · rfl
    · rfl
    · rw [hereditary_hasDistinctKeys.arr, List.all_map, List.all_eq_true]
      exact fun item hitem =>
        hasDistinctKeys_markedButton (hlook item (sound_item ho hitem)) (sound_item ho hitem)
  · cases hf

theorem expandFields_footerFields {inner : Json → Except Overlay.TooDeep Json} (ho : SoundOr o)
    (hlook : ∀ item, item.Sound → (look item).IsSound)
    (hinner : ∀ v, lacksKey Overlay.marker v = true → inner v = .ok v)
    (hpatches : arePatchesUnmarked ((itemsOf? o).getD []) = true) :
    Overlay.expandFields inner (footerFields (fun item => markedButton (look item) item) o) =
      .ok (footerFields (fun item => button (look item) item) o) := by
  have hitems := Overlay.expandItems_map fun item hitem =>
    expandWith_markedButton (hlook item (sound_item ho hitem)) (sound_item ho hitem) hinner
      ((Option.all_eq_true _ _).1 (List.all_eq_true.1 hpatches item hitem))
  unfold footerFields
  split_ifs
  · refine Overlay.expandFields_single (by decide) (Overlay.expandWith_obj rfl ?_)
    exact Overlay.expandFields_append
      [("type", .str "box"), ("layout", .str "vertical"), ("spacing", .str "sm")] rfl
      (Overlay.expandFields_single (by decide) (Overlay.expandWith_arr hitems))
  · rfl

end

end FlexForm.Catalog
