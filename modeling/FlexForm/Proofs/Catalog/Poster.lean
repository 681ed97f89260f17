import FlexForm.Catalog.Poster
import FlexForm.Proofs.Catalog.Button
import FlexForm.Proofs.Render.Shape

/-! # What the text of the single poster means

The text of the single poster is rendered as one bubble for all form data, whatever the types of
its values are.

* `Poster.message`: the message for form data.
* `Poster.shape`: the shape of the text.
* `Poster.render_poster`: the text is rendered as the message.
-/

namespace FlexForm.Catalog.Poster
set_option autoImplicit false

open Json Grammar Render

/-! ## The message -/

/-- A value of the form data. -/
def value (data : List (String × Json)) (key : String) : Json := shown (Fields.get? data key)

/-- A value of the form data, or else a constant. -/
def styled (data : List (String × Json)) (key constant : String) : Json :=
  shown (pick (Fields.get? data key) (some (.str constant)))

def heroBlock (data : List (String × Json)) : Json :=
  .obj
    [("type", .str "image"), ("url", value data "heroImageUrl"), ("size", .str "full"),
     ("aspectRatio", styled data "heroAspectRatio" "20:13"),
     ("aspectMode", styled data "heroAspectMode" "cover")]

def titleBlock (data : List (String × Json)) : Json :=
  .obj
    [("type", .str "text"), ("text", value data "title"), ("weight", .str "bold"),
     ("size", styled data "titleSize" "xl"), ("color", styled data "titleColor" "#111111"),
     ("wrap", .bool true)]

def descriptionBlock (data : List (String × Json)) : Json :=
  .obj
    [("type", .str "text"), ("text", value data "description"),
     ("size", styled data "descriptionSize" "sm"),
     ("color", styled data "descriptionColor" "#666666"), ("margin", .str "md"),
     ("wrap", .bool true)]

/-- A line of text behind an icon. -/
def noteBlock (icon margin : String) (text : Json) : Json :=
  .obj
    [("type", .str "box"), ("layout", .str "baseline"), ("margin", .str margin),
     ("contents", .arr
      [.obj [("type", .str "text"), ("text", .str icon), ("size", .str "sm"), ("flex", .int 0)],
       .obj [("type", .str "text"), ("text", text), ("size", .str "sm"),
         ("color", .str "#666666"), ("margin", .str "sm"), ("flex", .int 1)]])]

/-- The title, and those of the other blocks whose values are true. -/
def blocks (data : List (String × Json)) : List Json :=
  [titleBlock data] ++
    (if isTrue (Fields.get? data "description") then [descriptionBlock data] else []) ++
    (if isTrue (Fields.get? data "date") then [noteBlock "📅" "md" (value data "date")] else []) ++
    (if isTrue (Fields.get? data "location") then [noteBlock "📍" "sm" (value data "location")] else [])

def bodyBlock (data : List (String × Json)) : Json :=
  .obj
    [("type", .str "box"), ("layout", .str "vertical"),
     ("backgroundColor", styled data "bodyBgColor" "#ffffff"), ("contents", .arr (blocks data))]

/-- What the text takes for the look of a button. -/
def look (item : Json) : Look :=
  ⟨pick (item.get? "style") (some (.str "primary")), item.get? "color",
    pick (item.get? "height") (some (.str "sm"))⟩

/-- The message with the given fields of the bubble behind its body. -/
def layout (data : List (String × Json)) (footer : List (String × Json)) : Json :=
  .obj
    [("type", .str "flex"), ("altText", styled data "altText" "View event poster"),
     ("contents", .obj
      ([("type", .str "bubble"), ("size", .str "mega"), ("hero", heroBlock data), ("body", bodyBlock data)] ++
        footer))]

/-- The message for form data. -/
def message (data : List (String × Json)) : Json :=
  layout data (footerFields (fun item => button (look item) item) (Fields.get? data "buttons"))

/-! ## The shape of the text -/

def notePieces (icon margin : String) : List Piece :=
  [.mark ','] ++ typed "box" ++ nextText "layout" "baseline" ++ nextText "margin" margin ++
    next "contents" ++ [.mark '['] ++ typed "text" ++ nextText "text" icon ++
    nextText "size" "sm" ++ next "flex" ++ [.scalar (.int 0), .mark '}', .mark ','] ++
    typed "text" ++ next "text"

def noteEnd : List Piece :=
  nextText "size" "sm" ++ nextText "color" "#666666" ++ nextText "margin" "sm" ++ next "flex" ++
    [.scalar (.int 1), .mark '}', .mark ']', .mark '}']

def field (key constant : String) : Term := .fallback (.name key) (.text constant)

/-- The shape of the text before the buttons. -/
def bubbleShape : List Part :=
  [.value (typed "flex" ++ next "altText") (field "altText" "View event poster"),
   .value (next "contents" ++ typed "bubble" ++ nextText "size" "mega" ++ next "hero" ++
      typed "image" ++ next "url") (.name "heroImageUrl"),
   .value (nextText "size" "full" ++ next "aspectRatio") (field "heroAspectRatio" "20:13"),
   .value (next "aspectMode") (field "heroAspectMode" "cover"),
   .value ([.mark '}'] ++ next "body" ++ typed "box" ++ nextText "layout" "vertical" ++
      next "backgroundColor") (field "bodyBgColor" "#ffffff"),
   .value (next "contents" ++ [.mark '['] ++ typed "text" ++ next "text") (.name "title"),
   .value (nextText "weight" "bold" ++ next "size") (field "titleSize" "xl"),
   .value (next "color") (field "titleColor" "#111111"),
   .words (next "wrap" ++ [.scalar (.bool true), .mark '}']),
   .choose
    [(.holds (.name "description"),
      [.value ([.mark ','] ++ typed "text" ++ next "text") (.name "description"),
       .value (next "size") (field "descriptionSize" "sm"),
       .value (next "color") (field "descriptionColor" "#666666"),
       .words (nextText "margin" "md" ++ next "wrap" ++ [.scalar (.bool true), .mark '}'])])],
   .words [],
   .choose
    [(.holds (.name "date"), [.value (notePieces "📅" "md") (.name "date"), .words noteEnd])],
   .words [],
   .choose
    [(.holds (.name "location"),
      [.value (notePieces "📍" "sm") (.name "location"), .words noteEnd])],
   .words [.mark ']', .mark '}']]

/-- The parts that bind what the look of a button needs. -/
def lookShape : List Part :=
  [.words [],
     .set "action_type" (.fallback (.field (.name "button") "actionType") (.text "uri")),
   .words [],
   .set "button_style" (.fallback (.field (.name "button") "style") (.text "primary"))]

def shape : List Part :=
  bubbleShape ++
    [footerShape (.name "buttons") lookShape (.field (.name "button") "color")
      (.fallback (.field (.name "button") "height") (.text "sm")),
     .words [.mark '}', .mark '}']]

set_option maxRecDepth 100000 in
theorem hasShape_text : HasShape text shape := by
  unfold HasShape
  rw [show text = String.ofList _ from rfl]
  unfold Text.isAllBlank compile Grammar.read scan
  rw [String.toList_ofList]
  decide +kernel

/-! ## What the shape spells -/

section
variable {data : List (String × Json)}

set_option maxRecDepth 4000 in
theorem spelled_bubbleShape (footer : List (String × Json)) :
    Part.spelledAll (.ofFields shape data) false bubbleShape
      (moreFields footer [.mark '}', .mark '}']) = pieces (layout data footer) [] := by
  simp only [bubbleShape, Part.spelledAll, Part.after, Part.spelled, Part.spelledBranches,
    Guard.decide, field, Term.sense, Scope.sense_ofFields]
  simp only [layout, heroBlock, bodyBlock, blocks, value, styled]
  generalize isTrue (Fields.get? data "description") = described
  generalize isTrue (Fields.get? data "date") = dated
  generalize isTrue (Fields.get? data "location") = located
  cases described <;> cases dated <;> cases located <;> rfl

theorem spelled_shape : Part.spelledAll (.ofFields shape data) false shape [] =
    pieces (layout data
      (footerFields (fun item => markedButton (look item) item) (Fields.get? data "buttons"))) [] := by
  rw [← spelled_bubbleShape, shape, Part.spelledAll_append]
  refine congrArg _ (spelled_footerShape false _ fun item _ last qs => ?_)
  exact spelled_buttonShape rfl rfl rfl rfl rfl last qs

theorem iterates_shape : Part.iteratesAll (.ofFields shape data) shape = true := by
  rw [shape, Part.iteratesAll_append]
  simp [bubbleShape, Part.iteratesAll, Part.iterates, Part.iteratesBranches,
    iterates_footerShape lookShape fun _ => rfl]

end

/-! ## Sound messages -/

section
variable {data : List (String × Json)} (h : (Json.obj data).Sound)
include h

theorem sound_value (key : String) : (value data key).Sound := sound_shown (h.field key)

theorem sound_styled (key constant : String) : (styled data key constant).Sound :=
  sound_shown (soundOr_pick (h.field key) (soundOr_some (sound_str constant)))

theorem sound_heroBlock : (heroBlock data).Sound :=
  sound_obj rfl (by simp [sound_value h, sound_styled h])

theorem sound_titleBlock : (titleBlock data).Sound :=
  sound_obj rfl (by simp [sound_value h, sound_styled h])

theorem sound_descriptionBlock : (descriptionBlock data).Sound :=
  sound_obj rfl (by simp [sound_value h, sound_styled h])

omit h in
theorem sound_noteBlock (icon margin : String) {text : Json} (htext : text.Sound) :
    (noteBlock icon margin text).Sound := by
  have hzero : (Json.int 0).Sound := sound_digit 0 (by decide)
  have hone : (Json.int 1).Sound := sound_digit 1 (by decide)
  have hicon : (Json.obj [("type", .str "text"), ("text", .str icon), ("size", .str "sm"),
      ("flex", .int 0)]).Sound := sound_obj rfl (by simp [hzero])
  have hline : (Json.obj [("type", .str "text"), ("text", text), ("size", .str "sm"),
      ("color", .str "#666666"), ("margin", .str "sm"), ("flex", .int 1)]).Sound :=
    sound_obj rfl (by simp [htext, hone])
  exact sound_obj rfl (by simp [sound_arr, hicon, hline])

theorem sound_blocks : ∀ v ∈ blocks data, v.Sound := by
  have hnote (icon margin key : String) := sound_noteBlock icon margin (sound_value h key)
  unfold blocks
  split_ifs
  all_goals simp [sound_titleBlock h, sound_descriptionBlock h, hnote]

theorem sound_bodyBlock : (bodyBlock data).Sound :=
  sound_obj rfl (by simpa [sound_styled h, sound_arr] using sound_blocks h)

theorem hasDistinctKeys_layout {footer : List (String × Json)}
    (hkeys : distinct ((["type", "size", "hero", "body"] : List String) ++ footer.map Prod.fst) =
      true) (hfooter : ∀ f ∈ footer, hasDistinctKeys f.2 = true) :
    hasDistinctKeys (layout data footer) = true := by
  have hhero := (sound_heroBlock h).keys
  have hbody := (sound_bodyBlock h).keys
  have htext := (sound_styled h "altText" "View event poster").keys
  have hbubble : hasDistinctKeys (.obj ([("type", .str "bubble"), ("size", .str "mega"),
      ("hero", heroBlock data), ("body", bodyBlock data)] ++ footer)) = true := by
    refine hasDistinctKeys_obj hkeys fun f hf => ?_
    simp only [List.cons_append, List.nil_append, List.mem_cons] at hf
    rcases hf with rfl | rfl | rfl | rfl | hf
    · rfl
    · rfl
    · exact hhero
    · exact hbody
    · exact hfooter f hf
  refine hasDistinctKeys_obj rfl ?_
  simp only [List.forall_mem_cons]
  exact ⟨rfl, htext, hbubble, by simp⟩

theorem expandWith_layout {inner : Json → Except Overlay.TooDeep Json}
    {footer more : List (String × Json)} (hno : Fields.get? footer Overlay.marker = none)
    (hfooter : Overlay.expandFields inner footer = .ok more) :
    Overlay.expandWith inner (layout data footer) = .ok (layout data more) := by
  have hbubble : (Json.obj [("type", .str "bubble"), ("size", .str "mega"),
      ("hero", heroBlock data), ("body", bodyBlock data)]).Sound :=
    sound_obj rfl (by simp [sound_heroBlock h, sound_bodyBlock h])
  have hstart : (Json.obj [("type", .str "flex"),
      ("altText", styled data "altText" "View event poster")]).Sound :=
    sound_obj rfl (by simp [sound_styled h])
  refine Overlay.expandWith_obj rfl (Overlay.expandFields_append [_, _] hstart.unmarked
    (Overlay.expandFields_single (by decide) (Overlay.expandWith_obj hno ?_)))
  exact Overlay.expandFields_append _ hbubble.unmarked hfooter

end

/-! ## Rendering -/

theorem sound_look {item : Json} (h : item.Sound) : (look item).IsSound :=
  ⟨soundOr_pick (h.field _) (soundOr_some (sound_str _)), h.field _,
    soundOr_pick (h.field _) (soundOr_some (sound_str _))⟩

/-- The text of the single poster is rendered as the message for form data of any types. -/
theorem render_poster {limit : ℤ} (hlimit : 1 ≤ limit) {data : List (String × Json)}
    (h : (Json.obj data).Sound) (hoverlay : (overlayOf (.obj data)).bind Overlay.patchOf? = none)
    (hpatches : arePatchesUnmarked ((itemsOf? (Fields.get? data "buttons")).getD []) = true) :
    render limit (some .grammar) text (.obj data) = ⟨some (message data), []⟩ := by
  have hbuttons : SoundOr (Fields.get? data "buttons") := h.field "buttons"
  have hkeys : hasDistinctKeys (layout data (footerFields (fun item => markedButton (look item) item)
      (Fields.get? data "buttons"))) = true := by
    refine hasDistinctKeys_layout h ?_
      (hasDistinctKeys_footerFields hbuttons fun item hitem => sound_look hitem)
    unfold footerFields
    split_ifs <;> rfl
  obtain ⟨levels, hlevels⟩ : ∃ levels, limit.toNat = levels + 1 := ⟨limit.toNat - 1, by omega⟩
  have hexpand := expandWith_layout h (get?_footerFields _) (expandFields_footerFields hbuttons
    (fun item hitem => sound_look hitem)
    (fun v hv => Overlay.expandLevels_of_lacksKey limit levels hv) hpatches)
  rw [render_of_shape hasShape_text h iterates_shape spelled_shape hkeys
    (by rw [Overlay.expand, hlevels]; exact hexpand) hoverlay]
  rfl

theorem render_poster_sample :
    render 1 (some .grammar) text (.obj sample) = ⟨some (message sample), []⟩ :=
  render_poster (by decide)
    ⟨by decide +kernel, by decide +kernel, by decide +kernel, by decide +kernel⟩ rfl
    (by decide +kernel)

end FlexForm.Catalog.Poster
