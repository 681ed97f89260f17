import FlexForm.Catalog.Carousel
import FlexForm.Proofs.Catalog.Button
import FlexForm.Proofs.Render.Shape

/-! # What the text of the carousel means

The text of the carousel is rendered as one bubble for each page. What a page does not say of its
look is taken from what the form data says for all pages, and else from constants of the text.

* `Carousel.message`: the message for form data.
* `Carousel.shape`: the shape of the text.
* `Carousel.render_carousel`: the text is rendered as the message.
-/

namespace FlexForm.Catalog.Carousel
set_option autoImplicit false

open Json Grammar Render

/-! ## The message -/

/-- What the form data says for the images of all pages. -/
def sharedHero (data : List (String × Json)) (key : String) : Option Json :=
  (Fields.get? data "hero").bind (·.get? key)

/-- What the form data says for one kind of part of all pages. -/
def sharedStyle (data : List (String × Json)) (group key : String) : Option Json :=
  ((Fields.get? data "style").bind (·.get? group)).bind (·.get? key)

/-- What a page says, or else what holds for all pages, or else a constant. -/
def styled (own shared : Option Json) (constant : String) : Json :=
  shown (pick own (pick shared (some (.str constant))))

def heroBlock (data : List (String × Json)) (page : Json) : Json :=
  .obj
    [("type", .str "image"), ("url", shown (page.get? "imageUrl")), ("size", .str "full"),
     ("aspectRatio", styled (page.get? "imageAspectRatio") (sharedHero data "aspectRatio") "1:1"),
     ("aspectMode", styled (page.get? "imageAspectMode") (sharedHero data "aspectMode") "cover")]

def headlineBlock (data : List (String × Json)) (page : Json) : Json :=
  .obj
    [("type", .str "text"), ("text", shown (page.get? "headline")), ("wrap", .bool true),
     ("weight", styled (page.get? "headlineWeight") (sharedStyle data "headline" "weight") "bold"),
     ("size", styled (page.get? "headlineSize") (sharedStyle data "headline" "size") "lg"),
     ("color", styled (page.get? "headlineColor") (sharedStyle data "headline" "color")
       "#111111")]

def descBlock (data : List (String × Json)) (page : Json) : Json :=
  .obj
    [("type", .str "text"), ("text", shown (page.get? "desc")), ("wrap", .bool true),
     ("margin", .str "md"),
     ("size", styled (page.get? "descSize") (sharedStyle data "desc" "size") "sm"),
     ("color", styled (page.get? "descColor") (sharedStyle data "desc" "color") "#666666")]

/-- The headline of a page, and its description if it has one. -/
def blocks (data : List (String × Json)) (page : Json) : List Json :=
  [headlineBlock data page] ++ if isTrue (page.get? "desc") then [descBlock data page] else []

def bodyBlock (data : List (String × Json)) (page : Json) : Json :=
  .obj
    [("type", .str "box"), ("layout", .str "vertical"),
     ("backgroundColor", styled (page.get? "bodyBgColor") (sharedStyle data "bubble" "bodyBgColor")
       "#ffffff"),
     ("contents", .arr (blocks data page))]

/-- The bubble of a page, with the given fields behind its body. -/
def bubble (data : List (String × Json)) (page : Json) (footer : List (String × Json)) : Json :=
  .obj ([("type", .str "bubble"), ("hero", heroBlock data page), ("body", bodyBlock data page)] ++
    footer)

/-- What the text takes for the look of a button. -/
def look (data : List (String × Json)) (item : Json) : Look :=
  ⟨pick (item.get? "style") (pick (sharedStyle data "button" "style") (some (.str "primary"))),
    pick (item.get? "color") (sharedStyle data "button" "color"),
    pick (item.get? "height") (pick (sharedStyle data "button" "height") (some (.str "sm")))⟩

def pagesOf (data : List (String × Json)) : List Json := (itemsOf? (Fields.get? data "pages")).getD []

def altText (data : List (String × Json)) : Json :=
  shown (pick (Fields.get? data "altText") (some (.str "View message")))

/-- The message with the given bubbles. -/
def layout (data : List (String × Json)) (bubbles : List Json) : Json :=
  .obj
    [("type", .str "flex"), ("altText", altText data),
     ("contents", .obj [("type", .str "carousel"), ("contents", .arr bubbles)])]

/-- The message for form data. -/
def message (data : List (String × Json)) : Json :=
  layout data ((pagesOf data).map fun page =>
    bubble data page (footerFields (fun item => button (look data item) item) (page.get? "cta")))

/-! ## The shape of the text -/

/-- A value of a page, or else a shared one, or else a constant. -/
def field (key : String) (shared : Term) (constant : String) : Term :=
  .fallback (.field (.name "page") key) (.fallback shared (.text constant))

/-- A shared value for one kind of part. -/
def style (group key : String) : Term := .field (.field (.name "style") group) key

/-- The shape of a page before its buttons. -/
def bubbleShape : List Part :=
  [.value (typed "bubble" ++ next "hero" ++ typed "image" ++ next "url")
    (.field (.name "page") "imageUrl"),
   .value (nextText "size" "full" ++ next "aspectRatio")
    (field "imageAspectRatio" (.field (.name "hero") "aspectRatio") "1:1"),
   .value (next "aspectMode")
    (field "imageAspectMode" (.field (.name "hero") "aspectMode") "cover"),
   .value ([.mark '}'] ++ next "body" ++ typed "box" ++ nextText "layout" "vertical" ++
      next "backgroundColor") (field "bodyBgColor" (style "bubble" "bodyBgColor") "#ffffff"),
   .value (next "contents" ++ [.mark '['] ++ typed "text" ++ next "text")
    (.field (.name "page") "headline"),
   .value (next "wrap" ++ [.scalar (.bool true)] ++ next "weight")
    (field "headlineWeight" (style "headline" "weight") "bold"),
   .value (next "size") (field "headlineSize" (style "headline" "size") "lg"),
   .value (next "color") (field "headlineColor" (style "headline" "color") "#111111"),
   .words [.mark '}'],
   .choose
    [(.holds (.field (.name "page") "desc"),
      [.value ([.mark ','] ++ typed "text" ++ next "text") (.field (.name "page") "desc"),
       .value (next "wrap" ++ [.scalar (.bool true)] ++ nextText "margin" "md" ++ next "size")
        (field "descSize" (style "desc" "size") "sm"),
       .value (next "color") (field "descColor" (style "desc" "color") "#666666"),
       .words [.mark '}']])],
   .words [.mark ']', .mark '}']]

/-- The parts that bind what the look of a button needs. -/
def lookShape : List Part :=
  [.words [],
   .set "action_type" (.fallback (.field (.name "button") "actionType") (.text "uri")),
   .words [],
   .set "button_style" (.fallback (.field (.name "button") "style")
    (.fallback (style "button" "style") (.text "primary"))),
   .words [],
   .set "button_color" (.fallback (.field (.name "button") "color") (style "button" "color"))]

def pageShape : List Part :=
  bubbleShape ++
    [footerShape (.field (.name "page") "cta") lookShape (.name "button_color")
      (.fallback (.field (.name "button") "height")
        (.fallback (style "button" "height") (.text "sm"))),
     .words [.mark '}'],
     .comma,
     .words []]

def shape : List Part :=
  [.value (typed "flex" ++ next "altText") (.fallback (.name "altText") (.text "View message")),
   .words (next "contents" ++ typed "carousel" ++ next "contents" ++ [.mark '[']),
   .each "page" (.name "pages") pageShape,
   .words [.mark ']', .mark '}', .mark '}']]

set_option maxRecDepth 100000 in
theorem hasShape_text : HasShape text shape := by
  unfold HasShape
  rw [show text = String.ofList _ from rfl]
  unfold Text.isAllBlank compile Grammar.read scan
  rw [String.toList_ofList]
  decide +kernel

/-! ## What the shape spells -/

section
variable {data : List (String × Json)}

/-- The scope in the round of a page. -/
def pageScope (data : List (String × Json)) (page : Json) : Scope :=
  (Scope.ofFields shape data).round "page" page pageShape

set_option maxRecDepth 4000 in
theorem spelled_bubbleShape (page : Json) (footer : List (String × Json)) (last : Bool)
    (qs : List Piece) : Part.spelledAll (pageScope data page) last bubbleShape
      (moreFields footer (.mark '}' :: qs)) = pieces (bubble data page footer) qs := by
  have hpage : (pageScope data page).sense "page" = some page := rfl
  have hhero : (pageScope data page).sense "hero" = Fields.get? data "hero" := rfl
  have hstyle : (pageScope data page).sense "style" = Fields.get? data "style" := rfl
  simp only [bubbleShape, Part.spelledAll, Part.after, Part.spelled, Part.spelledBranches,
    Guard.decide, field, style, Term.sense, hpage, hhero, hstyle, Option.bind_some]
  simp only [bubble, heroBlock, bodyBlock, blocks]
  generalize isTrue (page.get? "desc") = described
  cases described <;> rfl

theorem spelled_pageShape (page : Json) (last : Bool) (qs : List Piece) :
    Part.spelledAll (pageScope data page) last pageShape qs =
      pieces (bubble data page (footerFields (fun item => markedButton (look data item) item)
        (page.get? "cta"))) (bif last then qs else .mark ',' :: qs) := by
  rw [← spelled_bubbleShape page _ last, pageShape, Part.spelledAll_append]
  refine congrArg _ (spelled_footerShape last _ fun item _ last qs => ?_)
  exact spelled_buttonShape rfl rfl rfl rfl rfl last qs

theorem spelled_shape : Part.spelledAll (.ofFields shape data) false shape [] =
    pieces (layout data ((pagesOf data).map fun page => bubble data page
      (footerFields (fun item => markedButton (look data item) item) (page.get? "cta")))) [] := by
  have hpages := @pieces_arr_of_rounds _ _ (pagesOf data)
    (fun page _ last qs => @spelled_pageShape data page last qs) [.mark '}', .mark '}']
  simp only [layout, pieces, moreFields, hpages]
  rfl

theorem iterates_shape
    (hpages : Fields.get? data "pages" = none ∨
      ∃ items, Fields.get? data "pages" = some (.arr items)) :
    Part.iteratesAll (.ofFields shape data) shape = true := by
  have hpage (scope : Scope) : Part.iteratesAll scope pageShape = true := by
    rw [pageShape, Part.iteratesAll_append]
    simp [bubbleShape, Part.iteratesAll, Part.iterates, Part.iteratesBranches,
      iterates_footerShape lookShape fun _ => rfl]
  rcases hpages with hnone | ⟨items, hsome⟩
  · simp [shape, Part.iteratesAll, Part.iterates, Part.after, Term.sense, hnone, itemsOf?]
  · simp [shape, Part.iteratesAll, Part.iterates, Part.after, Term.sense, hsome, itemsOf?, hpage]

end

/-! ## Sound messages -/

section
variable {data : List (String × Json)} (h : (Json.obj data).Sound)
include h

theorem soundOr_sharedHero (key : String) : SoundOr (sharedHero data key) :=
  SoundOr.field (h.field "hero") key

theorem soundOr_sharedStyle (group key : String) : SoundOr (sharedStyle data group key) :=
  SoundOr.field (SoundOr.field (h.field "style") group) key

theorem sound_altText : (altText data).Sound :=
  sound_shown (soundOr_pick (h.field "altText") (soundOr_some (sound_str _)))

omit h in
theorem sound_styled {own shared : Option Json} (hown : SoundOr own) (hshared : SoundOr shared)
    (constant : String) : (styled own shared constant).Sound :=
  sound_shown (soundOr_pick hown (soundOr_pick hshared (soundOr_some (sound_str constant))))

theorem sound_look {item : Json} (hitem : item.Sound) : (look data item).IsSound :=
  ⟨soundOr_pick (hitem.field _)
      (soundOr_pick (soundOr_sharedStyle h _ _) (soundOr_some (sound_str _))),
    soundOr_pick (hitem.field _) (soundOr_sharedStyle h _ _),
    soundOr_pick (hitem.field _)
      (soundOr_pick (soundOr_sharedStyle h _ _) (soundOr_some (sound_str _)))⟩

variable {page : Json} (hpage : page.Sound)
include hpage

theorem sound_heroBlock : (heroBlock data page).Sound := by
  have hurl := sound_shown (hpage.field "imageUrl")
  have hstyled (own shared constant : String) :=
    sound_styled (hpage.field own) (soundOr_sharedHero h shared) constant
  exact sound_obj rfl (by simp [hurl, hstyled])

theorem sound_blocks : ∀ v ∈ blocks data page, v.Sound := by
  have hvalue (key : String) := sound_shown (hpage.field key)
  have hstyled (own group key constant : String) :=
    sound_styled (hpage.field own) (soundOr_sharedStyle h group key) constant
  have hheadline : (headlineBlock data page).Sound :=
    sound_obj rfl (by simp [hvalue, hstyled])
  have hdesc : (descBlock data page).Sound := sound_obj rfl (by simp [hvalue, hstyled])
  unfold blocks
  split_ifs
  all_goals simp [hheadline, hdesc]

theorem sound_bodyBlock : (bodyBlock data page).Sound := by
  have hcolor := sound_styled (hpage.field "bodyBgColor")
    (soundOr_sharedStyle h "bubble" "bodyBgColor") "#ffffff"
  exact sound_obj rfl (by simpa [hcolor, sound_arr] using sound_blocks h hpage)

theorem hasDistinctKeys_bubble {footer : List (String × Json)}
    (hkeys : distinct ((["type", "hero", "body"] : List String) ++ footer.map Prod.fst) = true)
    (hfooter : ∀ f ∈ footer, hasDistinctKeys f.2 = true) :
    hasDistinctKeys (bubble data page footer) = true := by
  refine hasDistinctKeys_obj hkeys fun f hf => ?_
  simp only [List.cons_append, List.nil_append, List.mem_cons] at hf
  rcases hf with rfl | rfl | rfl | hf
  · rfl
  · exact (sound_heroBlock h hpage).keys
  · exact (sound_bodyBlock h hpage).keys
  · exact hfooter f hf

theorem expandWith_bubble {inner : Json → Except Overlay.TooDeep Json}
    {footer more : List (String × Json)} (hno : Fields.get? footer Overlay.marker = none)
    (hfooter : Overlay.expandFields inner footer = .ok more) :
    Overlay.expandWith inner (bubble data page footer) = .ok (bubble data page more) := by
  have hstart : (Json.obj [("type", .str "bubble"), ("hero", heroBlock data page),
      ("body", bodyBlock data page)]).Sound :=
    sound_obj rfl (by simp [sound_heroBlock h hpage, sound_bodyBlock h hpage])
  exact Overlay.expandWith_obj hno (Overlay.expandFields_append _ hstart.unmarked hfooter)

omit hpage

theorem hasDistinctKeys_layout {bubbles : List Json}
    (hbubbles : ∀ b ∈ bubbles, hasDistinctKeys b = true) :
    hasDistinctKeys (layout data bubbles) = true := by
  have htext := (sound_altText h).keys
  have hcontents : hasDistinctKeys (.arr bubbles) = true := by
    rw [hereditary_hasDistinctKeys.arr, List.all_eq_true]
    exact hbubbles
  refine hasDistinctKeys_obj rfl ?_
  simp only [List.forall_mem_cons]
  refine ⟨rfl, htext, hasDistinctKeys_obj rfl ?_, by simp⟩
  simp only [List.forall_mem_cons]
  exact ⟨rfl, hcontents, by simp⟩

theorem expandWith_layout {inner : Json → Except Overlay.TooDeep Json} {bubbles more : List Json}
    (hbubbles : Overlay.expandItems inner bubbles = .ok more) :
    Overlay.expandWith inner (layout data bubbles) = .ok (layout data more) := by
  have hstart : (Json.obj [("type", .str "flex"), ("altText", altText data)]).Sound :=
    sound_obj rfl (by simp [sound_altText h])
  refine Overlay.expandWith_obj rfl (Overlay.expandFields_append [_, _] hstart.unmarked
    (Overlay.expandFields_single (by decide) (Overlay.expandWith_obj rfl ?_)))
  exact Overlay.expandFields_append [("type", .str "carousel")] rfl
    (Overlay.expandFields_single (by decide) (Overlay.expandWith_arr hbubbles))

end

/-! ## Rendering -/

/-- The text of the carousel is rendered as one bubble for each page. -/
theorem render_carousel {limit : ℤ} (hlimit : 1 ≤ limit) {data : List (String × Json)}
    (hpages : Fields.get? data "pages" = none ∨
      ∃ items, Fields.get? data "pages" = some (.arr items))
    (h : (Json.obj data).Sound) (hoverlay : (overlayOf (.obj data)).bind Overlay.patchOf? = none)
    (hpatches : ∀ page ∈ pagesOf data,
      arePatchesUnmarked ((itemsOf? (page.get? "cta")).getD []) = true) :
    render limit (some .grammar) text (.obj data) = ⟨some (message data), []⟩ := by
  have hpage {page : Json} (hmem : page ∈ pagesOf data) : page.Sound :=
    sound_item (h.field "pages") hmem
  have hkeys : hasDistinctKeys (layout data ((pagesOf data).map fun page => bubble data page
      (footerFields (fun item => markedButton (look data item) item) (page.get? "cta")))) = true := by
    refine hasDistinctKeys_layout h fun b hb => ?_
    obtain ⟨page, hmem, rfl⟩ := List.mem_map.1 hb
    refine hasDistinctKeys_bubble h (hpage hmem) ?_ (hasDistinctKeys_footerFields
      ((hpage hmem).field "cta") fun item hitem => sound_look h hitem)
    unfold footerFields
    split_ifs <;> rfl
  obtain ⟨levels, hlevels⟩ : ∃ levels, limit.toNat = levels + 1 := ⟨limit.toNat - 1, by omega⟩
  have hexpand := expandWith_layout h (Overlay.expandItems_map fun page hmem =>
    expandWith_bubble h (hpage hmem) (get?_footerFields _) (expandFields_footerFields
      ((hpage hmem).field "cta") (fun item hitem => sound_look h hitem)
      (fun v hv => Overlay.expandLevels_of_lacksKey limit levels hv) (hpatches page hmem)))
  rw [render_of_shape hasShape_text h (iterates_shape hpages) spelled_shape hkeys
    (by rw [Overlay.expand, hlevels]; exact hexpand) hoverlay]
  rfl

theorem render_carousel_sample :
    render 1 (some .grammar) text (.obj sample) = ⟨some (message sample), []⟩ :=
  render_carousel (by decide) (.inr ⟨_, rfl⟩)
    ⟨by decide +kernel, by decide +kernel, by decide +kernel, by decide +kernel⟩ rfl
    (by decide +kernel)

end FlexForm.Catalog.Carousel
