import FlexForm.Catalog.Parts

/-! # The carousel

A message of several cards, one for each page of the form.

* `Carousel.schema`: the form.
* `Carousel.text`: the text of the template.
* `Carousel.sample`: example data.
-/

namespace FlexForm.Catalog.Carousel
set_option autoImplicit false

/-! ## The form -/

def basics : Section :=
  { id := "meta"
    title := "Basics"
    body := .plain none [
        .plain { key := "altText", label := "altText (notification summary)", required := true,
                 default := .str "View message", constraints := { maxLength := some 60 } } .text,
        .plain { key := "title", label := "Share page title", required := true,
                 default := .str "Shared message", constraints := { maxLength := some 40 } } .text,
        .plain { key := "subtitle", label := "Share page subtitle",
                 constraints := { maxLength := some 60 } } .text] }

/-- How images are shown, unless a page says otherwise. -/
def heroDefaults : Section :=
  { id := "hero"
    title := "Image defaults (overridable per page)"
    body := .plain none [
        .select { key := "hero.aspectRatio", label := "Aspect ratio",
                  default := .str "1:1" } aspectRatios,
        .select { key := "hero.aspectMode", label := "Aspect mode",
                  default := .str "cover" } aspectModes] }

/-- How texts and buttons look, unless a page says otherwise. -/
def styleDefaults : Section :=
  { id := "style"
    title := "Style defaults (overridable per page)"
    body := .plain none [
        .select { key := "style.headline.size", label := "Headline size",
                  default := .str "lg" } textSizes,
        .select { key := "style.headline.weight", label := "Headline weight",
                  default := .str "bold" } textWeights,
        .plain { key := "style.headline.color", label := "Headline color",
                 default := .str "#111111" } .color,
        .select { key := "style.desc.size", label := "Body text size",
                  default := .str "sm" } textSizes,
        .plain { key := "style.desc.color", label := "Body text color",
                 default := .str "#666666" } .color,
        .plain { key := "style.bubble.bodyBgColor", label := "Card background",
                 default := .str "#ffffff" } .color,
        .select { key := "style.button.style", label := "Default button style",
                  default := .str "primary" } buttonStyles,
        .plain { key := "style.button.color", label := "Button color (primary/secondary)",
                 default := .str "#06C755",
                 help := some "Link buttons usually need no color." } .color,
        .select { key := "style.button.height", label := "Button height",
                  default := .str "sm" } buttonHeights] }

def pages : Section :=
  { id := "pages"
    title := "Pages"
    constraints := { minItems := some 1, maxItems := some 10 }
    body := .repeatable "pages" { title := "Page \x7b\x7bindex\x7d\x7d", fields := [
        .plain { key := "headline", label := "Headline", required := true,
                 constraints := { maxLength := some 40 } } .text,
        .select { key := "headlineSize", label := "Headline size (override)" } textSizes,
        .select { key := "headlineWeight", label := "Headline weight (override)" } textWeights,
        .plain { key := "headlineColor", label := "Headline color (override)" } .color,
        .plain { key := "desc", label := "Body text",
                 constraints := { maxLength := some 300 } } .textarea,
        .select { key := "descSize", label := "Body text size (override)" } textSizes,
        .plain { key := "descColor", label := "Body text color (override)" } .color,
        .plain { key := "imageUrl", label := "Image URL", required := true,
                 constraints := { httpsOnly := true } } .imageUrl,
        .select { key := "imageAspectRatio", label := "Aspect ratio (override)" } aspectRatios,
        .select { key := "imageAspectMode", label := "Aspect mode (override)" } aspectModes,
        .plain { key := "bodyBgColor", label := "Card background (override)" } .color,
        .repeatable { key := "cta", label := "Buttons (CTA)",
                      constraints := { minItems := some 0, maxItems := some 4 } } ""
          buttonFields] } }

def schema : FormSchema :=
  { version := 2
    title := "Multi-page carousel"
    sections := [basics, heroDefaults, styleDefaults, pages, sharePage "Pick friends", advanced] }

/-! ## Example data -/

def sample : List (String × Json) := [
  ("altText", .str "2026 calendar"),
  ("title", .str "2026 Calendar"),
  ("subtitle", .str "Tap to share with friends or groups"),
  ("hero", .obj [
    ("aspectRatio", .str "1:1"),
    ("aspectMode", .str "cover")]),
  ("style", .obj [
    ("headline", .obj [
      ("size", .str "xl"),
      ("weight", .str "bold"),
      ("color", .str "#111111")]),
    ("desc", .obj [
      ("size", .str "sm"),
      ("color", .str "#666666")]),
    ("bubble", .obj [
      ("bodyBgColor", .str "#ffffff")]),
    ("button", .obj [
      ("style", .str "primary"),
      ("color", .str "#06C755"),
      ("height", .str "sm")])]),
  ("pages", .arr [
    .obj [
      ("headline", .str "January picks"),
      ("desc", .str "A fresh start for the new year."),
      ("imageUrl", .str "https://images.unsplash.com/photo-1467810563316-b5476525c0f9?w=1040"),
      ("cta", .arr [
        .obj [
          ("label", .str "Learn more"),
          ("actionType", .str "uri"),
          ("url", .str "https://example.com/jan"),
          ("style", .str "primary"),
          ("color", .str "#06C755"),
          ("height", .str "sm")]])],
    .obj [
      ("headline", .str "February specials"),
      ("headlineColor", .str "#C2185B"),
      ("desc", .str "Valentine's week events are live."),
      ("imageUrl", .str "https://images.unsplash.com/photo-1518199266791-5375a83190b7?w=1040"),
      ("cta", .arr [
        .obj [
          ("label", .str "See events"),
          ("actionType", .str "uri"),
          ("url", .str "https://example.com/feb"),
          ("style", .str "secondary"),
          ("color", .str "#111111"),
          ("height", .str "sm")]])]]),
  ("shareUi", .obj [
    ("primaryButtonText", .str "Pick friends"),
    ("moreText", .str "View content")])]

/-! ## The text -/

def text : String := r##"{
  "type": "flex",
  "altText": {{ json(default(altText, "View message")) }},
  "contents": {
    "type": "carousel",
    "contents": [
      {% for page in pages %}
      {
        "type": "bubble",
        "hero": {
          "type": "image",
          "url": {{ json(page.imageUrl) }},
          "size": "full",
          "aspectRatio": {{ json(default(page.imageAspectRatio, default(hero.aspectRatio, "1:1"))) }},
          "aspectMode": {{ json(default(page.imageAspectMode, default(hero.aspectMode, "cover"))) }}
        },
        "body": {
          "type": "box",
          "layout": "vertical",
          "backgroundColor": {{ json(default(page.bodyBgColor, default(style.bubble.bodyBgColor, "#ffffff"))) }},
          "contents": [
            {
              "type": "text",
              "text": {{ json(page.headline) }},
              "wrap": true,
              "weight": {{ json(default(page.headlineWeight, default(style.headline.weight, "bold"))) }},
              "size": {{ json(default(page.headlineSize, default(style.headline.size, "lg"))) }},
              "color": {{ json(default(page.headlineColor, default(style.headline.color, "#111111"))) }}
            }{% if page.desc %},
            {
              "type": "text",
              "text": {{ json(page.desc) }},
              "wrap": true,
              "margin": "md",
              "size": {{ json(default(page.descSize, default(style.desc.size, "sm"))) }},
              "color": {{ json(default(page.descColor, default(style.desc.color, "#666666"))) }}
            }{% endif %}
          ]
        }
        {% if hasItems(page.cta) %},
        "footer": {
          "type": "box",
          "layout": "vertical",
          "spacing": "sm",
          "contents": [
            {% for button in page.cta %}
            {% set action_type = default(button.actionType, "uri") %}
            {% set button_style = default(button.style, default(style.button.style, "primary")) %}
            {% set button_color = default(button.color, style.button.color) %}
            {
              "type": "button",
              "action": {
                "type": {{ json(action_type) }},
                "label": {{ json(button.label) }}
                {% if eq(action_type, "uri") %},
                "uri": {{ json(button.url) }}
                {% elif eq(action_type, "message") %},
                "text": {{ json(button.text) }}
                {% elif eq(action_type, "postback") %},
                "data": {{ json(button.data) }}
                {% endif %}
              },
              "style": {{ json(button_style) }},
              "height": {{ json(default(button.height, default(style.button.height, "sm"))) }}
              {% if and_(ne(button_style, "link"), default(button_color, none)) %},
              "color": {{ json(button_color) }}
              {% endif %}
              {% if button.buttonPatch %},
              "__patch": {{ json(button.buttonPatch) }}
              {% endif %}
            }{% if not loop.last %},{% endif %}
            {% endfor %}
          ]
        }
        {% endif %}
      }{% if not loop.last %},{% endif %}
      {% endfor %}
    ]
  }
}
"##

end FlexForm.Catalog.Carousel
