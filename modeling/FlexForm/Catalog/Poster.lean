import FlexForm.Catalog.Parts

/-! # The poster

A message of one card, which announces an event.

* `Poster.schema`: the form.
* `Poster.text`: the text of the template.
* `Poster.sample`: example data.
-/

namespace FlexForm.Catalog.Poster
set_option autoImplicit false

/-! ## The form -/

def basics : Section :=
  { id := "meta"
    title := "Basics"
    body := .plain none [
        .plain { key := "altText", label := "altText (notification summary)", required := true,
                 default := .str "View event poster",
                 constraints := { maxLength := some 60 } } .text] }

def hero : Section :=
  { id := "hero"
    title := "Hero image"
    body := .plain none [
        .plain { key := "heroImageUrl", label := "Hero image URL", required := true,
                 constraints := { httpsOnly := true } } .imageUrl,
        .select { key := "heroAspectRatio", label := "Aspect ratio",
                  default := .str "20:13" } aspectRatios,
        .select { key := "heroAspectMode", label := "Aspect mode",
                  default := .str "cover" } aspectModes] }

def content : Section :=
  { id := "content"
    title := "Content"
    body := .plain none [
        .plain { key := "title", label := "Title", required := true,
                 constraints := { maxLength := some 40 } } .text,
        .select { key := "titleSize", label := "Title size", default := .str "xl" } textSizes,
        .plain { key := "titleColor", label := "Title color", default := .str "#111111" } .color,
        .plain { key := "description", label := "Description",
                 constraints := { maxLength := some 400 } } .textarea,
        .select { key := "descriptionSize", label := "Description size",
                  default := .str "sm" } textSizes,
        .plain { key := "descriptionColor", label := "Description color",
                 default := .str "#666666" } .color,
        .plain { key := "date", label := "Date and time",
                 constraints := { maxLength := some 40 } } .text,
        .plain { key := "location", label := "Location",
                 constraints := { maxLength := some 60 } } .text,
        .plain { key := "bodyBgColor", label := "Card background",
                 default := .str "#ffffff" } .color] }

def buttons : Section :=
  { id := "buttons"
    title := "Buttons (CTA)"
    constraints := { minItems := some 0, maxItems := some 4 }
    body := .repeatable "buttons"
      { title := "Button \x7b\x7bindex\x7d\x7d", fields := buttonFields } }

def schema : FormSchema :=
  { version := 2
    title := "Single event poster"
    sections := [basics, hero, content, buttons, sharePage "Share now", advanced] }

/-! ## Example data -/

def sample : List (String × Json) := [
  ("altText", .str "Annual gala invitation"),
  ("heroImageUrl", .str "https://images.unsplash.com/photo-1492684223066-81342ee5ff30?w=1040"),
  ("heroAspectRatio", .str "20:13"),
  ("heroAspectMode", .str "cover"),
  ("title", .str "2026 Annual Gala"),
  ("titleSize", .str "xl"),
  ("titleColor", .str "#111111"),
  ("description", .str "You are warmly invited to our annual gala."),
  ("descriptionSize", .str "sm"),
  ("descriptionColor", .str "#666666"),
  ("date", .str "2026/03/15 14:00-18:00"),
  ("location", .str "Taipei International Convention Center"),
  ("bodyBgColor", .str "#ffffff"),
  ("buttons", .arr [
    .obj [
      ("label", .str "Register"),
      ("actionType", .str "uri"),
      ("url", .str "https://example.com/register"),
      ("style", .str "primary"),
      ("color", .str "#06C755"),
      ("height", .str "sm")],
    .obj [
      ("label", .str "Details"),
      ("actionType", .str "uri"),
      ("url", .str "https://example.com/details"),
      ("style", .str "secondary"),
      ("color", .str "#111111"),
      ("height", .str "sm")]]),
  ("shareUi", .obj [
    ("primaryButtonText", .str "Share now"),
    ("moreText", .str "View content")])]

/-! ## The text -/

def text : String := r##"{
  "type": "flex",
  "altText": {{ json(default(altText, "View event poster")) }},
  "contents": {
    "type": "bubble",
    "size": "mega",
    "hero": {
      "type": "image",
      "url": {{ json(heroImageUrl) }},
      "size": "full",
      "aspectRatio": {{ json(default(heroAspectRatio, "20:13")) }},
      "aspectMode": {{ json(default(heroAspectMode, "cover")) }}
    },
    "body": {
      "type": "box",
      "layout": "vertical",
      "backgroundColor": {{ json(default(bodyBgColor, "#ffffff")) }},
      "contents": [
        {
          "type": "text",
          "text": {{ json(title) }},
          "weight": "bold",
          "size": {{ json(default(titleSize, "xl")) }},
          "color": {{ json(default(titleColor, "#111111")) }},
          "wrap": true
        }
        {% if description %},
        {
          "type": "text",
          "text": {{ json(description) }},
          "size": {{ json(default(descriptionSize, "sm")) }},
          "color": {{ json(default(descriptionColor, "#666666")) }},
          "margin": "md",
          "wrap": true
        }
        {% endif %}
        {% if date %},
        {
          "type": "box",
          "layout": "baseline",
          "margin": "md",
          "contents": [
            {"type": "text", "text": "📅", "size": "sm", "flex": 0},
            {"type": "text", "text": {{ json(date) }}, "size": "sm", "color": "#666666", "margin": "sm", "flex": 1}
          ]
        }
        {% endif %}
        {% if location %},
        {
          "type": "box",
          "layout": "baseline",
          "margin": "sm",
          "contents": [
            {"type": "text", "text": "📍", "size": "sm", "flex": 0},
            {"type": "text", "text": {{ json(location) }}, "size": "sm", "color": "#666666", "margin": "sm", "flex": 1}
          ]
        }
        {% endif %}
      ]
    }
    {% if hasItems(buttons) %},
    "footer": {
      "type": "box",
      "layout": "vertical",
      "spacing": "sm",
      "contents": [
        {% for button in buttons %}
        {% set action_type = default(button.actionType, "uri") %}
        {% set button_style = default(button.style, "primary") %}
        {
          "type": "button",
          "action": {
            "type": {{ json(action_type) }},
            "label": {{ json(button.label) }}
            {% if eq(action_type, "uri") %},
            "uri": {{ json(button.url) }}
            {% elif eq(action_type, "message") %},
            "text": {{ json(button.text) }}
            {% elif eq(action_type, "postback") %},
            "data": {{ json(button.data) }}
            {% endif %}
          },
          "style": {{ json(button_style) }},
          "height": {{ json(default(button.height, "sm")) }}
          {% if and_(ne(button_style, "link"), default(button.color, none)) %},
          "color": {{ json(button.color) }}
          {% endif %}
          {% if button.buttonPatch %},
          "__patch": {{ json(button.buttonPatch) }}
          {% endif %}
        }{% if not loop.last %},{% endif %}
        {% endfor %}
      ]
    }
    {% endif %}
  }
}
"##

end FlexForm.Catalog.Poster
