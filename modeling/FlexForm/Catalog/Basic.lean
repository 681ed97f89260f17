import FlexForm.Catalog.Carousel
import FlexForm.Catalog.Poster
import FlexForm.Template

/-! # The catalog

The templates that are always at hand.

* `Catalog.carousel`, `Catalog.poster`: a message of several cards, and one of a single card.
* `Catalog.templates`: both, in this order.
-/

namespace FlexForm.Catalog
set_option autoImplicit false

def carousel : Template :=
  { id := some "builtin-carousel"
    name := "Multi-page carousel"
    description := "Carousel for product showcases and multi-page messages. Each page "
      ++ "can override sizes, colors and buttons; supports JSON patches."
    status := .published
    version := 2
    text := Carousel.text
    schema := Carousel.schema
    sample := some Carousel.sample
    mode := .grammar }

def poster : Template :=
  { id := some "builtin-single-poster"
    name := "Single event poster"
    description := "Single-page poster for event promotion. Supports sizes, colors, "
      ++ "button styles and JSON patches."
    status := .published
    version := 2
    text := Poster.text
    schema := Poster.schema
    sample := some Poster.sample
    mode := .grammar }

def templates : List Template := [carousel, poster]

end FlexForm.Catalog
