import FlexForm.Schema.Basic

/-! # Parts of the catalog's forms

Choices, fields and sections that several forms have.
-/

namespace FlexForm.Catalog
set_option autoImplicit false

/-! ## Choices -/

def textSizes : Options := .plain ["xxs", "xs", "sm", "md", "lg", "xl", "xxl", "3xl", "4xl", "5xl"]

def textWeights : Options := .plain ["regular", "bold"]

def aspectRatios : Options := .plain ["1:1", "4:3", "16:9", "20:13", "2:3"]

def aspectModes : Options := .plain ["cover", "fit"]

def buttonStyles : Options := .plain ["primary", "secondary", "link"]

def buttonHeights : Options := .plain ["sm", "md", "lg"]

def actionOptions : Options :=
  .labelled [
    ⟨"Open link (uri)", "uri"⟩,
    ⟨"Send text (message)", "message"⟩,
    ⟨"Send data (postback)", "postback"⟩]

/-! ## Fields and sections -/

/-- The condition that a button does what is named. -/
def whenAction (action : String) : Option Condition := some ⟨"actionType", .str action⟩

def buttonFields : List Field := [
  .plain { key := "label", label := "Button text", required := true,
           constraints := { maxLength := some 20 } } .text,
  .select { key := "actionType", label := "Button action", required := true,
            default := .str "uri" } actionOptions,
  .plain { key := "url", label := "Link (uri)",
           constraints := { httpsOnly := true, requiredIf := whenAction "uri" } } .url,
  .plain { key := "text", label := "Text to send (message)",
           constraints := { maxLength := some 300, requiredIf := whenAction "message" } } .text,
  .plain { key := "data", label := "Postback data (postback)",
           constraints := { maxLength := some 300, requiredIf := whenAction "postback" } } .text,
  .select { key := "style", label := "Style", default := .str "primary" } buttonStyles,
  .plain { key := "color", label := "Button color (primary/secondary)" } .color,
  .select { key := "height", label := "Height", default := .str "sm" } buttonHeights,
  .plain { key := "buttonPatch", label := "Advanced: button JSON patch",
           help := some ("Extra Flex button properties such as margin, gravity, flex or "
             ++ "action.altUri.") } .json]

/-- What the page shows on which a message is shared. -/
def sharePage (primaryText : String) : Section :=
  { id := "shareUi"
    title := "Share page"
    body := .plain none [
        .plain { key := "shareUi.iconUrl", label := "Share page icon",
                 constraints := { httpsOnly := true } } .imageUrl,
        .plain { key := "shareUi.primaryButtonText", label := "Share button text",
                 default := .str primaryText, constraints := { maxLength := some 12 } } .text,
        .plain { key := "shareUi.moreText", label := "Expand preview text",
                 default := .str "View content", constraints := { maxLength := some 12 } } .text] }

def advanced : Section :=
  { id := "advanced"
    title := "Advanced"
    body := .plain none [
        .plain { key := "advanced.messagePatch", label := "Whole message JSON patch",
                 help := some "Deep-merged into the rendered Flex message last." } .json] }

end FlexForm.Catalog
