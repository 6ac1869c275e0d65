import Gateway.Html.Markup
import Gateway.Html.Page
import Gateway.Link.Walk

/-! Rerooting the links of a document, from bytes to bytes. -/

namespace Gateway.Link

structure Document where
  html : ByteArray
  /-- The number of links that changed. -/
  links : Nat

def rerootDocument (view : View) (document : ByteArray) : Document :=
  let (page, links) := rerootPage view (Html.Page.ofBytes document)
  { html := (Html.markup page).toUTF8, links }

end Gateway.Link
