import Gateway.Http.Headers
import Gateway.Text.Trim

/-! Media types. Only the type in front of the parameters counts, without regard to case, and however the
    parameters look. -/

namespace Gateway.Http.Headers

/-- The fields say that the body is a page. -/
def isHtml (h : Headers) : Bool :=
  (h.text? "content-type").any fun value =>
    let essence := (Text.cutAt ';' value.toList).1
    Text.sameCaseless (Text.trim (fun c => c == ' ' || c == '\t') essence) "text/html".toList

end Gateway.Http.Headers
