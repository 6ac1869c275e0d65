import Gateway.Text.Blank
import Gateway.Url.Reading

/-! What a link refers to. A link of a page refers to the page's own site if it names no host or the host
    and port that the page came from. `ofLink?` gives the path, query and fragment of such a link and
    nothing for any other. -/

namespace Gateway.Link

/-- The parts of a link that stay when its host is replaced. -/
structure Reference where
  path : String
  query : Option String
  fragment : Option String
deriving DecidableEq, Repr

namespace Reference

/-- A URL refers to the site of `source` over the web only. -/
def ofUrl? (source url : Url) : Option Reference :=
  if url.scheme = "http" ∨ url.scheme = "https" then
    match url.site?, source.site? with
    | some site, some own =>
      if site = own then some { path := url.path, query := url.query, fragment := url.fragment } else none
    | _, _ => none
  else none

/-- Cuts a link without scheme and host. -/
def cut (link : List Char) : Reference :=
  let (rest, fragment) := Text.cutAt '#' link
  let (path, query) := Text.cutAt '?' rest
  { path := String.ofList path, query := query.map String.ofList, fragment := fragment.map String.ofList }

/-- The reference of a link that stands on a page of `source`, blanks around it aside. A link behind two
    slashes has the scheme of the page. -/
def ofLink? (source : Url) (link : List Char) : Option Reference :=
  if (Url.scheme? link).isSome then (Url.ofChars link).toOption.bind (ofUrl? source)
  else if "//".toList.isPrefixOf link then
    (Url.ofChars (source.scheme.toList ++ ':' :: link)).toOption.bind (ofUrl? source)
  else some (cut link)

end Reference
end Gateway.Link
