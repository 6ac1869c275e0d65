import Gateway.Url.Reading

/-! Resolving links. A browser reads a link against the address of the page that it stands on, or against the base
    that the page names. What a link leaves out in front it has from there, and a path without a slash in front goes
    on from where the last segment of that path stands. The pages here have a scheme that browsers know, `file`
    aside. -/

namespace Gateway
namespace Url

/-- What tells sites apart that scripts must not cross. -/
def origin (url : Url) : String × Option Host × Option UInt16 := (url.scheme, url.authority.map (·.host), url.port?)

/-- The segments of a path, none if it is a text of its own. -/
def Route.pieces : Route → List (List Char)
  | .segments all => all.map String.toList
  | .plain _ => []

/-- What stands between the separators of a text. -/
def cutSegments (special : Bool) (cs : List Char) : List (List Char) :=
  (cs.map fun c => if isSeparator special c then '/' else c).splitOn '/'

/-- Where some segments lead, taken one after the other behind those of a place. -/
def walk (place segments : List (List Char)) : List (List Char) := (takeSegments place.reverse segments).reverse

/-- A link without a scheme, or with just that of the page. A link without a path keeps that of the page, and the
    query with it unless it brings one. -/
def resolveRelative (page : Url) (cs : List Char) : Except UrlError Url :=
  let (front, tail) := cutTail true cs
  match front with
  | [] => .ok { page with query := tail.query.or page.query, fragment := tail.fragment }
  | c :: rest =>
    if isSeparator true c then
      if rest.head?.any (isSeparator true) then readSpecial page.scheme cs
      else .ok {
        page with
        route := segmentsRoute (readSegments true rest), query := tail.query, fragment := tail.fragment }
    else .ok {
      page with
      route := segmentsRoute (walk page.route.pieces.dropLast (cutSegments true front))
      query := tail.query, fragment := tail.fragment }

/-- What a link on a page stands for. -/
def resolve (page : Url) (link : List Char) : Except UrlError Url :=
  match scheme? (significant link) with
  | some (scheme, rest) => if scheme = page.scheme then resolveRelative page rest else ofChars link
  | none => resolveRelative page (significant link)

end Url
end Gateway
