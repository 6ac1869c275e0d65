import Gateway.Html.Node
import Gateway.Url.Resolution

/-! The elements of a page, and the base that it sets for its links. The first `base` element with an address sets it,
    wherever it stands; the address is a link itself, from the page's own address. -/

namespace Gateway.Html

mutual
/-- The elements of a node with their attributes, in the order of the page: an element, those among its children, those in
    its contents. -/
def elements : Node → List (ElementName × List Attribute)
  | .element name attributes children contents =>
    (name, attributes) :: (elementsAll children ++ elementsAll contents)
  | _ => []

def elementsAll : List Node → List (ElementName × List Attribute)
  | [] => []
  | node :: nodes => elements node ++ elementsAll nodes
end

/-- The address that an element gives, if it is a base. -/
def address? (name : ElementName) (attributes : List Attribute) : Option String :=
  if name = ⟨.html, "base"⟩ then
    (attributes.find? fun a => a.space = .plain ∧ a.name = "href").map (·.value)
  else none

mutual
/-- The address that the first base of a node gives. What a template contains is not part of the page. -/
def baseAddress? : Node → Option String
  | .element name attributes children _ => (address? name attributes).or (baseAddressAll? children)
  | _ => none

def baseAddressAll? : List Node → Option String
  | [] => none
  | node :: nodes => (baseAddress? node).or (baseAddressAll? nodes)
end

/-- The address that the links of a page start from. -/
def baseUrl (source : Url) (page : List Node) : Except UrlError Url :=
  match baseAddressAll? page with
  | some address => source.resolve address.toList
  | none => .ok source

end Gateway.Html
