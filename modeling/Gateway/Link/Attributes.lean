/-! The attributes of a page that hold links, by the element that they belong to. Addresses inside style
    sheets are none of them. -/

namespace Gateway.Link

def attributeTable : List (String × List String) := [
  ("a", ["href"]),
  ("applet", ["codebase"]),
  ("area", ["href"]),
  ("audio", ["src"]),
  ("base", ["href"]),
  ("blockquote", ["cite"]),
  ("body", ["background"]),
  ("button", ["formaction"]),
  ("command", ["icon"]),
  ("del", ["cite"]),
  ("embed", ["src"]),
  ("form", ["action"]),
  ("frame", ["longdesc", "src"]),
  ("head", ["profile"]),
  ("html", ["manifest"]),
  ("iframe", ["longdesc", "src"]),
  ("img", ["longdesc", "src", "usemap"]),
  ("input", ["src", "usemap", "formaction"]),
  ("ins", ["cite"]),
  ("link", ["href"]),
  ("object", ["classid", "codebase", "data", "usemap"]),
  ("q", ["cite"]),
  ("script", ["src"]),
  ("source", ["src"]),
  ("video", ["poster", "src"])]

/-- The link attributes of an element, if it has any. -/
def attributes? (element : String) : Option (List String) := attributeTable.lookup element

end Gateway.Link
