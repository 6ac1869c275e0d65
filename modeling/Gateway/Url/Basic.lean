import Gateway.Url.Host

/-! URLs in the parts that their text is made of. The path is either a list of segments behind slashes or,
    under schemes such as `mailto`, a text that is no such list. A port that the scheme implies is not
    kept. -/

namespace Gateway
namespace Url

inductive Route
  /-- Segments with a slash in front of each. -/
  | segments (segments : List String)
  /-- A text that is not made of segments. -/
  | plain (text : String)
deriving DecidableEq, Repr

/-- Credentials in front of a host. -/
structure Userinfo where
  username : String
  password : Option String
deriving DecidableEq, Repr

/-- What stands behind the double slash of a URL. -/
structure Authority where
  userinfo : Option Userinfo
  host : Host
  port : Option UInt16
deriving DecidableEq, Repr

end Url

structure Url where
  scheme : String
  authority : Option Url.Authority
  route : Url.Route
  query : Option String
  fragment : Option String
deriving DecidableEq, Repr

namespace Url

/-- The schemes that browsers give authorities and paths of a form of their own. -/
def isSpecial (scheme : String) : Bool := ["http", "https", "ws", "wss", "ftp", "file"].contains scheme

/-- The port that a scheme implies. -/
def defaultPort? : String → Option UInt16
  | "http" => some 80
  | "ws" => some 80
  | "https" => some 443
  | "wss" => some 443
  | "ftp" => some 21
  | _ => none

/-! ### Parts -/

/-- The text of the host, unless it is empty. -/
def hostText? (url : Url) : Option String :=
  url.authority.bind fun a => if a.host.text = "" then none else some a.host.text

def port? (url : Url) : Option UInt16 := url.authority.bind (·.port)

def path (url : Url) : String :=
  match url.route with
  | .segments segments => String.join (segments.map ("/" ++ ·))
  | .plain text => text

/-- The host, with the port behind it where the scheme does not imply it. -/
def site? (url : Url) : Option String :=
  url.hostText?.map fun host =>
    match url.port? with
    | some port => s!"{host}:{port}"
    | none => host

/-! ### Text -/

def Userinfo.text (u : Userinfo) : String :=
  match u.password with
  | some password => s!"{u.username}:{password}@"
  | none => s!"{u.username}@"

def Authority.text (a : Authority) : String :=
  let userinfo := (a.userinfo.map Userinfo.text).getD ""
  let port := (a.port.map fun port => s!":{port}").getD ""
  s!"//{userinfo}{a.host.text}{port}"

/-- Without an authority, a path whose first segment is empty is kept from looking like one. -/
def text (url : Url) : String :=
  let authority := match url.authority with
    | some a => a.text
    | none => if "//".toList.isPrefixOf url.path.toList then "/." else ""
  let query := (url.query.map ("?" ++ ·)).getD ""
  let fragment := (url.fragment.map ("#" ++ ·)).getD ""
  s!"{url.scheme}:{authority}{url.path}{query}{fragment}"

end Url
end Gateway
