/-! The configuration, section by section, with the value that each field has when it is not given. -/

namespace Gateway

namespace Config

/-- The files of the certificate and the key that a listener shows. -/
structure Tls where
  certificate : String
  key : String
deriving DecidableEq, Repr

structure Listener where
  bindAddress : String := "0.0.0.0:9090"
  tls : Option Tls := none
deriving DecidableEq, Repr

/-- The scheme that clients reach a listener by. -/
def Listener.scheme (listener : Listener) : String := if listener.tls.isSome then "https" else "http"

structure Proxy where
  /-- The first segment of proxied paths. -/
  mount : String := "proxy"
  /-- How long bytes of a response may wait, in milliseconds. -/
  flushInterval : Nat := 200
deriving DecidableEq, Repr

/-- Timeouts in seconds. -/
structure Timeouts where
  connect : Nat := 5
  /-- How long a backend may take to begin its response. -/
  request : Nat := 30
deriving DecidableEq, Repr

structure Links where
  /-- Reroot the links of pages. -/
  enabled : Bool := true
  /-- The longest page whose links are rerooted, in bytes: a word of 64 bits. -/
  maxBody : Nat := 10 * 1024 * 1024
  /-- The level that a page is compressed at again. -/
  gzipLevel : Nat := 6
deriving DecidableEq, Repr

inductive DirectoryKind
  | table
  | cluster
deriving DecidableEq, Repr

def DirectoryKind.name : DirectoryKind → String
  | table => "static"
  | cluster => "kubernetes"

structure Pod where
  space : String
  name : String
  ip : Option String
deriving DecidableEq, Repr

structure Service where
  space : String
  name : String
  clusterIp : Option String
  port : Option UInt16
deriving DecidableEq, Repr

structure Directory where
  kind : DirectoryKind := .table
  pods : List Pod := []
  services : List Service := []
deriving DecidableEq, Repr

structure StaticFiles where
  root : Option String := none
  /-- Where the files are mounted. It is a path. -/
  mountPath : String := "/"
  /-- The page that takes the place of answers of status 404. -/
  notFoundPage : Option String := none
deriving DecidableEq, Repr

structure Observability where
  logLevel : String := "info"
  jsonLogs : Bool := false
  metricsEnabled : Bool := false
  metricsAddress : String := "0.0.0.0:9464"
deriving DecidableEq, Repr

end Config

structure Config where
  listener : Config.Listener := {}
  proxy : Config.Proxy := {}
  timeouts : Config.Timeouts := {}
  links : Config.Links := {}
  directory : Config.Directory := {}
  staticFiles : Config.StaticFiles := {}
  observability : Config.Observability := {}
deriving DecidableEq, Repr

end Gateway
