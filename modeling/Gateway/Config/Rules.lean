import Gateway.Config.Basic
import Gateway.Net.Address

/-! The rules that a configuration has to keep beyond its form. `violations` gives the violated ones in the
    order of the sections, each with its field and what is wrong; an accepted configuration has none. The
    entries of the directory are looked at only where it is a table. -/

namespace Gateway.Config

/-- A violated rule. -/
structure Violation where
  /-- The field, behind its section and a dot. -/
  field : String
  message : String
deriving DecidableEq, Repr

namespace Violation

def text (v : Violation) : String := v.field ++ ": " ++ v.message

/-- The violation, if the rule is violated. -/
def when (violated : Bool) (field message : String) : List Violation := if violated then [⟨field, message⟩] else []

end Violation

open Violation

/-! ### Sections -/

def isSocketAddress (text : String) : Bool := (Net.SocketAddress.ofText? text).isSome

def isIpAddress (text : String) : Bool := (Net.IpAddress.ofText? text).isSome

def notSocketAddress (text : String) : String := "'" ++ text ++ "' is not a socket address"

def Listener.violations (listener : Listener) : List Violation :=
  when (!isSocketAddress listener.bindAddress) "listener.bind_address" (notSocketAddress listener.bindAddress) ++
  match listener.tls with
  | none => []
  | some tls =>
    when (tls.certificate == "") "listener.tls.cert_path" "must not be empty" ++
    when (tls.key == "") "listener.tls.key_path" "must not be empty"

def Proxy.violations (proxy : Proxy) : List Violation :=
  when (proxy.mount == "") "proxy.mount" "must not be empty" ++
  when (proxy.mount.toList.contains '/') "proxy.mount" "must be a single path segment"

def Timeouts.violations (timeouts : Timeouts) : List Violation :=
  when (timeouts.request == 0) "timeouts.request_secs" "must be greater than 0" ++
  when (timeouts.connect == 0) "timeouts.connect_secs" "must be greater than 0"

def Links.violations (links : Links) : List Violation :=
  when (links.maxBody == 0) "rewrite.max_body_bytes" "must be greater than 0" ++
  when (links.gzipLevel > 9) "rewrite.gzip_level" "must be between 0 and 9"

/-- An address that is given has to be one. -/
def ipViolations (field : String) : Option String → List Violation
  | none => []
  | some ip => when (!isIpAddress ip) field ("'" ++ ip ++ "' is not an IP address")

def Pod.violations (pod : Pod) (i : Nat) : List Violation := ipViolations s!"directory.pods[{i}].ip" pod.ip

def Service.violations (service : Service) (i : Nat) : List Violation :=
  ipViolations s!"directory.services[{i}].cluster_ip" service.clusterIp ++
  when (service.port == some 0) s!"directory.services[{i}].port" "must be greater than 0"

def Directory.violations (directory : Directory) : List Violation :=
  match directory.kind with
  | .table =>
    directory.pods.zipIdx.flatMap (fun (pod, i) => pod.violations i) ++
    directory.services.zipIdx.flatMap (fun (service, i) => service.violations i)
  | .cluster => [⟨"directory.kind", "kubernetes directory requires the \u0060kubernetes\u0060 feature"⟩]

def Observability.violations (observability : Observability) : List Violation :=
  when (observability.metricsEnabled && !isSocketAddress observability.metricsAddress)
    "observability.metrics_address" (notSocketAddress observability.metricsAddress)

def StaticFiles.violations (files : StaticFiles) : List Violation :=
  when (files.mountPath.toList.head? != some '/') "static_files.prefix" "must start with '/'"

/-! ### All of them -/

def violations (config : Config) : List Violation :=
  config.listener.violations ++ config.proxy.violations ++ config.timeouts.violations ++
  config.links.violations ++ config.directory.violations ++ config.observability.violations ++
  config.staticFiles.violations

end Gateway.Config
