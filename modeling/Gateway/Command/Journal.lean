import Gateway.Config.Basic
import Gateway.Directory.Table
import Gateway.Log.Filter
import Gateway.Net.Address
import Gateway.Net.SystemError
import Gateway.Text.Quoted

/-! What the program tells of its start and its end. -/

namespace Gateway.Command

namespace Journal

open Log

def version : String := "0.1.0"

def directoryName : Config.DirectoryKind → String
  | .table => "Static"
  | .cluster => "Kubernetes"

/-- The program starts with a configuration. -/
def starting (config : Config) : List Record := [
  { level := .info, source := .program, message := "console-proxy v" ++ version ++ " starting" },
  { level := .info, source := .program, message := "Configuration loaded", fields := [
      ("bind_address", .text config.listener.bindAddress), ("mount", .text config.proxy.mount),
      ("directory", .text (directoryName config.directory.kind)),
      ("request_timeout_secs", .number config.timeouts.request), ("rewrite", .flag config.links.enabled)] }]

/-- What becomes of the address that metrics are read at. -/
def metrics (address : Net.SocketAddress) : Except Net.SystemError Unit → Record
  | .ok _ => {
    level := .info, source := .metrics, message := "Metrics endpoint listening"
    fields := [("address", .text address.text)] }
  | .error e => {
    level := .error, source := .metrics, message := "Failed to install metrics exporter", fields := [
      ("address", .text address.text), ("error", .text ("failed to create HTTP listener: " ++ e.text))] }

def tableLoaded (table : Table) : Record := {
  level := .debug, source := .directory, message := "Static directory loaded", fields := [
    ("pods", .number table.pods.entries.length), ("services", .number table.services.entries.length)] }

def certificateLoaded (path : String) : Record := {
  level := .info, source := .tls, message := "TLS certificate loaded"
  fields := [("cert", .text (Text.quotePath path))] }

def listening (address : Net.SocketAddress) : Record := {
  level := .info, source := .program, message := "Listening for connections"
  fields := [("address", .text address.text)] }

/-- The files that are served, if any are. -/
def files (config : Config.StaticFiles) : List Record := config.root.toList.map fun root => {
  level := .info, source := .server, message := "Serving static files", fields := [
    ("root", .text root), ("prefix", .text config.mountPath)] }

def serving (config : Config) (address : Net.SocketAddress) : Record := {
  level := .info, source := .server
  message := (if config.listener.tls.isSome then "HTTPS" else "HTTP") ++ " server starting"
  fields := [("address", .text address.text), ("mount", .text config.proxy.mount)] }

/-- The program ends because it was told to. -/
def ending : List Record := [
  { level := .info, source := .signals, message := "Shutdown signal received" },
  { level := .info, source := .server, message := "HTTP server stopped" },
  { level := .info, source := .program, message := "Shutdown complete" }]

end Journal
end Gateway.Command
