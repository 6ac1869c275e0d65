import Gateway.Command.Arguments
import Gateway.Command.Journal
import Gateway.Config.Loading
import Gateway.Server
import Gateway.Tls.Identity

/-! The program. It reads its command line and its configuration, gets ready to serve, serves until it is told to
    stop, and says so in its journal. Whatever it lacks at the start ends it with an account of that. -/

namespace Gateway.Command

/-- What the program finds around it. -/
structure World where
  /-- The variables of its environment. -/
  setting? : String → Option String
  files : Files
  /-- The address that it gets when it asks to listen at one. -/
  bind : Net.SocketAddress → Except Net.SystemError Net.SocketAddress

/-- Why the program does not start. -/
inductive StartError
  | configuration (error : Config.LoadError)
  /-- The configuration file is a directory. -/
  | noConfigurationFile
  | identity (error : Tls.IdentityError)
  | binding (error : Net.SystemError)
  | routes (error : RouteError)

/-- Why the program ends before it serves. -/
inductive Stop
  | refused (reason : Refusal)
  | failed (error : StartError)

/-! ### Accounts of errors -/

namespace StartError

open Net (SystemError)

def violation (v : Config.Violation) : String :=
  "ValidationError \x7b field: " ++ Text.quote v.field ++ ", message: " ++ Text.quote v.message ++ " \x7d"

/-- An error of a kind, with its reason in written form. -/
def custom (kind reason : String) : String := "Custom \x7b kind: " ++ kind ++ ", error: " ++ reason ++ " \x7d"

def ofConfiguration : Config.LoadError → String
  | .noFile => "Io(" ++ SystemError.noFile.parts ++ ")"
  | .noText => "Io(Error \x7b kind: InvalidData, message: \"stream did not contain valid UTF-8\" \x7d)"
  | .violated violations => "Validation([" ++ ", ".intercalate (violations.map violation) ++ "])"
  | e => "Parse(" ++ Text.quote e.message ++ ")"

def ofIdentity : Tls.IdentityError → String
  | .noSingleKey => custom "Other" "\"private key format not supported\""
  | .unusableKey => custom "Other" "\"unknown or invalid key format\""
  | .noCertificate => custom "Other" "NoCertificatesPresented"
  | .unusableCertificate => custom "Other" "InvalidCertificate(BadEncoding)"
  | .foreignKey => custom "Other" "InconsistentKeys(KeyMismatch)"
  | .brokenCertificates => custom "InvalidData" "\"section end is missing\""
  | .noDocument _ => SystemError.isDirectory.parts
  | e => custom "NotFound" (Text.quote (e.message?.getD ""))

def message : StartError → String
  | configuration e => ofConfiguration e
  | noConfigurationFile => "Io(" ++ SystemError.isDirectory.parts ++ ")"
  | identity e => ofIdentity e
  | binding e => e.parts
  | routes _ => "no such route"

end StartError

/-! ### Getting ready -/

/-- A configuration that the program starts with, and how it keeps its journal. -/
structure Setup where
  config : Config
  filter : Log.Filter
  /-- What is said about the filter. -/
  complaints : List String

/-- The configuration before the rules are looked at. -/
def readConfig (files : Files) : Option String → Except StartError Config
  | none => .ok {}
  | some path =>
    match files path with
    | some .directory => .error .noConfigurationFile
    | some (.document bytes _) => (Config.read (some bytes)).mapError .configuration
    | none => (Config.read none).mapError .configuration

/-- The filter of the environment counts, if it has one, before the level of the configuration. -/
def filterOf (environment : Option String) (level : String) : Log.Filter × List String :=
  match environment.bind Log.Filter.ofText? with
  | some filter => (filter, [])
  | none => Log.Filter.ofLevel level

/-- Reads the command line and the configuration. -/
def configure (world : World) (arguments : List String) : Except Stop Setup := do
  let a ← (Arguments.ofTexts arguments (world.setting? "CONSOLE_PROXY_CONFIG")).mapError .refused
  let config ← (readConfig world.files a.file).mapError .failed
  let config ← (Config.check (a.apply config)).mapError fun e => .failed (.configuration e)
  let (filter, complaints) := filterOf (world.setting? "RUST_LOG") config.observability.logLevel
  return ⟨config, filter, complaints⟩

/-- What is told before the program asks for its address, and what keeps it from doing so. -/
def prepare (world : World) (config : Config) : List Log.Record × Except StartError Table :=
  let metrics := if config.observability.metricsEnabled then
      ((Net.SocketAddress.ofText? config.observability.metricsAddress).map fun address =>
        Journal.metrics address ((world.bind address).map fun _ => ())).toList
    else []
  let table := Table.ofConfig config.directory
  let told := Journal.starting config ++ metrics ++ [Journal.tableLoaded table]
  match config.listener.tls with
  | none => (told, .ok table)
  | some tls =>
    match Tls.Identity.load world.files tls with
    | .ok _ => (told ++ [Journal.certificateLoaded tls.certificate], .ok table)
    | .error e => (told, .error (.identity e))

/-- The address that the program listens at. -/
def listen (world : World) (config : Config) : Except StartError Net.SocketAddress :=
  match Net.SocketAddress.ofText? config.listener.bindAddress with
  | some address => (world.bind address).mapError .binding
  | none => .error (.binding ⟨22, "InvalidInput", "invalid socket address"⟩)

/-! ### Running -/

/-- What the program tells until it is told to stop, or until something keeps it from serving. -/
def records (world : World) (config : Config) : List Log.Record × Option StartError :=
  match prepare world config with
  | (told, .error e) => (told, some e)
  | (told, .ok table) =>
    match listen world config with
    | .error e => (told, some e)
    | .ok address =>
      let told := told ++ Journal.listening address :: Journal.files config.staticFiles
      match Server.build config table.directory world.files with
      | .error e => (told, some (.routes e))
      | .ok _ => (told ++ Journal.serving config address :: Journal.ending, none)

/-- A line of the program's output. -/
inductive Line
  | text (line : String)
  /-- A record of the journal, as a line or as data. -/
  | journal (r : Log.Record) (asData : Bool)

/-- What a run of the program leaves: its output, its complaints, and the status that it exits with. -/
structure Run where
  exit : Nat
  lines : List Line
  complaints : List String

namespace Run

/-- A command line with a mistake is refused; one that asks what the program is gets its answer. -/
def refused (reason : Refusal) (help : List String) : Run :=
  match reason with
  | .usage => ⟨2, [], ["error: unexpected arguments"]⟩
  | .version => ⟨0, [.text ("console-proxy " ++ Journal.version)], []⟩
  | .help => ⟨0, help.map .text, []⟩

def exitOf : Option StartError → Nat
  | none => 0
  | some (.routes _) => 101
  | some _ => 1

/-- A line of a journal keeps to its filter. -/
def ofSetup (world : World) (setup : Setup) : Run :=
  let (told, error) := records world setup.config
  let asData := setup.config.observability.jsonLogs
  ⟨exitOf error, (told.filter setup.filter.passes).map (.journal · asData),
    setup.complaints ++ error.toList.map fun e => "Error: " ++ e.message⟩

end Run

/-- How the program is used, with the path that the environment gives for the configuration file. -/
def help (file : Option String) : List String := [
  "Proxy console traffic to pods and services in the cluster",
  "",
  "Usage: console-proxy [OPTIONS]",
  "",
  "Options:",
  "  -c, --config <CONFIG>          TOML configuration file [env: CONSOLE_PROXY_CONFIG=" ++ file.getD "" ++ "]",
  "      --bind <BIND>              Listen address, e.g. 0.0.0.0:9090",
  "      --mount <MOUNT>            Path keyword in front of proxied requests",
  "      --tls-cert <TLS_CERT>      PEM certificate chain; enables TLS together with --tls-key",
  "      --tls-key <TLS_KEY>        PEM private key",
  "      --static-dir <STATIC_DIR>  Directory of static console assets served at the root",
  "      --log-level <LOG_LEVEL>    ",
  "      --kubernetes               Resolve pods and services against the cluster API",
  "  -h, --help                     Print help",
  "  -V, --version                  Print version"]

/-- A run of the program that is told to stop once it serves. -/
def run (world : World) (arguments : List String) : Run :=
  match configure world arguments with
  | .error (.refused reason) => .refused reason (help (world.setting? "CONSOLE_PROXY_CONFIG"))
  | .error (.failed e) => ⟨1, [], ["Error: " ++ e.message]⟩
  | .ok setup => .ofSetup world setup

end Gateway.Command
