import Gateway.Config.Basic

/-! The command line. Each option is given at most once, and takes a value behind it or behind an equals sign,
    unless it is a switch. Options overrule the configuration file. -/

namespace Gateway.Command

structure Arguments where
  /-- The path of the configuration file. -/
  file : Option String := none
  bindAddress : Option String := none
  mount : Option String := none
  certificate : Option String := none
  key : Option String := none
  staticRoot : Option String := none
  logLevel : Option String := none
  /-- Backends are those of the cluster. -/
  cluster : Bool := false
deriving DecidableEq, Repr

/-- Why a command line is not carried out. -/
inductive Refusal
  /-- It is no command line of this program. -/
  | usage
  /-- It asks what the program is. -/
  | version
  | help
deriving DecidableEq, Repr

namespace Arguments

/-- An option that takes a value. -/
structure Valued where
  name : String
  get : Arguments → Option String
  set : String → Arguments → Arguments

def valued : List Valued := [
  ⟨"config", (·.file), fun value a => { a with file := some value }⟩,
  ⟨"bind", (·.bindAddress), fun value a => { a with bindAddress := some value }⟩,
  ⟨"mount", (·.mount), fun value a => { a with mount := some value }⟩,
  ⟨"tls-cert", (·.certificate), fun value a => { a with certificate := some value }⟩,
  ⟨"tls-key", (·.key), fun value a => { a with key := some value }⟩,
  ⟨"static-dir", (·.staticRoot), fun value a => { a with staticRoot := some value }⟩,
  ⟨"log-level", (·.logLevel), fun value a => { a with logLevel := some value }⟩]

/-- What is next to do with an option. -/
inductive Found
  | value (option : Valued) (value : String)
  /-- The value is the next argument. -/
  | awaits (option : Valued)
  | switch
  | refused (reason : Refusal)

/-- The option that a name stands for, and the value that is given with it. -/
def named (name : String) (value : Option String) : Found :=
  match valued.find? (·.name == name) with
  | some option => value.elim (.awaits option) (.value option)
  | none =>
    if value.isSome then .refused .usage
    else if name = "kubernetes" then .switch
    else if name = "help" then .refused .help
    else if name = "version" then .refused .version
    else .refused .usage

/-- The option that short options stand for; what follows the first of them may be its value. -/
def short : List Char → Found
  | 'h' :: _ => .refused .help
  | 'V' :: _ => .refused .version
  | ['c'] => named "config" none
  | 'c' :: '=' :: value => named "config" (some (String.ofList value))
  | 'c' :: value => named "config" (some (String.ofList value))
  | _ => .refused .usage

def long (cs : List Char) : Found :=
  let name := String.ofList (cs.takeWhile (· != '='))
  match cs.dropWhile (· != '=') with
  | _ :: value => named name (some (String.ofList value))
  | [] => named name none

/-- The option that an argument stands for. Arguments that are no options mean nothing. -/
def found (argument : String) : Found :=
  match argument.toList with
  | '-' :: '-' :: cs => long cs
  | '-' :: c :: cs => short (c :: cs)
  | _ => .refused .usage

/-- An argument that cannot be a value, since it begins as an option does. -/
def isOption (argument : String) : Bool := argument.toList.head? == some '-' && argument != "-"

/-- Takes the value of an option that has none yet. A path is never empty. -/
def take (a : Arguments) (option : Valued) (value : String) : Except Refusal Arguments :=
  if (option.get a).isSome ∨ option.name = "config" ∧ value = "" then .error .usage else .ok (option.set value a)

/-- Reads arguments one after the other. -/
def read (a : Arguments) : List String → Except Refusal Arguments
  | [] => .ok a
  | ["--"] => .ok a
  | argument :: rest =>
    match found argument with
    | .refused reason => .error reason
    | .switch => if a.cluster then .error .usage else read { a with cluster := true } rest
    | .value option value => do read (← a.take option value) rest
    | .awaits option =>
      match rest with
      | value :: rest => if isOption value then .error .usage else do read (← a.take option value) rest
      | [] => .error .usage

/-- The command line with the path that the environment gives for the configuration file, which counts if the
    arguments give none. A certificate needs a key, and a key a certificate. -/
def ofTexts (arguments : List String) (file : Option String) : Except Refusal Arguments := do
  let a ← read {} arguments
  let a ← match a.file, file with
    | none, some "" => .error .usage
    | none, some path => .ok { a with file := some path }
    | _, _ => .ok a
  if a.certificate.isSome = a.key.isSome then .ok a else .error .usage

/-- What the command line makes of a configuration. -/
def apply (a : Arguments) (config : Config) : Config where
  listener := {
    bindAddress := a.bindAddress.getD config.listener.bindAddress
    tls := match a.certificate, a.key with
      | some certificate, some key => some ⟨certificate, key⟩
      | _, _ => config.listener.tls }
  proxy := { config.proxy with mount := a.mount.getD config.proxy.mount }
  timeouts := config.timeouts
  links := config.links
  directory := if a.cluster then { config.directory with kind := .cluster } else config.directory
  staticFiles := { config.staticFiles with root := a.staticRoot.or config.staticFiles.root }
  observability := { config.observability with logLevel := a.logLevel.getD config.observability.logLevel }

end Arguments
end Gateway.Command
