import Gateway.Config.Basic
import Gateway.Text.Quoted
import Gateway.Toml.Document

/-! The form of configurations. A form names the fields of a section and says what values they take. A section is
    given as a table, in which unknown keys do not matter, or as an array of its fields in their order. The first
    value that does not fit is the mismatch that is reported; only then it counts what is missing. -/

namespace Gateway.Config

open Toml

/-- How a document does not fit. -/
inductive Mismatch
  | invalidType (found : Value) (expected : String)
  | invalidInteger (found : Int) (expected : String)
  | invalidLength (found : Nat) (expected : String)
  | missingField (field : String)
  | unknownVariant (found : String)
  /-- A choice is neither a text nor a table. -/
  | noChoice
  /-- A choice is a table of other than one key. -/
  | fewChoices
  | manyChoices
  /-- What stands at the key of a choice is no table, or one that is not empty. -/
  | noTable (found : Value)
  | notEmpty

namespace Mismatch

/-- What a value looks like in a message. A date looks like a table. -/
def describe : Value → String
  | .text s => "string " ++ Text.quote s
  | .integer n => "integer \u0060" ++ toString n ++ "\u0060"
  | .float x =>
    let text := Decimal.ofFloat x
    "floating point \u0060" ++ (if text.toList.contains '.' ∨ ¬ x.isFinite then text else text ++ ".0") ++ "\u0060"
  | .boolean b => "boolean \u0060" ++ toString b ++ "\u0060"
  | .array _ => "sequence"
  | .tables _ => "sequence"
  | _ => "map"

def message : Mismatch → String
  | invalidType found expected => "invalid type: " ++ describe found ++ ", expected " ++ expected
  | invalidInteger found expected =>
    "invalid value: integer \u0060" ++ toString found ++ "\u0060, expected " ++ expected
  | invalidLength found expected => "invalid length " ++ toString found ++ ", expected " ++ expected
  | missingField field => "missing field \u0060" ++ field ++ "\u0060"
  | unknownVariant found =>
    "unknown variant \u0060" ++ found ++ "\u0060, expected \u0060static\u0060 or \u0060kubernetes\u0060"
  | noChoice => "wanted string or table"
  | fewChoices => "wanted exactly 1 element, found 0 elements"
  | manyChoices => "wanted exactly 1 element, more than 1 element"
  | noTable found => "expected table, found " ++ found.sort
  | notEmpty => "expected empty table"

end Mismatch

/-- Reads a value of a field. -/
abbrev Fit (α : Type) := Value → Except Mismatch α

/-! ### Single values -/

def fitText : Fit String
  | .text s => .ok s
  | v => .error (.invalidType v "a string")

def fitBool : Fit Bool
  | .boolean b => .ok b
  | v => .error (.invalidType v "a boolean")

/-- A natural number below a bound, under the name of its type. -/
def fitNat (bound : Nat) (type : String) : Fit Nat
  | .integer n => if 0 ≤ n ∧ n < bound then .ok n.toNat else .error (.invalidInteger n type)
  | v => .error (.invalidType v type)

def fitLong : Fit Nat := fitNat UInt64.size "u64"

def fitPort : Fit UInt16 := fun v => (fitNat UInt16.size "u16" v).map UInt16.ofNat

def fitOption {α : Type} (fit : Fit α) : Fit (Option α) := fun v => (fit v).map some

/-- The elements of an array, or the tables of a repeated header. -/
def elements? : Value → Option (List Value)
  | .array elements => some elements
  | .tables elements => some (elements.map (.table .header))
  | _ => none

def fitList {α : Type} (fit : Fit α) : Fit (List α) := fun v =>
  match elements? v with
  | some elements => elements.mapM fit
  | none => .error (.invalidType v "a sequence")

/-- The entries of a table. A date has none that anyone knows. -/
def entries? : Value → Option Entries
  | .table _ entries => some entries
  | .inline _ entries => some entries
  | .datetime _ => some []
  | _ => none

def kind? : String → Except Mismatch DirectoryKind
  | "static" => .ok .table
  | "kubernetes" => .ok .cluster
  | other => .error (.unknownVariant other)

/-- A choice: a text, or a table whose one key is the choice and holds an empty table. -/
def fitKind : Fit DirectoryKind
  | .text s => kind? s
  | .datetime _ => .error .noChoice
  | v =>
    match entries? v with
    | none => .error .noChoice
    | some [] => .error .fewChoices
    | some [(key, inner)] => do
      let kind ← kind? key
      match inner with
      | .table _ [] => return kind
      | .inline _ [] => return kind
      | .table _ _ => .error .notEmpty
      | .inline _ _ => .error .notEmpty
      | inner => .error (.noTable inner)
    | some _ => .error .manyChoices

/-! ### Sections -/

/-- The fields of a section, each with the way in which it changes what has been read. -/
structure Form (α : Type) where
  name : String
  fields : List (String × (α → Fit α))

namespace Form

/-- Reads entries one after the other. -/
def takeEntries {α : Type} (form : Form α) (draft : α) : Entries → Except Mismatch α
  | [] => .ok draft
  | (key, value) :: rest => do
    let draft ← match form.fields.lookup key with
      | some take => take draft value
      | none => .ok draft
    takeEntries form draft rest

/-- Reads elements as fields in order; more elements than fields do not matter. -/
def takeElements {α : Type} (draft : α) : List (String × (α → Fit α)) → List Value → Except Mismatch α
  | (_, take) :: fields, value :: rest => do takeElements (← take draft value) fields rest
  | _, _ => .ok draft

/-- A section whose fields have defaults. -/
def fit {α : Type} (form : Form α) (default : α) : Fit α := fun v =>
  match elements? v, entries? v with
  | some elements, _ => takeElements default form.fields elements
  | none, some entries => form.takeEntries default entries
  | none, none => .error (.invalidType v ("struct " ++ form.name))

/-- A section that has to be complete: `finish` says what a table lacks, and an array lacks nothing. -/
def fitAll {α β : Type} (form : Form α) (draft : α) (finish : α → Except Mismatch β) : Fit β := fun v => do
  let draft ← form.fit draft v
  match elements? v with
  | none => finish draft
  | some elements =>
    let n := form.fields.length
    if elements.length < n then
      .error (.invalidLength elements.length ("struct " ++ form.name ++ " with " ++ toString n ++ " elements"))
    else finish draft

end Form

/-- A field that has to be there. -/
def present {α : Type} (field : String) : Option α → Except Mismatch α
  | some value => .ok value
  | none => .error (.missingField field)

/-! ### The sections of a configuration -/

structure TlsDraft where
  certificate : Option String := none
  key : Option String := none

def fitTls : Fit Tls :=
  let form : Form TlsDraft := ⟨"TlsConfig", [
    ("cert_path", fun d v => do return { d with certificate := some (← fitText v) }),
    ("key_path", fun d v => do return { d with key := some (← fitText v) })]⟩
  form.fitAll {} fun d => do
    return { certificate := ← present "cert_path" d.certificate, key := ← present "key_path" d.key }

def fitListener : Fit Listener :=
  let form : Form Listener := ⟨"ListenerConfig", [
    ("bind_address", fun d v => do return { d with bindAddress := ← fitText v }),
    ("tls", fun d v => do return { d with tls := ← fitOption fitTls v })]⟩
  form.fit {}

def fitProxy : Fit Proxy :=
  let form : Form Proxy := ⟨"ProxySettings", [
    ("mount", fun d v => do return { d with mount := ← fitText v }),
    ("flush_interval_ms", fun d v => do return { d with flushInterval := ← fitLong v })]⟩
  form.fit {}

def fitTimeouts : Fit Timeouts :=
  let form : Form Timeouts := ⟨"TimeoutConfig", [
    ("connect_secs", fun d v => do return { d with connect := ← fitLong v }),
    ("request_secs", fun d v => do return { d with request := ← fitLong v })]⟩
  form.fit {}

def fitLinks : Fit Links :=
  let form : Form Links := ⟨"RewriteConfig", [
    ("enabled", fun d v => do return { d with enabled := ← fitBool v }),
    ("max_body_bytes", fun d v => do return { d with maxBody := ← fitNat UInt64.size "usize" v }),
    ("gzip_level", fun d v => do return { d with gzipLevel := ← fitNat UInt32.size "u32" v })]⟩
  form.fit {}

structure PodDraft where
  space : Option String := none
  name : Option String := none
  ip : Option String := none

def fitPod : Fit Pod :=
  let form : Form PodDraft := ⟨"StaticPodConfig", [
    ("namespace", fun d v => do return { d with space := some (← fitText v) }),
    ("name", fun d v => do return { d with name := some (← fitText v) }),
    ("ip", fun d v => do return { d with ip := some (← fitText v) })]⟩
  form.fitAll {} fun d => do
    return { space := ← present "namespace" d.space, name := ← present "name" d.name, ip := d.ip }

structure ServiceDraft where
  space : Option String := none
  name : Option String := none
  clusterIp : Option String := none
  port : Option UInt16 := none

def fitService : Fit Service :=
  let form : Form ServiceDraft := ⟨"StaticServiceConfig", [
    ("namespace", fun d v => do return { d with space := some (← fitText v) }),
    ("name", fun d v => do return { d with name := some (← fitText v) }),
    ("cluster_ip", fun d v => do return { d with clusterIp := some (← fitText v) }),
    ("port", fun d v => do return { d with port := some (← fitPort v) })]⟩
  form.fitAll {} fun d => do
    return {
      space := ← present "namespace" d.space
      name := ← present "name" d.name
      clusterIp := d.clusterIp
      port := d.port }

def fitDirectory : Fit Directory :=
  let form : Form Directory := ⟨"DirectoryConfig", [
    ("kind", fun d v => do return { d with kind := ← fitKind v }),
    ("pods", fun d v => do return { d with pods := ← fitList fitPod v }),
    ("services", fun d v => do return { d with services := ← fitList fitService v })]⟩
  form.fit {}

def fitStaticFiles : Fit StaticFiles :=
  let form : Form StaticFiles := ⟨"StaticFilesConfig", [
    ("root", fun d v => do return { d with root := ← fitOption fitText v }),
    ("prefix", fun d v => do return { d with mountPath := ← fitText v }),
    ("not_found_page", fun d v => do return { d with notFoundPage := ← fitOption fitText v })]⟩
  form.fit {}

def fitObservability : Fit Observability :=
  let form : Form Observability := ⟨"ObservabilityConfig", [
    ("log_level", fun d v => do return { d with logLevel := ← fitText v }),
    ("json_logs", fun d v => do return { d with jsonLogs := ← fitBool v }),
    ("metrics_enabled", fun d v => do return { d with metricsEnabled := ← fitBool v }),
    ("metrics_address", fun d v => do return { d with metricsAddress := ← fitText v })]⟩
  form.fit {}

def form : Form Config := ⟨"ProxyConfig", [
  ("listener", fun d v => do return { d with listener := ← fitListener v }),
  ("proxy", fun d v => do return { d with proxy := ← fitProxy v }),
  ("timeouts", fun d v => do return { d with timeouts := ← fitTimeouts v }),
  ("rewrite", fun d v => do return { d with links := ← fitLinks v }),
  ("directory", fun d v => do return { d with directory := ← fitDirectory v }),
  ("static_files", fun d v => do return { d with staticFiles := ← fitStaticFiles v }),
  ("observability", fun d v => do return { d with observability := ← fitObservability v })]⟩

end Gateway.Config
