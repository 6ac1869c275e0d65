import Gateway.Config.Form
import Gateway.Config.Rules

/-! Loading configurations. The content of a file has to be a text, the text a TOML document, the document has to
    fit the form of configurations, and the configuration has to keep the rules. -/

namespace Gateway.Config

/-- Why a configuration cannot be loaded. -/
inductive LoadError
  | noFile
  | noText
  | noDocument
  | mismatch (mismatch : Mismatch)
  | violated (violations : List Violation)

namespace LoadError

/-- The account of an error. Why a text is no document is not told. -/
def message : LoadError → String
  | noFile => "IO error: No such file or directory (os error 2)"
  | noText => "IO error: stream did not contain valid UTF-8"
  | noDocument => "Parse error"
  | mismatch m => m.message
  | violated violations => "Validation failed: " ++ ", ".intercalate (violations.map Violation.text)

end LoadError

/-- Reads the content of a file, if there is one, without a look at the rules. -/
def read (content : Option ByteArray) : Except LoadError Config :=
  match content with
  | none => .error .noFile
  | some bytes =>
    match String.fromUTF8? bytes with
    | none => .error .noText
    | some text =>
      match Toml.read? text with
      | none => .error .noDocument
      | some entries => (form.takeEntries {} entries).mapError .mismatch

/-- A configuration that keeps the rules. -/
def check (config : Config) : Except LoadError Config :=
  match config.violations with
  | [] => .ok config
  | violations => .error (.violated violations)

def load (content : Option ByteArray) : Except LoadError Config := do check (← read content)

end Gateway.Config
