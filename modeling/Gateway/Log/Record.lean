import Gateway.Text.Datum

/-! The journal. A record has a level, the part of the program that it comes from, a message, and fields. It is
    written as a line of text or as a record of data. -/

namespace Gateway.Log

/-- How much a record matters, the gravest first. -/
inductive Level
  | error
  | warning
  | info
  | debug
  | trace
deriving DecidableEq, Repr

namespace Level

def name : Level → String
  | error => "ERROR"
  | warning => "WARN"
  | info => "INFO"
  | debug => "DEBUG"
  | trace => "TRACE"

/-- The place of a level: graver ones come first. -/
def rank : Level → Nat
  | error => 1
  | warning => 2
  | info => 3
  | debug => 4
  | trace => 5

end Level

/-- The parts of the program that tell of themselves. -/
inductive Source
  | program
  | metrics
  | directory
  | tls
  | server
  | signals
deriving DecidableEq, Repr

def Source.name : Source → String
  | program => "console_proxy"
  | metrics => "console_proxy::observability::metrics"
  | directory => "console_proxy::discovery::static_directory"
  | tls => "console_proxy::net::tls"
  | server => "console_proxy::http::server"
  | signals => "console_proxy::lifecycle::signals"

structure Record where
  level : Level
  source : Source
  message : String
  fields : List (String × Datum) := []

namespace Record

/-- A value in a line of text. -/
def shown : Datum → String
  | .text value => value
  | value => value.written

/-- A line of text, without its time. -/
def line (r : Record) : String :=
  r.level.name ++ " " ++ r.source.name ++ ": " ++ r.message ++
    String.join (r.fields.map fun (name, value) => " " ++ name ++ "=" ++ shown value)

/-- A line of text, behind its time. The names of levels end below each other. -/
def timedLine (r : Record) (time : String) : String :=
  time ++ (if r.level.name.length < 5 then "  " else " ") ++ r.line

/-- The message and the fields. -/
def content (r : Record) : Datum := .record (("message", .text r.message) :: r.fields)

/-- A record of data, with its time. -/
def datum (r : Record) (time : String) : Datum := .record [
  ("timestamp", .text time), ("level", .text r.level.name), ("fields", r.content), ("target", .text r.source.name)]

end Record
end Gateway.Log
