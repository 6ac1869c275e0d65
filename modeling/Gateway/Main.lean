import Gateway.Command.Program
import Gateway.Command.Startup
import Gateway.Daemon.Client

/-! The program as it runs. It takes its command line, environment and files to the modules that decide, tells what they
    tell, and serves until it is told to stop. Encrypted sessions are not served: a configuration that asks for them
    ends the program instead. -/

namespace Gateway.Daemon

open Http Std.Async

/-- Waits until the program is told to stop. -/
def untilStopped : Async Unit := do
  let wait (signal : Signal) : Async Unit := do
    let waiter ← Signal.Waiter.mk signal false
    let _ ← await (← waiter.wait)
  Async.race (wait .sigterm) (wait .sigint)

/-- Writes a record to the journal. -/
def record (setup : Command.Setup) (r : Log.Record) : IO Unit := do
  if setup.filter.passes r then
    let (seconds, millionths) ← clock
    let time := Date.instant seconds millionths
    let output ← IO.getStdout
    output.putStrLn (if setup.config.observability.jsonLogs then (r.datum time).written else r.timedLine time)
    output.flush

/-- Ends the program with an account of what keeps it from going on. -/
def fail (e : Command.StartError) : IO UInt32 := do
  IO.eprintln ("Error: " ++ e.message)
  return UInt32.ofNat (Command.Run.exitOf (some e))

/-- Serves, and gives the status that the program exits with. -/
def start (world : Command.World) (setup : Command.Setup) : IO UInt32 := do
  let config := setup.config
  setup.complaints.forM (IO.eprintln ·)
  let metricsAddress := if config.observability.metricsEnabled then
      Net.SocketAddress.ofText? config.observability.metricsAddress
    else none
  let metrics ← metricsAddress.mapM bind
  let tls := config.listener.tls.toList.flatMap fun tls => [tls.certificate, tls.key]
  let world := { world with
    files := ← loadAll tls
    bind := fun _ => match metrics with
      | some (.ok (_, address)) => .ok address
      | some (.error e) => .error e
      | none => .error .invalid }
  let (told, prepared) := Command.prepare world config
  told.forM (record setup)
  match prepared with
  | .error e => fail e
  | .ok table =>
    if config.listener.tls.isSome then
      IO.eprintln "Error: encrypted sessions are not served"
      return 1
    match Net.SocketAddress.ofText? config.listener.bindAddress with
    | none => fail (.binding .invalid)
    | some address =>
      match ← bind address with
      | .error e => fail (.binding e)
      | .ok (socket, address) =>
        record setup (Command.Journal.listening address)
        let startup ← IO.mkRef Command.Startup.begun
        let turn (t : Command.Task) : BaseIO (Option Shutdown.Answer) :=
          startup.modifyGet fun s => (s.answer? t, s.turn t)
        Async.block do
          background do
            untilStopped
            Command.Startup.begun.signal.forM fun _ => do let _ ← turn .signal
          (Command.Journal.files config.staticFiles).forM (record setup ·)
          match Server.build config table.directory world.files with
          | .error e => fail (.routes e)
          | .ok server =>
            let s : Serving := ⟨server, ← IO.mkRef [], ← IO.mkRef 0, ← IO.mkRef false⟩
            Command.Startup.begun.server.forM fun _ => do let _ ← turn .server
            record setup (Command.Journal.serving config address)
            if let some (.ok (socket, _)) := metrics then background (accept socket (serveMetrics s.samples))
            background (accept socket (serve s))
            while (← turn .server) = some .pending do sleep 10
            s.ending.set true
            while 0 < (← s.busy.get) do sleep 10
            Command.Journal.ending.forM (record setup ·)
            return 0

/-- Runs the program with a command line. -/
def run (arguments : List String) : IO UInt32 := do
  let names := ["CONSOLE_PROXY_CONFIG", "RUST_LOG"]
  let settings ← names.mapM fun name => return (name, ← IO.getEnv name)
  let setting? (name : String) : Option String := (settings.lookup name).join
  let path := match Command.Arguments.ofTexts arguments (setting? "CONSOLE_PROXY_CONFIG") with
    | .ok a => a.file
    | .error _ => none
  let world : Command.World := { setting?, files := ← loadAll path.toList, bind := fun _ => .error .invalid }
  match Command.configure world arguments with
  | .ok setup => start world setup
  | .error (.failed e) => fail e
  | .error (.refused reason) =>
    let run := Command.Run.refused reason (Command.help (setting? "CONSOLE_PROXY_CONFIG"))
    for line in run.lines do
      if let .text line := line then IO.println line
    run.complaints.forM (IO.eprintln ·)
    return UInt32.ofNat run.exit

end Gateway.Daemon

def main (arguments : List String) : IO UInt32 := Gateway.Daemon.run arguments
