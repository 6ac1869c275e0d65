import Gateway.Files
import Gateway.Http.RequestId
import Gateway.Net.Address
import Gateway.Net.SystemError
import Std.Async

/-! What the running program takes from its system: errors, files, the clock, chance, and sockets that listen. -/

namespace Gateway.Daemon

open Http Std.Async

/-- The number that the system gives an error. -/
def codeOf : IO.Error → Nat
  | .alreadyExists _ code _ | .otherError code _ | .resourceBusy code _ | .resourceVanished code _
  | .unsupportedOperation code _ | .hardwareFault code _ | .unsatisfiedConstraints code _
  | .illegalOperation code _ | .protocolError code _ | .timeExpired code _ | .interrupted _ code _
  | .noFileOrDirectory _ code _ | .invalidArgument _ code _ | .permissionDenied _ code _
  | .resourceExhausted _ code _ | .inappropriateType _ code _ | .noSuchThing _ code _ =>
    code.toInt32.toInt.natAbs
  | .unexpectedEof | .userError _ => 0

def systemError (e : IO.Error) : Net.SystemError := .ofCode (codeOf e)

/-- The seconds from the beginning of 1970, and the millionth parts of a second behind them. -/
def clock : IO (Nat × Nat) := do
  let nanoseconds := (← Std.Time.Timestamp.now).toNanosecondsSinceUnixEpoch.val.toNat
  return (nanoseconds / 1000000000, nanoseconds / 1000 % 1000000)

def load (path : String) : IO (Option File) := do
  try
    let bytes ← IO.FS.readBinFile path
    return some (.document bytes (← clock).1)
  catch e => return if systemError e = .isDirectory then some .directory else none

/-- The files at some paths, and no others. -/
def loadAll (paths : List String) : IO Files := do
  let found ← paths.mapM fun path => return (path, ← load path)
  return fun path => (found.lookup path).join

def freshId : IO String := do return chanceId (← IO.getRandomBytes 16).toList

/-! ### Addresses -/

def toSystem (a : Net.SocketAddress) : Std.Net.SocketAddress :=
  match a.ip with
  | .v4 ip =>
    let octet (shift : UInt32) : UInt8 := (ip.bits >>> shift).toUInt8
    .v4 { addr := ⟨#v[octet 24, octet 16, octet 8, octet 0]⟩, port := a.port }
  | .v6 ip => .v6 { addr := ⟨ip.groups⟩, port := a.port }

def ofSystem : Std.Net.SocketAddress → Net.SocketAddress
  | .v4 a => ⟨.v4 (.ofNat (a.addr.octets.toList.foldl (fun n octet => n * 256 + octet.toNat) 0)), a.port⟩
  | .v6 a => ⟨.v6 ⟨a.addr.segments⟩, a.port⟩

/-- A socket that listens at an address. -/
def bind (a : Net.SocketAddress) : IO (Except Net.SystemError (TCP.Socket.Server × Net.SocketAddress)) := do
  try
    let socket ← TCP.Socket.Server.mk
    socket.bind (toSystem a)
    socket.listen 1024
    return .ok (socket, ofSystem (← socket.getSockName))
  catch e => return .error (systemError e)

end Gateway.Daemon
