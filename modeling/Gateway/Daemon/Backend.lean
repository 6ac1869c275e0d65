import Gateway.Daemon.Connection
import Gateway.Daemon.System
import Gateway.Http.Wire.Written
import Gateway.Server

/-! Conversations with backends. A plan that asks for a reply is carried out: the request is sent, the response is
    waited for as long as the configuration says, and the plan goes on with what has come of that. -/

namespace Gateway.Daemon

open Http Http.Wire Std.Async

/-- Does some work within so many seconds. -/
def within {α : Type} (seconds : Nat) (work : Async α) : Async (Option α) :=
  Async.race (some <$> work) (do sleep (.ofNat (seconds * 1000)); return none)

/-- Connects to the address that a request is for and sends it. -/
def send (config : Config.Timeouts) (r : Outbound) : Async (Except Disruption Connection) := do
  match (r.uri.authority.bind Net.SocketAddress.ofText?) with
  | none => return .error (.unconnected .invalid)
  | some address =>
    try
      let socket ← TCP.Socket.Client.mk
      match ← within config.connect (socket.connect (toSystem address)) with
      | none => return .error (.unconnected (.ofCode 110))
      | some _ =>
        socket.noDelay
        let (head, framing) := r.head
        let pieces := r.body.events.map fun e => match e with
          | .data bytes => framing.piece bytes
          | _ => .empty
        socket.send (pieces.foldl (· ++ ·) head ++ framing.finish .empty)
        return .ok ⟨socket, ← IO.mkRef .empty⟩
    catch e => return .error (.unconnected (systemError e))

/-- The response to a request, as far as its body. What is only interim is passed over. -/
def head (method : String) (c : Connection) : Async (Except Disruption (ResponseHead × Incoming)) := do
  repeat
    match ← c.lines with
    | .error fault => return .error (.faulty (fault.getD .cutShort))
    | .ok lines =>
      match ResponseHead.ofLines lines with
      | .error fault => return .error (.faulty fault)
      | .ok head =>
        if 200 ≤ head.status then
          match Framing.ofResponse method head with
          | .error fault => return .error (.faulty fault)
          | .ok framing => return .ok (head, ← c.incoming framing)
  return .error (.faulty .cutShort)

/-- Asks a backend. -/
def ask (config : Config.Timeouts) (r : Outbound) : Async (Except Reply (ResponseHead × Incoming)) := do
  let asked := within config.request do
    match ← send config r with
    | .error reason => return .error reason
    | .ok connection => head r.method connection
  match ← asked with
  | none => return .error .late
  | some (.error reason) => return .error (.disrupted reason)
  | some (.ok answer) => return .ok answer

/-- Carries out a plan. Pages are waited for, whatever else backends send is passed on as it comes. -/
def carryOut (config : Config) : Plan Exchange → Async (Exchange × Option Incoming)
  | .done e => return (e, none)
  | .ask r resume => do
    match ← ask config.timeouts r with
    | .error reply => return (resume reply, none)
    | .ok (head, incoming) =>
      let response : Response :=
        { status := head.status, headers := head.headers, body := .awaited, reason := head.reason }
      if Link.applies config.links response then
        let events ← incoming.all
        return (resume (.answered { response with body := { events } }), none)
      else return (resume (.answered response), some incoming)

end Gateway.Daemon
