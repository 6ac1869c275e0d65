import Gateway.Daemon.Backend

/-! Conversations with clients. On a connection one request follows the other; each is read as a whole and answered
    part by part, so that what a backend sends slowly reaches the client as it comes. -/

namespace Gateway.Daemon

open Http Http.Wire Std.Async

/-- Sends an answer part by part; tells whether the connection stays open. -/
def deliver (c : Connection) (client : Client) (a : Answer) (incoming : Option Incoming) : Async Bool := do
  let (head, framing, keepsOpen) := a.head client (Date.text (← clock).1)
  c.socket.send head
  if framing = .length 0 then return keepsOpen
  let mut f := a.body
  let mut source := incoming
  let mut trailers := Headers.empty
  repeat
    let (part, g) := f.poll (← IO.monoMsNow)
    f := g
    match part with
    | .data bytes => c.socket.send (framing.piece bytes)
    | .trailers headers => trailers := headers
    | .failure _ => return false
    | .ended =>
      let last := framing.finish trailers
      if last.size ≠ 0 then c.socket.send last
      break
    | .pending =>
      match source with
      | none => return false
      | some incoming =>
        let (part, rest) ← incoming.next (f.deadline.map (·.due))
        source := some rest
        match part with
        | some (events, ended) => f := { f with inner := f.inner.arrive events ended }
        | none => continue
  return keepsOpen

/-- What all connections share. -/
structure Serving where
  server : Server
  samples : IO.Ref (List Sample)
  /-- The number of requests that are being answered. -/
  busy : IO.Ref Nat
  ending : IO.Ref Bool

/-- Answers one request; tells whether the connection stays open. -/
def answer (s : Serving) (c : Connection) (head : RequestHead) (framing : Framing) (peer : Net.SocketAddress) :
    Async Bool := do
  if (head.headers.texts "expect").any (·.toLower == "100-continue") then
    c.socket.send ("HTTP/1.1 100 Continue" ++ lineEnd ++ lineEnd).toUTF8
  let events ← (← c.incoming framing).all
  let breaks := events.any fun e => match e with
    | .failure _ => true
    | _ => false
  if breaks then return false
  let request : Request := {
    method := head.method, uri := head.uri, headers := head.headers
    body := { events, sized := framing != .chunked }, peer := some peer }
  let server := { s.server with files := ← loadAll (s.server.consulted request) }
  let (exchange, incoming) ← carryOut server.config (server.respond (← freshId).toUTF8 request)
  s.samples.modify (exchange.samples ++ ·)
  deliver c ⟨head.method, head.version, keepsOpen head && !(← s.ending.get)⟩ exchange.answer incoming

/-- Serves a connection until it ends. -/
def serve (s : Serving) (socket : TCP.Socket.Client) : Async Unit := do
  if ← s.ending.get then return ()
  try
    socket.noDelay
    let peer := ofSystem (← socket.getPeerName)
    let c : Connection := ⟨socket, ← IO.mkRef .empty⟩
    repeat
      match ← c.lines with
      | .error none => break
      | .error (some fault) =>
        let _ ← deliver c ⟨"GET", .http11, false⟩ fault.answer none
        break
      | .ok lines =>
        let read : Except Fault (RequestHead × Framing) := do
          let head ← RequestHead.ofLines lines
          return (head, ← Framing.ofRequest head)
        match read with
        | .error fault =>
          let _ ← deliver c ⟨"GET", .http11, false⟩ fault.answer none
          break
        | .ok (head, framing) =>
          s.busy.modify (· + 1)
          let stays ← try answer s c head framing peer catch _ => pure false
          s.busy.modify (· - 1)
          if ¬ stays then break
    socket.shutdown
  catch _ => return ()

/-- Tells what has been counted to whoever asks. -/
def serveMetrics (samples : IO.Ref (List Sample)) (socket : TCP.Socket.Client) : Async Unit := do
  try
    let c : Connection := ⟨socket, ← IO.mkRef .empty⟩
    match ← c.lines with
    | .error _ => return ()
    | .ok _ =>
      let text := String.join ((account (← samples.get)).map (· ++ "\n"))
      let _ ← deliver c ⟨"GET", .http11, false⟩ (Answer.stated (.ofResponse (.plain 200 text))) none
      socket.shutdown
  catch _ => return ()

/-- Accepts connections, without an end. -/
def accept (socket : TCP.Socket.Server) (use : TCP.Socket.Client → Async Unit) : Async Unit := do
  repeat
    let client ← socket.accept
    background (use client)

end Gateway.Daemon
