import TwoHop.Agent.Exchange
import TwoHop.Agent.Setup
import TwoHop.Flow.Scan
import TwoHop.Flow.Splice
import TwoHop.Replier

/-! The remote agent. It performs the requests that local agents post to it, and opens tunnels; it
does neither without a token that its keyring accepts. -/

namespace TwoHop.RemoteAgent

open TwoHop.Flow

def refusal? (a : RemoteAgent) (now : Int64) (method : Method) (headers : Header.Map) : Option Status :=
  if method ≠ .post then some .methodNotAllowed
  else if a.keyring.acceptsHeaderAt (headers.text? tokenHeader) now then none
  else some .authenticationRequired

def readUri (text : String) : Except Halt Uri :=
  (Uri.parse text).mapError fun e => .fault (.decode (.invalidUri text e))

def outbound (frame : ByteArray) (rest : Handover) : Except Halt Outbound := do
  let r ← orFault ((Request.decode frame).mapError .decode)
  let uri ← readUri r.absoluteUri
  let body ← orFault (rest.body {} {}).1
  let headers ← orCrash r.headers.removeHopByHop.toMap
  return ⟨r.method, uri, headers, body⟩

def phrase? (r : Received) : Option String :=
  (r.phrase.bind String.fromUTF8?).orElse fun _ => r.status.phrase?

def envelope (r : Received) : Response where
  statusCode := r.status.code
  statusMessage := phrase? r
  headers := (Headers.ofMap r.headers).removeHopByHop

def payloadLength (method : Method) (r : Received) : Option UInt64 :=
  if isBodyless method r.status then some 0 else r.length

def replyHeaders (frame : ByteArray) (length : Option UInt64) : Header.Map :=
  let m := Header.Map.empty.set "content-type" octets.toUTF8
  match length with
  | some n => m.set "content-length" (decimalBytes (outerLength frame n))
  | none => m

def carry (method : Method) (r : Received) : Except Crash Reply := do
  let frame ← Frame.encode (envelope r).encode
  let length := payloadLength method r
  return { status := .ok, headers := replyHeaders frame length, body := framedBody frame length r.body }

def conclude (out : Outbound) (answer : Answer) : Except Halt Reply := do
  orCrash (carry out.method (← orFault (answer.get out.uri.text)))

def relay (body : Source) (destination : Outbound → Answer) : Served :=
  match scan body with
  | .waits s => { fate := .waiting, body := s.source }
  | .failed f source => { fate := .replied (.ofFault f), body := source }
  | .found frame rest =>
    let source := (rest.parts.map (·.source)).getD {}
    match outbound frame rest with
    | .error h => { fate := .ofExcept (.error h), body := source }
    | .ok out => { fate := .ofExcept (conclude out (destination out)), asked := some out, body := source }

def handleRequest (a : RemoteAgent) (now : Int64) (method : Method) (headers : Header.Map) (body : Source)
    (destination : Outbound → Answer) : Served :=
  match a.refusal? now method headers with
  | some status => { fate := .replied (.ofText status ""), body }
  | none => relay body destination

def noToken : String := "No Auth"

/-- The request at the front of a connection, and what follows it. A peer that does not finish its
request in time is not waited for. -/
def tunnelRequest (source : Source) : Except Fault (TunnelRequest × Parts) :=
  match scan source with
  | .waits _ => .error (.frame .requestSilence)
  | .failed f _ => .error f
  | .found frame rest => do
    let parts ← rest.take.1
    return (← (TunnelRequest.decode frame).mapError .decode, parts)

def admits (a : RemoteAgent) (now : Int64) (r : TunnelRequest) : Bool :=
  r.token.any (a.keyring.acceptsAt · now)

/-- What is decided about a connection: the call to make on it, which address was dialled for it,
and what it is joined to once the call has gone out. -/
structure Decision where
  call : Call
  dialled : Option String := none
  destination : Option (Connection × Parts) := none

def decision (a : RemoteAgent) (now : Int64) (source : Source) (dial : String → Dial) : Decision :=
  match tunnelRequest source with
  | .error f => { call := .rejectFault f }
  | .ok (r, parts) =>
    if !a.admits now r then { call := .reject 407 noToken }
    else
      let address := (Target.mk r.host r.port).text
      match (dial address).get address with
      | .error f => { call := .rejectFault f, dialled := some address }
      | .ok destination =>
        { call := .reply .ok, dialled := some address, destination := some (destination, parts) }

structure TunnelServed where
  call : Call
  sink : Outlet
  dialled : Option String
  splice : Option Splice

def handleTunnel (a : RemoteAgent) (now : Int64) (c : Connection) (dial : String → Dial) : TunnelServed :=
  let d := a.decision now c.source dial
  let (call, _, sink) := d.call.run {} c.sink
  let splice := match call.result?, d.destination with
    | some (.ok _), some (destination, parts) =>
      some (.start parts.source sink destination.source destination.sink parts.remaining {} {})
    | _, _ => none
  { call, sink, dialled := d.dialled, splice }

end TwoHop.RemoteAgent
