import AnalysisPanel.Service.Wire
import Std.Async.DNS
import Std.Async.TCP
import Std.Async.Timer

/-! Requests sent over the network of this machine. -/

namespace AnalysisPanel.Machine

open Service Std.Async

/-- What the receiving end saw: the receiver, the pieces of content, last first, and why it ended
early. -/
structure Received where
  receiver : Wire.Receiver := {}
  chunks : List Bytes := []
  ended : Option Interruption := none

/-- What has come of the request. -/
def Received.answer (r : Received) : Answer := r.receiver.answer r.chunks.reverse r.ended

/-- The time of a request is up. -/
def timeUp : Interruption := ⟨true, "the time was up"⟩

/-- Takes in what a peer sends until there is no more to wait for. -/
partial def receive (socket : TCP.Socket.Client) (timer : Sleep) (r : Received) :
    Async Received := do
  if r.receiver.isDone then return r
  let piece : Except Interruption (Option ByteArray) ← Selectable.one #[
    .case (socket.recvSelector 65536) fun piece => return .ok piece,
    .case timer.selector fun _ => return .error timeUp]
  match piece with
  | .error why => return { r with ended := some why }
  | .ok none => return r
  | .ok (some octets) =>
    let (receiver, content) := r.receiver.takeAll [] octets.toList
    receive socket timer { r with receiver, chunks := content.reverse :: r.chunks }

/-- The address of the peer of a URL. -/
def addressOf (u : Url) : Async (Option Std.Net.SocketAddress) := do
  let port := (u.port.orElse fun _ => Url.defaultPort u.scheme).getD 80
  let host := (u.host.map Url.Host.text).getD ""
  let plain := String.ofList (host.toList.filter fun c => c != '[' && c != ']')
  let found ← DNS.getAddrInfo plain (toString port)
  match found[0]? with
  | some (Std.Net.IPAddr.v4 addr) => return some (.v4 ⟨addr, port.toUInt16⟩)
  | some (Std.Net.IPAddr.v6 addr) => return some (.v6 ⟨addr, port.toUInt16⟩)
  | none => return none

/-- A time in milliseconds. -/
def milliseconds (n : Nat) : Std.Time.Millisecond.Offset := .ofNat n

/-- Connects within a time. The answer says whether that came about. -/
def connectWithin (time : Nat) (socket : TCP.Socket.Client) (address : Std.Net.SocketAddress) :
    Async Bool :=
  Async.race
    (do socket.connect address; return true)
    (do Std.Async.sleep (milliseconds time); return false)

/-- Sends a request and takes in the response. -/
def converse (settings : Settings) (r : Request) : Async Answer := do
  match ← addressOf r.url with
  | none => return .interrupted ⟨false, "the host has no address"⟩
  | some address =>
    let socket ← TCP.Socket.Client.mk
    let timer ← Sleep.mk (milliseconds settings.requestTimeout)
    if ← connectWithin (min settings.connectTimeout settings.requestTimeout) socket address then
      socket.send ⟨(Wire.octets r).toArray⟩
      let received ← receive socket timer {}
      timer.stop
      return received.answer
    else
      timer.stop
      return .interrupted timeUp

/-- What comes of a request. Only plain connections are spoken. -/
def answerTo (settings : Settings) (r : Request) : Async Answer := do
  if r.url.scheme = "http" then
    try
      converse settings r
    catch e => return .interrupted ⟨false, toString e⟩
  else return .interrupted ⟨false, "secure connections are not spoken"⟩

/-- Performs a call over the network. -/
def performCall (settings : Settings) (call : Call) : Async (Reply Failure) := do
  match sent settings call with
  | some request =>
    let answer ← answerTo settings request
    return perform settings (fun _ => answer) call
  | none => return perform settings (fun _ => .interrupted notSpoken) call

end AnalysisPanel.Machine
