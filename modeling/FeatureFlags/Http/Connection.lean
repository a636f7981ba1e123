import FeatureFlags.Http.Message
import Std.Async.DNS
import Std.Async.TCP
import Std.Async.Timer

/-!
# Connections

Requests are delivered over plain connections, one for each request. What comes of a request is
settled when the connection ends or the time for the reply is over.
-/

namespace FeatureFlags.Connection

open Std.Async Std.Net

/-- How many bytes are taken from a connection at once. -/
def portion : UInt64 := 65536

/-- All bytes that come over a connection until it ends. -/
def readAll (socket : TCP.Socket.Client) : Async ByteArray := do
  let mut bytes := ByteArray.empty
  repeat
    match ← socket.recv? portion with
    | some more => bytes := bytes ++ more
    | none => break
  return bytes

/-- Connect to the first of some addresses that can be reached. -/
def connect? (service : UInt16) (addresses : List IPAddr) :
    Async (Option TCP.Socket.Client) := do
  for address in addresses do
    let target : SocketAddress :=
      match address with
      | .v4 a => .v4 ⟨a, service⟩
      | .v6 a => .v6 ⟨a, service⟩
    try
      let socket ← TCP.Socket.Client.mk
      socket.connect target
      return some socket
    catch _ => continue
  return none

/-- Send a request, and see what becomes of it. -/
def exchange (r : HttpRequest) : Async Delivery := do
  try
    let addresses ← DNS.getAddrInfo r.url.host (toString r.url.service)
    match ← connect? r.url.service.toUInt16 addresses.toList with
    | none => return .refused
    | some socket =>
      socket.send r.text.toUTF8
      return .ofBytes (← readAll socket).toList
  catch _ => return .refused

/-- Let the time for the reply to a request go by. -/
def await (r : HttpRequest) : Async Delivery := do
  sleep (.ofNat r.timeout)
  return .timedOut

instance : Inhabited Delivery := ⟨.refused⟩

/-- Deliver a request. -/
def deliver (r : HttpRequest) : IO Delivery :=
  (Async.race (exchange r) (await r)).block

end FeatureFlags.Connection
