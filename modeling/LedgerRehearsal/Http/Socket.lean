import LedgerRehearsal.Http.Wire
import Std.Async.DNS
import Std.Async.TCP
import Std.Async.Timer

/-!
One request over a connection of its own, within a given time.
-/

namespace LedgerRehearsal.Socket

open Std.Async Std.Net

def addressOf (service : UInt16) : IPAddr → SocketAddress
  | .v4 addr => .v4 ⟨addr, service⟩
  | .v6 addr => .v6 ⟨addr, service⟩

/-- Everything that arrives until the connection is closed. -/
partial def receiveAll (client : TCP.Socket.Client) (arrived : ByteArray) : Async ByteArray := do
  match ← client.recv? 65536 with
  | none => return arrived
  | some bytes => receiveAll client (arrived ++ bytes)

/-- Sends a request to the first address of its host. -/
def send (delivery : Delivery) : Async (Except String HttpResponse) := do
  if delivery.url.scheme ≠ "http" then return .error s!"scheme {delivery.url.scheme} is not supported"
  let (host, service) := delivery.url.endpoint
  let addresses ← DNS.getAddrInfo host (toString service)
  let some ip := addresses[0]? | return .error s!"no address of {host}"
  let client ← TCP.Socket.Client.mk
  client.connect (addressOf service ip)
  client.send delivery.wire.toUTF8
  let bytes ← receiveAll client .empty
  return match HttpResponse.ofWire? bytes.toList with
    | some response => .ok response
    | none => .error "incomplete response"

def giveUp (timeoutMs : Nat) : Async (Except String HttpResponse) := do
  Std.Async.sleep (.ofNat timeoutMs)
  return .error "operation timed out"

/-- The response to a request, or why there is none. -/
def exchange (timeoutMs : Nat) (delivery : Delivery) : IO (Except String HttpResponse) := do
  try
    (Async.race (send delivery) (giveUp timeoutMs)).block
  catch error => return .error error.toString

end LedgerRehearsal.Socket
