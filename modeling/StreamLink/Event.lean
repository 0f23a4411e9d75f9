import StreamLink.Ledger
import StreamLink.Packet

/-!
# Events

What a multiplexer did, one event for each thing that a party of the link could notice. Its history
is the list of them, newest first. Callers read their answers from it.

Between being accepted and being sent an outbound operation waits in the send queue; it is withdrawn
instead of sent when its stream ends first. Three events tell of a broken promise and do not occur as
long as it is kept: a frame that the ring refused, a turn for a stream that has one already, and a
turn for a stream without a socket.
-/

namespace StreamLink

/-- One thing that a multiplexer did. -/
inductive Event
  /-- A request was handed in. -/
  | submitted (request : Request)
  /-- A request was answered. -/
  | answered (request : Request) (completion : Completion)
  /-- A stream got a socket, for a connect. -/
  | opened (stream : UInt8) (request : Request)
  /-- A stream lost its socket. -/
  | retired (stream : UInt8)
  /-- An outbound operation was taken on. -/
  | accepted (kind : PacketKind) (stream : UInt8) (payload : Bytes)
  /-- The stream's outbound operation will not be sent. -/
  | withdrawn (stream : UInt8)
  /-- A packet entered the ring. -/
  | sent (kind : PacketKind) (stream : UInt8) (payload : Bytes)
  /-- A packet did not enter the ring. -/
  | refused (kind : PacketKind) (stream : UInt8) (payload : Bytes)
  /-- A frame left the ring. -/
  | received (frame : Frame)
  /-- So many bytes that were no whole frame left the ring. -/
  | garbled (length : Nat)
  /-- A stream got a second turn in the send queue. -/
  | doubled (stream : UInt8)
  /-- A turn came up for a stream without a socket. -/
  | strayed (stream : UInt8)
deriving Repr, DecidableEq, Inhabited

/-- What the event tells the maker of a request. -/
def Event.report? : Event → Option Report
  | answered r c => some ⟨r.number, .answered c⟩
  | _ => none

/-- How a history answers the request of a number. -/
def completionIn? (history : List Event) (number : Nat) : Option Completion :=
  history.findSome? fun
    | .answered r c => if r.number = number then some c else none
    | _ => none

/-- Hands out the answers of the part of a history that was not read before. -/
def Ledger.collect (l : Ledger) (history : List Event) : Delivery × Ledger :=
  let fresh := (history.take (history.length - l.seen)).reverse
  let (delivery, l) := l.deliver (fresh.filterMap Event.report?)
  (delivery, { l with seen := history.length })

end StreamLink
