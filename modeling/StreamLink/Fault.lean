import StreamLink.Limits
import StreamLink.Text.Quoted

/-!
# Faults

Every way in which an operation of the link can be refused, the sentence it is reported with, and
the cause it names.
-/

namespace StreamLink

/-- Why bytes are not a packet. -/
inductive Malformed
  | packetKind
  /-- The bytes end before the frame does. -/
  | truncated
deriving Repr, DecidableEq, Inhabited

def Malformed.name : Malformed → String
  | .packetKind => "PacketKind"
  | .truncated => "Truncated"

def Malformed.description : Malformed → String
  | .packetKind => "unknown packet kind"
  | .truncated => "truncated packet"

/-- Why an operation was refused. -/
inductive Fault
  | malformed (cause : Malformed)
  /-- A payload too long for any frame. -/
  | payloadTooLarge (size : Nat)
  /-- A frame too long for what the ring has left. -/
  | ringFull (required available : Nat)
  /-- A side of the shared area that was taken before. -/
  | endpointClaimed
  | socketTableFull
  | workerStopped
  | workerCrashed
  /-- A fault of the system underneath, in its own words. -/
  | system (text : String)
deriving Repr, DecidableEq, Inhabited

namespace Fault

def message : Fault → String
  | malformed cause =>
    "Something went wrong with parsing the packet. Reason: " ++ cause.name ++ "."
  | payloadTooLarge size => "Payload of " ++ toString size ++ " bytes does not fit in a single packet."
  | ringFull required available =>
    "Ring has " ++ toString available ++ " bytes free but the frame needs " ++ toString required ++ "."
  | endpointClaimed => "This side of the shared area already has its ring endpoints."
  | socketTableFull => "No free stream id is left."
  | workerStopped => "The device worker has stopped."
  | workerCrashed => "The device worker panicked."
  | system text =>
    "An IO Error occurred. Reason: Custom \x7b kind: Other, error: " ++ Text.quoted text ++ " \x7d."

/-- What lies behind a fault, if something does. -/
def source? : Fault → Option String
  | malformed cause => some cause.description
  | system text => some text
  | _ => none

end Fault

end StreamLink
