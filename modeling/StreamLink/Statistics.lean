import StreamLink.Packet

/-!
# Statistics

Running totals of what a multiplexer sent, received and refused. A total is kept in 64 bits and
goes round, as a position in a ring does in eight.
-/

namespace StreamLink

/-- Totals since the start or the last reset. -/
structure Statistics where
  packetsSent : UInt64 := 0
  packetsReceived : UInt64 := 0
  bytesSent : UInt64 := 0
  bytesReceived : UInt64 := 0
  packetsDiscarded : UInt64 := 0
  protocolViolations : UInt64 := 0
  resetsSent : UInt64 := 0
deriving Repr, DecidableEq, Inhabited

namespace Statistics

def reset (_ : Statistics) : Statistics := {}

def isZero (s : Statistics) : Bool :=
  s == {}

/-- The totals in the order of their definition. -/
def toList (s : Statistics) : List Nat :=
  [s.packetsSent, s.packetsReceived, s.bytesSent, s.bytesReceived, s.packetsDiscarded,
    s.protocolViolations, s.resetsSent].map UInt64.toNat

/-- The totals of a list in that order; missing ones are zero. -/
def ofList (l : List Nat) : Statistics where
  packetsSent := .ofNat (l.getD 0 0)
  packetsReceived := .ofNat (l.getD 1 0)
  bytesSent := .ofNat (l.getD 2 0)
  bytesReceived := .ofNat (l.getD 3 0)
  packetsDiscarded := .ofNat (l.getD 4 0)
  protocolViolations := .ofNat (l.getD 5 0)
  resetsSent := .ofNat (l.getD 6 0)

def countSent (s : Statistics) (kind : PacketKind) (payloadLength : Nat) : Statistics :=
  { s with
    packetsSent := s.packetsSent + 1
    bytesSent := s.bytesSent + .ofNat payloadLength
    resetsSent := s.resetsSent + if kind = .reset then 1 else 0 }

def countReceived (s : Statistics) (payloadLength : Nat) : Statistics :=
  { s with
    packetsReceived := s.packetsReceived + 1
    bytesReceived := s.bytesReceived + .ofNat payloadLength }

def countDiscarded (s : Statistics) : Statistics :=
  { s with packetsDiscarded := s.packetsDiscarded + 1 }

def countViolation (s : Statistics) : Statistics :=
  { s with protocolViolations := s.protocolViolations + 1 }

@[simp] theorem ofList_toList (s : Statistics) : ofList s.toList = s := by
  simp [ofList, toList]

end Statistics

end StreamLink
