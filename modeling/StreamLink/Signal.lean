/-!
# Signals

What each side may tell the other without a byte on the wire: that a ring position has moved. The
host listens for the peer's two positions, the peer for the host's two.
-/

namespace StreamLink

/-- The peer's movements that the host waits for. -/
structure HostSignals where
  /-- The peer appended something. -/
  inboundTail : Bool := false
  /-- The peer took something. -/
  outboundHead : Bool := false
deriving Repr, DecidableEq, Inhabited

namespace HostSignals

/-- One bit for each signal. -/
def bits (s : HostSignals) : UInt8 :=
  (if s.inboundTail then 1 else 0) + (if s.outboundHead then 2 else 0)

def isEmpty (s : HostSignals) : Bool :=
  !s.inboundTail && !s.outboundHead

end HostSignals

/-- The host's movements that the peer is told of. -/
structure PeerSignals where
  outboundTail : Bool := false
  /-- The host took something. -/
  inboundHead : Bool := false
deriving Repr, DecidableEq, Inhabited

namespace PeerSignals

/-- One bit for each signal. -/
def bits (s : PeerSignals) : UInt8 :=
  (if s.outboundTail then 1 else 0) + (if s.inboundHead then 2 else 0)

def isEmpty (s : PeerSignals) : Bool :=
  !s.outboundTail && !s.inboundHead

end PeerSignals

/-- The bits of a register that stand for a signal; the others mean nothing. -/
def signalBits (b : UInt8) : UInt8 :=
  b &&& 3

end StreamLink
