import StreamLink.Doorbell
import StreamLink.Ring

/-!
# The peer's end

What the peer does with the two rings and the doorbell. It moves its ring position first and rings
the doorbell afterwards, so that a host that is woken finds what it was woken for.
-/

namespace StreamLink

/-- What the two sides share. -/
structure Link where
  /-- The ring that the peer reads. -/
  toPeer : Ring := {}
  /-- The ring that the peer writes. -/
  fromPeer : Ring := {}
  bell : Doorbell := {}
deriving Repr, DecidableEq, Inhabited

namespace Link

def signal (l : Link) (s : HostSignals) : Link :=
  { l with bell := l.bell.ring s.bits }

def send (l : Link) (p : Packet) : Except Fault Link := do
  let ring ← l.fromPeer.appendPacket p
  return { l with fromPeer := ring }.signal { inboundTail := true }

def receive (l : Link) : Option (Except Fault Packet) × Link :=
  match l.toPeer.takePacket with
  | (none, _) => (none, l)
  | (some packet, ring) => (some packet, { l with toPeer := ring }.signal { outboundHead := true })

/-- The peer asks for a packet so many times, ending early when nothing is left. -/
def receiveUpTo : Nat → Link → List (Except Fault Packet) × Link
  | 0, l => ([], l)
  | n + 1, l =>
    match l.receive with
    | (none, l') => ([], l')
    | (some packet, l') =>
      let (packets, l'') := receiveUpTo n l'
      (packet :: packets, l'')

/-- The peer waits to be woken: that a wake-up was stored, which is used up. -/
def wait (l : Link) : Bool × Link :=
  if l.bell.peerLine.isRaised then
    (true, { l with bell := { l.bell with peerLine := l.bell.peerLine.take } })
  else (false, l)

/-- The peer sends a packet; if the ring is full, again once it is woken. -/
def sendPatiently (l : Link) (p : Packet) : Except Fault Unit × Link :=
  match l.send p with
  | .ok l' => (.ok (), l')
  | .error (.ringFull required available) =>
    match l.wait with
    | (false, l') => (.error (.ringFull required available), l')
    | (true, l') =>
      match l'.send p with
      | .ok l'' => (.ok (), l'')
      | .error fault => (.error fault, l')
  | .error fault => (.error fault, l)

/-- The outcome of one packet taken, or of none. -/
def reception : Option (Except Fault Packet) → Except Fault (Option Packet)
  | none => .ok none
  | some (.ok packet) => .ok (some packet)
  | some (.error fault) => .error fault

/-- The peer takes the next packet; if there is none, again once it is woken. -/
def receivePatiently (l : Link) : Except Fault (Option Packet) × Link :=
  match l.receive with
  | (some packet, l') => (reception (some packet), l')
  | (none, l') =>
    match l'.wait with
    | (false, l'') => (.ok none, l'')
    | (true, l'') =>
      let (packet, l''') := l''.receive
      (reception packet, l''')

/-- Whether the host has taken everything that the peer sent. -/
def outboxIsEmpty (l : Link) : Bool :=
  l.fromPeer.isEmpty

end Link

end StreamLink
