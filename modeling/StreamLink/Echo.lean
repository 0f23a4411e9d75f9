import StreamLink.Service

/-!
# The echo peer

A peer that serves one service: it accepts connects to it and sends back what it is sent. With such a
peer every call on an open stream comes to an end, so that a client can make one call after another.
-/

namespace StreamLink

def echoService : Bytes :=
  "echo".toUTF8.toList

/-- The result byte for any other service. -/
def connectUnknownService : UInt8 := 1

/-- The streams that the echo peer holds open. -/
structure EchoPeer where
  streams : List UInt8 := []
deriving Repr, DecidableEq, Inhabited

/-- What the peer makes of a packet, and what it sends back. -/
def EchoPeer.react (e : EchoPeer) (p : Packet) : EchoPeer × Option Packet :=
  match p.kind with
  | .connect =>
    if p.payload = echoService then
      (⟨p.stream :: e.streams⟩, some (.connectResponse p.stream connectAccepted))
    else (e, some (.connectResponse p.stream connectUnknownService))
  | .data => (e, if e.streams.contains p.stream then some p else none)
  | .eos =>
    if e.streams.contains p.stream then (⟨e.streams.erase p.stream⟩, some (.eos p.stream))
    else (e, none)
  | .reset => (⟨e.streams.erase p.stream⟩, none)
  | .connectResponse => (e, none)

/-- A service and its echo peer. -/
structure EchoSession where
  service : Service
  peer : EchoPeer := {}
deriving Repr, DecidableEq, Inhabited

namespace EchoSession

/-- The peer takes one packet and sends what it has to say, if there is a packet. -/
def turn (s : EchoSession) : Option EchoSession :=
  match s.service.link.receive with
  | (some (.ok packet), l) =>
    let service := s.service.withPeer l
    let (peer, reply) := s.peer.react packet
    match reply with
    | none => some { service, peer }
    | some p =>
      match service.peerSend p with
      | .ok service => some { service, peer }
      | .error _ => some { service, peer }
  | _ => none

def turns : Nat → EchoSession → EchoSession
  | 0, s => s
  | n + 1, s =>
    match s.turn with
    | none => s
    | some s' => turns n s'

/-- Turns until the peer has nothing left to take. Besides the packets to come, every socket may yet
send one Reset. -/
def settle (s : EchoSession) : EchoSession :=
  turns (s.service.packetsToCome + s.service.worker.mux.sockets.size) s

def call (s : EchoSession) (r : Request) : Option Completion × EchoSession :=
  let s := { s with service := s.service.submit r }.settle
  (s.service.completion? r.number, s)

end EchoSession

end StreamLink
