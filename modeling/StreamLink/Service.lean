import StreamLink.Worker

/-!
# The service

A worker and its clients. Requests and the peer take turns, and the worker comes to rest after each:
it is asleep, with a wake condition armed and nothing left to do.
-/

namespace StreamLink

/-- A worker at rest, and the owner of every client so far, as long as the client is there. -/
structure Service where
  worker : Worker
  nextOwner : UInt32 := 1
  clients : List (Option UInt32) := []
deriving Repr, DecidableEq, Inhabited

namespace Service

/-- Lets the worker look at the link once more and go back to sleep. -/
def rest (s : Service) : Service :=
  let bell := { s.worker.bell with hostLine := s.worker.bell.hostLine.take }
  { s with worker := { s.worker with bell }.process .interrupt }

/-- Starts a worker on the host's side of an area. -/
def start (config : Config) (area : Area) : Except Fault (Service × Area) := do
  let (mux, area) ← Multiplexer.create config area
  return ({ worker := { mux } : Service }.rest, area)

/-! ### Clients -/

/-- An owner that nobody has. -/
def newOwner (s : Service) : UInt32 × Service :=
  (s.nextOwner, { s with nextOwner := s.nextOwner + 1 })

/-- Adds a client with an owner of its own. -/
def addClient (s : Service) : UInt32 × Service :=
  let (owner, s) := s.newOwner
  (owner, { s with clients := s.clients ++ [some owner] })

/-- The owner of a client that is there. -/
def owner? (s : Service) (client : Nat) : Option UInt32 :=
  s.clients[client]?.join

/-- Adds a client with the owner of another. -/
def cloneClient (s : Service) (client : Nat) : Option (UInt32 × Service) :=
  (s.owner? client).map fun owner => (owner, { s with clients := s.clients ++ [some owner] })

/-- A client goes; its requests stay. -/
def dropClient (s : Service) (client : Nat) : Service :=
  { s with clients := s.clients.set client none }

/-! ### Turns -/

def submit (s : Service) (r : Request) : Service :=
  { s with worker := s.worker.process (.request r) }.rest

def withPeer (s : Service) (l : Link) : Service :=
  { s with worker := s.worker.withLink l }.rest

def link (s : Service) : Link :=
  s.worker.link

def peerSend (s : Service) (p : Packet) : Except Fault Service := do
  let l ← s.link.send p
  return s.withPeer l

/-- The peer takes up to so many packets; the worker comes to rest after each, and may send more. -/
def peerReceiveUpTo : Nat → Service → List (Except Fault Packet) × Service
  | 0, s => ([], s)
  | n + 1, s =>
    match s.link.receive with
    | (none, _) => ([], s)
    | (some packet, l) =>
      let (packets, s') := peerReceiveUpTo n (s.withPeer l)
      (packet :: packets, s')

/-- More packets than these will not come as long as the peer only takes them: every one is in the
ring already or has a turn in the send queue. -/
def packetsToCome (s : Service) : Nat :=
  s.worker.mux.outbound.occupied + s.worker.mux.queue.length

def peerReceiveAll (s : Service) : List (Except Fault Packet) × Service :=
  peerReceiveUpTo s.packetsToCome s

/-- What became of a request by now. -/
def completion? (s : Service) (number : Nat) : Option Completion :=
  completionIn? s.worker.mux.history number

end Service

end StreamLink
