import StreamLink.Ring

/-!
# The shared area

Two rings, one for each direction, and who has taken which side. Each side writes one ring and reads
the other, and a side is given out once.
-/

namespace StreamLink

/-- One of the two parties of a link. -/
inductive Side
  | host
  | peer
deriving Repr, DecidableEq, Inhabited

/-- One of the two rings. -/
inductive Direction
  | toPeer
  | fromPeer
deriving Repr, DecidableEq, Inhabited

def Direction.name : Direction → String
  | .toPeer => "ToPeer"
  | .fromPeer => "FromPeer"

namespace Side

def writes : Side → Direction
  | host => .toPeer
  | peer => .fromPeer

def reads : Side → Direction
  | host => .fromPeer
  | peer => .toPeer

end Side

/-- The memory that both sides see. -/
structure Area where
  toPeer : Ring := {}
  fromPeer : Ring := {}
  hostClaimed : Bool := false
  peerClaimed : Bool := false
deriving Repr, DecidableEq, Inhabited

namespace Area

def ring (a : Area) : Direction → Ring
  | .toPeer => a.toPeer
  | .fromPeer => a.fromPeer

def setRing (a : Area) : Direction → Ring → Area
  | .toPeer, r => { a with toPeer := r }
  | .fromPeer, r => { a with fromPeer := r }

/-- Whether a side was given out. -/
def claimed (a : Area) : Side → Bool
  | .host => a.hostClaimed
  | .peer => a.peerClaimed

/-- Gives out a side, once. -/
def claim (a : Area) (s : Side) : Except Fault Area :=
  if a.claimed s then .error .endpointClaimed
  else
    match s with
    | .host => .ok { a with hostClaimed := true }
    | .peer => .ok { a with peerClaimed := true }

/-! ### In words -/

/-- A record's name and its fields, on one line. -/
def describeFields (name : String) (fields : List (String × String)) : String :=
  name ++ " \x7b " ++ String.intercalate ", " (fields.map fun (key, value) => key ++ ": " ++ value)
    ++ " \x7d"

/-- The four positions of an area. -/
def describe (a : Area) : String :=
  describeFields "ComArea"
    [("to_peer_head", toString a.toPeer.head.toNat), ("to_peer_tail", toString a.toPeer.tail.toNat),
     ("from_peer_head", toString a.fromPeer.head.toNat),
     ("from_peer_tail", toString a.fromPeer.tail.toNat)]

/-- A side's writing end. -/
def describeWriter (a : Area) (s : Side) : String :=
  describeFields "Producer"
    [("direction", s.writes.name), ("tail", toString (a.ring s.writes).tail.toNat),
     ("occupied", toString (a.ring s.writes).occupied)]

/-- A side's reading end. -/
def describeReader (a : Area) (s : Side) : String :=
  describeFields "Consumer"
    [("direction", s.reads.name), ("head", toString (a.ring s.reads).head.toNat),
     ("occupied", toString (a.ring s.reads).occupied)]

end Area

end StreamLink
