import StreamLink.Line
import StreamLink.Signal

/-!
# The doorbell

The registers through which the two sides wake each other. The peer sets bits of the host's events;
an event that is enabled raises the line to the host, unless delivery is masked, and then does so as
soon as the mask is lifted. Reading the events clears them. What the host writes to the peer's events
is collected until the peer takes it, and stores a wake-up for the peer.
-/

namespace StreamLink

/-- What the host can read and write. -/
inductive Register
  | hostEvents
  | enable
  | peerEvents
deriving Repr, DecidableEq, Inhabited

namespace Register

def all : List Register :=
  [hostEvents, enable, peerEvents]

def name : Register → String
  | hostEvents => "LocalEvents"
  | enable => "Enable"
  | peerEvents => "PeerEvents"

def ofName? (s : String) : Option Register :=
  all.find? (·.name == s)

end Register

/-- One access of the host to the doorbell. -/
inductive Access
  | mask
  | unmask
  | read (register : Register) (value : UInt8)
  | write (register : Register) (value : UInt8)
deriving Repr, DecidableEq, Inhabited

def Access.describe : Access → String
  | mask => "mask"
  | unmask => "unmask"
  | read register value => "read " ++ register.name ++ " " ++ toString value.toNat
  | write register value => "write " ++ register.name ++ " " ++ toString value.toNat

/-- The registers, the mask and the two lines. -/
structure Doorbell where
  events : UInt8 := 0
  enable : UInt8 := 0
  peerEvents : UInt8 := 0
  masked : Bool := false
  hostLine : Line := {}
  peerLine : Line := {}
deriving Repr, DecidableEq, Inhabited

namespace Doorbell

/-- Whether an event is set that the host enabled. -/
def isDue (d : Doorbell) : Bool :=
  d.events &&& d.enable != 0

/-- Raises the line to the host if an enabled event is set and delivery is not masked. -/
def raiseIfDue (d : Doorbell) : Doorbell :=
  if !d.masked && d.isDue then { d with hostLine := d.hostLine.raise } else d

/-! ### The host -/

/-- Reads a register; reading the events clears them. -/
def read (d : Doorbell) : Register → UInt8 × Doorbell
  | .hostEvents => (d.events, { d with events := 0 })
  | .enable => (d.enable, d)
  | .peerEvents => (d.peerEvents, d)

/-- Writes a register. The peer's events only ever gain bits, and the peer is woken. -/
def write (d : Doorbell) (register : Register) (value : UInt8) : Doorbell :=
  match register with
  | .hostEvents => { d with events := value }.raiseIfDue
  | .enable => { d with enable := value }.raiseIfDue
  | .peerEvents =>
    { d with peerEvents := d.peerEvents ||| value, peerLine := d.peerLine.raise }.raiseIfDue

/-- Holds back delivery. -/
def mask (d : Doorbell) : Doorbell :=
  { d with masked := true }

/-- Lets delivery go on, with what is due by now. -/
def unmask (d : Doorbell) : Doorbell :=
  { d with masked := false }.raiseIfDue

/-! ### The peer -/

def ring (d : Doorbell) (bits : UInt8) : Doorbell :=
  { d with events := d.events ||| bits }.raiseIfDue

def takePeerEvents (d : Doorbell) : UInt8 × Doorbell :=
  (signalBits d.peerEvents, { d with peerEvents := 0 })

/-- The events that the host has enabled. -/
def enabledEvents (d : Doorbell) : UInt8 :=
  signalBits d.enable

end Doorbell

end StreamLink
