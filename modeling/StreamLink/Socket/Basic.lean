import StreamLink.Ledger
import StreamLink.Socket.Flags

/-!
# Sockets

The host's end of one stream: up to three requests that wait on it, one in each slot, and the chunks
that arrived before anyone read them.
-/

namespace StreamLink

/-- The places where a request may wait on a socket. An end of stream waits where a write does. -/
inductive Slot
  | connect
  | read
  | write
deriving Repr, DecidableEq, Inhabited

/-- The host's end of one stream. -/
structure Socket where
  stream : UInt8
  address : Address
  flags : SocketFlags := {}
  pendingConnect : Option Request := none
  pendingRead : Option Request := none
  pendingWrite : Option Request := none
  /-- Chunks that nobody has read yet, oldest first. -/
  chunks : List Bytes := []
  /-- The bytes in those chunks. -/
  queuedBytes : Nat := 0
deriving Repr, DecidableEq, Inhabited

/-- What a socket would put on the wire next. -/
inductive Work
  | connect (service : Bytes)
  | write (request : Request)
  | reset
  | idle
deriving Repr, DecidableEq, Inhabited

namespace Socket

/-- The request in a slot. -/
def slot (s : Socket) : Slot → Option Request
  | .connect => s.pendingConnect
  | .read => s.pendingRead
  | .write => s.pendingWrite

/-- The socket with another content of one slot. -/
def setSlot (s : Socket) : Slot → Option Request → Socket
  | .connect, r => { s with pendingConnect := r }
  | .read, r => { s with pendingRead := r }
  | .write, r => { s with pendingWrite := r }

/-- The waiting requests: connect, then read, then write. -/
def parked (s : Socket) : List Request :=
  s.pendingConnect.toList ++ s.pendingRead.toList ++ s.pendingWrite.toList

def hasPending (s : Socket) : Bool :=
  s.pendingConnect.isSome || s.pendingRead.isSome || s.pendingWrite.isSome

/-- Whether a write or an end of stream has to be refused. -/
def writeConflicts (s : Socket) : Bool :=
  s.pendingConnect.isSome || s.pendingWrite.isSome || s.flags.eosFromCaller

/-- What goes on the wire when the socket's turn comes: its connect, else its write or end of stream,
else the Reset it owes. -/
def work (s : Socket) : Work :=
  match s.pendingConnect, s.pendingWrite with
  | some r, _ => .connect r.command.payload
  | none, some r => .write r
  | none, none => if s.flags.owesReset then .reset else .idle

def pushChunk (s : Socket) (data : Bytes) : Socket :=
  { s with chunks := s.chunks ++ [data], queuedBytes := s.queuedBytes + data.length }

/-- Takes the oldest chunk. -/
def popChunk? (s : Socket) : Option (Bytes × Socket) :=
  match s.chunks with
  | [] => none
  | data :: rest =>
    some (data, { s with chunks := rest, queuedBytes := s.queuedBytes - data.length })

/-- Gives the stream up: nothing waits, nothing is buffered. -/
def abort (s : Socket) : Socket :=
  { s with
    pendingConnect := none
    pendingRead := none
    pendingWrite := none
    chunks := []
    queuedBytes := 0
    flags := { s.flags with closed := true } }

/-! ### A socket in its holder's hands -/

/-- Puts a request into a slot. What was there is dropped. -/
def park (s : Socket) (slot : Slot) (r : Request) : Socket × List Report :=
  (s.setSlot slot (some r), (s.slot slot).toList.map (·.finish .drop))

/-- Ends the request in a slot. -/
def finish? (s : Socket) (slot : Slot) (ending : Ending) : Option (Socket × Report) :=
  (s.slot slot).map fun r => (s.setSlot slot none, r.finish ending)

/-- What the waiting requests are told when the stream is given up. -/
def failures (s : Socket) : List Report :=
  s.parked.map (·.finish .fail)

/-- What becomes of the waiting requests when the socket itself goes. -/
def droppings (s : Socket) : List Report :=
  s.parked.map (·.finish .drop)

@[simp] theorem stream_abort (s : Socket) : s.abort.stream = s.stream := rfl

@[simp] theorem address_abort (s : Socket) : s.abort.address = s.address := rfl

end Socket

end StreamLink
