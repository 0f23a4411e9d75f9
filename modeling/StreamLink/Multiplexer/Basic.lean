import StreamLink.Area
import StreamLink.Config
import StreamLink.Event
import StreamLink.SendQueue
import StreamLink.SocketTable
import StreamLink.Statistics

/-!
# The multiplexer

The host's end of a link: it holds both rings, the sockets, the send queue and the totals, and keeps
a history of what it did. This module holds its state and the steps that the others are made of:
answering, sending or queueing a frame, and closing a socket.

The last section says what these steps leave alone and how much they lengthen the queue; that polling
comes to an end rests on it.
-/

namespace StreamLink

/-- The state of a host's end. -/
structure Multiplexer where
  config : Config := {}
  /-- The ring that the host writes. -/
  outbound : Ring := {}
  /-- The ring that the host reads. -/
  inbound : Ring := {}
  sockets : SocketTable := {}
  queue : SendQueue := {}
  statistics : Statistics := {}
  /-- What was done so far, newest first. -/
  history : List Event := []
deriving Repr, DecidableEq, Inhabited

namespace Multiplexer

/-- Takes the host's side of an area. -/
def create (config : Config) (area : Area) : Except Fault (Multiplexer × Area) := do
  let area ← area.claim .host
  return ({ config
            outbound := area.toPeer
            inbound := area.fromPeer
            sockets := .ofLimit config.effectiveMaxSockets }, area)

/-- A host's end of a fresh area. -/
def fresh (config : Config) : Multiplexer :=
  { config, sockets := .ofLimit config.effectiveMaxSockets }

def record (m : Multiplexer) (e : Event) : Multiplexer :=
  { m with history := e :: m.history }

def answer (m : Multiplexer) (r : Request) (c : Completion) : Multiplexer :=
  m.record (.answered r c)

def modify (m : Multiplexer) (stream : UInt8) (f : Socket → Socket) : Multiplexer :=
  { m with sockets := m.sockets.modify stream f }

def modifyFlags (m : Multiplexer) (stream : UInt8) (f : SocketFlags → SocketFlags) : Multiplexer :=
  m.modify stream fun s => { s with flags := f s.flags }

def retire (m : Multiplexer) (stream : UInt8) : Multiplexer :=
  if m.sockets.contains stream then
    { m with sockets := m.sockets.erase stream }.record (.retired stream)
  else m

/-- Whether a frame may go out at once: nobody waits, and it fits. -/
def canSendNow (m : Multiplexer) (payloadLength : Nat) : Bool :=
  m.queue.isEmpty && m.outbound.roomFor payloadLength

/-- Puts a packet into the ring and counts it. -/
def transmit (m : Multiplexer) (kind : PacketKind) (stream : UInt8) (payload : Bytes) :
    Multiplexer :=
  match m.outbound.append kind stream payload with
  | .ok ring =>
    { m with
      outbound := ring
      statistics := m.statistics.countSent kind payload.length }.record (.sent kind stream payload)
  | .error _ => m.record (.refused kind stream payload)

def enqueue (m : Multiplexer) (stream : UInt8) (length : Nat) : Multiplexer :=
  let m := if m.queue.contains stream then m.record (.doubled stream) else m
  { m with queue := m.queue.enqueue stream length }

/-- Notes that what a stream has in the send queue will not be sent. -/
def withdraw (m : Multiplexer) (stream : UInt8) : Multiplexer :=
  match m.sockets.get? stream with
  | none => m
  | some s =>
    if m.queue.contains stream && s.work != .idle then m.record (.withdrawn stream) else m

/-- Answers every request that waits on a socket as its command fails. -/
def failAll (m : Multiplexer) (requests : List Request) : Multiplexer :=
  requests.foldl (fun m r => m.answer r r.failure) m

/-- Closes the socket of a stream: whatever waits on it fails and its turn is lost. If the peer is to
know, a Reset goes out at once, and the socket with it, or the socket stays until the Reset's turn
comes. -/
def close (m : Multiplexer) (stream : UInt8) (emitReset : Bool) : Multiplexer :=
  match m.sockets.get? stream with
  | none => m
  | some s =>
    let m := (m.withdraw stream).failAll s.parked
    let m := { m.modify stream Socket.abort with queue := m.queue.remove stream }
    if !emitReset then m.retire stream
    else
      let m := m.record (.accepted .reset stream [])
      if m.canSendNow 0 then (m.transmit .reset stream []).retire stream
      else (m.modifyFlags stream ({ · with owesReset := true })).enqueue stream 0

/-- Closes a socket on which both directions have ended. -/
def closeIfExchanged (m : Multiplexer) (stream : UInt8) : Multiplexer :=
  match m.sockets.get? stream with
  | none => m
  | some s => if s.flags.eosExchanged then m.close stream false else m

/-- The caller's end of stream has reached the ring. -/
def markEosSent (m : Multiplexer) (stream : UInt8) : Multiplexer :=
  (m.modifyFlags stream ({ · with eosSent := true })).closeIfExchanged stream

/-- A read is told that the peer sends nothing more. -/
def deliverEos (m : Multiplexer) (stream : UInt8) (r : Request) : Multiplexer :=
  ((m.answer r (.ofStatus .readEos)).modifyFlags stream
    ({ · with eosDelivered := true })).closeIfExchanged stream

/-! ### What the steps leave alone -/

@[simp] theorem inbound_record (m : Multiplexer) (e : Event) : (m.record e).inbound = m.inbound := rfl

@[simp] theorem queue_record (m : Multiplexer) (e : Event) : (m.record e).queue = m.queue := rfl

@[simp] theorem inbound_answer (m : Multiplexer) (r : Request) (c : Completion) :
    (m.answer r c).inbound = m.inbound := rfl

@[simp] theorem queue_answer (m : Multiplexer) (r : Request) (c : Completion) :
    (m.answer r c).queue = m.queue := rfl

@[simp] theorem inbound_modify (m : Multiplexer) (stream : UInt8) (f : Socket → Socket) :
    (m.modify stream f).inbound = m.inbound := rfl

@[simp] theorem queue_modify (m : Multiplexer) (stream : UInt8) (f : Socket → Socket) :
    (m.modify stream f).queue = m.queue := rfl

@[simp] theorem inbound_modifyFlags (m : Multiplexer) (stream : UInt8)
    (f : SocketFlags → SocketFlags) : (m.modifyFlags stream f).inbound = m.inbound := rfl

@[simp] theorem queue_modifyFlags (m : Multiplexer) (stream : UInt8)
    (f : SocketFlags → SocketFlags) : (m.modifyFlags stream f).queue = m.queue := rfl

@[simp] theorem inbound_retire (m : Multiplexer) (stream : UInt8) :
    (m.retire stream).inbound = m.inbound := by
  unfold retire; split <;> rfl

@[simp] theorem queue_retire (m : Multiplexer) (stream : UInt8) :
    (m.retire stream).queue = m.queue := by
  unfold retire; split <;> rfl

@[simp] theorem inbound_transmit (m : Multiplexer) (kind : PacketKind) (stream : UInt8)
    (payload : Bytes) : (m.transmit kind stream payload).inbound = m.inbound := by
  unfold transmit; split <;> rfl

@[simp] theorem queue_transmit (m : Multiplexer) (kind : PacketKind) (stream : UInt8)
    (payload : Bytes) : (m.transmit kind stream payload).queue = m.queue := by
  unfold transmit; split <;> rfl

@[simp] theorem inbound_enqueue (m : Multiplexer) (stream : UInt8) (n : Nat) :
    (m.enqueue stream n).inbound = m.inbound := by
  unfold enqueue; dsimp only; split <;> rfl

@[simp] theorem queue_enqueue (m : Multiplexer) (stream : UInt8) (n : Nat) :
    (m.enqueue stream n).queue = m.queue.enqueue stream n := by
  unfold enqueue; dsimp only; split <;> rfl

@[simp] theorem inbound_withdraw (m : Multiplexer) (stream : UInt8) :
    (m.withdraw stream).inbound = m.inbound := by
  unfold withdraw; split
  · rfl
  · split <;> rfl

@[simp] theorem queue_withdraw (m : Multiplexer) (stream : UInt8) :
    (m.withdraw stream).queue = m.queue := by
  unfold withdraw; split
  · rfl
  · split <;> rfl

@[simp] theorem inbound_failAll (m : Multiplexer) (rs : List Request) :
    (m.failAll rs).inbound = m.inbound := by
  induction rs generalizing m with
  | nil => rfl
  | cons r rs ih => exact ih (m.answer r r.failure)

@[simp] theorem queue_failAll (m : Multiplexer) (rs : List Request) :
    (m.failAll rs).queue = m.queue := by
  induction rs generalizing m with
  | nil => rfl
  | cons r rs ih => exact ih (m.answer r r.failure)

@[simp] theorem inbound_close (m : Multiplexer) (stream : UInt8) (emitReset : Bool) :
    (m.close stream emitReset).inbound = m.inbound := by
  unfold close
  split
  · rfl
  · dsimp only
    split
    · simp
    · split <;> simp

/-- Closing a socket takes its turn away. -/
theorem length_queue_close_false (m : Multiplexer) (stream : UInt8) :
    (m.close stream false).queue.length ≤ m.queue.length := by
  unfold close
  split
  · exact Nat.le_refl _
  · simpa using m.queue.length_remove_le stream

/-- Closing a socket gives its Reset one turn at most. -/
theorem length_queue_close (m : Multiplexer) (stream : UInt8) (emitReset : Bool) :
    (m.close stream emitReset).queue.length ≤ m.queue.length + 1 := by
  have hremove := m.queue.length_remove_le stream
  unfold close
  split
  · omega
  · dsimp only
    split
    · simp; omega
    · split
      · simp; omega
      · simp; omega

@[simp] theorem inbound_closeIfExchanged (m : Multiplexer) (stream : UInt8) :
    (m.closeIfExchanged stream).inbound = m.inbound := by
  unfold closeIfExchanged
  split
  · rfl
  · split <;> simp

theorem length_queue_closeIfExchanged (m : Multiplexer) (stream : UInt8) :
    (m.closeIfExchanged stream).queue.length ≤ m.queue.length := by
  unfold closeIfExchanged
  split
  · exact Nat.le_refl _
  · split
    · exact m.length_queue_close_false stream
    · exact Nat.le_refl _

@[simp] theorem inbound_markEosSent (m : Multiplexer) (stream : UInt8) :
    (m.markEosSent stream).inbound = m.inbound := by
  simp [markEosSent]

theorem length_queue_markEosSent (m : Multiplexer) (stream : UInt8) :
    (m.markEosSent stream).queue.length ≤ m.queue.length :=
  length_queue_closeIfExchanged _ stream

@[simp] theorem inbound_deliverEos (m : Multiplexer) (stream : UInt8) (r : Request) :
    (m.deliverEos stream r).inbound = m.inbound := by
  simp [deliverEos]

theorem length_queue_deliverEos (m : Multiplexer) (stream : UInt8) (r : Request) :
    (m.deliverEos stream r).queue.length ≤ m.queue.length :=
  length_queue_closeIfExchanged _ stream

end Multiplexer

end StreamLink
