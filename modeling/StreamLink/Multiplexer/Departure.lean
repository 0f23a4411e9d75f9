import StreamLink.Multiplexer.Basic

/-!
# Departing frames

What happens when a stream's turn in the send queue comes: its connect, its write or end of stream,
or the Reset it owes goes out, and the request that was waiting for it is answered.
-/

namespace StreamLink

namespace Multiplexer

/-- A write or an end of stream goes out. -/
def sendWrite (m : Multiplexer) (stream : UInt8) (r : Request) : Multiplexer :=
  match r.command with
  | .write data => (m.transmit .data stream data).answer r (.written data.length)
  | _ => ((m.transmit .eos stream []).answer r (.ofStatus .ok)).markEosSent stream

def serve (m : Multiplexer) (stream : UInt8) : Multiplexer :=
  match m.sockets.get? stream with
  | none => m.record (.strayed stream)
  | some s =>
    match s.work with
    | .connect service => m.transmit .connect stream service
    | .write r => (m.modify stream ({ · with pendingWrite := none })).sendWrite stream r
    | .reset => (m.transmit .reset stream []).retire stream
    | .idle => m

def canServe (m : Multiplexer) : Bool :=
  match m.queue.front? with
  | none => false
  | some e => m.outbound.roomFor e.length

def serveFront (m : Multiplexer) : Multiplexer :=
  match m.queue.front? with
  | none => m
  | some e => { m with queue := m.queue.pop }.serve e.stream

/-! ### What a turn leaves alone -/

@[simp] theorem inbound_sendWrite (m : Multiplexer) (stream : UInt8) (r : Request) :
    (m.sendWrite stream r).inbound = m.inbound := by
  unfold sendWrite; split <;> simp

theorem length_queue_sendWrite (m : Multiplexer) (stream : UInt8) (r : Request) :
    (m.sendWrite stream r).queue.length ≤ m.queue.length := by
  unfold sendWrite
  split
  · simp
  · exact Nat.le_trans (length_queue_markEosSent _ _) (by simp)

@[simp] theorem inbound_serve (m : Multiplexer) (stream : UInt8) :
    (m.serve stream).inbound = m.inbound := by
  unfold serve
  split
  · rfl
  · split <;> simp

theorem length_queue_serve (m : Multiplexer) (stream : UInt8) :
    (m.serve stream).queue.length ≤ m.queue.length := by
  unfold serve
  split
  · simp
  · split
    · simp
    · exact Nat.le_trans (length_queue_sendWrite _ _ _) (by simp)
    · simp
    · simp

@[simp] theorem inbound_serveFront (m : Multiplexer) : m.serveFront.inbound = m.inbound := by
  unfold serveFront; split <;> simp

/-- A turn that was served is over. -/
theorem length_queue_serveFront_lt (m : Multiplexer) (h : m.canServe = true) :
    m.serveFront.queue.length < m.queue.length := by
  unfold canServe at h
  unfold serveFront
  split at h
  · contradiction
  next e hfront =>
    exact Nat.lt_of_le_of_lt (length_queue_serve _ _) (SendQueue.length_pop_lt hfront)

end Multiplexer

end StreamLink
