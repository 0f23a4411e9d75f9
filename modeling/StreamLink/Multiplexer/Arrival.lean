import StreamLink.Multiplexer.Basic

/-!
# Arriving frames

What a frame from the peer does. A Reset ends its stream, even one that is closed already. Otherwise
only open sockets take part: an answer to a connect, data, and the end of a stream go to whoever
waits for them, or are kept. Frames that nobody can use are counted and leave no other trace.
-/

namespace StreamLink

namespace Multiplexer

/-- Counts a frame that nobody could use. -/
def discard (m : Multiplexer) : Multiplexer :=
  { m with statistics := m.statistics.countDiscarded }

/-- Counts something the peer should not have sent. -/
def countViolation (m : Multiplexer) : Multiplexer :=
  { m with statistics := m.statistics.countViolation }

/-- An answer to a connect is one byte, for a connect that waits. A refused one ends the stream. -/
def takeConnectResponse (m : Multiplexer) (s : Socket) (payload : Bytes) : Multiplexer :=
  match s.pendingConnect, payload with
  | some r, [result] =>
    let m := (m.withdraw s.stream).modify s.stream ({ · with pendingConnect := none })
    if result = connectAccepted then m.answer r (.ofStatus .ok)
    else (m.answer r (.ofStatus .connectUnknownService)).close s.stream false
  | _, _ => m.countViolation

/-- Data goes to the read that waits, or is kept. What is too long for either resets the stream. -/
def takeData (m : Multiplexer) (s : Socket) (payload : Bytes) : Multiplexer :=
  match s.pendingRead with
  | some r =>
    if payload.length ≤ r.command.capacity then
      (m.modify s.stream ({ · with pendingRead := none })).answer r (.read payload)
    else m.close s.stream true
  | none =>
    if m.config.maxReceiveQueueBytes ≠ 0 ∧
        m.config.maxReceiveQueueBytes < s.queuedBytes + payload.length then
      m.close s.stream true
    else m.modify s.stream (·.pushChunk payload)

/-- The peer's end of stream goes to the read that waits, or is remembered. -/
def takeEos (m : Multiplexer) (s : Socket) : Multiplexer :=
  let m := m.modifyFlags s.stream ({ · with eosFromPeer := true })
  match s.pendingRead with
  | some r => (m.modify s.stream ({ · with pendingRead := none })).deliverEos s.stream r
  | none => m

def takeFrame (m : Multiplexer) (s : Socket) (f : Frame) : Multiplexer :=
  match PacketKind.ofCode? f.kind with
  | some .connectResponse => m.takeConnectResponse s f.payload
  | some .data => m.takeData s f.payload
  | some .eos => m.takeEos s
  | _ => m.countViolation.discard

def dispatch (m : Multiplexer) (f : Frame) : Multiplexer :=
  let m := { m with statistics := m.statistics.countReceived f.payload.length }.record (.received f)
  match m.sockets.get? f.stream with
  | none => m.discard
  | some s =>
    if PacketKind.ofCode? f.kind = some .reset then m.close f.stream false
    else if s.flags.closed then m.discard
    else m.takeFrame s f

/-- Takes the next frame out of a ring that is not empty. If it is not whole, everything is thrown
away: there is no telling where the next frame would begin. -/
def receiveOne (m : Multiplexer) : Multiplexer :=
  match m.inbound.takeFrame? with
  | some (frame, ring) => { m with inbound := ring }.dispatch frame
  | none =>
    { m with inbound := m.inbound.discardAll }.countViolation.record (.garbled m.inbound.occupied)

/-! ### What an arriving frame leaves alone -/

@[simp] theorem inbound_dispatch (m : Multiplexer) (f : Frame) :
    (m.dispatch f).inbound = m.inbound := by
  unfold dispatch
  dsimp only
  split
  · rfl
  split
  · simp
  split
  · rfl
  unfold takeFrame
  split
  · unfold takeConnectResponse
    split
    · dsimp only
      split <;> simp
    · rfl
  · unfold takeData
    split
    · split <;> simp
    · split <;> simp
  · unfold takeEos
    dsimp only
    split <;> simp
  · rfl

/-- A frame makes at most one stream wait for its turn. -/
theorem length_queue_dispatch (m : Multiplexer) (f : Frame) :
    (m.dispatch f).queue.length ≤ m.queue.length + 1 := by
  unfold dispatch
  dsimp only
  split
  · exact Nat.le_succ _
  split
  · exact length_queue_close _ _ _
  split
  · exact Nat.le_succ _
  unfold takeFrame
  split
  · unfold takeConnectResponse
    split
    · dsimp only
      split
      · simp
      · refine Nat.le_trans (length_queue_close _ _ _) ?_
        simp
    · exact Nat.le_succ _
  · unfold takeData
    split
    · split
      · exact Nat.le_succ _
      · exact length_queue_close _ _ _
    · split
      · exact length_queue_close _ _ _
      · exact Nat.le_succ _
  · unfold takeEos
    dsimp only
    split
    · exact Nat.le_succ_of_le (length_queue_deliverEos _ _ _)
    · exact Nat.le_succ _
  · exact Nat.le_succ _

theorem inbound_receiveOne_eq (m : Multiplexer) :
    m.receiveOne.inbound =
      match m.inbound.takeFrame? with
      | some (_, ring) => ring
      | none => m.inbound.discardAll := by
  unfold receiveOne
  split <;> simp_all [countViolation]

/-- Each step empties the ring further. -/
theorem occupied_receiveOne_lt (m : Multiplexer) (h : m.inbound.isEmpty = false) :
    m.receiveOne.inbound.occupied < m.inbound.occupied := by
  have hpos := Ring.isEmpty_eq_false_iff.mp h
  rw [inbound_receiveOne_eq]
  split
  next hframe =>
    have := Ring.occupied_of_takeFrame? hframe
    omega
  · simpa using hpos

/-- Each step takes away more bytes than it adds turns. -/
theorem work_receiveOne_lt (m : Multiplexer) (h : m.inbound.isEmpty = false) :
    m.receiveOne.inbound.occupied + m.receiveOne.queue.length <
      m.inbound.occupied + m.queue.length := by
  have hpos := Ring.isEmpty_eq_false_iff.mp h
  unfold receiveOne
  split
  next frame ring hframe =>
    have hring := Ring.occupied_of_takeFrame? hframe
    have hqueue := length_queue_dispatch { m with inbound := ring } frame
    simp only [inbound_dispatch] at *
    omega
  · simpa [countViolation] using hpos

end Multiplexer

end StreamLink
