import StreamLink.Proofs.Coherence
import StreamLink.Proofs.InboundOrder
import StreamLink.Proofs.Splitting

/-!
# What a socket buffers

The receive limit counts bytes. It bounds the bytes that a socket buffers, and with them the chunks
that are not empty; but an empty payload takes no bytes and is kept like any other, so that nothing
bounds how many empty chunks there are. Whatever payloads the limit lets through, a peer can make a
socket buffer them.

Main statement: `buffered_within_limit`.
-/

namespace StreamLink

/-- There are no more chunks than bytes in them, but for the empty ones. -/
theorem length_le_sum_add_count (chunks : List Bytes) :
    chunks.length ≤ (chunks.map List.length).sum + chunks.count [] := by
  induction chunks with
  | nil => exact Nat.le_refl 0
  | cons chunk chunks ih =>
      cases chunk with
      | nil =>
          rw [List.count_cons_self, List.map_cons, List.sum_cons, List.length_cons, List.length_nil]
          omega
      | cons b chunk =>
          rw [List.count_cons_of_ne (List.cons_ne_nil b chunk), List.map_cons, List.sum_cons,
            List.length_cons, List.length_cons]
          omega

namespace Ring.Holds

/-- The oldest frame is taken as it was appended. -/
theorem takeFrame? {r : Ring} {p : Packet} {packets : List Packet} (h : r.Holds (p :: packets)) :
    r.takeFrame? = some (p.frame, r.consume p.header.frameLength) := by
  rw [Ring.takeFrame?_of_contents p.toNat_header_length h.contents_cons, p.frameLength_header]
  rfl

end Ring.Holds

namespace Multiplexer

variable {m : Multiplexer} {stream : UInt8} {s : Socket}

/-! ### One frame arrives -/

theorem canSendNow_of_fresh (hqueue : m.queue = {}) (houtbound : m.outbound = {}) :
    m.canSendNow 0 = true := by
  rw [canSendNow, hqueue, houtbound]
  decide

/-- Polling takes in a frame, and that is all there is to do if nothing waits then. -/
theorem poll_eq_receiveOne (h : m.inbound.isEmpty = false)
    (hempty : m.receiveOne.inbound.isEmpty = true) (hserve : m.receiveOne.canServe = false) :
    m.poll.2 = m.receiveOne := by
  have hdrained : m.drainInbound = m.receiveOne := by
    rw [drainInbound, h]
    exact drainInbound_of_isEmpty hempty
  rw [poll_eq_pollOnce, pollOnce, hdrained, drainOutbound_of_canServe_eq_false hserve]

/-- The packets arrive one by one, and each is polled for. -/
def arrivals (packets : List Packet) : List Operation :=
  packets.flatMap fun p => [.publish p.encode, .poll]

/-- Whether whatever arrives on the stream now goes to the chunks of its socket: the socket is open
and nobody reads, and nothing else is under way. -/
structure Keeps (m : Multiplexer) (config : Config) (stream : UInt8) (s : Socket) : Prop where
  config_eq : m.config = config
  socket : m.sockets.get? stream = some s
  isOpen : s.flags.closed = false
  unread : s.pendingRead = none
  inbound : m.inbound.Holds []
  queue : m.queue.entries = []

namespace Keeps

variable {config : Config}

theorem isEmpty (h : m.Keeps config stream s) : m.inbound.isEmpty = true :=
  Ring.isEmpty_iff.mpr h.inbound.occupied_eq

theorem canServe (h : m.Keeps config stream s) : m.canServe = false := by
  rw [Multiplexer.canServe, SendQueue.front?, h.queue]
  rfl

/-- Data within the limit becomes a chunk. -/
theorem dispatch (h : m.Keeps config stream s) {f : Frame} (hstream : f.stream = stream)
    (hkind : PacketKind.ofCode? f.kind = some .data)
    (hlimit : s.queuedBytes + f.payload.length ≤ config.maxReceiveQueueBytes) :
    (m.dispatch f).Keeps config stream (s.pushChunk f.payload) := by
  subst hstream
  have hstream : s.stream = f.stream := SocketTable.stream_of_get? h.socket
  have hwithin : ¬ (m.config.maxReceiveQueueBytes ≠ 0 ∧
      m.config.maxReceiveQueueBytes < s.queuedBytes + f.payload.length) := by
    rw [h.config_eq]
    exact fun hover => Nat.not_lt.mpr hlimit hover.2
  have hkept : m.dispatch f =
      ({ m with statistics := m.statistics.countReceived f.payload.length }.record
        (.received f)).modify f.stream (·.pushChunk f.payload) := by
    unfold Multiplexer.dispatch
    dsimp only [record]
    rw [h.socket]
    simp only [hkind, h.isOpen, takeFrame, takeData, h.unread, reduceCtorEq, if_false,
      if_neg hwithin, hstream, Bool.false_eq_true, Option.some.injEq]
  have hsocket : (m.sockets.modify f.stream (·.pushChunk f.payload)).get? f.stream =
      some (s.pushChunk f.payload) :=
    SocketTable.get?_modify_eq_some (f := (·.pushChunk f.payload)) (fun _ => rfl) h.socket
  rw [hkept]
  exact ⟨h.config_eq, hsocket, h.isOpen, h.unread, h.inbound, h.queue⟩

/-- A data packet is kept when the host polls. -/
theorem poll {p : Packet} (hholds : m.inbound.Holds [p])
    (h : { m with inbound := m.inbound.consume p.header.frameLength }.Keeps config stream s)
    (hstream : p.stream = stream) (hkind : p.kind = .data)
    (hlimit : s.queuedBytes + p.payload.length ≤ config.maxReceiveQueueBytes) :
    m.poll.2.Keeps config stream (s.pushChunk p.payload) := by
  have hreceived : m.receiveOne.Keeps config stream (s.pushChunk p.payload) := by
    have hknown : PacketKind.ofCode? p.frame.kind = some .data := by
      rw [Packet.frame, hkind]
      rfl
    rw [receiveOne, hholds.takeFrame?]
    exact h.dispatch hstream hknown hlimit
  have hpending : m.inbound.isEmpty = false := by
    rw [Ring.isEmpty_eq_false_iff, hholds.occupied_eq]
    simpa using p.size_pos
  rw [poll_eq_receiveOne hpending hreceived.isEmpty hreceived.canServe]
  exact hreceived

/-- A data packet that the peer sends is kept. -/
theorem arrive (h : m.Keeps config stream s) {p : Packet} (hstream : p.stream = stream)
    (hkind : p.kind = .data)
    (hlimit : s.queuedBytes + p.payload.length ≤ config.maxReceiveQueueBytes) :
    ((m.apply (.publish p.encode)).apply .poll).Keeps config stream (s.pushChunk p.payload) := by
  have hoccupied : m.inbound.occupied = 0 := h.inbound.occupied_eq
  have hfits : m.inbound.occupied + p.encode.length ≤ maxOccupancy := by
    rw [hoccupied, p.length_encode, Nat.zero_add]
    exact Nat.add_le_add_left p.payload_le headerSize
  have hholds : (m.inbound.publish p.encode).Holds [p] := by
    rw [Ring.Holds, Ring.contents_publish hfits, h.inbound]
    simp
  exact Keeps.poll hholds ⟨h.config_eq, h.socket, h.isOpen, h.unread, hholds.consume, h.queue⟩
    hstream hkind hlimit

/-! ### Any number of frames arrive -/

/-- Data packets are kept as long as they are within the limit together. -/
theorem arriveAll (h : m.Keeps config stream s) {packets : List Packet}
    (hdata : ∀ p ∈ packets, p.stream = stream ∧ p.kind = .data)
    (hlimit : s.queuedBytes + (packets.map (·.payload.length)).sum ≤ config.maxReceiveQueueBytes) :
    ∃ s', ((arrivals packets).foldl apply m).Keeps config stream s' ∧
      s'.chunks = s.chunks ++ packets.map Packet.payload := by
  induction packets generalizing m s with
  | nil => exact ⟨s, h, (List.append_nil _).symm⟩
  | cons p packets ih =>
      obtain ⟨hstream, hkind⟩ := hdata p List.mem_cons_self
      rw [List.map_cons, List.sum_cons, ← Nat.add_assoc] at hlimit
      have hfirst := h.arrive hstream hkind (Nat.le_trans (Nat.le_add_right _ _) hlimit)
      obtain ⟨s', hkeeps, hchunks⟩ :=
        ih hfirst (fun p' hp' => hdata p' (List.mem_cons_of_mem p hp')) hlimit
      refine ⟨s', hkeeps, ?_⟩
      rw [hchunks, Socket.pushChunk, List.append_assoc]
      rfl

/-- The stream that the first connect opens keeps what arrives. -/
theorem opened (config : Config) (hroom : 0 < config.maxSockets) {r : Request}
    (hr : r.command = .connect []) :
    (run config [.submit r]).Keeps config firstStreamId
      { stream := firstStreamId, address := r.address, pendingConnect := some r } := by
  let table := (Multiplexer.fresh config).sockets
  let sockets : SocketTable :=
    { table with
      sockets := [{ stream := firstStreamId, address := r.address }]
      cursor := firstStreamId + streamIdStep }
  have hcreate : table.create r.address = .ok (firstStreamId, sockets) := by
    have hlimit : table.limit = min (min config.maxSockets 128) 128 := rfl
    have hfree : ¬ table.limit ≤ 0 := by omega
    exact if_neg hfree
  have hrun : run config [.submit r] =
      (((({ (Multiplexer.fresh config).record (.submitted r) with sockets }.record
        (.opened firstStreamId r)).record (.accepted .connect firstStreamId [])).transmit .connect
          firstStreamId []).modify firstStreamId ({ · with pendingConnect := some r })) := by
    change (Multiplexer.fresh config).submit r = _
    rw [submit, hr]
    dsimp only
    unfold submitConnect
    split
    next hresident => contradiction
    split
    next hlong => contradiction
    split
    next hfailed =>
      have := hfailed.symm.trans hcreate
      contradiction
    next hmade =>
      obtain ⟨rfl, rfl⟩ := Prod.mk.inj (Except.ok.inj (hmade.symm.trans hcreate))
      rw [List.length_nil]
      dsimp only
      rw [if_pos (canSendNow_of_fresh rfl rfl)]
  rw [hrun]
  refine ⟨?_, ?_, rfl, rfl, ?_, ?_⟩
  · exact config_transmit ..
  · rw [modify, sockets_transmit]
    rfl
  · rw [inbound_modify, inbound_transmit]
    exact Ring.holds_empty
  · rw [queue_modify, queue_transmit]
    rfl

end Keeps

/-- Whatever payloads the limit lets through, there is a run that leaves them in a socket. -/
theorem exists_run_buffering (config : Config) (hroom : 0 < config.maxSockets)
    (payloads : List Bytes) (hfit : ∀ payload ∈ payloads, payload.length ≤ maxPayload)
    (hlimit : (payloads.map List.length).sum ≤ config.maxReceiveQueueBytes) :
    ∃ operations, ∃ s ∈ (run config operations).sockets.sockets, s.chunks = payloads := by
  let packets : List Packet := payloads.pmap (⟨.data, firstStreamId, ·, ·⟩) hfit
  let r : Request := ⟨0, ⟨1, 1⟩, .connect []⟩
  have hopened := Keeps.opened config hroom (r := r) rfl
  have hpayloads : packets.map Packet.payload = payloads := by
    rw [List.map_pmap]
    simp
  have hsum : packets.map (·.payload.length) = payloads.map List.length := by
    rw [← hpayloads, List.map_map]
    rfl
  have hdata : ∀ p ∈ packets, p.stream = firstStreamId ∧ p.kind = .data := by
    intro p hp
    obtain ⟨payload, hmem, rfl⟩ := List.mem_pmap.mp hp
    exact ⟨rfl, rfl⟩
  obtain ⟨s, hkeeps, hchunks⟩ := hopened.arriveAll hdata (by rwa [hsum, Nat.zero_add])
  refine ⟨.submit r :: arrivals packets, s, ?_, ?_⟩
  · exact SocketTable.mem_of_get? hkeeps.socket
  · rw [hchunks, hpayloads]
    rfl

/-- What a socket buffers is what arrived last, in this life of its stream. -/
theorem exists_suffix_of_run (config : Config) (operations : List Operation) {s : Socket}
    (hs : s ∈ (run config operations).sockets.sockets) :
    ∃ past life, livesOn s.stream (run config operations).chronicle = past ++ [life] ∧
      life.retired = false ∧ s.chunks <:+ payloadsOn s.stream life.events := by
  have hget := (distinct_run config operations).get?_eq_some hs
  obtain ⟨past, life, hlives, -, hongoing, hlife⟩ :=
    ((receiving_run config operations).accounts s.stream).exists_ongoing hget
  refine ⟨past, life, hlives, hongoing, ?_⟩
  cases hclosed : s.flags.closed with
  | true =>
      rw [((coherent_run config operations s.stream s hget).closed hclosed).2]
      exact List.nil_suffix
  | false =>
      rw [hlife.buffered hclosed]
      exact List.suffix_append _ _

/-- With a receive limit, a socket buffers no more bytes than the limit, and no more chunks than the
limit and the empty ones among them, which are empty payloads that arrived in this life of its
stream. Nothing else bounds what is buffered: whatever payloads are within the limit together,
however many of them are empty, some run leaves them in a socket. -/
theorem buffered_within_limit (config : Config) (hlimit : config.maxReceiveQueueBytes ≠ 0) :
    (∀ operations, ∀ s ∈ (run config operations).sockets.sockets,
      s.queuedBytes = (s.chunks.map List.length).sum ∧
      s.queuedBytes ≤ config.maxReceiveQueueBytes ∧
      s.chunks.length ≤ config.maxReceiveQueueBytes + s.chunks.count [] ∧
      ∃ past life, livesOn s.stream (run config operations).chronicle = past ++ [life] ∧
        life.retired = false ∧ s.chunks <:+ payloadsOn s.stream life.events) ∧
    (0 < config.maxSockets → ∀ payloads : List Bytes,
      (∀ payload ∈ payloads, payload.length ≤ maxPayload) →
      (payloads.map List.length).sum ≤ config.maxReceiveQueueBytes →
      ∃ operations, ∃ s ∈ (run config operations).sockets.sockets, s.chunks = payloads) := by
  refine ⟨?_, exists_run_buffering config⟩
  intro operations s hs
  have hget := (distinct_run config operations).get?_eq_some hs
  have hbuffered := (coherent_run config operations s.stream s hget).buffered
  have hmodest := modest_run config operations s.stream s hget
  rw [config_run] at hmodest
  have hwithin := hmodest.within hlimit
  have hlength := length_le_sum_add_count s.chunks
  rw [← hbuffered] at hlength
  exact ⟨hbuffered, hwithin, Nat.le_trans hlength (Nat.add_le_add_right hwithin _),
    exists_suffix_of_run config operations hs⟩

/-- Two bytes are the limit, and five chunks are buffered. -/
theorem buffered_within_limit_of_empty :
    let config : Config := { maxReceiveQueueBytes := 2 }
    let operations : List Operation := [.submit ⟨0, ⟨1, 1⟩, .connect [101]⟩, .publish [1, 2, 1, 0],
      .poll, .publish [0, 3, 1, 2, 3, 1, 7, 8], .poll, .publish [0, 3, 1, 0, 3, 1, 0, 3, 1], .poll]
    config.maxReceiveQueueBytes ≠ 0 ∧
      ∃ s ∈ (run config operations).sockets.sockets, s.chunks = [[], [7, 8], [], [], []] ∧
        s.chunks.length ≤ config.maxReceiveQueueBytes + s.chunks.count [] := by
  intro config operations
  have hlimit : config.maxReceiveQueueBytes ≠ 0 := by decide
  have hsocket : ∃ s ∈ (run config operations).sockets.sockets,
      s.chunks = [[], [7, 8], [], [], []] := by decide +kernel
  obtain ⟨s, hs, hchunks⟩ := hsocket
  obtain ⟨-, -, hlength, -⟩ := (buffered_within_limit config hlimit).1 operations s hs
  exact ⟨hlimit, s, hs, hchunks, hlength⟩

/-- No bound that depends on the limit alone holds for the number of chunks. -/
theorem chunks_exceed_any_bound :
    ¬ ∃ bound : Nat → Nat, ∀ config operations, config.maxReceiveQueueBytes ≠ 0 →
      ∀ s ∈ (run config operations).sockets.sockets,
        s.chunks.length ≤ bound config.maxReceiveQueueBytes := by
  rintro ⟨bound, hbound⟩
  let config : Config := { maxReceiveQueueBytes := 1 }
  let payloads : List Bytes := List.replicate (bound 1 + 1) []
  have hfit : ∀ payload ∈ payloads, payload.length ≤ maxPayload := by
    intro payload hmem
    rw [(List.mem_replicate.mp hmem).2]
    exact Nat.zero_le _
  have hsum : (payloads.map List.length).sum ≤ config.maxReceiveQueueBytes := by
    simp [payloads]
  obtain ⟨operations, s, hs, hchunks⟩ := exists_run_buffering config (by decide) payloads hfit hsum
  have hover := hbound config operations Nat.one_ne_zero s hs
  rw [hchunks, List.length_replicate] at hover
  exact Nat.not_succ_le_self _ hover

end Multiplexer

end StreamLink
