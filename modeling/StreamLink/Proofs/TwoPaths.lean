import StreamLink.Proofs.Isolation

/-!
# Two paths to the ring

What has to be sent goes out at once if nobody waits and it fits. Otherwise it is put into the send
queue, the socket keeps what belongs to it, and it goes out when the turn is served. Connects,
writes, ends of stream and Resets each know both ways, and each is written down twice. Here they are
compared: if an operation waits although it need not, and the queue is worked off then, nothing is
different.

Main statement: `sends_now_as_later`.
-/

namespace StreamLink

namespace SocketTable

variable {t : SocketTable} {stream : UInt8} {f : Socket → Socket}

/-- A change that leaves the stream's socket as it is changes nothing. -/
theorem modify_eq_self (h : ∀ s ∈ t.sockets, s.stream = stream → f s = s) :
    t.modify stream f = t := by
  have hsockets : (t.modify stream f).sockets = t.sockets := by
    rw [modify]
    refine (List.map_congr_left fun s hs => ?_).trans (List.map_id _)
    split
    next heq => exact h s hs heq
    next => rfl
  calc t.modify stream f
      = { t with sockets := (t.modify stream f).sockets } := rfl
    _ = t := by rw [hsockets]

end SocketTable

namespace Multiplexer

variable {m : Multiplexer} {stream : UInt8} {s : Socket} {r : Request}

/-! ### One turn -/

/-- The first to wait is the only one. -/
theorem enqueue_of_idle (hidle : m.queue = {}) (stream : UInt8) (n : Nat) :
    m.enqueue stream n = { m with queue := ⟨[⟨stream, n⟩]⟩ } := by
  have hfirst : ¬ m.queue.contains stream = true := by
    rw [hidle]
    exact Bool.false_ne_true
  rw [enqueue, if_neg hfirst, hidle]
  rfl

/-- If nobody waits, a turn that fits comes at once. -/
theorem drainOutbound_enqueue (hidle : m.queue = {}) {n : Nat}
    (hroom : m.outbound.roomFor n = true) :
    (m.enqueue stream n).drainOutbound = m.serve stream := by
  have hback : { m.enqueue stream n with queue := {} } = m := by
    rw [enqueue_of_idle hidle, ← hidle]
  have hserved : (m.enqueue stream n).serveFront = m.serve stream := by
    rw [serveFront, queue_enqueue, hidle]
    exact congrArg (serve · stream) hback
  have hserve : (m.enqueue stream n).canServe = true := by
    rw [enqueue_of_idle hidle]
    exact hroom
  have hdone : (m.serve stream).queue.entries = [] := by
    have hlength := m.length_queue_serve stream
    rw [hidle] at hlength
    exact List.length_eq_zero_iff.mp (Nat.le_zero.mp hlength)
  have hrest : (m.serve stream).canServe = false := by
    rw [canServe, SendQueue.front?, hdone]
    rfl
  rw [drainOutbound, if_pos hserve, hserved, drainOutbound_of_canServe_eq_false hrest]

theorem transmit_modify (f : Socket → Socket) (kind : PacketKind) (payload : Bytes) :
    (m.modify stream f).transmit kind stream payload =
      (m.transmit kind stream payload).modify stream f := by
  unfold transmit modify
  dsimp only
  split <;> rfl

/-- A change to a socket is lost when its stream is retired. -/
theorem retire_modify {f : Socket → Socket} (hf : ∀ s, (f s).stream = s.stream)
    (hget : m.sockets.get? stream = some s) :
    (m.modify stream f).retire stream = m.retire stream := by
  have hcontains : (m.modify stream f).sockets.contains stream = true :=
    SocketTable.contains_of_get? (SocketTable.get?_modify_eq_some hf hget)
  rw [retire, retire, if_pos hcontains, if_pos (SocketTable.contains_of_get? hget), sockets_modify,
    SocketTable.erase_modify hf]
  rfl

/-- A Reset's turn. -/
theorem serve_reset {f : Socket → Socket} (hf : ∀ s, (f s).stream = s.stream)
    (hget : m.sockets.get? stream = some s) (hwork : (f s).work = .reset) :
    (m.modify stream f).serve stream = (m.transmit .reset stream []).retire stream := by
  have hsocket : (m.modify stream f).sockets.get? stream = some (f s) :=
    SocketTable.get?_modify_eq_some hf hget
  rw [serve, hsocket]
  dsimp only
  rw [hwork]
  dsimp only
  rw [transmit_modify, retire_modify hf (by rwa [sockets_transmit])]

/-- A connect's turn. -/
theorem serve_connect {f : Socket → Socket} {service : Bytes}
    (hget : (m.modify stream f).sockets.get? stream = some s) (hwork : s.work = .connect service) :
    (m.modify stream f).serve stream = (m.transmit .connect stream service).modify stream f := by
  rw [serve, hget]
  dsimp only
  rw [hwork]
  dsimp only
  rw [transmit_modify]

/-- A write waits in its slot until its turn comes, and then it is as if it had never been there. -/
theorem serve_write (h : m.sockets.Distinct) (hget : m.sockets.get? stream = some s)
    (hconnect : s.pendingConnect = none) (hwrite : s.pendingWrite = none) (r : Request) :
    (m.modify stream ({ · with pendingWrite := some r })).serve stream = m.sendWrite stream r := by
  have hparked : (m.modify stream ({ · with pendingWrite := some r })).sockets.get? stream =
      some { s with pendingWrite := some r } :=
    get?_of_modify (f := ({ · with pendingWrite := some r })) h hget rfl rfl
  have hwork : { s with pendingWrite := some r }.work = .write r := by
    rw [Socket.work, hconnect]
  -- Taking the request out of the slot again restores the state.
  have hback : (m.modify stream ({ · with pendingWrite := some r })).modify stream
      ({ · with pendingWrite := none }) = m := by
    have hsame : ∀ s ∈ m.sockets.sockets, s.stream = stream → { s with pendingWrite := none } = s :=
      h.forall_of_get? hget (by rw [← hwrite])
    have hsockets : (m.sockets.modify stream ({ · with pendingWrite := some r })).modify stream
        ({ · with pendingWrite := none }) = m.sockets := by
      rw [SocketTable.modify_modify]
      · exact SocketTable.modify_eq_self hsame
      · exact fun _ => rfl
    rw [modify, sockets_modify, hsockets]
    rfl
  rw [serve, hparked]
  dsimp only
  rw [hwork]
  dsimp only
  rw [hback]

/-! ### Waiting though there is room -/

/-- The state with another outbound ring. -/
def withOutbound (m : Multiplexer) (ring : Ring) : Multiplexer :=
  { m with outbound := ring }

/-- What an operation leaves behind when it finds so full a ring, and the ring is then what it
was. -/
def deferred (m : Multiplexer) (full : Ring) (operation : Operation) : Multiplexer :=
  ((m.withOutbound full).apply operation).withOutbound m.outbound

/-- The operations that are accepted and have something to send: its payload, and the socket as it
is while this waits. -/
inductive Departing (m : Multiplexer) : Operation → Bytes → Socket → Prop
  | connect {r : Request} {service : Bytes} {stream : UInt8} {t : SocketTable}
      (hr : r.command = .connect service) (hfree : m.sockets.lookup r.address = none)
      (hcreate : m.sockets.create r.address = .ok (stream, t)) :
      Departing m (.submit r) service (.opening stream r)
  | write {r : Request} {data : Bytes} {s : Socket} (hr : r.command = .write data)
      (hfound : m.findOpen? r.address = some s) (hfree : s.writeConflicts = false) :
      Departing m (.submit r) data { s with pendingWrite := some r }
  | eos {r : Request} {s : Socket} (hr : r.command = .eos)
      (hfound : m.findOpen? r.address = some s) (hfree : s.writeConflicts = false) :
      Departing m (.submit r) []
        { s with flags := { s.flags with eosFromCaller := true }, pendingWrite := some r }
  | reset {r : Request} {s : Socket} (hr : r.command = .reset)
      (hfound : m.findOpen? r.address = some s) : Departing m (.submit r) [] s.lingering
  | close {stream : UInt8} {s : Socket} (hget : m.sockets.get? stream = some s) :
      Departing m (.close stream true) [] s.lingering

/-- How an operation chooses. When everything is prepared, it goes on at once if it can, or else
changes the socket and puts the stream into the queue; the stream's turn does from there what going
on at once does. -/
structure Chooses (m : Multiplexer) (operation : Operation) (stream : UInt8) (n : Nat)
    (waiting : Socket) (prepared : Multiplexer) (now : Multiplexer → Multiplexer)
    (park : Socket → Socket) : Prop where
  apply_eq : ∀ ring, (m.withOutbound ring).apply operation =
    if (prepared.withOutbound ring).canSendNow n = true then now (prepared.withOutbound ring)
    else ((prepared.withOutbound ring).modify stream park).enqueue stream n
  idle : prepared.queue = {}
  outbound : prepared.outbound = m.outbound
  statistics : prepared.statistics = m.statistics
  socket : (prepared.modify stream park).sockets.get? stream = some waiting
  serve_eq : (prepared.modify stream park).serve stream = now prepared

section

variable {operation : Operation} {n : Nat} {waiting : Socket} {prepared : Multiplexer}
  {now : Multiplexer → Multiplexer} {park : Socket → Socket} {full : Ring}

/-- What does the same as an operation after some other things chooses as it does. -/
theorem Chooses.congr {done : Multiplexer} {closing : Operation}
    (h : done.Chooses closing stream n waiting prepared now park)
    (happly : ∀ ring,
      (m.withOutbound ring).apply operation = (done.withOutbound ring).apply closing)
    (houtbound : done.outbound = m.outbound) (hstatistics : done.statistics = m.statistics) :
    m.Chooses operation stream n waiting prepared now park where
  apply_eq ring := (happly ring).trans (h.apply_eq ring)
  idle := h.idle
  outbound := h.outbound.trans houtbound
  statistics := h.statistics.trans hstatistics
  socket := h.socket
  serve_eq := h.serve_eq

theorem Chooses.deferred_eq (h : m.Chooses operation stream n waiting prepared now park)
    (hfull : full.roomFor n = false) :
    m.deferred full operation = (prepared.modify stream park).enqueue stream n := by
  have hlater : ¬ (prepared.withOutbound full).canSendNow n = true := by
    simp [canSendNow, withOutbound, hfull]
  have hparked : ((prepared.withOutbound full).modify stream park).queue = {} := h.idle
  have hbase : (prepared.modify stream park).queue = {} := h.idle
  rw [deferred, h.apply_eq, if_neg hlater, enqueue_of_idle hparked, enqueue_of_idle hbase,
    ← h.outbound]
  rfl

theorem Chooses.apply_eq_serve (h : m.Chooses operation stream n waiting prepared now park)
    (hroom : m.outbound.roomFor n = true) :
    m.apply operation = (prepared.modify stream park).serve stream := by
  have hsame : prepared.withOutbound m.outbound = prepared := by
    rw [← h.outbound]
    rfl
  have hnow : prepared.canSendNow n = true := by
    rw [canSendNow, h.idle, h.outbound, hroom]
    rfl
  have happly := h.apply_eq m.outbound
  rw [hsame, if_pos hnow, ← h.serve_eq] at happly
  exact happly

end

/-! ### The four of them -/

theorem chooses_close (h : m.sockets.Distinct) (hidle : m.queue = {})
    (hget : m.sockets.get? stream = some s) :
    m.Chooses (.close stream true) stream 0 s.lingering
      ((m.abandon stream s).record (.accepted .reset stream []))
      (fun m => (m.transmit .reset stream []).retire stream)
      (fun s => { s with flags := { s.flags with owesReset := true } }) := by
  have habandoned : (m.abandon stream s).sockets.get? stream = some s.abort :=
    get?_of_modify h hget s.stream_abort sockets_abandon
  refine ⟨?_, ?_, ?_, ?_, ?_, serve_reset (fun _ => rfl) habandoned rfl⟩
  · intro ring
    have habandon : (m.withOutbound ring).abandon stream s =
        (m.abandon stream s).withOutbound ring := by
      rw [abandon_eq hget, abandon_eq (m := m.withOutbound ring) hget]
      rfl
    change (m.withOutbound ring).close stream true = _
    rw [close_eq (m := m.withOutbound ring) hget, if_neg (by simp), habandon]
    rfl
  · change m.queue.remove stream = {}
    rw [hidle]
    rfl
  · change (m.abandon stream s).outbound = m.outbound
    rw [abandon_eq hget]
  · change (m.abandon stream s).statistics = m.statistics
    rw [abandon_eq hget]
  · exact SocketTable.get?_modify_eq_some (fun _ => rfl) habandoned

theorem chooses_connect {service : Bytes} {t : SocketTable} (hidle : m.queue = {})
    (hr : r.command = .connect service) (hfree : m.sockets.lookup r.address = none)
    (hlength : service.length ≤ maxPayload)
    (hcreate : m.sockets.create r.address = .ok (stream, t)) :
    m.Chooses (.submit r) stream service.length (.opening stream r)
      (m.acceptConnect r service stream t)
      (fun m => (m.transmit .connect stream service).modify stream
        ({ · with pendingConnect := some r }))
      ({ · with pendingConnect := some r }) := by
  have hsocket : (t.modify stream ({ · with pendingConnect := some r })).get? stream =
      some (.opening stream r) :=
    SocketTable.get?_modify_eq_some (f := ({ · with pendingConnect := some r })) (fun _ => rfl)
      (SocketTable.get?_create hcreate)
  have hwork : (Socket.opening stream r).work = .connect service := by
    change Work.connect r.command.payload = _
    rw [hr]
    rfl
  refine ⟨?_, hidle, rfl, rfl, hsocket, serve_connect hsocket hwork⟩
  intro ring
  exact submit_connect (m := m.withOutbound ring) hr hfree hlength hcreate

theorem chooses_write {data : Bytes} (h : m.sockets.Distinct) (hidle : m.queue = {})
    (hr : r.command = .write data) (hfound : m.findOpen? r.address = some s)
    (hfree : s.writeConflicts = false) (hlength : data.length ≤ maxPayload) :
    m.Chooses (.submit r) s.stream data.length { s with pendingWrite := some r }
      (m.acceptWrite r data s.stream) (·.sendWrite s.stream r)
      ({ · with pendingWrite := some r }) := by
  obtain ⟨hget, -, -⟩ := findOpen?_eq_some h hfound
  obtain ⟨hconnect, hwrite, -⟩ := Socket.writeConflicts_eq_false_iff.mp hfree
  refine ⟨?_, hidle, rfl, rfl, ?_, ?_⟩
  · intro ring
    exact submit_write (m := m.withOutbound ring) hr hfound hfree hlength
  · exact get?_of_modify (f := ({ · with pendingWrite := some r })) h hget rfl rfl
  · exact serve_write (m := m.acceptWrite r data s.stream) h hget hconnect hwrite r

theorem chooses_eos (h : m.sockets.Distinct) (hidle : m.queue = {})
    (hr : r.command = .eos) (hfound : m.findOpen? r.address = some s)
    (hfree : s.writeConflicts = false) :
    m.Chooses (.submit r) s.stream 0
      { s with flags := { s.flags with eosFromCaller := true }, pendingWrite := some r }
      (m.acceptEos r s.stream) (·.sendWrite s.stream r) ({ · with pendingWrite := some r }) := by
  obtain ⟨hget, -, -⟩ := findOpen?_eq_some h hfound
  obtain ⟨hconnect, hwrite, -⟩ := Socket.writeConflicts_eq_false_iff.mp hfree
  let ended := m.acceptEos r s.stream
  have hdistinct : ended.sockets.Distinct := h.modify (fun _ _ _ => rfl) fun _ _ _ => rfl
  have hended : ended.sockets.get? s.stream =
      some { s with flags := { s.flags with eosFromCaller := true } } :=
    SocketTable.get?_modify_eq_some (fun _ => rfl) hget
  refine ⟨?_, hidle, rfl, rfl, ?_, ?_⟩
  · intro ring
    exact submit_eos (m := m.withOutbound ring) hr hfound hfree
  · exact get?_of_modify (m := ended) (f := ({ · with pendingWrite := some r })) hdistinct hended
      rfl rfl
  · exact serve_write (m := ended) hdistinct hended hconnect hwrite r

/-- A request to reset an open stream closes it. -/
theorem chooses_reset (h : m.sockets.Distinct) (hidle : m.queue = {}) (hr : r.command = .reset)
    (hfound : m.findOpen? r.address = some s) :
    ∃ prepared now park, m.Chooses (.submit r) s.stream 0 s.lingering prepared now park := by
  obtain ⟨hget, -, -⟩ := findOpen?_eq_some h hfound
  let done := (m.record (.submitted r)).answer r (.ofStatus .resetOk)
  have hcloses := chooses_close (m := done) h hidle hget
  have hsubmit (ring : Ring) : (m.withOutbound ring).apply (.submit r) =
      (done.withOutbound ring).apply (.close s.stream true) := by
    have hfound' : ((m.withOutbound ring).record (.submitted r)).findOpen? r.address = some s :=
      hfound
    change (m.withOutbound ring).submit r = _
    rw [submit, hr]
    dsimp only
    rw [submitReset, hfound']
    rfl
  exact ⟨_, _, _, hcloses.congr hsubmit rfl rfl⟩

theorem Departing.exists_chooses {operation : Operation} {payload : Bytes} {waiting : Socket}
    (hdeparting : m.Departing operation payload waiting) (h : m.sockets.Distinct)
    (hidle : m.queue = {}) (hlength : payload.length ≤ maxPayload) :
    ∃ prepared now park,
      m.Chooses operation waiting.stream payload.length waiting prepared now park := by
  cases hdeparting with
  | connect hr hfree hcreate => exact ⟨_, _, _, chooses_connect hidle hr hfree hlength hcreate⟩
  | @write r data s hr hfound hfree =>
      exact ⟨_, _, _, chooses_write (s := s) h hidle hr hfound hfree hlength⟩
  | @eos r s hr hfound hfree => exact ⟨_, _, _, chooses_eos (s := s) h hidle hr hfound hfree⟩
  | @reset r s hr hfound => exact chooses_reset (s := s) h hidle hr hfound
  | close hget =>
      obtain rfl := SocketTable.stream_of_get? hget
      exact ⟨_, _, _, chooses_close h hidle hget⟩

/-- If nobody waits, and there is room for what an operation has to send, then it makes no
difference whether the operation finds this room: if it does not, it leaves a socket that waits and
one turn, and nothing in the ring; and when the queue is worked off afterwards, everything is as if
it had found the room, down to the ring, the totals and the answers. -/
theorem sends_now_as_later {config : Config} (h : Reachable config m) (hidle : m.queue.entries = [])
    {operation : Operation} {payload : Bytes} {waiting : Socket}
    (hdeparting : m.Departing operation payload waiting)
    (hroom : m.outbound.roomFor payload.length = true) {full : Ring}
    (hfull : full.roomFor payload.length = false) :
    (m.deferred full operation).queue.entries = [⟨waiting.stream, payload.length⟩] ∧
      (m.deferred full operation).sockets.get? waiting.stream = some waiting ∧
      (m.deferred full operation).outbound = m.outbound ∧
      (m.deferred full operation).statistics = m.statistics ∧
      (m.deferred full operation).drainOutbound = m.apply operation := by
  have hnobody : m.queue = {} := by
    rw [← hidle]
  obtain ⟨prepared, now, park, hchooses⟩ :=
    hdeparting.exists_chooses h.balanced.distinct hnobody (Ring.le_of_roomFor hroom)
  have hbase : (prepared.modify waiting.stream park).queue = {} := hchooses.idle
  have hbaseRoom : (prepared.modify waiting.stream park).outbound.roomFor payload.length = true :=
    hchooses.outbound.symm ▸ hroom
  rw [hchooses.deferred_eq hfull, drainOutbound_enqueue hbase hbaseRoom, enqueue_of_idle hbase]
  exact ⟨rfl, hchooses.socket, hchooses.outbound, hchooses.statistics,
    (hchooses.apply_eq_serve hroom).symm⟩

/-- The peer's end of the stream has been told. The owner's end is the last thing on the stream, now
or later. -/
theorem sends_now_as_later_of_last_end :
    let operations : List Operation := [.submit ⟨0, ⟨1, 1⟩, .connect [101]⟩,
      .publish [1, 2, 1, 0, 0, 4, 1], .poll, .submit ⟨1, ⟨1, 1⟩, .read 10⟩]
    let m := run {} operations
    let full : Ring := { tail := 255 }
    let r : Request := ⟨2, ⟨1, 1⟩, .eos⟩
    m.queue.entries = [] ∧ m.outbound.roomFor 0 = true ∧ full.roomFor 0 = false ∧
      (m.deferred full (.submit r)).queue.entries = [⟨1, 0⟩] ∧
      (m.deferred full (.submit r)).drainOutbound = m.apply (.submit r) ∧
      (m.apply (.submit r)).sockets.isEmpty = true := by
  intro operations m full r
  let s : Socket :=
    { stream := 1, address := ⟨1, 1⟩, flags := { eosFromPeer := true, eosDelivered := true } }
  have hdeparting : m.Departing (.submit r) []
      { s with flags := { s.flags with eosFromCaller := true }, pendingWrite := some r } :=
    .eos rfl (by decide +kernel) rfl
  have hidle : m.queue.entries = [] := by decide +kernel
  have hroom : m.outbound.roomFor 0 = true := by decide +kernel
  have hfull : full.roomFor 0 = false := by decide +kernel
  obtain ⟨hturn, -, -, -, hsame⟩ :=
    sends_now_as_later (reachable_run {} operations) hidle hdeparting hroom hfull
  exact ⟨hidle, hroom, hfull, hturn, hsame, by decide +kernel⟩

end Multiplexer

end StreamLink
