import StreamLink.Proofs.Closing

/-!
# The multiplexer's conduct

Each function of the multiplexer does its deeds and nothing else. A request is handed in by the first
move of its submission, and a frame arrives with the first move of its reception; turns are served
without an occasion.

Main statements: `exists_conducts_poll` and `undertakes_submit`.
-/

namespace StreamLink.Multiplexer

variable {m m' : Multiplexer} {stream : UInt8} {s : Socket}

/-! ### Arriving frames -/

/-- The state in which a frame is looked at: it is counted and noted. -/
def receive (m : Multiplexer) (f : Frame) : Multiplexer :=
  { m with statistics := m.statistics.countReceived f.payload.length }.record (.received f)

variable {f : Frame}

/-- A frame closes the socket, by a Reset or with one. -/
theorem conducts_close_received (h : m.sockets.Distinct)
    (hget : m.sockets.get? f.stream = some s) (emitReset : Bool)
    (hkind : emitReset = false → PacketKind.ofCode? f.kind = some .reset) :
    Conducts m [.received f] ((m.receive f).close f.stream emitReset) := by
  obtain ⟨_, _, hcloses⟩ :=
    exists_closes (m.receive f) (some f) h hget (by simp) rfl rfl rfl rfl emitReset
  exact .of_deed (hcloses.deed hget fun hquietly _ => .reset rfl (hkind hquietly)) hcloses.occasions

theorem conducts_ignore (h : m.sockets.Distinct) (hf : ∀ s, m.sockets.get? f.stream = some s →
    s.Unheeding f) (hsockets : m'.sockets = m.sockets) (hqueue : m'.queue = m.queue)
    (hhistory : m'.history = .received f :: m.history) (hconfig : m'.config = m.config) :
    Conducts m [.received f] m' := by
  have hdeed : Deed m f.stream .keep [.received f] m' :=
    .of_same h (.ignore rfl hf) hsockets hqueue hhistory hconfig
  exact .of_deed hdeed rfl

/-- A connect is answered, and what it has in the send queue will not be sent. -/
def resolve (m : Multiplexer) (stream : UInt8) (r : Request) (c : Completion) : Multiplexer :=
  ((m.withdraw stream).modify stream ({ · with pendingConnect := none })).answer r c

@[simp] theorem sockets_resolve (m : Multiplexer) (stream : UInt8) (r : Request) (c : Completion) :
    (m.resolve stream r c).sockets =
      m.sockets.modify stream ({ · with pendingConnect := none }) := by
  rw [resolve, sockets_answer, sockets_modify, sockets_withdraw]

@[simp] theorem queue_resolve (m : Multiplexer) (stream : UInt8) (r : Request) (c : Completion) :
    (m.resolve stream r c).queue = m.queue := by
  rw [resolve, queue_answer, queue_modify, queue_withdraw]

@[simp] theorem config_resolve (m : Multiplexer) (stream : UInt8) (r : Request) (c : Completion) :
    (m.resolve stream r c).config = m.config :=
  m.config_withdraw stream

theorem history_resolve {r : Request} (hget : m.sockets.get? stream = some s)
    (hconnect : s.pendingConnect = some r) (c : Completion) :
    (m.resolve stream r c).history =
      .answered r c :: (if m.queue.turns stream = [] then [] else [.withdrawn stream]) ++
        m.history := by
  have hwork : s.work ≠ .idle := by simp [Socket.work, hconnect]
  rw [resolve, history_answer, history_modify, history_withdraw m hget]
  by_cases hturns : m.queue.turns stream = []
  · simp [hturns]
  · simp [hturns, hwork]

theorem conducts_rejected {r : Request} {result : UInt8} (h : m.sockets.Distinct)
    (hget : m.sockets.get? f.stream = some s) (hopen : s.flags.closed = false)
    (hkind : PacketKind.ofCode? f.kind = some .connectResponse) (hpayload : f.payload = [result])
    (hresult : result ≠ connectAccepted) (hconnect : s.pendingConnect = some r) :
    Conducts m [.received f]
      (((m.receive f).resolve f.stream r (.ofStatus .connectUnknownService)).close f.stream
        false) := by
  have hget' : ((m.receive f).resolve f.stream r (.ofStatus .connectUnknownService)).sockets.get?
      f.stream = some { s with pendingConnect := none } := by
    have hreceive : (m.receive f).sockets.get? f.stream = some s := hget
    rw [sockets_resolve]
    exact SocketTable.get?_modify_eq_some (f := ({ · with pendingConnect := none })) (fun _ => rfl)
      hreceive
  have hcontains := contains_abandon hget'
  rw [close_eq hget', if_pos rfl]
  have hparting {rest : List Event} : Parting f.stream s (.received f :: rest) :=
    .rejected rfl hkind hpayload hresult (by simp [hconnect])
  refine .of_deed (.of_erase h hget (.rejected rfl hopen hconnect) ?_ ?_ ?_ ?_ hparting) ?_
  · rw [sockets_retire, sockets_abandon, SocketTable.erase_modify Socket.stream_abort,
      sockets_resolve, SocketTable.erase_modify (by simp)]
    rfl
  · simp [Turn.Changes, receive]
  · rw [history_retire _ hcontains, history_abandon hget', queue_resolve,
      history_resolve (m := m.receive f) hget hconnect]
    split <;> simp_all [receive]
  · rw [config_retire, config_abandon, config_resolve]
    rfl
  · split <;> simp [Event.isOccasion]

theorem conducts_takeConnectResponse (h : m.sockets.Distinct)
    (hget : m.sockets.get? f.stream = some s) (hopen : s.flags.closed = false)
    (hkind : PacketKind.ofCode? f.kind = some .connectResponse) :
    Conducts m [.received f] ((m.receive f).takeConnectResponse s f.payload) := by
  have hs : s.stream = f.stream := SocketTable.stream_of_get? hget
  unfold takeConnectResponse
  split
  next r result hconnect hpayload =>
    rw [hs]
    dsimp only
    split
    next haccepted =>
      subst haccepted
      have hdeed : Deed m f.stream .keep ([.received f] ++
          (if m.queue.turns f.stream = [] then [] else [.withdrawn f.stream]) ++
          [.answered r (.ofStatus .ok)]) ((m.receive f).resolve f.stream r (.ofStatus .ok)) := by
        refine .of_modify h hget (f := fun s => { s with pendingConnect := none })
          (.connected rfl hkind hpayload hopen hconnect) rfl rfl (sockets_resolve ..) ?_ ?_ ?_ id
        · simp [Turn.Changes, receive]
        · rw [history_resolve (m := m.receive f) hget hconnect]
          split <;> simp_all [receive]
        · exact config_resolve ..
      exact .of_deed hdeed (by split <;> simp [Event.isOccasion])
    next hresult => exact conducts_rejected h hget hopen hkind hpayload hresult hconnect
  next hneither =>
    refine conducts_ignore h ?_ rfl rfl rfl rfl
    intro s' hs'
    obtain rfl : s = s' := Option.some.inj (hget.symm.trans hs')
    simp only [Socket.Unheeding, hopen, Bool.false_eq_true, ↓reduceIte, hkind]
    by_cases hconnect : s.pendingConnect = none
    · exact .inl hconnect
    · obtain ⟨r, hr⟩ := Option.ne_none_iff_exists'.mp hconnect
      exact .inr fun result hpayload => hneither r result hr hpayload

theorem conducts_takeData (h : m.sockets.Distinct) (hget : m.sockets.get? f.stream = some s)
    (hopen : s.flags.closed = false) (hkind : PacketKind.ofCode? f.kind = some .data) :
    Conducts m [.received f] ((m.receive f).takeData s f.payload) := by
  have hs : s.stream = f.stream := SocketTable.stream_of_get? hget
  have hclose : Conducts m [.received f] ((m.receive f).close s.stream true) := by
    rw [hs]
    exact conducts_close_received h hget true nofun
  unfold takeData
  split
  next r hread =>
    split
    next hfits =>
      exact .of_deed (.of_modify h hget (f := fun s => { s with pendingRead := none })
        (.dataRead rfl hkind hopen hread hfits) rfl rfl (by rw [hs]; rfl) rfl rfl rfl id) rfl
    · exact hclose
  next hread =>
    split
    · exact hclose
    next hroom =>
      have hwithin : (s.pushChunk f.payload).Within m.config.maxReceiveQueueBytes :=
        fun hlimit => Nat.le_of_not_lt fun hfull => hroom ⟨hlimit, hfull⟩
      exact .of_deed (.of_modify h hget (f := fun s => s.pushChunk f.payload)
        (.dataKept rfl hkind hopen hread) rfl rfl (by rw [hs]; rfl) rfl rfl rfl
        fun hmodest => ⟨hmodest.eosExchanged, hwithin⟩) rfl

/-- The peer's end reaches a read that waits. -/
theorem exists_endNoted_takeEos {r : Request} (hget : m.sockets.get? f.stream = some s)
    (hopen : s.flags.closed = false) (hkind : PacketKind.ofCode? f.kind = some .eos)
    (hread : s.pendingRead = some r) :
    ∃ m₁, EndNoted m f.stream s (fun s => { s with
        flags := { s.flags with eosFromPeer := true, eosDelivered := true }, pendingRead := none })
        .keep [.received f, .answered r (.ofStatus .readEos)] m₁ ∧
      (m.receive f).takeEos s = m₁.closeIfExchanged f.stream := by
  have hs : s.stream = f.stream := SocketTable.stream_of_get? hget
  unfold takeEos
  rw [hread, hs]
  refine ⟨((((m.receive f).modifyFlags f.stream ({ · with eosFromPeer := true })).modify f.stream
    ({ · with pendingRead := none })).answer r (.ofStatus .readEos)).modifyFlags f.stream
      ({ · with eosDelivered := true }), ⟨hget, .endRead rfl hkind hopen hread, fun _ => rfl, fun _ => rfl, rfl, ?_, rfl, rfl,
    rfl⟩, rfl⟩
  rw [sockets_modifyFlags, sockets_answer, sockets_modify, sockets_modifyFlags,
    SocketTable.modify_modify (by simp), SocketTable.modify_modify (by simp)]
  rfl

theorem conducts_takeEos (h : m.sockets.Distinct) (hget : m.sockets.get? f.stream = some s)
    (hopen : s.flags.closed = false) (hkind : PacketKind.ofCode? f.kind = some .eos) :
    Conducts m [.received f] ((m.receive f).takeEos s) := by
  cases hread : s.pendingRead with
  | some r =>
      obtain ⟨m₁, hnoted, heq⟩ := exists_endNoted_takeEos hget hopen hkind hread
      rw [heq]
      exact (hnoted.undertakes h).conducts
  | none =>
      have hs : s.stream = f.stream := SocketTable.stream_of_get? hget
      unfold takeEos
      rw [hread]
      exact .of_deed (.of_modify h hget
        (f := fun s => { s with flags := { s.flags with eosFromPeer := true } })
        (.endKept rfl hkind hopen hread) rfl rfl (by rw [hs]; rfl) rfl rfl rfl id) rfl

theorem conducts_dispatch (h : m.sockets.Distinct) (f : Frame) :
    Conducts m [.received f] (m.dispatch f) := by
  unfold dispatch
  dsimp only
  split
  next hget =>
    refine conducts_ignore h (fun s hs => ?_) rfl rfl rfl rfl
    have hget : m.sockets.get? f.stream = none := hget
    rw [hget] at hs
    contradiction
  next s hget =>
    have hget : m.sockets.get? f.stream = some s := hget
    have hsame : ∀ s', m.sockets.get? f.stream = some s' → s = s' :=
      fun s' hs' => Option.some.inj (hget.symm.trans hs')
    split
    next hreset => exact conducts_close_received h hget false fun _ => hreset
    next hreset =>
    split
    next hclosed =>
      refine conducts_ignore h (fun s' hs' => ?_) rfl rfl rfl rfl
      obtain rfl := hsame s' hs'
      simp [Socket.Unheeding, hclosed, hreset]
    next hopen =>
      have hopen : s.flags.closed = false := by simpa using hopen
      unfold takeFrame
      split
      next hkind => exact conducts_takeConnectResponse h hget hopen hkind
      next hkind => exact conducts_takeData h hget hopen hkind
      next hkind => exact conducts_takeEos h hget hopen hkind
      next hresponse hdata heos =>
        refine conducts_ignore h (fun s' hs' => ?_) rfl rfl rfl rfl
        obtain rfl := hsame s' hs'
        unfold Socket.Unheeding
        rw [if_neg (by simp [hopen])]
        split <;> simp_all

/-- What the next step of taking in is occasioned by: a frame, or bytes that are none. -/
def arrival (m : Multiplexer) : Event :=
  match m.inbound.takeFrame? with
  | some (frame, _) => .received frame
  | none => .garbled m.inbound.occupied

theorem conducts_receiveOne (h : m.sockets.Distinct) : Conducts m [m.arrival] m.receiveOne := by
  unfold receiveOne arrival
  rcases m.inbound.takeFrame? with _ | ⟨frame, ring⟩
  · have hstep : SocketStep 0 (m.sockets.get? 0) (m.queue.turns 0) .keep
        [.garbled m.inbound.occupied] (m.sockets.get? 0) := .garble _
    exact .of_deed (.of_same h hstep rfl rfl rfl rfl) rfl
  · have hring : Deed m 0 .keep [] { m with inbound := ring } := .of_rings h rfl rfl rfl rfl
    exact (Conducts.of_deed hring rfl).trans (conducts_dispatch hring.move.distinct frame)

theorem exists_conducts_drainInbound (h : m.sockets.Distinct) :
    ∃ occasions, submissionsIn occasions = [] ∧ Conducts m occasions m.drainInbound := by
  fun_induction drainInbound m with
  | case1 m => exact ⟨[], rfl, .refl m⟩
  | case2 m _ ih =>
      have hfirst := conducts_receiveOne h
      obtain ⟨occasions, hquiet, hrest⟩ := ih (hfirst.distinct h)
      refine ⟨m.arrival :: occasions, ?_, hfirst.trans hrest⟩
      rw [submissionsIn_cons, hquiet]
      unfold arrival
      split <;> rfl

/-! ### Turns -/

section Serve

variable {n : Nat} (hsockets : m'.sockets = m.sockets)
  (hqueue : m.queue.entries = ⟨stream, n⟩ :: m'.queue.entries) (hhistory : m'.history = m.history)
  (hconfig : m'.config = m.config) (hroom : m'.outbound.roomFor n = true)
  (hget : m.sockets.get? stream = some s)

include hsockets hqueue hhistory hconfig hroom hget

/-- An end that waits for its turn goes out. -/
theorem exists_endNoted_serve {r : Request} (hconnect : s.pendingConnect = none)
    (hwrite : s.pendingWrite = some r) (hr : ∀ data, r.command ≠ .write data) :
    ∃ m₁, EndNoted m stream s
        (fun s => { s with pendingWrite := none, flags := { s.flags with eosSent := true } })
        (.serve n) [.sent .eos stream [], .answered r (.ofStatus .ok)] m₁ ∧
      (m'.modify stream ({ · with pendingWrite := none })).sendWrite stream r =
        m₁.closeIfExchanged stream := by
  have hroom₀ : m'.outbound.roomFor ([] : Bytes).length = true :=
    Ring.roomFor_mono hroom (Nat.zero_le n)
  unfold sendWrite markEosSent
  split
  next data hdata => exact absurd hdata (hr data)
  refine ⟨_, ⟨hget, .serveEnd (n := n) hconnect hwrite hr, fun _ => rfl, fun _ => rfl, rfl, ?_, ?_,
    ?_, ?_⟩, rfl⟩
  · rw [sockets_modifyFlags, sockets_answer, sockets_transmit, sockets_modify,
      SocketTable.modify_modify (by simp), hsockets]
  · simpa [Turn.Changes] using hqueue
  · rw [history_modifyFlags, history_answer, history_transmit _ (by exact hroom₀),
      history_modify, hhistory]
    rfl
  · exact (config_transmit ..).trans hconfig

variable (h : m.sockets.Distinct)
include h

theorem conducts_serve_connect {r : Request} (hconnect : s.pendingConnect = some r) :
    Conducts m [] (m'.transmit .connect stream r.command.payload) := by
  obtain ⟨e, he, hsent⟩ := m'.exists_history_transmit .connect stream r.command.payload hroom
  have hstep : SocketStep stream (m.sockets.get? stream) (m.queue.turns stream) (.serve n) [e]
      (m.sockets.get? stream) := by
    rw [hget]
    exact .serveConnect hconnect he
  have hquiet : occasionsIn [e] = [] := by
    rcases he with rfl | ⟨rfl, -⟩ <;> rfl
  refine .of_deed (.of_same h hstep ?_ ?_ ?_ ?_) hquiet
  · rw [sockets_transmit, hsockets]
  · simpa [Turn.Changes] using hqueue
  · rw [hsent, hhistory]
    rfl
  · rw [config_transmit, hconfig]

theorem conducts_serve_write {r : Request} (hconnect : s.pendingConnect = none)
    (hwrite : s.pendingWrite = some r) :
    Conducts m [] ((m'.modify stream ({ · with pendingWrite := none })).sendWrite stream r) := by
  by_cases hdata : ∃ data, r.command = .write data
  · obtain ⟨data, hr⟩ := hdata
    obtain ⟨e, he, hsent⟩ := (m'.modify stream ({ · with pendingWrite := none })
      ).exists_history_transmit .data stream data hroom
    have hquiet : occasionsIn [e, .answered r (.written data.length)] = [] := by
      rcases he with rfl | ⟨rfl, -⟩ <;> rfl
    unfold sendWrite
    rw [hr]
    refine .of_deed (.of_modify h hget (f := fun s => { s with pendingWrite := none })
      (.serveWrite hconnect hwrite hr he) rfl rfl ?_ ?_ ?_ ?_ id) hquiet
    · rw [sockets_answer, sockets_transmit, sockets_modify, hsockets]
    · simpa [Turn.Changes] using hqueue
    · rw [history_answer, hsent, history_modify, hhistory]
      rfl
    · exact (config_transmit ..).trans hconfig
  · obtain ⟨m₁, hnoted, heq⟩ := exists_endNoted_serve hsockets hqueue hhistory hconfig hroom hget
      hconnect hwrite (not_exists.mp hdata)
    rw [heq]
    exact (hnoted.undertakes h).conducts

theorem conducts_serve_reset (hconnect : s.pendingConnect = none) (hwrite : s.pendingWrite = none)
    (howes : s.flags.owesReset = true) :
    Conducts m [] ((m'.transmit .reset stream []).retire stream) := by
  have hroom₀ : m'.outbound.roomFor ([] : Bytes).length = true :=
    Ring.roomFor_mono hroom (Nat.zero_le n)
  have hcontains : (m'.transmit .reset stream []).sockets.contains stream = true := by
    rw [sockets_transmit, hsockets]
    exact SocketTable.contains_of_get? hget
  refine .of_deed (.of_erase h hget (.serveReset (n := n) hconnect hwrite howes) ?_ ?_ ?_ ?_
    (.told List.mem_cons_self)) rfl
  · rw [sockets_retire, sockets_transmit, hsockets]
  · simpa [Turn.Changes] using hqueue
  · rw [history_retire _ hcontains, history_transmit _ hroom₀, hhistory]
    rfl
  · rw [config_retire, config_transmit, hconfig]

end Serve

theorem conducts_serve {n : Nat} (h : m.sockets.Distinct) (hsockets : m'.sockets = m.sockets)
    (hqueue : m.queue.entries = ⟨stream, n⟩ :: m'.queue.entries) (hhistory : m'.history = m.history)
    (hconfig : m'.config = m.config) (hroom : m'.outbound.roomFor n = true) :
    Conducts m [] (m'.serve stream) := by
  unfold serve
  rw [hsockets]
  cases hget : m.sockets.get? stream with
  | none =>
      have hstep : SocketStep stream (m.sockets.get? stream) (m.queue.turns stream) (.serve n)
          [.strayed stream] (m.sockets.get? stream) := by
        rw [hget]
        exact .serveStray
      refine .of_deed (.of_same h hstep hsockets hqueue ?_ hconfig) rfl
      rw [history_record, hhistory]
      rfl
  | some s =>
      dsimp only
      rcases s.work_cases with ⟨r, hconnect, hwork⟩ | ⟨hconnect, hrest⟩
      · rw [hwork]
        exact conducts_serve_connect hsockets hqueue hhistory hconfig hroom hget h hconnect
      rcases hrest with ⟨r, hwrite, hwork⟩ | ⟨hwrite, ⟨howes, hwork⟩ | ⟨howes, hwork⟩⟩
      · rw [hwork]
        exact conducts_serve_write hsockets hqueue hhistory hconfig hroom hget h hconnect hwrite
      · rw [hwork]
        exact conducts_serve_reset hsockets hqueue hhistory hconfig hroom hget h hconnect hwrite howes
      · rw [hwork]
        have hstep : SocketStep stream (m.sockets.get? stream) (m.queue.turns stream) (.serve n) []
            (m.sockets.get? stream) := by
          rw [hget]
          exact .serveIdle hconnect hwrite howes
        exact .of_deed (.of_same h hstep hsockets hqueue hhistory hconfig) rfl

theorem conducts_serveFront (h : m.sockets.Distinct) (hserve : m.canServe = true) :
    Conducts m [] m.serveFront := by
  unfold canServe at hserve
  unfold serveFront
  split at hserve
  · contradiction
  next entry hfront =>
    refine conducts_serve h rfl ?_ rfl rfl hserve
    unfold SendQueue.front? at hfront
    exact (List.cons_head?_tail hfront).symm

theorem conducts_drainOutbound (h : m.sockets.Distinct) : Conducts m [] m.drainOutbound := by
  fun_induction drainOutbound m with
  | case1 m hserve ih =>
      have hfirst := conducts_serveFront h hserve
      exact hfirst.trans (ih (hfirst.distinct h))
  | case2 m _ => exact .refl m

/-- Polling is occasioned by what arrived. -/
theorem exists_conducts_poll (h : m.sockets.Distinct) :
    ∃ occasions, submissionsIn occasions = [] ∧ Conducts m occasions m.poll.2 := by
  obtain ⟨occasions, hquiet, hin⟩ := exists_conducts_drainInbound h
  have hround := hin.trans (conducts_drainOutbound (hin.distinct h))
  rw [List.append_nil] at hround
  rw [poll_eq_pollOnce]
  exact ⟨occasions, hquiet, hround⟩

theorem leads_poll (h : m.sockets.Distinct) : Leads m [] m.poll.2 := by
  obtain ⟨occasions, hquiet, hconducts⟩ := exists_conducts_poll h
  rw [← hquiet]
  exact hconducts.proceeds.leads

/-! ### Submissions -/

theorem findOpen?_eq_some (h : m.sockets.Distinct) {address : Address}
    (hfound : m.findOpen? address = some s) :
    m.sockets.get? s.stream = some s ∧ s.address = address ∧ s.flags.closed = false := by
  unfold findOpen? at hfound
  rw [Option.filter_eq_some_iff] at hfound
  obtain ⟨hlookup, hopen⟩ := hfound
  refine ⟨h.get?_eq_some (SocketTable.mem_of_lookup hlookup),
    SocketTable.address_of_lookup hlookup, by simpa using hopen⟩

/-- A submission is a move that hands the request in, and moves that follow from it. -/
def Submits (m : Multiplexer) (r : Request) (m' : Multiplexer) : Prop :=
  ∃ stream turn events m₁, Move m stream turn events m₁ ∧ submissionsIn events = [r] ∧
    Leads m₁ [] m'

variable {r : Request}

theorem Submits.leads (h : Submits m r m') : Leads m [r] m' := by
  obtain ⟨_, _, _, m₁, hmove, hone, hrest⟩ := h
  rw [← hone]
  simpa using (Leads.of_move hmove).trans hrest

theorem Undertakes.submits (h : Undertakes m [.submitted r] m') : Submits m r m' := by
  obtain ⟨_, _, events, m₁, hmove, -, -, hevents, hrest⟩ := h.first
  refine ⟨_, _, _, m₁, hmove, ?_, hrest.leads⟩
  rw [← submissionsIn_occasionsIn, hevents]
  rfl

theorem undertakes_refuse (h : m.sockets.Distinct) {status : Status} (hr : r.RefusedWith status) :
    Undertakes m [.submitted r] ((m.record (.submitted r)).answer r (.ofStatus status)) := by
  have hdeed : Deed m 0 .keep [.submitted r, .answered r (.ofStatus status)]
      ((m.record (.submitted r)).answer r (.ofStatus status)) :=
    .of_same h (.refuse hr) rfl rfl rfl rfl
  exact .of_deed hdeed rfl

/-- A request that is refused, and takes the stream with it. -/
theorem undertakes_misuse (h : m.sockets.Distinct) (stream : UInt8) :
    Undertakes m [.submitted r] ((m.record (.submitted r)).misuse r stream) := by
  have hrefuse := undertakes_refuse (r := r) h (.inl rfl)
  exact hrefuse.trans (conducts_close (hrefuse.distinct h) stream true nofun)

theorem undertakes_submitConnect {service : Bytes} (h : m.sockets.Distinct)
    (hr : r.command = .connect service) :
    Undertakes m [.submitted r] ((m.record (.submitted r)).submitConnect r service) := by
  have hreset : r.RefusedWith .connectReset := .inl (by rw [hr]; rfl)
  unfold submitConnect
  split
  · exact undertakes_refuse h (.inr ⟨⟨service, hr⟩, rfl⟩)
  next hfree =>
  have hfree : m.sockets.lookup r.address = none := by simpa using hfree
  split
  · exact undertakes_refuse h hreset
  next hlength =>
  have hlength : service.length ≤ maxPayload := Nat.le_of_not_gt hlength
  split
  · exact undertakes_refuse h hreset
  next stream sockets hcreate =>
  have hcreate : m.sockets.create r.address = .ok (stream, sockets) := hcreate
  have hmodest (limit : Nat) : Socket.Modest limit
      { stream := stream, address := r.address, pendingConnect := some r } :=
    ⟨rfl, fun _ => Nat.zero_le limit⟩
  dsimp only
  split
  next hnow =>
    obtain ⟨hempty, hroom⟩ := (canSendNow_iff m).mp hnow
    refine .of_deed (.of_create h hfree hcreate (f := fun s => { s with pendingConnect := some r })
      (.openNow hr hlength) rfl rfl ?_ ?_ ?_ ?_ hmodest) rfl
    · rw [sockets_modify, sockets_transmit]
      rfl
    · refine ⟨hempty, ?_⟩
      rw [queue_modify, queue_transmit]
      rfl
    · rw [history_modify, history_transmit _ (by exact hroom)]
      rfl
    · exact config_transmit ..
  next =>
    refine .of_deed (.of_create h hfree hcreate (f := fun s => { s with pendingConnect := some r })
      (.openLater hr hlength) rfl rfl ?_ ?_ ?_ ?_ hmodest) ?_
    · rw [sockets_modify, sockets_enqueue]
      rfl
    · simp [Turn.Changes]
    · rw [history_modify, history_enqueue]
      simp
    · exact config_enqueue _ stream service.length
    · simp [Event.isOccasion]

/-- A read is told that the peer sends nothing more. -/
theorem exists_endNoted_submitRead {capacity : Nat} (h : m.sockets.Distinct)
    (hr : r.command = .read capacity) (hfound : m.findOpen? r.address = some s)
    (hconnect : s.pendingConnect = none) (hread : s.pendingRead = none) (hchunks : s.chunks = [])
    (heos : s.flags.eosFromPeer = true) :
    ∃ m₁, EndNoted m s.stream s
        (fun s => { s with flags := { s.flags with eosDelivered := true } }) .keep
        [.submitted r, .answered r (.ofStatus .readEos)] m₁ ∧
      (m.record (.submitted r)).deliverEos s.stream r = m₁.closeIfExchanged s.stream := by
  obtain ⟨hget, haddress, hopen⟩ := findOpen?_eq_some h hfound
  exact ⟨((m.record (.submitted r)).answer r (.ofStatus .readEos)).modifyFlags s.stream
    ({ · with eosDelivered := true }), ⟨hget, .readEnd hr ⟨haddress, hopen⟩ hconnect hread hchunks heos, fun _ => rfl,
    fun _ => rfl, rfl, rfl, rfl, rfl, rfl⟩, rfl⟩

theorem undertakes_submitRead {capacity : Nat} (h : m.sockets.Distinct)
    (hr : r.command = .read capacity) :
    Undertakes m [.submitted r] ((m.record (.submitted r)).submitRead r capacity) := by
  unfold submitRead
  split
  · exact undertakes_refuse h (.inl (by rw [hr]; rfl))
  next s hfound =>
  obtain ⟨hget, haddress, hopen⟩ := findOpen?_eq_some h hfound
  split
  · exact undertakes_misuse h s.stream
  next hidle =>
  have hidle : s.pendingConnect = none ∧ s.pendingRead = none := by simpa using hidle
  split
  next data rest hpop =>
    split
    · exact undertakes_misuse h s.stream
    next hfits =>
      have hrest : rest.stream = s.stream ∧ rest.address = s.address := by
        obtain ⟨_, _, rfl⟩ := Socket.exists_of_popChunk? hpop
        exact ⟨rfl, rfl⟩
      exact .of_deed (.of_modify h hget (f := fun _ => rest)
        (.readChunk hr ⟨haddress, hopen⟩ hidle.1 hidle.2 hpop (Nat.le_of_not_lt hfits))
        hrest.1 hrest.2 rfl rfl rfl rfl fun hmodest => hmodest.of_popChunk? hpop) rfl
  next hpop =>
    have hchunks := Socket.chunks_of_popChunk?_eq_none hpop
    split
    next heos =>
      obtain ⟨m₁, hnoted, heq⟩ :=
        exists_endNoted_submitRead h hr hfound hidle.1 hidle.2 hchunks heos
      rw [heq]
      exact hnoted.undertakes h
    next heos =>
      exact .of_deed (.of_modify h hget (f := fun s => { s with pendingRead := some r })
        (.readWait hr ⟨haddress, hopen⟩ hidle.1 hidle.2 hchunks (by simpa using heos))
        rfl rfl rfl rfl rfl rfl id) rfl

theorem undertakes_submitWrite {data : Bytes} (h : m.sockets.Distinct) (hr : r.command = .write data) :
    Undertakes m [.submitted r] ((m.record (.submitted r)).submitWrite r data) := by
  unfold submitWrite
  split
  · exact undertakes_refuse h (.inl (by rw [hr]; rfl))
  next s hfound =>
  obtain ⟨hget, haddress, hopen⟩ := findOpen?_eq_some h hfound
  split
  · exact undertakes_misuse h s.stream
  next hproper =>
  have hproper : s.writeConflicts = false ∧ data.length ≤ maxPayload := by simpa using hproper
  dsimp only
  split
  next hnow =>
    obtain ⟨hempty, hroom⟩ := (canSendNow_iff m).mp hnow
    have hstep : SocketStep s.stream (m.sockets.get? s.stream) (m.queue.turns s.stream) .bypass
        [.submitted r, .accepted .data s.stream data, .sent .data s.stream data,
          .answered r (.written data.length)] (m.sockets.get? s.stream) := by
      rw [hget]
      exact .writeNow hr ⟨haddress, hopen⟩ hproper.1 hproper.2
    unfold sendWrite
    rw [hr]
    refine .of_deed (.of_same h hstep ?_ ⟨hempty, ?_⟩ ?_ ?_) rfl
    · rw [sockets_answer, sockets_transmit]
      rfl
    · rw [queue_answer, queue_transmit]
      rfl
    · rw [history_answer, history_transmit _ (by exact hroom)]
      rfl
    · exact config_transmit ..
  next =>
    refine .of_deed (.of_modify h hget (f := fun s => { s with pendingWrite := some r })
      (.writeLater hr ⟨haddress, hopen⟩ hproper.1 hproper.2) rfl rfl ?_ ?_ ?_ ?_ id) ?_
    · unfold parkWrite
      rw [sockets_enqueue]
      rfl
    · simp [parkWrite, Turn.Changes]
    · unfold parkWrite
      rw [history_enqueue]
      simp
    · exact config_enqueue ..
    · simp [Event.isOccasion]

/-- An end goes out past the send queue. -/
theorem exists_endNoted_submitEos (h : m.sockets.Distinct) (hr : r.command = .eos)
    (hfound : m.findOpen? r.address = some s) (hfree : s.writeConflicts = false)
    (hnow : m.canSendNow 0 = true) :
    ∃ m₁, EndNoted m s.stream s
        (fun s => { s with flags := { s.flags with eosFromCaller := true, eosSent := true } })
        .bypass [.submitted r, .accepted .eos s.stream [], .sent .eos s.stream [],
          .answered r (.ofStatus .ok)] m₁ ∧
      (((m.record (.submitted r)).modifyFlags s.stream ({ · with eosFromCaller := true })).record
        (.accepted .eos s.stream [])).sendWrite s.stream r = m₁.closeIfExchanged s.stream := by
  obtain ⟨hget, haddress, hopen⟩ := findOpen?_eq_some h hfound
  obtain ⟨hempty, hroom⟩ := (canSendNow_iff m).mp hnow
  unfold sendWrite markEosSent
  rw [hr]
  refine ⟨_, ⟨hget, .endNow hr ⟨haddress, hopen⟩ hfree, fun _ => rfl, fun _ => rfl, rfl, ?_,
    ⟨hempty, ?_⟩, ?_, ?_⟩, rfl⟩
  · rw [sockets_modifyFlags, sockets_answer, sockets_transmit, sockets_record,
      sockets_modifyFlags, SocketTable.modify_modify (by simp)]
    rfl
  · rw [queue_modifyFlags, queue_answer, queue_transmit]
    rfl
  · rw [history_modifyFlags, history_answer, history_transmit _ (by exact hroom)]
    rfl
  · exact config_transmit ..

theorem undertakes_submitEos (h : m.sockets.Distinct) (hr : r.command = .eos) :
    Undertakes m [.submitted r] ((m.record (.submitted r)).submitEos r) := by
  unfold submitEos
  split
  · exact undertakes_refuse h (.inl (by rw [hr]; rfl))
  next s hfound =>
  obtain ⟨hget, haddress, hopen⟩ := findOpen?_eq_some h hfound
  split
  · exact undertakes_misuse h s.stream
  next hfree =>
  have hfree : s.writeConflicts = false := by simpa using hfree
  dsimp only
  split
  next hnow =>
    obtain ⟨m₁, hnoted, heq⟩ := exists_endNoted_submitEos h hr hfound hfree hnow
    rw [heq]
    exact hnoted.undertakes h
  next =>
    refine .of_deed (.of_modify h hget (f := fun s =>
      { s with flags := { s.flags with eosFromCaller := true }, pendingWrite := some r })
      (.endLater hr ⟨haddress, hopen⟩ hfree) rfl rfl ?_ ?_ ?_ ?_ id) ?_
    · unfold parkWrite
      rw [sockets_enqueue, sockets_modify, sockets_record, sockets_modifyFlags,
        SocketTable.modify_modify (by simp)]
      rfl
    · simp [parkWrite, Turn.Changes]
    · unfold parkWrite
      rw [history_enqueue]
      simp
    · exact config_enqueue ..
    · simp [Event.isOccasion]

theorem undertakes_submitReset (h : m.sockets.Distinct) (hr : r.command = .reset) :
    Undertakes m [.submitted r] ((m.record (.submitted r)).submitReset r) := by
  have hrefused : r.RefusedWith .resetOk := .inl (by rw [hr]; rfl)
  have hrefuse := undertakes_refuse h hrefused
  unfold submitReset
  dsimp only
  split
  · exact hrefuse
  · exact hrefuse.trans (conducts_close (hrefuse.distinct h) _ true nofun)

theorem undertakes_submit (h : m.sockets.Distinct) (r : Request) :
    Undertakes m [.submitted r] (m.submit r) := by
  unfold submit
  dsimp only
  split
  next hr => exact undertakes_submitConnect h hr
  next hr => exact undertakes_submitRead h hr
  next hr => exact undertakes_submitWrite h hr
  next hr => exact undertakes_submitEos h hr
  next hr => exact undertakes_submitReset h hr

theorem submits_submit (h : m.sockets.Distinct) (r : Request) : Submits m r (m.submit r) :=
  (undertakes_submit h r).submits

end StreamLink.Multiplexer
