import StreamLink.Proofs.Conservation
import StreamLink.Proofs.Shipping

/-!
# Isolation of streams

The streams share the socket table, the send queue and the rings. Yet whatever is done for one of
them stays with it: a request, a frame and the closing of a socket change the socket and the turns
of their stream and put packets of this stream into the ring, and nothing else. When turns are
served, the streams whose turns they are change, and no others.

Each function of the multiplexer is followed once, as it is for the packets it sends. That nobody
else's request is answered needs no look into the functions: all requests are accounted for, and
those that wait on the other sockets still wait.

Main statement: `streams_isolated`.
-/

namespace StreamLink

/-! ### The other streams -/

namespace SocketTable

/-- The sockets of all but these streams. -/
def without (t : SocketTable) (streams : List UInt8) : List Socket :=
  t.sockets.filter fun s => s.stream ∉ streams

theorem mem_without {t : SocketTable} {streams : List UInt8} {s : Socket} :
    s ∈ t.without streams ↔ s ∈ t.sockets ∧ s.stream ∉ streams := by
  simp [without]

/-- What leaves the other streams alone leaves these alone. -/
theorem without_of_others {t t' : SocketTable} {stream : UInt8} {streams : List UInt8}
    (hmem : stream ∈ streams) (h : t'.others stream = t.others stream) :
    t'.without streams = t.without streams := by
  have hfilter (t : SocketTable) :
      t.without streams = (t.others stream).filter fun s => s.stream ∉ streams := by
    rw [without, others, List.filter_filter]
    congr 1
    funext s
    by_cases heq : s.stream = stream
    · simp [heq, hmem]
    · simp [heq]
  rw [hfilter t', hfilter t, h]

/-- An address that none of these streams has is found where it was. -/
theorem lookup_of_without {t t' : SocketTable} {streams : List UInt8} {address : Address}
    (h : t'.without streams = t.without streams)
    (hother : ∀ s ∈ t.sockets, s.stream ∈ streams → s.address ≠ address)
    (hother' : ∀ s ∈ t'.sockets, s.stream ∈ streams → s.address ≠ address) :
    t'.lookup address = t.lookup address := by
  have hfind {t : SocketTable}
      (hother : ∀ s ∈ t.sockets, s.stream ∈ streams → s.address ≠ address) :
      t.lookup address = (t.without streams).find? (·.address == address) := by
    unfold lookup without
    generalize t.sockets = sockets at hother
    induction sockets with
    | nil => rfl
    | cons s rest ih =>
        have hrest := ih fun s' hs' => hother s' (List.mem_cons_of_mem s hs')
        by_cases hs : s.stream ∈ streams
        · simpa [hs, hother s List.mem_cons_self hs] using hrest
        · by_cases haddress : s.address = address
          · simp [hs, haddress]
          · simpa [hs, haddress] using hrest
  rw [hfind hother', hfind hother, h]

/-- A socket that is added is found at its address, whatever becomes of its slots. -/
theorem lookup_create_modify {t t' : SocketTable} (h : t.Distinct) {stream : UInt8}
    {address : Address} (hfree : t.lookup address = none)
    (hcreate : t.create address = .ok (stream, t')) {f : Socket → Socket}
    (hstream : ∀ s, (f s).stream = s.stream) (haddress : ∀ s, (f s).address = s.address) :
    (t'.modify stream f).lookup address = some (f { stream := stream, address := address }) := by
  have hget : (t'.modify stream f).get? stream =
      some (f { stream := stream, address := address }) :=
    get?_modify_eq_some hstream (get?_create hcreate)
  have hdistinct : (t'.modify stream f).Distinct :=
    (h.create hfree hcreate).modify (fun s _ _ => hstream s) fun s _ _ => haddress s
  have hfound := hdistinct.lookup_eq_some (mem_of_get? hget)
  rwa [haddress] at hfound

end SocketTable

namespace SendQueue

variable {q : SendQueue} {stream : UInt8} {streams : List UInt8}

/-- The turns of all but these streams. -/
def without (q : SendQueue) (streams : List UInt8) : List Entry :=
  q.entries.filter fun e => e.stream ∉ streams

theorem without_enqueue (hmem : stream ∈ streams) (n : Nat) :
    (q.enqueue stream n).without streams = q.without streams := by
  simp [without, enqueue, hmem]

theorem without_remove (hmem : stream ∈ streams) :
    (q.remove stream).without streams = q.without streams := by
  unfold without remove
  induction q.entries with
  | nil => rfl
  | cons e rest ih =>
      by_cases heq : e.stream = stream
      · simp [heq, hmem]
      · rw [List.eraseP_cons_of_neg (by simpa using heq), List.filter_cons, List.filter_cons, ih]

theorem without_pop {e : Entry} (hfront : q.front? = some e) (hmem : e.stream ∈ streams) :
    q.pop.without streams = q.without streams := by
  have hentries : q.entries = e :: q.pop.entries := (List.cons_head?_tail hfront).symm
  rw [without, without, hentries, List.filter_cons_of_neg (by simpa using hmem)]

end SendQueue

/-- The turns of the others stay as they are. -/
theorem Turn.Changes.without_eq {turn : Turn} {q q' : SendQueue} {stream : UInt8}
    {streams : List UInt8} (h : turn.Changes stream q q') (hmem : stream ∈ streams) :
    q'.without streams = q.without streams := by
  cases turn with
  | keep => rw [h]
  | bypass => rw [h.2]
  | join n => rw [h, SendQueue.without_enqueue hmem]
  | serve n =>
      have hentries : q.entries = ⟨stream, n⟩ :: q'.entries := h
      simp [SendQueue.without, hentries, hmem]
  | leave => rw [h, SendQueue.without_remove hmem]
  | clear => rw [h.1, SendQueue.without_remove hmem]
  | rejoin => rw [h, SendQueue.without_enqueue hmem, SendQueue.without_remove hmem]

namespace Multiplexer

/-- At most these streams have changed, and sent something. -/
structure Confined (streams : List UInt8) (m m' : Multiplexer) : Prop where
  sockets : m'.sockets.without streams = m.sockets.without streams
  queue : m'.queue.without streams = m.queue.without streams
  sent : ∃ packets, m.outbound.Appends packets m'.outbound ∧ ∀ p ∈ packets, p.stream ∈ streams

namespace Confined

variable {m m' m'' : Multiplexer} {streams : List UInt8} {stream : UInt8}

theorem of_same (hsockets : m'.sockets = m.sockets) (hqueue : m'.queue = m.queue)
    (houtbound : m'.outbound = m.outbound) : Confined streams m m' where
  sockets := by rw [hsockets]
  queue := by rw [hqueue]
  sent := ⟨[], houtbound ▸ .refl _, by simp⟩

theorem refl (m : Multiplexer) : Confined streams m m :=
  of_same rfl rfl rfl

theorem of_sockets (hmem : stream ∈ streams)
    (hsockets : m'.sockets.others stream = m.sockets.others stream) (hqueue : m'.queue = m.queue)
    (houtbound : m'.outbound = m.outbound) : Confined streams m m' where
  sockets := SocketTable.without_of_others hmem hsockets
  queue := by rw [hqueue]
  sent := ⟨[], houtbound ▸ .refl _, by simp⟩

theorem trans (h : Confined streams m m') (h' : Confined streams m' m'') :
    Confined streams m m'' where
  sockets := h'.sockets.trans h.sockets
  queue := h'.queue.trans h.queue
  sent := by
    obtain ⟨packets, happends, hpackets⟩ := h.sent
    obtain ⟨packets', happends', hpackets'⟩ := h'.sent
    refine ⟨packets ++ packets', happends.trans happends', ?_⟩
    intro p hp
    rcases List.mem_append.mp hp with hp | hp
    · exact hpackets p hp
    · exact hpackets' p hp

/-- What happens to the totals and the history is nobody's. -/
theorem trans_same (h : Confined streams m m') (hsockets : m''.sockets = m'.sockets)
    (hqueue : m''.queue = m'.queue) (houtbound : m''.outbound = m'.outbound) :
    Confined streams m m'' :=
  h.trans (of_same hsockets hqueue houtbound)

/-- The other streams have the sockets that they had. -/
theorem get?_eq (h : Confined streams m m') {other : UInt8} (hother : other ∉ streams) :
    m'.sockets.get? other = m.sockets.get? other := by
  have hfind (t : SocketTable) : t.get? other = (t.without streams).find? (·.stream == other) := by
    rw [SocketTable.get?, SocketTable.without, List.find?_filter]
    congr 1
    funext s
    by_cases heq : s.stream = other
    · simp [heq, hother]
    · simp [heq]
  rw [hfind, hfind, h.sockets]

/-- The other streams have the turns that they had. -/
theorem turns_eq (h : Confined streams m m') {other : UInt8} (hother : other ∉ streams) :
    m'.queue.turns other = m.queue.turns other := by
  have hfilter (q : SendQueue) :
      q.turns other = ((q.without streams).filter (·.stream == other)).map (·.length) := by
    rw [SendQueue.turns, SendQueue.without, List.filter_filter]
    congr 2
    funext e
    by_cases heq : e.stream = other
    · simp [heq, hother]
    · simp [heq]
  rw [hfilter, hfilter, h.queue]

end Confined

section Steps

variable (m : Multiplexer) {streams : List UInt8} {stream : UInt8} (hmem : stream ∈ streams)

/-! ### The steps -/

theorem confined_withdraw (stream : UInt8) : Confined streams m (m.withdraw stream) := by
  unfold withdraw
  split
  · exact .refl m
  · split
    · exact .of_same rfl rfl rfl
    · exact .refl m

theorem confined_failAll (rs : List Request) : Confined streams m (m.failAll rs) := by
  induction rs generalizing m with
  | nil => exact .refl m
  | cons r rs ih =>
      have hanswer : Confined streams m (m.answer r r.failure) := .of_same rfl rfl rfl
      exact hanswer.trans (ih _)

include hmem

theorem confined_modify {f : Socket → Socket}
    (hf : ∀ s, s.stream = stream → (f s).stream = stream) :
    Confined streams m (m.modify stream f) :=
  .of_sockets hmem (SocketTable.others_modify fun s _ => hf s) rfl rfl

theorem confined_modifyFlags (f : SocketFlags → SocketFlags) :
    Confined streams m (m.modifyFlags stream f) :=
  m.confined_modify hmem fun _ => id

theorem confined_retire : Confined streams m (m.retire stream) := by
  unfold retire
  split
  · exact .of_sockets hmem (SocketTable.others_erase _ _) rfl rfl
  · exact .refl m

theorem confined_enqueue (n : Nat) : Confined streams m (m.enqueue stream n) where
  sockets := by rw [sockets_enqueue]
  queue := by rw [queue_enqueue, SendQueue.without_enqueue hmem]
  sent := by
    refine ⟨[], ?_, by simp⟩
    unfold enqueue
    dsimp only
    split <;> exact .refl _

theorem confined_transmit (kind : PacketKind) (payload : Bytes) :
    Confined streams m (m.transmit kind stream payload) := by
  unfold transmit
  split
  next ring happend =>
    have hlength := (Ring.le_of_append_eq_ok happend).1
    let p : Packet := ⟨kind, stream, payload, hlength⟩
    exact ⟨rfl, rfl, [p], .tail (.refl _) happend, by simpa [p] using hmem⟩
  · exact .of_same rfl rfl rfl

theorem confined_abandon (s : Socket) : Confined streams m (m.abandon stream s) := by
  have hwithdraw : Confined streams m (m.withdraw stream) := m.confined_withdraw stream
  have habort := (hwithdraw.trans (confined_failAll _ s.parked)).trans
    (confined_modify _ hmem fun s heq => s.stream_abort.trans heq)
  exact ⟨habort.sockets, (SendQueue.without_remove hmem).trans (by simp), habort.sent⟩

theorem confined_close (emitReset : Bool) : Confined streams m (m.close stream emitReset) := by
  cases hget : m.sockets.get? stream with
  | none =>
      rw [close, hget]
      exact .refl m
  | some s =>
      have habandon := m.confined_abandon hmem s
      have haccept : Confined streams m
          ((m.abandon stream s).record (.accepted .reset stream [])) :=
        habandon.trans_same rfl rfl rfl
      rw [close_eq hget]
      split
      · exact habandon.trans (confined_retire _ hmem)
      split
      · exact (haccept.trans (confined_transmit _ hmem _ _)).trans (confined_retire _ hmem)
      · exact (haccept.trans (confined_modifyFlags _ hmem _)).trans (confined_enqueue _ hmem _)

theorem confined_closeIfExchanged : Confined streams m (m.closeIfExchanged stream) := by
  unfold closeIfExchanged
  split
  · exact .refl m
  split
  · exact m.confined_close hmem false
  · exact .refl m

theorem confined_markEosSent : Confined streams m (m.markEosSent stream) :=
  (m.confined_modifyFlags hmem _).trans (confined_closeIfExchanged _ hmem)

theorem confined_deliverEos (r : Request) : Confined streams m (m.deliverEos stream r) := by
  have hanswer : Confined streams m (m.answer r (.ofStatus .readEos)) := .of_same rfl rfl rfl
  exact (hanswer.trans (confined_modifyFlags _ hmem _)).trans (confined_closeIfExchanged _ hmem)

/-! ### Turns -/

theorem confined_sendWrite (r : Request) : Confined streams m (m.sendWrite stream r) := by
  unfold sendWrite
  split
  · exact (m.confined_transmit hmem _ _).trans_same rfl rfl rfl
  · have hanswer : Confined streams m ((m.transmit .eos stream []).answer r (.ofStatus .ok)) :=
      (m.confined_transmit hmem _ _).trans_same rfl rfl rfl
    exact hanswer.trans (confined_markEosSent _ hmem)

theorem confined_serve : Confined streams m (m.serve stream) := by
  unfold serve
  split
  · exact .of_same rfl rfl rfl
  split
  · exact m.confined_transmit hmem _ _
  next r _ =>
    have htake : Confined streams m (m.modify stream ({ · with pendingWrite := none })) :=
      m.confined_modify hmem fun _ => id
    exact htake.trans (confined_sendWrite _ hmem r)
  · exact (m.confined_transmit hmem _ _).trans (confined_retire _ hmem)
  · exact .refl m

/-! ### Submissions -/

theorem confined_misuse (r : Request) : Confined streams m (m.misuse r stream) := by
  have hanswer : Confined streams m (m.answer r r.failure) := .of_same rfl rfl rfl
  exact hanswer.trans (confined_close _ hmem true)

theorem confined_parkWrite (r : Request) (n : Nat) :
    Confined streams m (m.parkWrite stream r n) := by
  have hpark : Confined streams m (m.modify stream ({ · with pendingWrite := some r })) :=
    m.confined_modify hmem fun _ => id
  exact hpark.trans (confined_enqueue _ hmem n)

end Steps

/-! ### Arriving frames -/

section Arrivals

variable (m : Multiplexer) {streams : List UInt8} {s : Socket} (hmem : s.stream ∈ streams)

include hmem

theorem confined_takeConnectResponse (payload : Bytes) :
    Confined streams m (m.takeConnectResponse s payload) := by
  unfold takeConnectResponse
  split
  · have hanswer (r : Request) (c : Completion) : Confined streams m (m.resolve s.stream r c) := by
      have htake : Confined streams (m.withdraw s.stream) ((m.withdraw s.stream).modify s.stream
          ({ · with pendingConnect := none })) := confined_modify _ hmem fun _ => id
      exact ((m.confined_withdraw s.stream).trans htake).trans_same rfl rfl rfl
    dsimp only
    split
    · exact hanswer _ _
    · exact (hanswer _ _).trans (confined_close _ hmem false)
  · exact .of_same rfl rfl rfl

theorem confined_takeData (payload : Bytes) : Confined streams m (m.takeData s payload) := by
  have htake : Confined streams m (m.modify s.stream ({ · with pendingRead := none })) :=
    m.confined_modify hmem fun _ => id
  unfold takeData
  split
  · split
    · exact htake.trans_same rfl rfl rfl
    · exact m.confined_close hmem true
  · split
    · exact m.confined_close hmem true
    · exact m.confined_modify hmem fun _ => id

theorem confined_takeEos : Confined streams m (m.takeEos s) := by
  have hflag := m.confined_modifyFlags hmem ({ · with eosFromPeer := true })
  unfold takeEos
  dsimp only
  split
  next r _ =>
    have htake : Confined streams m ((m.modifyFlags s.stream
        ({ · with eosFromPeer := true })).modify s.stream ({ · with pendingRead := none })) :=
      hflag.trans (confined_modify _ hmem fun _ => id)
    exact htake.trans (confined_deliverEos _ hmem r)
  · exact hflag

omit hmem in
theorem confined_dispatch {f : Frame} (hmem : f.stream ∈ streams) :
    Confined streams m (m.dispatch f) := by
  have hreceive : Confined streams m (m.receive f) := .of_same rfl rfl rfl
  unfold dispatch
  dsimp only
  split
  · exact hreceive.trans_same rfl rfl rfl
  next s hget =>
  have hget : m.sockets.get? f.stream = some s := hget
  rw [← SocketTable.stream_of_get? hget] at hmem ⊢
  split
  · exact hreceive.trans (confined_close _ hmem false)
  split
  · exact hreceive.trans_same rfl rfl rfl
  refine hreceive.trans ?_
  unfold takeFrame
  split
  · exact confined_takeConnectResponse _ hmem _
  · exact confined_takeData _ hmem _
  · exact confined_takeEos _ hmem
  · exact .of_same rfl rfl rfl

end Arrivals

/-! ### Submissions -/

/-- Whether a connect creates a socket for the stream. -/
def Creates (m : Multiplexer) (r : Request) (service : Bytes) (stream : UInt8) : Prop :=
  m.sockets.lookup r.address = none ∧ service.length ≤ maxPayload ∧
    ∃ t, m.sockets.create r.address = .ok (stream, t)

section Submissions

variable (m : Multiplexer) {streams : List UInt8} {r : Request}

theorem confined_submitConnect {service : Bytes}
    (hcreates : ∀ stream, m.Creates r service stream → stream ∈ streams) :
    Confined streams m (m.submitConnect r service) := by
  unfold submitConnect
  split
  · exact .of_same rfl rfl rfl
  next hfree =>
  split
  · exact .of_same rfl rfl rfl
  next hlength =>
  split
  · exact .of_same rfl rfl rfl
  next stream sockets hcreate =>
    have hmem := hcreates stream
      ⟨by simpa using hfree, Nat.le_of_not_gt hlength, sockets, hcreate⟩
    have hopen : Confined streams m (({ m with sockets }.record (.opened stream r)).record
        (.accepted .connect stream service)) :=
      .of_sockets hmem (SocketTable.others_create hcreate) rfl rfl
    dsimp only
    refine Confined.trans ?_ (confined_modify _ hmem fun _ => id)
    split
    · exact hopen.trans (confined_transmit _ hmem _ _)
    · exact hopen.trans (confined_enqueue _ hmem _)

section Found

variable (hmem : ∀ s ∈ m.findOpen? r.address, s.stream ∈ streams)

include hmem

theorem confined_submitRead (capacity : Nat) : Confined streams m (m.submitRead r capacity) := by
  unfold submitRead
  split
  · exact .of_same rfl rfl rfl
  next s hfound =>
  have hmem := hmem s hfound
  split
  · exact m.confined_misuse hmem r
  split
  next data rest hpop =>
    split
    · exact m.confined_misuse hmem r
    · have hrest : rest.stream = s.stream := by
        obtain ⟨_, _, rfl⟩ := Socket.exists_of_popChunk? hpop
        rfl
      exact (m.confined_modify hmem fun _ _ => hrest).trans_same rfl rfl rfl
  · split
    · exact m.confined_deliverEos hmem r
    · exact m.confined_modify hmem fun _ => id

theorem confined_submitWrite (data : Bytes) : Confined streams m (m.submitWrite r data) := by
  unfold submitWrite
  split
  · exact .of_same rfl rfl rfl
  next s hfound =>
  have hmem := hmem s hfound
  split
  · exact m.confined_misuse hmem r
  · have haccept : Confined streams m (m.record (.accepted .data s.stream data)) :=
      .of_same rfl rfl rfl
    dsimp only
    split
    · exact haccept.trans (confined_sendWrite _ hmem r)
    · exact haccept.trans (confined_parkWrite _ hmem r _)

theorem confined_submitEos : Confined streams m (m.submitEos r) := by
  unfold submitEos
  split
  · exact .of_same rfl rfl rfl
  next s hfound =>
  have hmem := hmem s hfound
  split
  · exact m.confined_misuse hmem r
  · have haccept : Confined streams m ((m.modifyFlags s.stream
        ({ · with eosFromCaller := true })).record (.accepted .eos s.stream [])) :=
      (m.confined_modifyFlags hmem ({ · with eosFromCaller := true })).trans_same rfl rfl rfl
    dsimp only
    split
    · exact haccept.trans (confined_sendWrite _ hmem r)
    · exact haccept.trans (confined_parkWrite _ hmem r 0)

theorem confined_submitReset : Confined streams m (m.submitReset r) := by
  have hanswer : Confined streams m (m.answer r (.ofStatus .resetOk)) := .of_same rfl rfl rfl
  unfold submitReset
  dsimp only
  split
  · exact hanswer
  next s hfound => exact hanswer.trans (confined_close _ (hmem s hfound) true)

end Found

theorem confined_submit (hfound : ∀ s ∈ m.sockets.lookup r.address, s.stream ∈ streams)
    (hcreates : ∀ service stream, r.command = .connect service → m.Creates r service stream →
      stream ∈ streams) :
    Confined streams m (m.submit r) := by
  have hrecord : Confined streams m (m.record (.submitted r)) := .of_same rfl rfl rfl
  have hopen : ∀ s ∈ (m.record (.submitted r)).findOpen? r.address, s.stream ∈ streams :=
    fun s hs => hfound s (Option.filter_eq_some_iff.mp hs).1
  unfold submit
  dsimp only
  refine hrecord.trans ?_
  split
  next service hr => exact confined_submitConnect _ fun stream => hcreates service stream hr
  · exact confined_submitRead _ hopen _
  · exact confined_submitWrite _ hopen _
  · exact confined_submitEos _ hopen
  · exact confined_submitReset _ hopen

end Submissions

/-! ### Serving turns -/

/-- The turns that are served until the oldest does not fit, in order. -/
def served (m : Multiplexer) : List SendQueue.Entry :=
  if m.canServe then m.queue.front?.toList ++ m.serveFront.served else []
termination_by m.queue.length
decreasing_by exact length_queue_serveFront_lt m (by assumption)

theorem confined_serveFront {m : Multiplexer} {streams : List UInt8}
    (hmem : ∀ e ∈ m.queue.front?, e.stream ∈ streams) : Confined streams m m.serveFront := by
  unfold serveFront
  split
  · exact .refl m
  next e hfront =>
    have hmem := hmem e hfront
    have hpop : Confined streams m { m with queue := m.queue.pop } :=
      ⟨rfl, SendQueue.without_pop hfront hmem, [], .refl _, by simp⟩
    exact hpop.trans (confined_serve _ hmem)

theorem confined_drainOutbound {m : Multiplexer} {streams : List UInt8}
    (hmem : ∀ e ∈ m.served, e.stream ∈ streams) : Confined streams m m.drainOutbound := by
  fun_induction drainOutbound m with
  | case1 m hserve ih =>
      rw [served, if_pos hserve] at hmem
      have hfront := confined_serveFront fun e he =>
        hmem e (List.mem_append_left _ (Option.mem_toList.mpr he))
      exact hfront.trans (ih fun e he => hmem e (List.mem_append_right _ he))
  | case2 m _ => exact .refl m

/-! ### Isolation -/

/-- At most these streams have changed: their sockets, where their sockets are found, and their
turns. Only packets of theirs were sent, and no request was answered that waited on another
socket. -/
structure Isolated (streams : List UInt8) (m m' : Multiplexer) : Prop
    extends Confined streams m m' where
  lookup : ∀ address,
    (∀ stream ∈ streams, ∀ s, s ∈ m.sockets.get? stream ∨ s ∈ m'.sockets.get? stream →
      s.address ≠ address) → m'.sockets.lookup address = m.sockets.lookup address
  answers : ∃ events, m'.chronicle = m.chronicle ++ events ∧
    ∀ s ∈ m.sockets.without streams, ∀ r ∈ s.parked, r ∉ answersIn events

theorem Leads.exists_chronicle {m m' : Multiplexer} {rs : List Request} (h : Leads m rs m') :
    ∃ events, m'.chronicle = m.chronicle ++ events := by
  obtain ⟨events, hevents⟩ := h.chronicle_isPrefix
  exact ⟨events, hevents.symm⟩

theorem Balanced.leads {m m' : Multiplexer} {rs : List Request} (h : m.Balanced)
    (hleads : Leads m rs m') : m'.Balanced :=
  hleads.induct h fun hmove h => h.move hmove

/-- What was handed in or waited before is what was answered or waits afterwards. -/
theorem Balanced.count_leads {m m' : Multiplexer} {rs : List Request} {events : List Event}
    (h : m.Balanced) (hleads : Leads m rs m') (hevents : m'.chronicle = m.chronicle ++ events)
    (r : Request) : rs.count r + m.parked.count r =
      (answersIn events).count r + m'.parked.count r := by
  have hbefore := h.perm.count_eq r
  have hafter := (h.leads hleads).perm.count_eq r
  rw [List.count_append] at hbefore
  rw [hleads.submissionsIn_chronicle, hevents, answersIn_append, List.count_append,
    List.count_append, List.count_append] at hafter
  omega

theorem count_parked_without (m : Multiplexer) (streams : List UInt8) (r : Request) :
    m.parked.count r =
      ((m.sockets.sockets.filter (·.stream ∈ streams)).flatMap Socket.parked).count r +
        ((m.sockets.without streams).flatMap Socket.parked).count r := by
  have hsplit := List.filter_append_perm (fun s : Socket => s.stream ∈ streams) m.sockets.sockets
  rw [parked, ← (hsplit.flatMap_right Socket.parked).count_eq, List.flatMap_append,
    List.count_append]
  simp [SocketTable.without]

/-- No request is answered that was not handed in and waits on none of the streams that change. -/
theorem Balanced.not_answered {m m' : Multiplexer} {rs : List Request} {streams : List UInt8}
    {events : List Event} (h : m.Balanced) (hconfined : Confined streams m m')
    (hleads : Leads m rs m') (hevents : m'.chronicle = m.chronicle ++ events)
    (hrs : ∀ r ∈ rs, ∀ s ∈ m.sockets.without streams, s.address ≠ r.address) {s : Socket}
    (hs' : s ∈ m.sockets.without streams) {r : Request} (hr : r ∈ s.parked) :
    r ∉ answersIn events := by
  have hresident {s' : Socket} (hs' : s' ∈ m.sockets.sockets) {r' : Request}
      (hr' : r' ∈ s'.parked) : r'.address = s'.address :=
    (h.tidy s'.stream s' (h.distinct.get?_eq_some hs')).addressed r' hr'
  obtain ⟨hs, hother⟩ := SocketTable.mem_without.mp hs'
  have hnew : rs.count r = 0 :=
    List.count_eq_zero.mpr fun hmem => hrs r hmem s hs' (hresident hs hr).symm
  have hwithin : ((m.sockets.sockets.filter (·.stream ∈ streams)).flatMap
      Socket.parked).count r = 0 := by
    rw [List.count_eq_zero, List.mem_flatMap]
    rintro ⟨s', hs', hr'⟩
    obtain ⟨hs', hmem⟩ := List.mem_filter.mp hs'
    obtain rfl := h.distinct.eq_of_address hs hs' ((hresident hs hr).symm.trans (hresident hs' hr'))
    exact hother (by simpa using hmem)
  have hcount := h.count_leads hleads hevents r
  rw [m.count_parked_without streams, m'.count_parked_without streams, hconfined.sockets, hnew,
    hwithin] at hcount
  exact List.count_eq_zero.mp (by omega)

theorem Confined.isolated {m m' : Multiplexer} {rs : List Request} {streams : List UInt8}
    (hconfined : Confined streams m m') (h : m.Balanced) (hleads : Leads m rs m')
    (hrs : ∀ r ∈ rs, ∀ s ∈ m.sockets.without streams, s.address ≠ r.address) :
    Isolated streams m m' := by
  have hother {m : Multiplexer} (hdistinct : m.sockets.Distinct) {address : Address}
      (haddress : ∀ stream ∈ streams, ∀ s ∈ m.sockets.get? stream, s.address ≠ address) :
      ∀ s ∈ m.sockets.sockets, s.stream ∈ streams → s.address ≠ address :=
    fun s hs hmem => haddress s.stream hmem s (hdistinct.get?_eq_some hs)
  obtain ⟨events, hevents⟩ := hleads.exists_chronicle
  refine ⟨hconfined, ?_, events, hevents, ?_⟩
  · intro address haddress
    apply SocketTable.lookup_of_without hconfined.sockets
    · exact hother h.distinct fun stream hmem s hs => haddress stream hmem s (.inl hs)
    · exact hother (hleads.distinct h.distinct) fun stream hmem s hs =>
        haddress stream hmem s (.inr hs)
  · intro s hs r hr
    exact h.not_answered hconfined hleads hevents hrs hs hr

/-- The states that a host's end can come to, those within its polling among them. -/
inductive Reachable (config : Config) : Multiplexer → Prop
  | fresh : Reachable config (.fresh config)
  | apply {m : Multiplexer} (h : Reachable config m) (operation : Operation) :
      Reachable config (m.apply operation)
  | takeFrame {m : Multiplexer} (h : Reachable config m) {frame : Frame} {ring : Ring}
      (htake : m.inbound.takeFrame? = some (frame, ring)) :
      Reachable config { m with inbound := ring }
  | receiveOne {m : Multiplexer} (h : Reachable config m) : Reachable config m.receiveOne
  | serveFront {m : Multiplexer} (h : Reachable config m) (hserve : m.canServe = true) :
      Reachable config m.serveFront

theorem reachable_run (config : Config) (operations : List Operation) :
    Reachable config (run config operations) :=
  run_induct config operations .fresh fun _ operation _ _ h => h.apply operation

theorem Reachable.balanced {config : Config} {m : Multiplexer} (h : Reachable config m) :
    m.Balanced := by
  induction h with
  | fresh => exact balanced_fresh config
  | apply _ operation ih => exact ih.leads (leads_apply ih.distinct operation)
  | takeFrame _ _ ih => exact ⟨ih.distinct, ih.tidy, ih.perm⟩
  | receiveOne _ ih => exact ih.leads (conducts_receiveOne ih.distinct).proceeds.leads
  | serveFront _ hserve ih => exact ih.leads (conducts_serveFront ih.distinct hserve).proceeds.leads

/-- What every move keeps holds in every state that the host's end can come to. -/
theorem Reachable.induct {config : Config} {m : Multiplexer} {p : Multiplexer → Prop}
    (h : Reachable config m) (hfresh : p (.fresh config))
    (hmove : ∀ {m m' : Multiplexer} {stream : UInt8} {turn : Turn} {events : List Event},
      Move m stream turn events m' → p m → p m') : p m := by
  induction h with
  | fresh => exact hfresh
  | apply hbefore operation ih =>
      exact (leads_apply hbefore.balanced.distinct operation).induct ih hmove
  | @takeFrame m hbefore _ ring _ ih =>
      have hrings : Move m 0 .keep [] { m with inbound := ring } :=
        .of_rings hbefore.balanced.distinct rfl rfl rfl
      exact hmove hrings ih
  | receiveOne hbefore ih =>
      exact (conducts_receiveOne hbefore.balanced.distinct).proceeds.leads.induct ih hmove
  | serveFront hbefore hserve ih =>
      exact (conducts_serveFront hbefore.balanced.distinct hserve).proceeds.leads.induct ih hmove

/-- Whether the request is for the socket of the stream, one that is there or one that it
creates. -/
def Targets (m : Multiplexer) (r : Request) (stream : UInt8) : Prop :=
  ∃ s, (s ∈ m.sockets.lookup r.address ∨ s ∈ (m.submit r).sockets.lookup r.address) ∧
    s.stream = stream

/-- A connect is for the socket that it creates. -/
theorem Creates.targets {m : Multiplexer} (h : m.sockets.Distinct) {r : Request} {service : Bytes}
    {stream : UInt8} (hcreates : m.Creates r service stream) (hr : r.command = .connect service) :
    m.Targets r stream := by
  obtain ⟨hfree, hlength, t, hcreate⟩ := hcreates
  have hsockets : (m.submit r).sockets = t.modify stream ({ · with pendingConnect := some r }) := by
    have hfree' : (m.record (.submitted r)).sockets.lookup r.address = none := hfree
    have hcreate' : (m.record (.submitted r)).sockets.create r.address = .ok (stream, t) := hcreate
    simp only [submit, hr, submitConnect, hfree', hcreate', Option.isSome_none, Bool.false_eq_true,
      ↓reduceIte, Nat.not_lt.mpr hlength]
    rw [sockets_modify]
    split <;> simp
  refine ⟨.opening stream r, .inr ?_, rfl⟩
  rw [hsockets]
  exact SocketTable.lookup_create_modify h hfree hcreate (fun _ => rfl) fun _ => rfl

variable {m : Multiplexer} {r : Request}

/-- A request leaves the socket that it is for where it was. -/
theorem stream_of_lookup_submit (h : m.sockets.Distinct) {s s' : Socket}
    (hs : s ∈ m.sockets.lookup r.address) (hs' : s' ∈ (m.submit r).sockets.lookup r.address) :
    s'.stream = s.stream := by
  have hconfined : Confined [s.stream] m (m.submit r) := by
    apply confined_submit
    · intro s₁ hs₁
      rw [Option.some.inj (hs.symm.trans hs₁)]
      exact List.mem_cons_self
    · intro service stream _ ⟨hfree, _⟩
      rw [hs] at hfree
      contradiction
  by_contra hne
  have hother : s' ∈ m.sockets.without [s.stream] := by
    rw [← hconfined.sockets]
    exact SocketTable.mem_without.mpr ⟨SocketTable.mem_of_lookup hs', by simpa using hne⟩
  have hsame : s'.address = s.address :=
    (SocketTable.address_of_lookup hs').trans (SocketTable.address_of_lookup hs).symm
  apply hne
  rw [h.eq_of_address (SocketTable.mem_without.mp hother).1 (SocketTable.mem_of_lookup hs) hsame]

/-- A request is for one socket at most. -/
theorem Targets.unique (h : m.sockets.Distinct) {stream other : UInt8}
    (hstream : m.Targets r stream) (hother : m.Targets r other) : other = stream := by
  obtain ⟨s, hs | hs, rfl⟩ := hstream <;> obtain ⟨s', hs' | hs', rfl⟩ := hother
  · rw [Option.some.inj (hs.symm.trans hs')]
  · exact stream_of_lookup_submit h hs hs'
  · exact (stream_of_lookup_submit h hs' hs).symm
  · rw [Option.some.inj (hs.symm.trans hs')]

theorem isolated_submit (h : m.Balanced) {streams : List UInt8}
    (htargets : ∀ stream, m.Targets r stream → stream ∈ streams) :
    Isolated streams m (m.submit r) := by
  have hfound : ∀ s ∈ m.sockets.lookup r.address, s.stream ∈ streams :=
    fun s hs => htargets s.stream ⟨s, .inl hs, rfl⟩
  have hconfined : Confined streams m (m.submit r) :=
    m.confined_submit hfound fun _ stream hr hcreates =>
      htargets stream (hcreates.targets h.distinct hr)
  refine hconfined.isolated h (submits_submit h.distinct r).leads ?_
  intro r' hr' s hs haddress
  obtain rfl := List.mem_singleton.mp hr'
  obtain ⟨hs, hother⟩ := SocketTable.mem_without.mp hs
  exact hother (hfound s (haddress ▸ h.distinct.lookup_eq_some hs))

/-- What is done for one stream changes this stream only: a request for its socket, a frame for it,
and closing it. A request that is for no socket changes none. Serving turns changes the streams
whose turns they are. -/
theorem streams_isolated {config : Config} (h : Reachable config m) :
    (∀ r stream, m.Targets r stream → Isolated [stream] m (m.submit r)) ∧
    (∀ r, (∀ stream, ¬ m.Targets r stream) → Isolated [] m (m.submit r)) ∧
    (∀ f, Isolated [f.stream] m (m.dispatch f)) ∧
    (∀ stream emitReset, Isolated [stream] m (m.close stream emitReset)) ∧
    Isolated (m.served.map (·.stream)) m m.drainOutbound := by
  have hbalanced := h.balanced
  have hdistinct := hbalanced.distinct
  refine ⟨?_, ?_, ?_, ?_, ?_⟩
  · intro r stream htarget
    apply isolated_submit hbalanced
    intro other hother
    rw [htarget.unique hdistinct hother]
    exact List.mem_cons_self
  · intro r hnone
    exact isolated_submit hbalanced fun stream htarget => absurd htarget (hnone stream)
  · intro f
    have hconfined : Confined [f.stream] m (m.dispatch f) := m.confined_dispatch List.mem_cons_self
    exact hconfined.isolated hbalanced (conducts_dispatch hdistinct f).proceeds.leads nofun
  · intro stream emitReset
    have hconfined : Confined [stream] m (m.close stream emitReset) :=
      m.confined_close List.mem_cons_self emitReset
    exact hconfined.isolated hbalanced (leads_close hdistinct stream emitReset) nofun
  · have hconfined : Confined (m.served.map (·.stream)) m m.drainOutbound :=
      confined_drainOutbound fun e he => List.mem_map_of_mem he
    exact hconfined.isolated hbalanced (conducts_drainOutbound hdistinct).proceeds.leads nofun

/-- Two connects fill the ring and a third has to wait. The first stream is then reset. -/
theorem streams_isolated_of_reset :
    let connect : Request := ⟨0, ⟨1, 1⟩, .connect (List.replicate 100 7)⟩
    let m := run {} [.submit connect, .submit ⟨1, ⟨1, 2⟩, .connect (List.replicate 149 7)⟩,
      .submit ⟨2, ⟨1, 3⟩, .connect []⟩]
    let reset : Request := ⟨3, ⟨1, 1⟩, .reset⟩
    m.Targets reset 1 ∧ m.queue.without [1] = [⟨5, 0⟩] ∧
      (m.submit reset).queue.entries = [⟨5, 0⟩, ⟨1, 0⟩] ∧ Isolated [1] m (m.submit reset) := by
  intro connect m reset
  have htargets : m.Targets reset 1 := ⟨.opening 1 connect, .inl (by decide +kernel), rfl⟩
  have hisolated := streams_isolated (reachable_run {} [.submit connect,
    .submit ⟨1, ⟨1, 2⟩, .connect (List.replicate 149 7)⟩, .submit ⟨2, ⟨1, 3⟩, .connect []⟩])
  exact ⟨htargets, by decide +kernel, by decide +kernel, hisolated.1 reset 1 htargets⟩

end Multiplexer

end StreamLink
