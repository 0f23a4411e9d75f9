import StreamLink.Proofs.Effects
import StreamLink.Proofs.RingQueue

/-!
# What is sent enters the ring

The multiplexer changes its outbound ring by appending packets and in no other way. Its history
tells of each of them, and of each frame that arrives, and its totals count each of them once. So
whatever the multiplexer does, the ring afterwards is the ring before with the packets appended that
the history tells of since, and the totals have grown by as many.

Main statements: `ships_poll`, `ships_close` and `ships_submit`, `sends_close`, `sends_submit` and
`conveys_dispatch`.
-/

namespace StreamLink

/-- What one outbound operation puts on the wire. -/
structure Parcel where
  kind : PacketKind
  stream : UInt8
  payload : Bytes
deriving Repr, DecidableEq, Inhabited

def Packet.parcel (p : Packet) : Parcel :=
  ⟨p.kind, p.stream, p.payload⟩

/-- The parcel that an event put into the ring. -/
@[simp] def Event.sending? : Event → Option Parcel
  | sent kind stream payload => some ⟨kind, stream, payload⟩
  | _ => none

/-- The parcels that were put into the ring, in the order of the events. -/
def sentIn (events : List Event) : List Parcel :=
  events.filterMap Event.sending?

@[simp] theorem sentIn_nil : sentIn [] = [] := rfl

@[simp] theorem sentIn_cons (e : Event) (events : List Event) :
    sentIn (e :: events) = e.sending?.toList ++ sentIn events :=
  filterMap_cons_eq e events

@[simp] theorem sentIn_append (first second : List Event) :
    sentIn (first ++ second) = sentIn first ++ sentIn second :=
  List.filterMap_append

theorem sentIn_reverse (events : List Event) : sentIn events.reverse = (sentIn events).reverse :=
  List.filterMap_reverse

@[simp] theorem sentIn_received (frame? : Option Frame) :
    sentIn (frame?.map Event.received).toList = [] :=
  filterMap_received (fun _ => rfl) frame?

@[simp] theorem sentIn_again (stream : UInt8) (turns : List Nat) :
    sentIn (again stream turns) = [] :=
  filterMap_again (fun _ => rfl) stream turns

@[simp] theorem sentIn_farewell (s : Socket) (turns : List Nat) :
    sentIn (s.farewell turns) = [] := by
  rw [sentIn, s.filterMap_farewell fun _ => rfl]
  exact List.filterMap_eq_nil_iff.mpr fun _ _ => rfl

/-- The frame that an event took out of the ring. -/
@[simp] def Event.arrived? : Event → Option Frame
  | received f => some f
  | _ => none

/-- The frames that were taken out of the ring, in the order of the events. -/
def receivedIn (events : List Event) : List Frame :=
  events.filterMap Event.arrived?

/-- What is new in a history, newest first, comes last in the order of the events. -/
theorem filterMap_reverse_of_append {α : Type} {f : Event → Option α} {events events' : List Event}
    {new : List α} (h : events'.filterMap f = new.reverse ++ events.filterMap f) :
    events'.reverse.filterMap f = events.reverse.filterMap f ++ new := by
  rw [List.filterMap_reverse, h, List.reverse_append, List.reverse_reverse, List.filterMap_reverse]

namespace Statistics

/-- Whether totals have grown by these packets, which were sent, and by these frames, which arrived:
each is counted once, with the bytes of its payload, and of the frames some may have been discarded.
Violations are not looked at. -/
structure Counts (s : Statistics) (packets : List Packet) (frames : List Frame) (s' : Statistics) :
    Prop where
  packetsSent : s'.packetsSent = s.packetsSent + .ofNat packets.length
  bytesSent : s'.bytesSent = s.bytesSent + .ofNat (packets.map (·.payload.length)).sum
  resetsSent : s'.resetsSent = s.resetsSent + .ofNat (packets.countP (·.kind = .reset))
  packetsReceived : s'.packetsReceived = s.packetsReceived + .ofNat frames.length
  bytesReceived : s'.bytesReceived = s.bytesReceived + .ofNat (frames.map (·.payload.length)).sum
  packetsDiscarded : ∃ discarded : List Frame, discarded.Sublist frames ∧
    s'.packetsDiscarded = s.packetsDiscarded + .ofNat discarded.length

namespace Counts

variable {s s' s'' : Statistics} {packets packets' : List Packet} {frames frames' : List Frame}

/-- A total that has not grown. -/
theorem grown_zero (total : UInt64) : total = total + .ofNat 0 :=
  (UInt64.add_zero total).symm

/-- What a total has grown by adds up. -/
theorem grown_add {total total' total'' : UInt64} {n n' : Nat} (h : total' = total + .ofNat n)
    (h' : total'' = total' + .ofNat n') : total'' = total + .ofNat (n + n') := by
  rw [h', h, UInt64.ofNat_add, UInt64.add_assoc]

/-- Nothing but violations is counted. -/
theorem of_same (h : s' = { s with protocolViolations := s'.protocolViolations }) :
    s.Counts [] [] s' := by
  obtain ⟨violations, rfl⟩ : ∃ violations, s' = { s with protocolViolations := violations } :=
    ⟨_, h⟩
  exact ⟨grown_zero _, grown_zero _, grown_zero _, grown_zero _, grown_zero _, [], .slnil,
    grown_zero _⟩

theorem trans (h : s.Counts packets frames s') (h' : s'.Counts packets' frames' s'') :
    s.Counts (packets ++ packets') (frames ++ frames') s'' where
  packetsSent := by
    rw [List.length_append]
    exact grown_add h.packetsSent h'.packetsSent
  bytesSent := by
    rw [List.map_append, List.sum_append]
    exact grown_add h.bytesSent h'.bytesSent
  resetsSent := by
    rw [List.countP_append]
    exact grown_add h.resetsSent h'.resetsSent
  packetsReceived := by
    rw [List.length_append]
    exact grown_add h.packetsReceived h'.packetsReceived
  bytesReceived := by
    rw [List.map_append, List.sum_append]
    exact grown_add h.bytesReceived h'.bytesReceived
  packetsDiscarded := by
    obtain ⟨discarded, hsublist, hgrown⟩ := h.packetsDiscarded
    obtain ⟨discarded', hsublist', hgrown'⟩ := h'.packetsDiscarded
    refine ⟨discarded ++ discarded', hsublist.append hsublist', ?_⟩
    rw [List.length_append]
    exact grown_add hgrown hgrown'

theorem countSent (s : Statistics) (p : Packet) :
    s.Counts [p] [] (s.countSent p.kind p.payload.length) where
  packetsSent := rfl
  bytesSent := by simp [Statistics.countSent]
  resetsSent := by
    rw [List.countP_singleton, Statistics.countSent]
    by_cases hreset : p.kind = .reset <;> simp [hreset]
  packetsReceived := grown_zero _
  bytesReceived := grown_zero _
  packetsDiscarded := ⟨[], .slnil, grown_zero _⟩

theorem countReceived (s : Statistics) (f : Frame) :
    s.Counts [] [f] (s.countReceived f.payload.length) where
  packetsSent := grown_zero _
  bytesSent := grown_zero _
  resetsSent := grown_zero _
  packetsReceived := rfl
  bytesReceived := by simp [Statistics.countReceived]
  packetsDiscarded := ⟨[], List.nil_sublist [f], grown_zero _⟩

/-- A frame that was counted as it arrived may be discarded. -/
theorem countDiscarded (s : Statistics) (f : Frame) :
    s.Counts [] [f] (s.countReceived f.payload.length).countDiscarded :=
  { countReceived s f with packetsDiscarded := ⟨[f], List.Sublist.refl [f], rfl⟩ }

end Counts

end Statistics

namespace Ring

/-- The packets are appended one after the other. -/
inductive Appends : Ring → List Packet → Ring → Prop
  | refl (r : Ring) : Appends r [] r
  | tail {r r' r'' : Ring} {packets : List Packet} {p : Packet} : Appends r packets r' →
      r'.appendPacket p = .ok r'' → Appends r (packets ++ [p]) r''

theorem Appends.trans {r r' r'' : Ring} {packets packets' : List Packet}
    (h : Appends r packets r') (h' : Appends r' packets' r'') :
    Appends r (packets ++ packets') r'' := by
  induction h' with
  | refl => simpa using h
  | tail _ hlast ih =>
      rw [← List.append_assoc]
      exact .tail ih hlast

theorem Appends.eq_of_nil {r r' : Ring} (h : r.Appends [] r') : r' = r := by
  generalize hnone : [] = packets at h
  cases h with
  | refl => rfl
  | tail => simp at hnone

theorem Appends.eq_ok_of_singleton {r r' : Ring} {p : Packet} (h : r.Appends [p] r') :
    r.appendPacket p = .ok r' := by
  generalize hone : [p] = packets at h
  cases h with
  | refl => contradiction
  | @tail r₁ _ packets p' hfirst hlast =>
      have hsplit : [] ++ [p] = packets ++ [p'] := hone
      obtain ⟨rfl, hp⟩ := List.append_inj' hsplit rfl
      obtain rfl := List.singleton_inj.mp hp
      rwa [hfirst.eq_of_nil] at hlast

/-- The bounds that a packet kept when it was appended. -/
theorem le_of_append_eq_ok {r r' : Ring} {kind : PacketKind} {stream : UInt8} {payload : Bytes}
    (h : r.append kind stream payload = .ok r') :
    payload.length ≤ maxPayload ∧ r.roomFor payload.length = true := by
  unfold append at h
  split at h
  · contradiction
  next hlength =>
    split at h
    · contradiction
    next hroom => exact ⟨Nat.le_of_not_gt hlength, by simpa using hroom⟩

theorem Appends.holds {r r' : Ring} {packets held : List Packet} (h : Appends r packets r')
    (hheld : r.Holds held) : r'.Holds (held ++ packets) := by
  induction h with
  | refl => simpa using hheld
  | tail _ hlast ih =>
      obtain ⟨_, happend, hholds⟩ := ih.append _ (le_of_append_eq_ok hlast).2
      obtain rfl := Except.ok.inj (hlast.symm.trans happend)
      rwa [← List.append_assoc]

end Ring

namespace Multiplexer

/-- The one state comes from the other by appending packets to the outbound ring, and the history
tells of them. -/
def Ships (m m' : Multiplexer) : Prop :=
  ∃ packets, m.outbound.Appends packets m'.outbound ∧
    sentIn m'.history = (packets.map Packet.parcel).reverse ++ sentIn m.history

namespace Ships

variable {m m' m'' : Multiplexer}

theorem of_same (houtbound : m'.outbound = m.outbound)
    (hsent : sentIn m'.history = sentIn m.history) : Ships m m' :=
  ⟨[], houtbound ▸ .refl _, hsent⟩

theorem refl (m : Multiplexer) : Ships m m :=
  of_same rfl rfl

theorem trans (h : Ships m m') (h' : Ships m' m'') : Ships m m'' := by
  obtain ⟨packets, happends, hsent⟩ := h
  obtain ⟨packets', happends', hsent'⟩ := h'
  refine ⟨packets ++ packets', happends.trans happends', ?_⟩
  rw [hsent', hsent, List.map_append, List.reverse_append, List.append_assoc]

end Ships

/-- What was sent since is what was appended. -/
theorem Ships.exists_packets {m m' : Multiplexer} (h : Ships m m') {events : List Event}
    (hhistory : m'.history = events.reverse ++ m.history) :
    ∃ packets, m.outbound.Appends packets m'.outbound ∧
      packets.map Packet.parcel = sentIn events := by
  obtain ⟨packets, happends, hsent⟩ := h
  refine ⟨packets, happends, ?_⟩
  rw [hhistory, sentIn_append, sentIn_reverse] at hsent
  exact (List.reverse_injective (List.append_cancel_right hsent)).symm

/-- The one state comes from the other by appending these packets to the outbound ring while these
frames arrive: the history tells of each, and the totals count each. -/
structure Conveys (m : Multiplexer) (packets : List Packet) (frames : List Frame)
    (m' : Multiplexer) : Prop where
  outbound : m.outbound.Appends packets m'.outbound
  sent : sentIn m'.history = (packets.map Packet.parcel).reverse ++ sentIn m.history
  received : receivedIn m'.history = frames.reverse ++ receivedIn m.history
  statistics : m.statistics.Counts packets frames m'.statistics

/-- The one state comes from the other by sending, while no frame arrives. -/
def Sends (m m' : Multiplexer) : Prop :=
  ∃ packets, m.Conveys packets [] m'

section

variable {m m' m'' : Multiplexer} {packets packets' : List Packet} {frames frames' : List Frame}

namespace Conveys

theorem ships (h : m.Conveys packets frames m') : Ships m m' :=
  ⟨packets, h.outbound, h.sent⟩

theorem trans (h : m.Conveys packets frames m') (h' : m'.Conveys packets' frames' m'') :
    m.Conveys (packets ++ packets') (frames ++ frames') m'' where
  outbound := h.outbound.trans h'.outbound
  sent := by
    rw [h'.sent, h.sent, List.map_append, List.reverse_append, List.append_assoc]
  received := by rw [h'.received, h.received, List.reverse_append, List.append_assoc]
  statistics := h.statistics.trans h'.statistics

/-- Nothing is sent and nothing arrives. -/
theorem of_same (houtbound : m'.outbound = m.outbound)
    (hsent : sentIn m'.history = sentIn m.history)
    (hreceived : receivedIn m'.history = receivedIn m.history)
    (hstatistics : m'.statistics =
      { m.statistics with protocolViolations := m'.statistics.protocolViolations }) :
    m.Conveys [] [] m' :=
  ⟨houtbound ▸ .refl _, hsent, hreceived, .of_same hstatistics⟩

end Conveys

namespace Sends

theorem ships (h : Sends m m') : Ships m m' := by
  obtain ⟨_, hconveys⟩ := h
  exact hconveys.ships

theorem of_same (houtbound : m'.outbound = m.outbound)
    (hsent : sentIn m'.history = sentIn m.history)
    (hreceived : receivedIn m'.history = receivedIn m.history)
    (hstatistics : m'.statistics =
      { m.statistics with protocolViolations := m'.statistics.protocolViolations }) :
    Sends m m' :=
  ⟨[], .of_same houtbound hsent hreceived hstatistics⟩

theorem refl (m : Multiplexer) : Sends m m :=
  of_same rfl rfl rfl rfl

theorem trans (h : Sends m m') (h' : Sends m' m'') : Sends m m'' := by
  obtain ⟨packets, hfirst⟩ := h
  obtain ⟨packets', hlast⟩ := h'
  exact ⟨packets ++ packets', hfirst.trans hlast⟩

/-- A frame has arrived, and then something is sent. -/
theorem after (h' : Sends m' m'') (h : m.Conveys [] frames m') :
    ∃ packets, m.Conveys packets frames m'' := by
  obtain ⟨packets, hlast⟩ := h'
  exact ⟨packets, by simpa using h.trans hlast⟩

end Sends

end

variable (m : Multiplexer)

/-! ### The steps -/

theorem sends_withdraw (stream : UInt8) : Sends m (m.withdraw stream) := by
  unfold withdraw
  split
  · exact .refl m
  · split
    · exact .of_same rfl rfl rfl rfl
    · exact .refl m

theorem sends_failAll (rs : List Request) : Sends m (m.failAll rs) := by
  induction rs generalizing m with
  | nil => exact .refl m
  | cons r rs ih =>
      have hanswer : Sends m (m.answer r r.failure) := .of_same rfl rfl rfl rfl
      exact hanswer.trans (ih _)

theorem sends_retire (stream : UInt8) : Sends m (m.retire stream) := by
  unfold retire
  split
  · exact .of_same rfl rfl rfl rfl
  · exact .refl m

theorem sends_enqueue (stream : UInt8) (n : Nat) : Sends m (m.enqueue stream n) := by
  unfold enqueue
  dsimp only
  split
  · exact .of_same rfl rfl rfl rfl
  · exact .of_same rfl rfl rfl rfl

theorem sends_transmit (kind : PacketKind) (stream : UInt8) (payload : Bytes) :
    Sends m (m.transmit kind stream payload) := by
  unfold transmit
  split
  next ring happend =>
    have hlength := (Ring.le_of_append_eq_ok happend).1
    let p : Packet := ⟨kind, stream, payload, hlength⟩
    exact ⟨[p], .tail (.refl _) happend, rfl, rfl, .countSent m.statistics p⟩
  · exact .of_same rfl rfl rfl rfl

theorem sends_abandon (stream : UInt8) (s : Socket) : Sends m (m.abandon stream s) := by
  have hfail := (m.sends_withdraw stream).trans (sends_failAll _ s.parked)
  exact hfail.trans (.of_same rfl rfl rfl rfl)

theorem sends_close (stream : UInt8) (emitReset : Bool) : Sends m (m.close stream emitReset) := by
  cases hget : m.sockets.get? stream with
  | none =>
      rw [close, hget]
      exact .refl m
  | some s =>
      have habandon := m.sends_abandon stream s
      have haccept : Sends m ((m.abandon stream s).record (.accepted .reset stream [])) :=
        habandon.trans (.of_same rfl rfl rfl rfl)
      rw [close_eq hget]
      split
      · exact habandon.trans (sends_retire _ _)
      split
      · exact (haccept.trans (sends_transmit _ _ _ _)).trans (sends_retire _ _)
      · refine Sends.trans ?_ (sends_enqueue _ _ _)
        exact haccept.trans (.of_same rfl rfl rfl rfl)

theorem sends_closeIfExchanged (stream : UInt8) : Sends m (m.closeIfExchanged stream) := by
  unfold closeIfExchanged
  split
  · exact .refl m
  split
  · exact m.sends_close stream false
  · exact .refl m

theorem sends_markEosSent (stream : UInt8) : Sends m (m.markEosSent stream) := by
  have hflag : Sends m (m.modifyFlags stream ({ · with eosSent := true })) := .of_same rfl rfl rfl rfl
  exact hflag.trans (sends_closeIfExchanged _ stream)

theorem sends_deliverEos (stream : UInt8) (r : Request) : Sends m (m.deliverEos stream r) := by
  have hflag : Sends m ((m.answer r (.ofStatus .readEos)).modifyFlags stream
      ({ · with eosDelivered := true })) := .of_same rfl rfl rfl rfl
  exact hflag.trans (sends_closeIfExchanged _ stream)

/-! ### Arriving frames -/

theorem sends_takeConnectResponse (s : Socket) (payload : Bytes) :
    Sends m (m.takeConnectResponse s payload) := by
  unfold takeConnectResponse
  split
  · have hanswer (r : Request) (c : Completion) : Sends m
        (((m.withdraw s.stream).modify s.stream ({ · with pendingConnect := none })).answer r c) :=
      (m.sends_withdraw s.stream).trans (.of_same rfl rfl rfl rfl)
    dsimp only
    split
    · exact hanswer _ _
    · exact (hanswer _ _).trans (sends_close _ _ _)
  · exact .of_same rfl rfl rfl rfl

theorem sends_takeData (s : Socket) (payload : Bytes) : Sends m (m.takeData s payload) := by
  unfold takeData
  split
  · split
    · exact .of_same rfl rfl rfl rfl
    · exact m.sends_close _ _
  · split
    · exact m.sends_close _ _
    · exact .of_same rfl rfl rfl rfl

theorem sends_takeEos (s : Socket) : Sends m (m.takeEos s) := by
  unfold takeEos
  dsimp only
  split
  next r _ =>
    have hread : Sends m ((m.modifyFlags s.stream ({ · with eosFromPeer := true })).modify s.stream
        ({ · with pendingRead := none })) := .of_same rfl rfl rfl rfl
    exact hread.trans (sends_deliverEos _ _ r)
  · exact .of_same rfl rfl rfl rfl

/-- A frame is counted as it arrives, and once more if it is discarded. -/
theorem conveys_dispatch (f : Frame) : ∃ packets, m.Conveys packets [f] (m.dispatch f) := by
  let received :=
    { m with statistics := m.statistics.countReceived f.payload.length }.record (.received f)
  have hreceive : m.Conveys [] [f] received := ⟨.refl _, rfl, rfl, .countReceived _ f⟩
  have hdiscard : m.Conveys [] [f] received.discard := ⟨.refl _, rfl, rfl, .countDiscarded _ f⟩
  unfold dispatch
  dsimp only
  split
  · exact ⟨[], hdiscard⟩
  split
  · exact (sends_close _ _ _).after hreceive
  split
  · exact ⟨[], hdiscard⟩
  unfold takeFrame
  split
  · exact (sends_takeConnectResponse _ _ _).after hreceive
  · exact (sends_takeData _ _ _).after hreceive
  · exact (sends_takeEos _ _).after hreceive
  · exact ⟨[], hdiscard.trans (.of_same rfl rfl rfl rfl)⟩

theorem ships_receiveOne : Ships m m.receiveOne := by
  unfold receiveOne
  split
  next frame ring _ =>
    have hring : Ships m { m with inbound := ring } := .of_same rfl rfl
    obtain ⟨_, hconveys⟩ := conveys_dispatch { m with inbound := ring } frame
    exact hring.trans hconveys.ships
  · exact .of_same rfl rfl

theorem ships_drainInbound : Ships m m.drainInbound := by
  fun_induction drainInbound m with
  | case1 m => exact .refl m
  | case2 m _ ih => exact m.ships_receiveOne.trans ih

/-! ### Turns -/

theorem sends_sendWrite (stream : UInt8) (r : Request) : Sends m (m.sendWrite stream r) := by
  unfold sendWrite
  split
  · exact (m.sends_transmit _ _ _).trans (.of_same rfl rfl rfl rfl)
  · have hanswer : Sends m ((m.transmit .eos stream []).answer r (.ofStatus .ok)) :=
      (m.sends_transmit _ _ _).trans (.of_same rfl rfl rfl rfl)
    exact hanswer.trans (sends_markEosSent _ _)

theorem sends_serve (stream : UInt8) : Sends m (m.serve stream) := by
  unfold serve
  split
  · exact .of_same rfl rfl rfl rfl
  split
  · exact m.sends_transmit _ _ _
  next r _ =>
    have htake : Sends m (m.modify stream ({ · with pendingWrite := none })) := .of_same rfl rfl rfl rfl
    exact htake.trans (sends_sendWrite _ _ _)
  · exact (m.sends_transmit _ _ _).trans (sends_retire _ _)
  · exact .refl m

theorem sends_serveFront : Sends m m.serveFront := by
  unfold serveFront
  split
  · exact .refl m
  · have hpop : Sends m { m with queue := m.queue.pop } := .of_same rfl rfl rfl rfl
    exact hpop.trans (sends_serve _ _)

theorem sends_drainOutbound : Sends m m.drainOutbound := by
  fun_induction drainOutbound m with
  | case1 m _ ih => exact m.sends_serveFront.trans ih
  | case2 m _ => exact .refl m

theorem ships_serveFront : Ships m m.serveFront :=
  m.sends_serveFront.ships

theorem ships_poll : Ships m m.poll.2 := by
  rw [poll_eq_pollOnce]
  exact m.ships_drainInbound.trans (sends_drainOutbound _).ships

/-! ### Submissions -/

theorem sends_misuse (r : Request) (stream : UInt8) : Sends m (m.misuse r stream) := by
  have hanswer : Sends m (m.answer r r.failure) := .of_same rfl rfl rfl rfl
  exact hanswer.trans (sends_close _ _ _)

theorem sends_parkWrite (stream : UInt8) (r : Request) (n : Nat) :
    Sends m (m.parkWrite stream r n) := by
  have hpark : Sends m (m.modify stream ({ · with pendingWrite := some r })) := .of_same rfl rfl rfl rfl
  exact hpark.trans (sends_enqueue _ _ _)

theorem sends_submitConnect (r : Request) (service : Bytes) :
    Sends m (m.submitConnect r service) := by
  unfold submitConnect
  split
  · exact .of_same rfl rfl rfl rfl
  split
  · exact .of_same rfl rfl rfl rfl
  split
  · exact .of_same rfl rfl rfl rfl
  next stream sockets _ =>
    have hopen : Sends m (({ m with sockets }.record (.opened stream r)).record
        (.accepted .connect stream service)) := .of_same rfl rfl rfl rfl
    dsimp only
    split
    · exact (hopen.trans (sends_transmit _ _ _ _)).trans (.of_same rfl rfl rfl rfl)
    · exact (hopen.trans (sends_enqueue _ _ service.length)).trans (.of_same rfl rfl rfl rfl)

theorem sends_submitRead (r : Request) (capacity : Nat) : Sends m (m.submitRead r capacity) := by
  unfold submitRead
  split
  · exact .of_same rfl rfl rfl rfl
  split
  · exact m.sends_misuse _ _
  split
  · split
    · exact m.sends_misuse _ _
    · exact .of_same rfl rfl rfl rfl
  · split
    · exact m.sends_deliverEos _ _
    · exact .of_same rfl rfl rfl rfl

theorem sends_submitWrite (r : Request) (data : Bytes) : Sends m (m.submitWrite r data) := by
  unfold submitWrite
  split
  · exact .of_same rfl rfl rfl rfl
  next s _ =>
  split
  · exact m.sends_misuse _ _
  · have haccept : Sends m (m.record (.accepted .data s.stream data)) := .of_same rfl rfl rfl rfl
    dsimp only
    split
    · exact haccept.trans (sends_sendWrite _ _ _)
    · exact haccept.trans (sends_parkWrite _ _ _ _)

theorem sends_submitEos (r : Request) : Sends m (m.submitEos r) := by
  unfold submitEos
  split
  · exact .of_same rfl rfl rfl rfl
  next s _ =>
  split
  · exact m.sends_misuse _ _
  · have haccept : Sends m ((m.modifyFlags s.stream ({ · with eosFromCaller := true })).record
        (.accepted .eos s.stream [])) := .of_same rfl rfl rfl rfl
    dsimp only
    split
    · exact haccept.trans (sends_sendWrite _ _ _)
    · exact haccept.trans (sends_parkWrite _ _ _ _)

theorem sends_submitReset (r : Request) : Sends m (m.submitReset r) := by
  have hanswer : Sends m (m.answer r (.ofStatus .resetOk)) := .of_same rfl rfl rfl rfl
  unfold submitReset
  dsimp only
  split
  · exact hanswer
  · exact hanswer.trans (sends_close _ _ _)

theorem sends_submit (r : Request) : Sends m (m.submit r) := by
  have hrecord : Sends m (m.record (.submitted r)) := .of_same rfl rfl rfl rfl
  unfold submit
  dsimp only
  refine hrecord.trans ?_
  split
  · exact sends_submitConnect _ _ _
  · exact sends_submitRead _ _ _
  · exact sends_submitWrite _ _ _
  · exact sends_submitEos _ _
  · exact sends_submitReset _ _

theorem ships_submit (r : Request) : Ships m (m.submit r) :=
  (m.sends_submit r).ships

theorem ships_close (stream : UInt8) (emitReset : Bool) : Ships m (m.close stream emitReset) :=
  (m.sends_close stream emitReset).ships

end Multiplexer

end StreamLink
