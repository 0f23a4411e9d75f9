import StreamLink.Proofs.Isolation
import StreamLink.Proofs.SecondTurn

/-!
# Bounded progress

Nobody waits for ever at the head of the send queue. If the peer only takes what is in its ring and
the host polls, over and over, the queue gets shorter with every round: every length in it fits an
empty ring, and serving a turn adds none. After as many rounds as there were turns nobody waits any
more, and what the sockets waited to send has been sent.

As long as no stream gets a second turn, each stream is served once at most. So a stream is as it
was at first, or it has no turn any more and its socket's work is done.

Main statement: `queue_drains`.
-/

namespace StreamLink

theorem Ring.roomFor_of_isEmpty {r : Ring} (h : r.isEmpty = true) {n : Nat} (hn : n ≤ maxPayload) :
    r.roomFor n = true := by
  have hfits : headerSize + n ≤ maxOccupancy := by
    rw [maxPayload_eq] at hn
    exact (Nat.le_sub_iff_add_le' (by decide)).mp hn
  simpa [roomFor, isEmpty_iff.mp h] using hfits

/-- Whether the work of a socket with these turns is done: its connect was sent, its write or end of
stream was answered with success, and if it was closed its Reset was sent and it is gone. -/
structure Discharged (stream : UInt8) (s : Socket) (turns : List Nat) (events : List Event)
    (s?' : Option Socket) : Prop where
  connect : turns ≠ [] → ∀ r ∈ s.pendingConnect, .sent .connect stream r.command.payload ∈ events
  write : ∀ r ∈ s.pendingWrite, ∃ c, .answered r c ∈ events ∧ c.status = .ok
  reset : s.flags.closed = true →
    [.sent .reset stream [], .retired stream].Sublist events ∧ s?' = none

namespace Discharged

variable {stream : UInt8} {s : Socket} {turns : List Nat} {events : List Event}
  {s?' : Option Socket}

/-- What was done is done. -/
theorem mono (h : Discharged stream s turns events s?') {events' : List Event}
    (hsub : events.Sublist events') : Discharged stream s turns events' s?' where
  connect := fun hturns r hr => hsub.subset (h.connect hturns r hr)
  write := by
    intro r hr
    obtain ⟨c, hc, hok⟩ := h.write r hr
    exact ⟨c, hsub.subset hc, hok⟩
  reset := fun hclosed => ⟨(h.reset hclosed).1.trans hsub, (h.reset hclosed).2⟩

/-- A socket without a turn has nothing to do. -/
theorem of_agrees (h : Agrees (some s) []) : Discharged stream s [] events s?' where
  connect := fun hturns => absurd rfl hturns
  write := by
    intro r hr
    by_cases hwrite : ∃ data, r.command = .write data
    · obtain ⟨data, hdata⟩ := hwrite
      obtain ⟨-, -, hturns, -⟩ := h.of_write hr hdata
      contradiction
    · obtain ⟨-, -, -, hturns, -⟩ := h.of_end hr (not_exists.mp hwrite)
      contradiction
  reset := by
    intro hclosed
    obtain ⟨-, -, -, hturns⟩ := h.of_closed hclosed
    contradiction

variable {r : Request}

theorem of_connect (h : Agrees (some s) turns) (hconnect : s.pendingConnect = some r)
    (hsent : .sent .connect stream r.command.payload ∈ events) :
    Discharged stream s turns events s?' where
  connect := by
    intro _ r' hr'
    rwa [← Option.some.inj (hconnect.symm.trans hr')]
  write := by
    obtain ⟨-, hwrite, -⟩ := h.of_connect hconnect
    simp [hwrite]
  reset := by
    intro hclosed
    rw [(h.of_closed hclosed).2.1] at hconnect
    contradiction

theorem of_write (h : Agrees (some s) turns) (hconnect : s.pendingConnect = none)
    (hwrite : s.pendingWrite = some r) {c : Completion} (hanswered : .answered r c ∈ events)
    (hok : c.status = .ok) : Discharged stream s turns events s?' where
  connect := by simp [hconnect]
  write := by
    intro r' hr'
    rw [← Option.some.inj (hwrite.symm.trans hr')]
    exact ⟨c, hanswered, hok⟩
  reset := by
    intro hclosed
    rw [(h.of_closed hclosed).2.2.1] at hwrite
    contradiction

theorem of_reset (hconnect : s.pendingConnect = none) (hwrite : s.pendingWrite = none) :
    Discharged stream s turns [.sent .reset stream [], .retired stream] none where
  connect := by simp [hconnect]
  write := by simp [hwrite]
  reset := fun _ => ⟨.refl _, rfl⟩

theorem of_idle (h : Agrees (some s) turns) (hconnect : s.pendingConnect = none)
    (hwrite : s.pendingWrite = none) (howes : s.flags.owesReset = false) :
    Discharged stream s turns events s?' where
  connect := by simp [hconnect]
  write := by simp [hwrite]
  reset := by
    intro hclosed
    rw [(h.of_closed hclosed).1] at howes
    contradiction

end Discharged

namespace Multiplexer

variable {m m' : Multiplexer} {stream : UInt8} {s : Socket} {n : Nat}

/-! ### One turn -/

/-- A turn that is served adds none. -/
theorem turns_closeIfExchanged (h : m.queue.turns stream = []) :
    (m.closeIfExchanged stream).queue.turns stream = [] := by
  unfold closeIfExchanged
  split
  · exact h
  next s hget =>
  split
  · rw [close_eq hget, if_pos rfl, queue_retire, queue_abandon, SendQueue.turns_remove, h]
    rfl
  · exact h

theorem turns_serve (h : m.queue.turns stream = []) : (m.serve stream).queue.turns stream = [] := by
  unfold serve
  split
  · exact h
  split
  · rwa [queue_transmit]
  · unfold sendWrite
    split
    · rwa [queue_answer, queue_transmit]
    · apply turns_closeIfExchanged
      rwa [queue_modifyFlags, queue_answer, queue_transmit]
  · rwa [queue_retire, queue_transmit]
  · exact h

theorem chronicle_isPrefix_closeIfExchanged (h : m.sockets.Distinct) (stream : UInt8) :
    m.chronicle <+: (m.closeIfExchanged stream).chronicle :=
  (conducts_closeIfExchanged h stream).proceeds.leads.chronicle_isPrefix

/-- A write or an end of stream whose turn has come is sent and answered with success. -/
theorem exists_answered_sendWrite (h : m.sockets.Distinct) (stream : UInt8) {r : Request}
    (hroom : ∀ data, r.command = .write data → m.outbound.roomFor data.length = true)
    (hempty : m.outbound.roomFor 0 = true) :
    ∃ events, (m.sendWrite stream r).chronicle = m.chronicle ++ events ∧
      ∃ c, .answered r c ∈ events ∧ c.status = .ok := by
  unfold sendWrite
  split
  next data hr =>
    refine ⟨[.sent .data stream data, .answered r (.written data.length)], ?_,
      .written data.length, ?_, rfl⟩
    · rw [chronicle, history_answer, history_transmit _ (hroom data hr)]
      simp [chronicle]
    · simp
  next =>
    have hdistinct : (((m.transmit .eos stream []).answer r (.ofStatus .ok)).modifyFlags stream
        ({ · with eosSent := true })).sockets.Distinct := by
      rw [sockets_modifyFlags, sockets_answer, sockets_transmit]
      exact h.modify (fun _ _ _ => rfl) fun _ _ _ => rfl
    obtain ⟨later, hlater⟩ := chronicle_isPrefix_closeIfExchanged hdistinct stream
    refine ⟨[.sent .eos stream [], .answered r (.ofStatus .ok)] ++ later, ?_,
      .ofStatus .ok, ?_, rfl⟩
    · rw [markEosSent, ← hlater, chronicle, history_modifyFlags, history_answer,
        history_transmit _ hempty]
      simp [chronicle]
    · simp

/-- A stream that is served does what it waited for. -/
theorem exists_discharged_serve (h : m.sockets.Distinct) (hget : m.sockets.get? stream = some s)
    (hagrees : Agrees (some s) [n]) (hroom : m.outbound.roomFor n = true) :
    ∃ events, (m.serve stream).chronicle = m.chronicle ++ events ∧
      Discharged stream s [n] events ((m.serve stream).sockets.get? stream) := by
  have hempty : m.outbound.roomFor 0 = true := Ring.roomFor_mono hroom (Nat.zero_le n)
  unfold serve
  rw [hget]
  dsimp only
  rcases s.work_cases with ⟨r, hconnect, hwork⟩ | ⟨hconnect, hrest⟩
  · rw [hwork]
    obtain ⟨-, -, service, hr, -, hturns⟩ := hagrees.of_connect hconnect
    obtain rfl : n = service.length := by simpa using hturns
    have hroom : m.outbound.roomFor r.command.payload.length = true := by rwa [hr]
    refine ⟨[.sent .connect stream r.command.payload], ?_,
      .of_connect hagrees hconnect List.mem_cons_self⟩
    rw [chronicle, history_transmit _ hroom]
    simp [chronicle]
  rcases hrest with ⟨r, hwrite, hwork⟩ | ⟨hwrite, ⟨howes, hwork⟩ | ⟨howes, hwork⟩⟩
  · rw [hwork]
    have hdistinct : (m.modify stream ({ · with pendingWrite := none })).sockets.Distinct :=
      h.modify (fun _ _ _ => rfl) fun _ _ _ => rfl
    have hfits : ∀ data, r.command = .write data → m.outbound.roomFor data.length = true := by
      intro data hr
      obtain ⟨-, -, hturns, -⟩ := hagrees.of_write hwrite hr
      obtain rfl : n = data.length := by simpa using hturns
      exact hroom
    obtain ⟨events, hevents, c, hc, hok⟩ :=
      exists_answered_sendWrite hdistinct stream hfits hempty
    exact ⟨events, hevents, .of_write hagrees hconnect hwrite hc hok⟩
  · rw [hwork]
    have hcontains : (m.transmit .reset stream []).sockets.contains stream = true := by
      rw [sockets_transmit]
      exact SocketTable.contains_of_get? hget
    refine ⟨[.sent .reset stream [], .retired stream], ?_, ?_⟩
    · rw [chronicle, history_retire _ hcontains, history_transmit _ hempty]
      simp [chronicle]
    · rw [sockets_retire, SocketTable.get?_erase]
      exact .of_reset hconnect hwrite
  · -- An answered connect left the turn behind.
    rw [hwork]
    exact ⟨[], (List.append_nil _).symm, .of_idle hagrees hconnect hwrite howes⟩

theorem exists_front_of_canServe (h : m.canServe = true) :
    ∃ e, m.queue.front? = some e ∧ m.outbound.roomFor e.length = true := by
  unfold canServe at h
  split at h
  · contradiction
  next e hfront => exact ⟨e, hfront, h⟩

variable {e : SendQueue.Entry}

/-- The stream whose turn is the oldest has no other. -/
theorem Agreeing.turns_front (h : m.Agreeing) (hfront : m.queue.front? = some e) :
    m.queue.turns e.stream = [e.length] ∧ m.queue.pop.turns e.stream = [] := by
  have hentries : m.queue.entries = e :: m.queue.pop.entries := (List.cons_head?_tail hfront).symm
  have hturns : m.queue.turns e.stream = e.length :: m.queue.pop.turns e.stream := by
    simp [SendQueue.turns, hentries]
  have hlast := (h.streams e.stream).tail_eq_nil
  rw [hturns, List.tail_cons] at hlast
  rw [hturns, hlast]
  exact ⟨rfl, rfl⟩

/-- When the oldest turn is served, its stream has none any more and its socket's work is done. -/
theorem Agreeing.exists_discharged_serveFront (h : m.Agreeing) (hfront : m.queue.front? = some e)
    (hroom : m.outbound.roomFor e.length = true) :
    m.serveFront.queue.turns e.stream = [] ∧
      ∃ events, m.serveFront.chronicle = m.chronicle ++ events ∧
        ∀ s ∈ m.sockets.get? e.stream,
          Discharged e.stream s [e.length] events (m.serveFront.sockets.get? e.stream) := by
  obtain ⟨hturns, hlast⟩ := h.turns_front hfront
  have hagrees := h.streams e.stream
  have hserved : m.serveFront = { m with queue := m.queue.pop }.serve e.stream := by
    rw [serveFront, hfront]
  rw [hserved]
  refine ⟨turns_serve hlast, ?_⟩
  cases hget : m.sockets.get? e.stream with
  | none =>
      rw [hget, hturns] at hagrees
      contradiction
  | some s =>
      rw [hget, hturns] at hagrees
      obtain ⟨events, hevents, hdischarged⟩ :=
        exists_discharged_serve (m := { m with queue := m.queue.pop }) h.distinct hget hagrees hroom
      refine ⟨events, hevents, ?_⟩
      rintro _ ⟨⟩
      exact hdischarged

/-! ### All turns -/

/-- How far the turns have been served since some moment: each stream is as it was, or it has no
turn any more and its socket's work is done. -/
structure Advances (m₀ : Multiplexer) (events : List Event) (m : Multiplexer) : Prop where
  agreeing : m.Agreeing
  single : ∀ other, .doubled other ∉ m.chronicle
  quiet : m.inbound.isEmpty = true
  chronicle : m.chronicle = m₀.chronicle ++ events
  streams : ∀ stream,
    m.sockets.get? stream = m₀.sockets.get? stream ∧
        m.queue.turns stream = m₀.queue.turns stream ∨
      m.queue.turns stream = [] ∧ ∀ s ∈ m₀.sockets.get? stream,
        Discharged stream s (m₀.queue.turns stream) events (m.sockets.get? stream)

namespace Advances

variable {m₀ : Multiplexer} {events : List Event}

theorem refl (hagreeing : m.Agreeing) (hsingle : ∀ other, .doubled other ∉ m.chronicle)
    (hquiet : m.inbound.isEmpty = true) : Advances m [] m where
  agreeing := hagreeing
  single := hsingle
  quiet := hquiet
  chronicle := (List.append_nil _).symm
  streams := fun _ => .inl ⟨rfl, rfl⟩

/-- What happens to the outbound ring and the totals does not matter. -/
theorem congr (h : Advances m₀ events m) (hsockets : m'.sockets = m.sockets)
    (hqueue : m'.queue = m.queue) (hhistory : m'.history = m.history)
    (hinbound : m'.inbound = m.inbound) : Advances m₀ events m' := by
  have hchronicle : m'.chronicle = m.chronicle := congrArg List.reverse hhistory
  refine ⟨⟨?_, ?_, ?_⟩, ?_, ?_, ?_, ?_⟩
  · rw [hsockets]
    exact h.agreeing.distinct
  · rw [hsockets, hqueue]
    exact h.agreeing.streams
  · rw [hchronicle]
    exact h.agreeing.sound
  · rw [hchronicle]
    exact h.single
  · rw [hinbound]
    exact h.quiet
  · rw [hchronicle]
    exact h.chronicle
  · rw [hsockets, hqueue]
    exact h.streams

/-- One turn is served. -/
theorem serveFront (h : Advances m₀ events m) (hserve : m.canServe = true) :
    ∃ events', Advances m₀ events' m.serveFront := by
  obtain ⟨e, hfront, hroom⟩ := exists_front_of_canServe hserve
  have hagreeing := h.agreeing
  have hleads : Leads m [] m.serveFront :=
    (conducts_serveFront hagreeing.distinct hserve).proceeds.leads
  have hsingle := hagreeing.single_of_quiet h.single hleads rfl
  obtain ⟨hdone, later, hlater, hdischarged⟩ := hagreeing.exists_discharged_serveFront hfront hroom
  have hchronicle : m.serveFront.chronicle = m₀.chronicle ++ (events ++ later) := by
    rw [hlater, h.chronicle, List.append_assoc]
  refine ⟨events ++ later, hagreeing.leads hleads hsingle, hsingle, ?_, hchronicle, ?_⟩
  · rw [inbound_serveFront]
    exact h.quiet
  intro stream
  by_cases hstream : stream = e.stream
  · -- The stream that is served had a turn, so that nothing had happened to it before.
    subst hstream
    have hturns := (hagreeing.turns_front hfront).1
    obtain ⟨hget, hbefore⟩ : m.sockets.get? e.stream = m₀.sockets.get? e.stream ∧
        m.queue.turns e.stream = m₀.queue.turns e.stream := by
      apply (h.streams e.stream).resolve_right
      rintro ⟨hnone, -⟩
      rw [hturns] at hnone
      contradiction
    rw [← hget, ← hbefore, hturns]
    exact .inr ⟨hdone, fun s hs => (hdischarged s hs).mono (List.sublist_append_right ..)⟩
  · have hconfined : Confined [e.stream] m m.serveFront := by
      apply confined_serveFront
      rw [hfront]
      rintro _ ⟨⟩
      exact List.mem_cons_self
    have hother : stream ∉ [e.stream] := by simpa using hstream
    rw [hconfined.get?_eq hother, hconfined.turns_eq hother]
    refine (h.streams stream).imp_right ?_
    rintro ⟨hnone, hearlier⟩
    exact ⟨hnone, fun s hs => (hearlier s hs).mono (List.sublist_append_left ..)⟩

theorem drainOutbound (h : Advances m₀ events m) :
    ∃ events', Advances m₀ events' m.drainOutbound := by
  fun_induction Multiplexer.drainOutbound m generalizing events with
  | case1 m hserve ih =>
      obtain ⟨_, hfirst⟩ := h.serveFront hserve
      exact ih hfirst
  | case2 m _ => exact ⟨events, h⟩

end Advances

/-! ### Rounds -/

/-- One round: the peer takes everything that is in its ring, and the host polls. -/
def round (m : Multiplexer) : Multiplexer :=
  (m.apply (.release m.outbound.occupied)).apply .poll

/-- So many rounds. -/
def rounds : Nat → Multiplexer → Multiplexer
  | 0, m => m
  | n + 1, m => rounds n m.round

/-- If nothing has arrived, polling only serves turns. -/
theorem poll_eq_drainOutbound (h : m.inbound.isEmpty = true) : m.poll.2 = m.drainOutbound := by
  rw [poll_eq_pollOnce, pollOnce, drainInbound_of_isEmpty h]

theorem length_queue_drainOutbound_le (m : Multiplexer) :
    m.drainOutbound.queue.length ≤ m.queue.length := by
  have hbacklog := m.backlog_drainOutbound_le
  simpa [backlog] using hbacklog

namespace Advances

variable {m₀ : Multiplexer} {events : List Event}

/-- What the peer leaves behind when it has taken everything: the oldest turn fits. -/
theorem canServe (h : Advances m₀ events m) (hempty : m.outbound.isEmpty = true)
    (hwaits : m.queue.isEmpty = false) : m.canServe = true := by
  unfold Multiplexer.canServe
  split
  next hfront =>
    have hentries : m.queue.entries = [] := List.head?_eq_none_iff.mp hfront
    rw [SendQueue.isEmpty_iff.mpr hentries] at hwaits
    contradiction
  next e hfront =>
    have hturn : e.length ∈ m.queue.turns e.stream :=
      SendQueue.mem_turns_iff.mpr (List.mem_of_mem_head? hfront)
    exact Ring.roomFor_of_isEmpty hempty
      ((h.agreeing.streams e.stream).le_maxPayload e.length hturn)

/-- In a round at least one turn is served, if anybody waits. -/
theorem round (h : Advances m₀ events m) :
    ∃ events', Advances m₀ events' m.round ∧ m.round.queue.length ≤ m.queue.length - 1 := by
  let released := m.apply (.release m.outbound.occupied)
  have hreleased : Advances m₀ events released := h.congr rfl rfl rfl rfl
  have hempty : released.outbound.isEmpty = true :=
    Ring.isEmpty_iff.mpr (Ring.occupied_discardAll m.outbound)
  have hround : m.round = released.drainOutbound := poll_eq_drainOutbound hreleased.quiet
  obtain ⟨events', hadvances⟩ := hreleased.drainOutbound
  rw [hround]
  refine ⟨events', hadvances, ?_⟩
  cases hwaits : m.queue.isEmpty with
  | true =>
      have hentries : released.queue.entries = [] := SendQueue.isEmpty_iff.mp hwaits
      have hlength : released.queue.length = 0 := by
        rw [SendQueue.length, hentries, List.length_nil]
      have hle := released.length_queue_drainOutbound_le
      omega
  | false =>
      have hserve := hreleased.canServe hempty hwaits
      have hlt : released.serveFront.queue.length < m.queue.length :=
        length_queue_serveFront_lt released hserve
      have hle := released.serveFront.length_queue_drainOutbound_le
      rw [Multiplexer.drainOutbound, if_pos hserve]
      omega

theorem rounds (h : Advances m₀ events m) (k : Nat) :
    ∃ events', Advances m₀ events' (rounds k m) ∧
      (Multiplexer.rounds k m).queue.length ≤ m.queue.length - k := by
  induction k generalizing m events with
  | zero => exact ⟨events, h, Nat.le_refl _⟩
  | succ k ih =>
      obtain ⟨_, hfirst, hlength⟩ := h.round
      obtain ⟨events', hrest, hlength'⟩ := ih hfirst
      refine ⟨events', hrest, ?_⟩
      rw [Multiplexer.rounds]
      omega

end Advances

/-- If no stream ever got a second turn and nothing has arrived, then after as many rounds as there
are turns nobody waits any more. Every connect that had a turn was sent, every write and end of
stream that waited was answered with success, and every closed socket is gone after its Reset was
sent. -/
theorem queue_drains (config : Config) (operations : List Operation)
    (hsingle : ∀ other, .doubled other ∉ (run config operations).chronicle)
    (hquiet : (run config operations).inbound.isEmpty = true) {k : Nat}
    (hk : (run config operations).queue.length ≤ k) :
    let m := run config operations
    (rounds k m).queue.isEmpty = true ∧
      ∃ events, (rounds k m).chronicle = m.chronicle ++ events ∧
        ∀ stream, ∀ s ∈ m.sockets.get? stream,
          Discharged stream s (m.queue.turns stream) events ((rounds k m).sockets.get? stream) := by
  intro m
  have hagreeing : m.Agreeing := agreeing_run hsingle
  obtain ⟨events, hadvances, hlength⟩ := (Advances.refl hagreeing hsingle hquiet).rounds k
  have hdone : (rounds k m).queue.entries = [] := by
    apply List.length_eq_zero_iff.mp
    have hnone : m.queue.length - k = 0 := Nat.sub_eq_zero_of_le hk
    rw [hnone] at hlength
    exact Nat.le_zero.mp hlength
  refine ⟨SendQueue.isEmpty_iff.mpr hdone, events, hadvances.chronicle, ?_⟩
  intro stream s hs
  rcases hadvances.streams stream with ⟨-, hturns⟩ | ⟨-, hdischarged⟩
  · have hnone : m.queue.turns stream = [] := by
      rw [← hturns, SendQueue.turns, hdone]
      rfl
    have hagrees := hagreeing.streams stream
    rw [hs, hnone] at hagrees
    rw [hnone]
    exact .of_agrees hagrees
  · exact hdischarged s hs

/-- Two connects fill the ring and are accepted. A third connect, a write on the first stream and
the Reset of the second have to wait. -/
theorem queue_drains_of_full_ring :
    let connect : Request := ⟨2, ⟨1, 3⟩, .connect [101]⟩
    let write : Request := ⟨3, ⟨1, 1⟩, .write [9]⟩
    let m := run {} [.submit ⟨0, ⟨1, 1⟩, .connect (List.replicate 100 7)⟩,
      .submit ⟨1, ⟨1, 2⟩, .connect (List.replicate 149 7)⟩,
      .publish [1, 2, 1, 0, 1, 2, 3, 0], .poll, .submit connect, .submit write,
      .submit ⟨4, ⟨1, 2⟩, .reset⟩]
    m.queue.entries = [⟨5, 1⟩, ⟨1, 1⟩, ⟨3, 0⟩] ∧ (rounds 3 m).queue.isEmpty = true ∧
      ∃ events, (rounds 3 m).chronicle = m.chronicle ++ events ∧
        .sent .connect 5 [101] ∈ events ∧ (∃ c, .answered write c ∈ events ∧ c.status = .ok) ∧
        [.sent .reset 3 [], .retired 3].Sublist events ∧ (rounds 3 m).sockets.get? 3 = none := by
  intro connect write m
  obtain ⟨hempty, events, hevents, hdischarged⟩ := queue_drains {}
    [.submit ⟨0, ⟨1, 1⟩, .connect (List.replicate 100 7)⟩,
      .submit ⟨1, ⟨1, 2⟩, .connect (List.replicate 149 7)⟩,
      .publish [1, 2, 1, 0, 1, 2, 3, 0], .poll, .submit connect, .submit write,
      .submit ⟨4, ⟨1, 2⟩, .reset⟩]
    (doubled_not_mem (by decide +kernel)) (by decide +kernel) (k := 3) (by decide +kernel)
  have hfirst := hdischarged 1 { stream := 1, address := ⟨1, 1⟩, pendingWrite := some write }
    (by decide +kernel)
  have hsecond := hdischarged 3
    { stream := 3, address := ⟨1, 2⟩, flags := { closed := true, owesReset := true } }
    (by decide +kernel)
  have hthird := hdischarged 5 (.opening 5 connect) (by decide +kernel)
  exact ⟨by decide +kernel, hempty, events, hevents,
    hthird.connect (by decide +kernel) connect rfl, hfirst.write write rfl, hsecond.reset rfl⟩

end Multiplexer

end StreamLink
