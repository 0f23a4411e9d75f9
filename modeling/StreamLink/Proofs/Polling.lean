import StreamLink.Proofs.Intake

/-!
# Polling comes to rest

What arrives may make work for sending: a socket is closed and its Reset has to wait, or the oldest
turn is taken away and the next one fits. Sending makes no work for taking in. So one round does
whatever can be done, and whether it did anything is known before: it does if and only if the host
could not have gone to sleep. As long as no stream has two turns, none gets a second one.

Main statement: `polls_to_rest`.
-/

namespace StreamLink

namespace SendQueue

variable {q : SendQueue} {stream : UInt8}

/-- Whether no stream has two turns. -/
def Single (q : SendQueue) : Prop :=
  (q.entries.map (·.stream)).Nodup

instance (q : SendQueue) : Decidable q.Single :=
  inferInstanceAs (Decidable (List.Nodup _))

theorem Single.pop (h : q.Single) : q.pop.Single :=
  List.Nodup.sublist (q.entries.tail_sublist.map _) h

theorem Single.remove (h : q.Single) (stream : UInt8) : (q.remove stream).Single :=
  List.Nodup.sublist (List.eraseP_sublist.map _) h

/-- The one turn that a stream has can be taken away. -/
theorem Single.contains_remove (h : q.Single) (stream : UInt8) :
    (q.remove stream).contains stream = false := by
  have hlength : (q.turns stream).length ≤ 1 := nodup_iff_length_turns.mp h stream
  have hturns : (q.remove stream).turns stream = [] := by
    apply List.length_eq_zero_iff.mp
    rw [turns_remove, List.length_tail]
    omega
  rw [contains_eq, hturns]
  rfl

theorem Single.enqueue (h : q.Single) (hnew : q.contains stream = false) (n : Nat) :
    (q.enqueue stream n).Single := by
  have hne : ∀ e ∈ q.entries, e.stream ≠ stream := by simpa [contains] using hnew
  simpa [Single, SendQueue.enqueue, List.nodup_append] using ⟨h, hne⟩

end SendQueue

namespace Multiplexer

variable {m m' : Multiplexer}

/-! ### The loops as they run -/

/-- Serves turns until the oldest does not fit, and tells whether any was served. -/
def serveAll (progressed : Bool) (m : Multiplexer) : Bool × Multiplexer :=
  if _hserve : m.canServe = true then m.serveFront.serveAll true else (progressed, m)
termination_by m.queue.length
decreasing_by exact length_queue_serveFront_lt m _hserve

theorem serveAll_eq (progressed : Bool) (m : Multiplexer) :
    m.serveAll progressed = (progressed || m.canServe, m.drainOutbound) := by
  fun_induction drainOutbound m generalizing progressed with
  | case1 m hserve ih =>
      rw [serveAll, dif_pos hserve, ih, hserve]
      simp
  | case2 m hserve =>
      rw [serveAll, dif_neg hserve]
      simp [hserve]

/-- Takes in everything, then serves what fits. -/
def pollOnce? (m : Multiplexer) : Option (Bool × Multiplexer) :=
  (m.takeInAll? false).map fun (received, m) =>
    let (sent, m) := m.serveAll false
    (received || sent, m)

theorem pollOnce?_eq (m : Multiplexer) : m.pollOnce? = some m.pollOnce := by
  simp [pollOnce?, takeInAll?_eq, serveAll_eq, pollOnce]

/-- Goes round until nothing is done, and tells whether anything was. -/
def pollAll? (progressed : Bool) (m : Multiplexer) : Option (Bool × Multiplexer) :=
  match _hround : m.pollOnce? with
  | none => none
  | some (true, m') => m'.pollAll? true
  | some (false, m') => some (progressed, m')
termination_by m.backlog
decreasing_by
  have hround : m.pollOnce = (true, m') := Option.some.inj (m.pollOnce?_eq.symm.trans _hround)
  have hlt := backlog_pollOnce_lt m (by rw [hround])
  rwa [hround] at hlt

theorem pollAll?_eq (progressed : Bool) (m : Multiplexer) :
    m.pollAll? progressed = some (progressed || m.poll.1, m.poll.2) := by
  fun_induction poll m generalizing progressed with
  | case1 m hmoved ih =>
      have hround : m.pollOnce? = some (true, m.pollOnce.2) := by rw [pollOnce?_eq, ← hmoved]
      unfold pollAll?
      split
      next hnone => simp [hround] at hnone
      next m' hmore =>
        obtain rfl := (Prod.mk.inj (Option.some.inj (hround.symm.trans hmore))).2
        simp [ih]
      next hlast => simp [hround] at hlast
  | case2 m hidle =>
      have hround : m.pollOnce? = some (false, m.pollOnce.2) := by
        rw [pollOnce?_eq, ← Bool.not_eq_true _ |>.mp hidle]
      unfold pollAll?
      split
      next hnone => simp [hround] at hnone
      next hmore => simp [hround] at hmore
      next m' hlast =>
        obtain rfl := (Prod.mk.inj (Option.some.inj (hround.symm.trans hlast))).2
        simp

/-! ### One round is enough -/

/-- Polling does something if and only if the host could not have gone to sleep. -/
theorem poll_fst_eq (m : Multiplexer) : m.poll.1 = m.wakeConditions.isEmpty := by
  rw [poll_eq_pollOnce, isEmpty_wakeConditions_iff, pollOnce]
  cases hempty : m.inbound.isEmpty with
  | true => rw [drainInbound_of_isEmpty hempty]
  | false => rfl

theorem poll_poll (m : Multiplexer) : m.poll.2.poll = (false, m.poll.2) := by
  rw [poll_eq_pollOnce m, poll_eq_pollOnce]
  exact m.pollOnce_pollOnce

/-- After polling nobody waits, or the oldest turn does not fit. -/
theorem roomFor_front_poll (m : Multiplexer) :
    ∀ e ∈ m.poll.2.queue.front?, m.poll.2.outbound.roomFor e.length = false := by
  intro e hfront
  have hserve : m.poll.2.canServe = false := by
    rw [poll_eq_pollOnce]
    exact m.drainInbound.canServe_drainOutbound
  rwa [canServe, hfront] at hserve

/-! ### No second turns -/

/-- No stream has two turns, and none got a second one since the history was this. -/
structure SingleSince (past : List Event) (m : Multiplexer) : Prop where
  single : m.queue.Single
  history : ∃ events, m.history = events ++ past ∧ ∀ stream, .doubled stream ∉ events

namespace SingleSince

variable {past : List Event}

theorem refl (h : m.queue.Single) : SingleSince m.history m :=
  ⟨h, [], rfl, by simp⟩

/-- What happens to the sockets, the rings and the totals does not matter. -/
theorem congr (h : SingleSince past m) (hqueue : m'.queue = m.queue)
    (hhistory : m'.history = m.history) : SingleSince past m' where
  single := hqueue ▸ h.single
  history := hhistory ▸ h.history

theorem queue (h : SingleSince past m) {q : SendQueue} (hq : q.Single) :
    SingleSince past { m with queue := q } :=
  ⟨hq, h.history⟩

/-- Something is done that is no second turn. -/
theorem cons (h : SingleSince past m) {e : Event} (hqueue : m'.queue = m.queue)
    (hhistory : m'.history = e :: m.history) (he : ∀ stream, e ≠ .doubled stream) :
    SingleSince past m' where
  single := hqueue ▸ h.single
  history := by
    obtain ⟨events, hevents, hnone⟩ := h.history
    refine ⟨e :: events, by rw [hhistory, hevents, List.cons_append], ?_⟩
    intro stream hmem
    rcases List.mem_cons.mp hmem with heq | hmem
    · exact he stream heq.symm
    · exact hnone stream hmem

theorem answer (h : SingleSince past m) (r : Request) (c : Completion) :
    SingleSince past (m.answer r c) :=
  h.cons rfl rfl (by simp)

theorem modify (h : SingleSince past m) (stream : UInt8) (f : Socket → Socket) :
    SingleSince past (m.modify stream f) :=
  h.congr rfl rfl

theorem retire (h : SingleSince past m) (stream : UInt8) : SingleSince past (m.retire stream) := by
  unfold Multiplexer.retire
  split
  · exact h.cons rfl rfl (by simp)
  · exact h

theorem transmit (h : SingleSince past m) (kind : PacketKind) (stream : UInt8) (payload : Bytes) :
    SingleSince past (m.transmit kind stream payload) := by
  unfold Multiplexer.transmit
  split
  · exact h.cons rfl rfl (by simp)
  · exact h.cons rfl rfl (by simp)

/-- A stream that has no turn may get one. -/
theorem enqueue (h : SingleSince past m) {stream : UInt8} (hnew : m.queue.contains stream = false)
    (n : Nat) : SingleSince past (m.enqueue stream n) := by
  rw [Multiplexer.enqueue, hnew]
  exact h.queue (h.single.enqueue hnew n)

theorem withdraw (h : SingleSince past m) (stream : UInt8) :
    SingleSince past (m.withdraw stream) := by
  unfold Multiplexer.withdraw
  split
  · exact h
  · split
    · exact h.cons rfl rfl (by simp)
    · exact h

theorem failAll (h : SingleSince past m) (rs : List Request) : SingleSince past (m.failAll rs) := by
  induction rs generalizing m with
  | nil => exact h
  | cons r rs ih => exact ih (h.answer r r.failure)

theorem abandon (h : SingleSince past m) (stream : UInt8) (s : Socket) :
    SingleSince past (m.abandon stream s) :=
  (((h.withdraw stream).failAll s.parked).modify stream Socket.abort).queue (h.single.remove stream)

/-- A Reset that has to wait gets the one turn that its stream has. -/
theorem close (h : SingleSince past m) (stream : UInt8) (emitReset : Bool) :
    SingleSince past (m.close stream emitReset) := by
  cases hget : m.sockets.get? stream with
  | none =>
      rw [Multiplexer.close, hget]
      exact h
  | some s =>
      have habandon := h.abandon stream s
      have haccept : SingleSince past ((m.abandon stream s).record (.accepted .reset stream [])) :=
        habandon.cons rfl rfl (by simp)
      rw [close_eq hget]
      split
      · exact habandon.retire stream
      split
      · exact (haccept.transmit .reset stream []).retire stream
      · exact (haccept.modify stream _).enqueue (h.single.contains_remove stream) 0

theorem closeIfExchanged (h : SingleSince past m) (stream : UInt8) :
    SingleSince past (m.closeIfExchanged stream) := by
  unfold Multiplexer.closeIfExchanged
  split
  · exact h
  · split
    · exact h.close stream false
    · exact h

theorem deliverEos (h : SingleSince past m) (stream : UInt8) (r : Request) :
    SingleSince past (m.deliverEos stream r) :=
  ((h.answer r _).modify stream _).closeIfExchanged stream

theorem takeFrame (h : SingleSince past m) (s : Socket) (f : Frame) :
    SingleSince past (m.takeFrame s f) := by
  unfold Multiplexer.takeFrame
  split
  · unfold takeConnectResponse
    split
    next r _ _ _ =>
      have htaken := (h.withdraw s.stream).modify s.stream ({ · with pendingConnect := none })
      dsimp only
      split
      · exact htaken.answer r _
      · exact (htaken.answer r _).close s.stream false
    next => exact h.congr rfl rfl
  · unfold takeData
    split
    · split
      · exact (h.modify s.stream _).answer _ _
      · exact h.close s.stream true
    · split
      · exact h.close s.stream true
      · exact h.modify s.stream _
  · unfold takeEos
    dsimp only
    split
    · exact ((h.modify s.stream _).modify s.stream _).deliverEos s.stream _
    · exact h.modify s.stream _
  · exact h.congr rfl rfl

theorem dispatch (h : SingleSince past m) (f : Frame) : SingleSince past (m.dispatch f) := by
  have hreceive : SingleSince past (m.receive f) := h.cons rfl rfl (by simp)
  rw [Multiplexer.dispatch, ← receive]
  split
  · exact hreceive.congr rfl rfl
  split
  · exact hreceive.close f.stream false
  split
  · exact hreceive.congr rfl rfl
  · exact hreceive.takeFrame _ f

theorem receiveOne (h : SingleSince past m) : SingleSince past m.receiveOne := by
  unfold Multiplexer.receiveOne
  split
  next f ring _ =>
    have hring : SingleSince past { m with inbound := ring } := h.congr rfl rfl
    exact hring.dispatch f
  next => exact h.cons rfl rfl (by simp)

theorem drainInbound (h : SingleSince past m) : SingleSince past m.drainInbound := by
  fun_induction Multiplexer.drainInbound m with
  | case1 => exact h
  | case2 m _ ih => exact ih h.receiveOne

theorem sendWrite (h : SingleSince past m) (stream : UInt8) (r : Request) :
    SingleSince past (m.sendWrite stream r) := by
  unfold Multiplexer.sendWrite
  split
  · exact (h.transmit .data stream _).answer r _
  · exact (((h.transmit .eos stream []).answer r _).modify stream _).closeIfExchanged stream

theorem serve (h : SingleSince past m) (stream : UInt8) : SingleSince past (m.serve stream) := by
  unfold Multiplexer.serve
  split
  · exact h.cons rfl rfl (by simp)
  split
  · exact h.transmit .connect stream _
  · exact (h.modify stream _).sendWrite stream _
  · exact (h.transmit .reset stream []).retire stream
  · exact h

theorem serveFront (h : SingleSince past m) : SingleSince past m.serveFront := by
  unfold Multiplexer.serveFront
  split
  · exact h
  next e _ => exact (h.queue h.single.pop).serve e.stream

theorem drainOutbound (h : SingleSince past m) : SingleSince past m.drainOutbound := by
  fun_induction Multiplexer.drainOutbound m with
  | case1 m _ ih => exact ih h.serveFront
  | case2 => exact h

theorem poll (h : SingleSince past m) : SingleSince past m.poll.2 := by
  rw [poll_eq_pollOnce]
  exact h.drainInbound.drainOutbound

end SingleSince

/-- Polling comes to its end, and never consumes more than there is. It does something if and only
if the host could not have gone to sleep: then it takes in everything and serves what fits.
Afterwards nothing is left to take in, nobody waits or the oldest turn does not fit, the host may
sleep until the peer appends something or, if somebody waits, takes something, and polling again
does nothing. If no stream had two turns, none has two now, and none got a second one. -/
theorem polls_to_rest (m : Multiplexer) (hsingle : m.queue.Single) :
    m.pollAll? false = some m.poll ∧
      m.poll.1 = m.wakeConditions.isEmpty ∧
      m.poll.2 = m.drainInbound.drainOutbound ∧
      m.poll.2.inbound.isEmpty = true ∧
      (∀ e ∈ m.poll.2.queue.front?, m.poll.2.outbound.roomFor e.length = false) ∧
      m.poll.2.wakeConditions =
        { inboundTail := true, outboundHead := !m.poll.2.queue.isEmpty } ∧
      m.poll.2.poll = (false, m.poll.2) ∧
      m.poll.2.queue.Single ∧
      ∃ events, m.poll.2.chronicle = m.chronicle ++ events ∧ ∀ stream, .doubled stream ∉ events := by
  have hpoll := (SingleSince.refl hsingle).poll
  obtain ⟨events, hevents, hnone⟩ := hpoll.history
  refine ⟨?_, m.poll_fst_eq, ?_, ?_, m.roomFor_front_poll, m.wakeConditions_poll, m.poll_poll,
    hpoll.single, events.reverse, ?_, ?_⟩
  · rw [pollAll?_eq, Bool.false_or]
  · rw [poll_eq_pollOnce]
    rfl
  · rw [poll_eq_pollOnce, pollOnce, inbound_drainOutbound]
    exact m.isEmpty_drainInbound
  · rw [chronicle, hevents, List.reverse_append]
    rfl
  · intro stream hmem
    exact hnone stream (List.mem_reverse.mp hmem)

/-- Two connects leave room for a short frame only. A longer connect waits, and a short one behind
it. The peer gives up the stream of the longer one, and the short one goes out. -/
theorem polls_to_rest_of_lost_turn :
    let m := run {} [.submit ⟨0, ⟨1, 1⟩, .connect (List.replicate 100 7)⟩,
      .submit ⟨1, ⟨1, 2⟩, .connect (List.replicate 100 7)⟩,
      .submit ⟨2, ⟨1, 3⟩, .connect (List.replicate 60 7)⟩, .submit ⟨3, ⟨1, 4⟩, .connect [101]⟩,
      .publish [0, 5, 5, 9]]
    m.queue.Single ∧ m.queue.entries = [⟨5, 60⟩, ⟨7, 1⟩] ∧ m.canServe = false ∧
      m.pollAll? false = some m.poll ∧ m.poll.1 = true ∧ m.poll.2.queue.entries = [] ∧
      m.poll.2.wakeConditions = { inboundTail := true } ∧ m.poll.2.poll = (false, m.poll.2) := by
  intro m
  have hsingle : m.queue.Single := by decide +kernel
  obtain ⟨hends, hmoved, hround, -, -, hwake, hagain, -, -⟩ := polls_to_rest m hsingle
  have hworks : m.wakeConditions.isEmpty = true := by decide +kernel
  have hnobody : m.poll.2.queue.entries = [] := by
    rw [hround]
    decide +kernel
  refine ⟨hsingle, by decide +kernel, by decide +kernel, hends, hmoved.trans hworks, hnobody, ?_,
    hagain⟩
  rw [hwake, SendQueue.isEmpty_iff.mpr hnobody]
  rfl

end Multiplexer

end StreamLink
