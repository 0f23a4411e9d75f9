import StreamLink.Proofs.Movement
import StreamLink.Proofs.WakeUps

/-!
# One wake

What a worker does when it is woken, if the peer keeps still meanwhile: it disables the events
before it handles requests, it handles each request once and in order, polls, clears the events and
arms what it may sleep on. The positions of its rings cannot mislead it within one wake. No more
enters the outbound ring than there was room for, and no more leaves the inbound ring than was in
it, so that neither position comes round.

Main statement: `wake_settles`.
-/

namespace StreamLink

/-! ### Rings that nobody else moves -/

/-- A position that goes on by less than a round is not where it was. -/
theorem add_ofNat_ne {i : UInt8} {n : Nat} (hpos : 0 < n) (hle : n ≤ maxOccupancy) :
    i + UInt8.ofNat n ≠ i := by
  have hlt : n < ringSize := Nat.lt_succ_of_le hle
  have hne := (ofNat_add_ne_iff i.toNat n).mpr (Nat.not_dvd_of_pos_of_lt hpos hlt)
  rwa [UInt8.ofNat_add, UInt8.ofNat_toNat] at hne

namespace Ring

variable {r r' : Ring}

/-- Bytes that are consumed one part after the other. -/
theorem discardAll_consume {n : Nat} (h : n ≤ r.occupied) :
    (r.consume n).discardAll = r.discardAll := by
  have hhead : r.head + UInt8.ofNat n + UInt8.ofNat (r.occupied - n) =
      r.head + UInt8.ofNat r.occupied := by
    rw [UInt8.add_assoc, ← UInt8.ofNat_add, Nat.add_sub_cancel' h]
  simp only [discardAll, occupied_consume h]
  simp only [consume, hhead]

theorem discardAll_of_isEmpty (h : r.isEmpty = true) : r.discardAll = r := by
  rw [discardAll, isEmpty_iff.mp h]
  simp [consume]

theorem discardAll_of_takeFrame? {f : Frame} (h : r.takeFrame? = some (f, r')) :
    r'.discardAll = r.discardAll := by
  unfold takeFrame? at h
  split at h
  · contradiction
  split at h
  · contradiction
  next hwhole =>
    obtain ⟨-, rfl⟩ := Prod.mk.inj (Option.some.inj h)
    exact discardAll_consume (Nat.le_of_not_lt hwhole)

theorem Appends.contents_eq {packets : List Packet} (h : r.Appends packets r') :
    r'.contents = r.contents ++ packets.flatMap Packet.encode := by
  induction h with
  | refl => simp
  | @tail r' r'' packets p _ hlast ih =>
      have hroom := (le_of_append_eq_ok hlast).2
      have hfits : r'.occupied + p.encode.length ≤ maxOccupancy := by
        rw [Packet.length_encode, Packet.size, ← Nat.add_assoc]
        simpa [roomFor] using hroom
      obtain rfl := Except.ok.inj ((append_eq_ok hroom).symm.trans hlast)
      calc (r'.publish p.encode).contents
          = r'.contents ++ p.encode := contents_publish hfits
        _ = r.contents ++ (packets ++ [p]).flatMap Packet.encode := by rw [ih]; simp

/-- No more is appended than there was room for. -/
theorem Appends.size_le {packets : List Packet} (h : r.Appends packets r') :
    r.occupied + (packets.map Packet.size).sum ≤ maxOccupancy := by
  have hlength := congrArg List.length h.contents_eq
  rw [List.length_append, length_contents, length_contents, List.length_flatMap] at hlength
  simp only [Packet.length_encode] at hlength
  exact hlength ▸ r'.occupied_le

/-- As long as nobody takes anything, the tail shows whether anything was appended. -/
theorem Appends.tail_bne {packets : List Packet} (h : r.Appends packets r') :
    (r'.tail != r.tail) = !packets.isEmpty := by
  rw [h.tail_eq]
  cases packets with
  | nil => simp
  | cons p rest =>
      have hpos : 0 < ((p :: rest).map Packet.size).sum := by
        rw [List.map_cons, List.sum_cons, Packet.size, Nat.add_assoc]
        exact Nat.add_pos_left (by decide) _
      simpa using add_ofNat_ne (i := r.tail) hpos (Nat.le_trans (Nat.le_add_left _ _) h.size_le)

/-- A ring of which everything is taken was empty if its head stays where it was. -/
theorem head_discardAll_bne (r : Ring) : (r.discardAll.head != r.head) = !r.isEmpty := by
  cases hempty : r.isEmpty with
  | true => rw [discardAll_of_isEmpty hempty]; simp
  | false =>
      have hmoved := add_ofNat_ne (i := r.head) (isEmpty_eq_false_iff.mp hempty) r.occupied_le
      simpa [discardAll, consume] using hmoved

end Ring

namespace Multiplexer

variable (m : Multiplexer)

/-- Whatever is in the inbound ring is taken in or thrown away, and nothing else. -/
theorem inbound_drainInbound_eq : m.drainInbound.inbound = m.inbound.discardAll := by
  fun_induction drainInbound m with
  | case1 m hempty => exact (Ring.discardAll_of_isEmpty hempty).symm
  | case2 m _ ih =>
      rw [ih, inbound_receiveOne_eq]
      split
      next htake => exact Ring.discardAll_of_takeFrame? htake
      next => exact Ring.discardAll_of_isEmpty (Ring.isEmpty_iff.mpr (Ring.occupied_discardAll _))

theorem inbound_poll_eq : m.poll.2.inbound = m.inbound.discardAll := by
  rw [poll_eq_pollOnce, pollOnce, inbound_drainOutbound, inbound_drainInbound_eq]

theorem inbound_foldl_submit (requests : List Request) :
    (requests.foldl submit m).inbound = m.inbound := by
  induction requests generalizing m with
  | nil => rfl
  | cons r requests ih => rw [List.foldl_cons, ih, inbound_submit]

theorem ships_foldl_submit (requests : List Request) : Ships m (requests.foldl submit m) := by
  induction requests generalizing m with
  | nil => exact .refl m
  | cons r requests ih => exact (m.ships_submit r).trans (ih _)

/-- After polling the worker may sleep on what the peer sends, and if a turn waits also on what the
peer takes. -/
theorem wakeConditions_poll : m.poll.2.wakeConditions =
    { inboundTail := true, outboundHead := !m.poll.2.queue.isEmpty } := by
  obtain ⟨htail, hhead⟩ := wakeConditions_of_armed m.isEmpty_wakeConditions_poll
  have hempty : m.poll.2.inbound.isEmpty = true := by
    rw [inbound_poll_eq, Ring.isEmpty_iff, Ring.occupied_discardAll]
  cases hqueue : m.poll.2.queue.isEmpty with
  | true =>
      have hfront : m.poll.2.queue.front? = none := by
        rw [SendQueue.front?, SendQueue.isEmpty_iff.mp hqueue, List.head?_nil]
      simp [wakeConditions, hempty, hfront]
  | false =>
      have hfront : m.poll.2.queue.front? ≠ none := by
        rw [SendQueue.front?, ne_eq, List.head?_eq_none_iff, ← SendQueue.isEmpty_iff, hqueue]
        exact Bool.false_ne_true
      calc m.poll.2.wakeConditions
          = ⟨m.poll.2.wakeConditions.inboundTail, m.poll.2.wakeConditions.outboundHead⟩ := rfl
        _ = { inboundTail := true, outboundHead := !false } := by rw [htail, hhead hfront]; rfl

end Multiplexer

/-! ### The doorbell during one wake -/

/-- Accesses in one masked section, oldest first. -/
def Access.masked (accesses : List Access) : List Access :=
  .mask :: accesses ++ [.unmask]

namespace Wake

/-- The requests that the worker handles, in order, if these wait for it. -/
def requests (inbox : List Request) : Wake → List Request
  | .request first => first :: inbox
  | .interrupt => []

/-- The requests that wait afterwards, if these waited before. -/
def left (inbox : List Request) : Wake → List Request
  | .request _ => []
  | .interrupt => inbox

/-- What the worker does first. -/
def phase : Wake → Phase
  | .request first => .hold first
  | .interrupt => .receive false

/-- The masked sections before anything is handled. -/
def sections : Wake → List (List Access)
  | .request _ => [[.write .enable 0]]
  | .interrupt => []

end Wake

namespace Doorbell

@[simp] theorem peerEvents_raiseIfDue (d : Doorbell) : d.raiseIfDue.peerEvents = d.peerEvents := by
  unfold raiseIfDue; split <;> rfl

end Doorbell

namespace Worker

variable (w : Worker)

@[simp] theorem enable_disable : w.disable.bell.enable = 0 := by
  simp [disable, unmask, write, mask, Doorbell.unmask, Doorbell.write, Doorbell.mask]

@[simp] theorem events_disable : w.disable.bell.events = w.bell.events := by
  simp [disable, unmask, write, mask, Doorbell.unmask, Doorbell.write, Doorbell.mask]

@[simp] theorem peerEvents_disable : w.disable.bell.peerEvents = w.bell.peerEvents := by
  simp [disable, unmask, write, mask, Doorbell.unmask, Doorbell.write, Doorbell.mask]

@[simp] theorem reverse_log_disable :
    w.disable.log.reverse = w.log.reverse ++ Access.masked [.write .enable 0] := by
  simp [disable, unmask, write, mask, Access.masked]

/-- The accesses with which the worker arms what it may sleep on, and tells the peer what moved. -/
def arming (pending : UInt8) (armed : HostSignals) (moved : PeerSignals) : List Access :=
  [.read .hostEvents pending, .write .enable armed.bits] ++
    if moved.isEmpty then [] else [.write .peerEvents moved.bits]

/-- What a worker comes to when it arms something: the state of the doorbell, and what it did to
it. -/
structure Armed (pending : UInt8) (armed : HostSignals) (moved : PeerSignals) (w' : Worker) :
    Prop where
  mux : w'.mux = w.mux
  inbox : w'.inbox = w.inbox
  enable : w'.bell.enable = armed.bits
  events : w'.bell.events = 0
  unmasked : w'.bell.masked = false
  peerEvents : w'.bell.peerEvents = w.bell.peerEvents ||| moved.bits
  log : w'.log.reverse = w.log.reverse ++ Access.masked (arming pending armed moved)

theorem armed_arm (moved : PeerSignals) (harmed : w.mux.wakeConditions.isEmpty = false) :
    w.Armed w.bell.events w.mux.wakeConditions moved (w.arm moved) := by
  have hsame : (w.mask.read .hostEvents).mux.wakeConditions = w.mux.wakeConditions := rfl
  unfold arm
  simp only [hsame, harmed, Bool.false_eq_true, ↓reduceIte]
  cases hmoved : moved.isEmpty with
  | true =>
      have hbits : moved.bits = 0 := by
        obtain ⟨tail, head⟩ := moved
        cases tail <;> cases head <;> simp_all [PeerSignals.isEmpty, PeerSignals.bits]
      constructor <;> simp [unmask, write, read, mask, Doorbell.unmask, Doorbell.write,
        Doorbell.read, Doorbell.mask, arming, Access.masked, hmoved, hbits]
  | false =>
      constructor <;> simp [unmask, write, read, mask, Doorbell.unmask, Doorbell.write,
        Doorbell.read, Doorbell.mask, arming, Access.masked, hmoved]

/-- The worker as it begins to settle. -/
def handled : Wake → Worker
  | .request first => w.disable.handleAll first
  | .interrupt => w

theorem process_eq (wake : Wake) : w.process wake = (w.handled wake).settle w.mux.marks := by
  cases wake <;> rfl

/-- What a worker comes to in one wake in which it appends these packets to the outbound ring. -/
structure Settles (wake : Wake) (packets : List Packet) (w' : Worker) : Prop where
  mux : w'.mux = ((wake.requests w.inbox).foldl Multiplexer.submit w.mux).poll.2
  inbox : w'.inbox = wake.left w.inbox
  appended : w.mux.outbound.Appends packets w'.mux.outbound
  taken : w'.mux.inbound = w.mux.inbound.discardAll
  empty : w'.mux.inbound.isEmpty = true
  enable : w'.bell.enable =
    HostSignals.bits { inboundTail := true, outboundHead := !w'.mux.queue.isEmpty }
  events : w'.bell.events = 0
  unmasked : w'.bell.masked = false
  peerEvents : w'.bell.peerEvents = w.bell.peerEvents |||
    PeerSignals.bits { outboundTail := !packets.isEmpty, inboundHead := !w.mux.inbound.isEmpty }
  log : w'.log.reverse = w.log.reverse ++ (wake.sections ++ [arming w.bell.events
    { inboundTail := true, outboundHead := !w'.mux.queue.isEmpty }
    { outboundTail := !packets.isEmpty, inboundHead := !w.mux.inbound.isEmpty }]).flatMap
      Access.masked

theorem exists_settles (wake : Wake) : ∃ packets, w.Settles wake packets (w.process wake) := by
  let m := (wake.requests w.inbox).foldl Multiplexer.submit w.mux
  have hhandled : (w.handled wake).mux = m := by cases wake <;> rfl
  obtain ⟨packets, happends, -⟩ :=
    (w.mux.ships_foldl_submit (wake.requests w.inbox)).trans m.ships_poll
  have hinbound : m.poll.2.inbound = w.mux.inbound.discardAll := by
    rw [Multiplexer.inbound_poll_eq, Multiplexer.inbound_foldl_submit]
  have hmoved : m.poll.2.movedSince w.mux.marks =
      { outboundTail := !packets.isEmpty, inboundHead := !w.mux.inbound.isEmpty } := by
    rw [← happends.tail_bne, ← Ring.head_discardAll_bne, ← hinbound]
    rfl
  have harmed := (w.handled wake).poll.armed_arm (m.poll.2.movedSince w.mux.marks)
    (Multiplexer.isEmpty_wakeConditions_poll _)
  have hprocess : w.process wake = (w.handled wake).poll.arm (m.poll.2.movedSince w.mux.marks) := by
    rw [process_eq, settle_eq, ← hhandled]
    rfl
  have hmux : (w.process wake).mux = m.poll.2 := by
    rw [hprocess, harmed.mux, ← hhandled]
    rfl
  have hconditions : (w.handled wake).poll.mux.wakeConditions =
      { inboundTail := true, outboundHead := !(w.process wake).mux.queue.isEmpty } := by
    rw [hmux, ← Multiplexer.wakeConditions_poll, ← hhandled]
    rfl
  rw [hconditions, ← hprocess, hmoved] at harmed
  refine ⟨packets, ⟨hmux, ?_, hmux ▸ happends, hmux ▸ hinbound, ?_, harmed.enable, harmed.events,
    harmed.unmasked, ?_, ?_⟩⟩
  · rw [harmed.inbox]
    cases wake <;> rfl
  · rw [hmux, hinbound, Ring.isEmpty_iff, Ring.occupied_discardAll]
  · rw [harmed.peerEvents]
    congr 1
    cases wake with
    | request first => exact w.peerEvents_disable
    | interrupt => rfl
  · rw [harmed.log]
    cases wake with
    | request first => simp [handled, poll, handleAll, Wake.sections]
    | interrupt => simp [handled, poll, Wake.sections]

/-- However a worker is woken and whatever waits for it, it comes to rest if it is left alone: step
by step, and for a request only after it has disabled all events. -/
theorem wake_settles (wake : Wake) :
    (∃ packets, w.Settles wake packets (w.process wake)) ∧
      let woken : Interplay := { worker := w, phase := wake.phase }
      let asleep : Interplay :=
        { woken with worker := w.process wake, phase := .sleep, processed := 1 }
      woken.Works asleep ∧
        match wake with
        | .request first =>
          let disabled := woken.about w.disable (.handle first)
          woken.Works disabled ∧ disabled.worker.mux = w.mux ∧ disabled.worker.inbox = w.inbox ∧
            disabled.worker.bell.enable = 0 ∧ disabled.Works asleep
        | .interrupt => True := by
  refine ⟨w.exists_settles wake, ?_⟩
  cases wake with
  | request first =>
      intro woken asleep
      have hdisable : woken.Works (woken.about w.disable (.handle first)) :=
        .head rfl (.head rfl (.single rfl))
      have hhandle : (woken.about w.disable (.handle first)).Works asleep := by
        refine .head rfl ((woken.works_handleNext w.disable (w.mux.submit first) w.inbox).trans ?_)
        exact woken.works_settle (w.disable.handleAll first)
      exact ⟨hdisable.trans hhandle, hdisable, rfl, rfl, w.enable_disable, hhandle⟩
  | interrupt =>
      intro woken asleep
      exact ⟨woken.works_settle w, trivial⟩

end Worker

end StreamLink
