import StreamLink.Proofs.Interplay
import StreamLink.Proofs.Run
import StreamLink.Proofs.Shipping

/-!
# What the positions tell

The peer learns from two positions what the host has done: how far it has written, and how far it
has read. Each is one byte and wraps, so that it tells how many bytes the host has moved on but for
whole rounds of the ring. Less than a round always shows. A movement of exactly one round, or of
several, does not show at all, neither to who compares positions nor in what the worker tells the
peer.

Main statement: `shows_moved_since`.
-/

namespace StreamLink

/-! ### How much was moved -/

/-- The bytes that the parcel takes up in a ring. -/
def Parcel.size (p : Parcel) : Nat :=
  headerSize + p.payload.length

/-- The bytes that were appended to the outbound ring. -/
def bytesSent (events : List Event) : Nat :=
  ((sentIn events).map Parcel.size).sum

/-- The bytes that the event takes out of the inbound ring. -/
def Event.taken : Event → Nat
  | received f => headerSize + f.payload.length
  | garbled n => n
  | _ => 0

/-- The bytes that were taken out of the inbound ring. -/
def bytesTaken (events : List Event) : Nat :=
  (events.map Event.taken).sum

@[simp] theorem bytesSent_append (first second : List Event) :
    bytesSent (first ++ second) = bytesSent first + bytesSent second := by
  simp [bytesSent]

@[simp] theorem bytesTaken_append (first second : List Event) :
    bytesTaken (first ++ second) = bytesTaken first + bytesTaken second := by
  simp [bytesTaken]

/-- Bytes are taken only on an occasion. -/
theorem bytesTaken_occasionsIn (events : List Event) :
    bytesTaken (occasionsIn events) = bytesTaken events := by
  induction events with
  | nil => rfl
  | cons e events ih =>
      rw [occasionsIn_cons, bytesTaken_append, ih]
      cases e <;> simp [bytesTaken, Event.taken, Event.isOccasion]

/-- Whether the peer is told of what was sent and taken, but for whole rounds of the ring. -/
structure Shows (moved : PeerSignals) (events : List Event) : Prop where
  tail : moved.outboundTail = true ↔ ¬ ringSize ∣ bytesSent events
  head : moved.inboundHead = true ↔ ¬ ringSize ∣ bytesTaken events

theorem ofNat_add_ne_iff (a n : Nat) : UInt8.ofNat (a + n) ≠ UInt8.ofNat a ↔ ¬ ringSize ∣ n := by
  rw [ne_eq, ← UInt8.toNat_inj, UInt8.toNat_ofNat', UInt8.toNat_ofNat', ringSize]
  omega

/-! ### The positions of a ring -/

namespace Ring

theorem tail_of_appendPacket {r r' : Ring} {p : Packet} (h : r.appendPacket p = .ok r') :
    r'.tail = r.tail + UInt8.ofNat p.size := by
  have hroom := (le_of_append_eq_ok h).2
  obtain rfl := Except.ok.inj ((append_eq_ok hroom).symm.trans h)
  rw [tail_publish, Frame.length_bytes]
  rfl

theorem Appends.tail_eq {r r' : Ring} {packets : List Packet} (h : r.Appends packets r') :
    r'.tail = r.tail + UInt8.ofNat (packets.map Packet.size).sum := by
  induction h with
  | refl => simp
  | tail _ hlast ih =>
      rw [tail_of_appendPacket hlast, ih, List.map_append, List.sum_append, UInt8.ofNat_add,
        UInt8.add_assoc]
      simp

theorem head_of_takeFrame? {r r' : Ring} {f : Frame} (h : r.takeFrame? = some (f, r')) :
    r'.head = r.head + UInt8.ofNat (headerSize + f.payload.length) := by
  unfold takeFrame? at h
  split at h
  · contradiction
  split at h
  · contradiction
  · obtain ⟨rfl, rfl⟩ := Prod.mk.inj (Option.some.inj h)
    rw [length_copyFrom]
    rfl

theorem tail_of_takePacket {r r' : Ring} {packet? : Option (Except Fault Packet)}
    (h : r.takePacket = (packet?, r')) : r'.tail = r.tail := by
  have hrest : r' = r.takePacket.2 := by rw [h]
  rw [hrest]
  unfold takePacket
  split
  · rfl
  · split <;> rfl

end Ring

namespace Multiplexer

variable {m m' m'' : Multiplexer}

/-- Whether the positions count what the chronicle tells of. -/
structure Tallied (m : Multiplexer) : Prop where
  distinct : m.sockets.Distinct
  tail : m.outbound.tail = UInt8.ofNat (bytesSent m.chronicle)
  head : m.inbound.head = UInt8.ofNat (bytesTaken m.chronicle)

/-- Whether the positions still count, and the chronicle went on. -/
structure Continues (m m' : Multiplexer) : Prop where
  tallied : m'.Tallied
  chronicle : m.chronicle <+: m'.chronicle

theorem Continues.trans (h : Continues m m') (h' : Continues m' m'') : Continues m m'' :=
  ⟨h'.tallied, h.chronicle.trans h'.chronicle⟩

theorem Ships.tail_eq (h : Ships m m') : ∃ n, m'.outbound.tail = m.outbound.tail + UInt8.ofNat n ∧
    bytesSent m'.chronicle = bytesSent m.chronicle + n := by
  obtain ⟨packets, happends, hsent⟩ := h
  refine ⟨(packets.map Packet.size).sum, happends.tail_eq, ?_⟩
  have hsizes : Parcel.size ∘ Packet.parcel = Packet.size := rfl
  have hnext : sentIn m'.chronicle = sentIn m.chronicle ++ packets.map Packet.parcel :=
    filterMap_reverse_of_append hsent
  rw [bytesSent, hnext, List.map_append, List.sum_append, List.map_map, hsizes]
  rfl

namespace Tallied

theorem fresh (config : Config) : (Multiplexer.fresh config).Tallied :=
  ⟨distinct_fresh config, rfl, rfl⟩

theorem refl (h : m.Tallied) : Continues m m :=
  ⟨h, List.prefix_rfl⟩

theorem of_leads {rs : List Request} {n : Nat} (h : m.Tallied) (hships : Ships m m')
    (hleads : Leads m rs m') (hhead : m'.inbound.head = m.inbound.head + UInt8.ofNat n)
    (htaken : bytesTaken m'.chronicle = bytesTaken m.chronicle + n) : Continues m m' where
  tallied := by
    obtain ⟨k, htail, hsent⟩ := hships.tail_eq
    refine ⟨hleads.distinct h.distinct, ?_, ?_⟩
    · rw [htail, hsent, h.tail, UInt8.ofNat_add]
    · rw [hhead, htaken, h.head, UInt8.ofNat_add]
  chronicle := hleads.chronicle_isPrefix

theorem of_conducts {occasions : List Event} (h : m.Tallied) (hships : Ships m m')
    (hconducts : Conducts m occasions m')
    (hhead : m'.inbound.head = m.inbound.head + UInt8.ofNat (bytesTaken occasions)) :
    Continues m m' := by
  apply h.of_leads hships hconducts.proceeds.leads hhead
  rw [← bytesTaken_occasionsIn, hconducts.proceeds.occasionsIn_chronicle, bytesTaken_append,
    bytesTaken_occasionsIn]

/-- Neither position is moved, and nothing is done. -/
theorem of_same (h : m.Tallied) (hsockets : m'.sockets = m.sockets)
    (htail : m'.outbound.tail = m.outbound.tail) (hhead : m'.inbound.head = m.inbound.head)
    (hhistory : m'.history = m.history) : Continues m m' := by
  have hchronicle : m'.chronicle = m.chronicle := by rw [chronicle, hhistory]; rfl
  refine ⟨⟨hsockets ▸ h.distinct, ?_, ?_⟩, ?_⟩
  · rw [htail, hchronicle, h.tail]
  · rw [hhead, hchronicle, h.head]
  · exact hchronicle ▸ List.prefix_rfl

theorem submit (h : m.Tallied) (r : Request) : Continues m (m.submit r) := by
  apply h.of_conducts (m.ships_submit r) (undertakes_submit h.distinct r).conducts
  simp [bytesTaken, Event.taken]

theorem receiveOne (h : m.Tallied) : Continues m m.receiveOne := by
  apply h.of_conducts m.ships_receiveOne (conducts_receiveOne h.distinct)
  rw [inbound_receiveOne_eq, arrival]
  cases htake : m.inbound.takeFrame? with
  | none => simp [bytesTaken, Event.taken, Ring.discardAll, Ring.consume]
  | some next => simp [bytesTaken, Event.taken, Ring.head_of_takeFrame? htake]

theorem serveFront (h : m.Tallied) (hserve : m.canServe = true) : Continues m m.serveFront := by
  apply h.of_conducts m.ships_serveFront (conducts_serveFront h.distinct hserve)
  simp [bytesTaken]

theorem drainInbound (h : m.Tallied) : Continues m m.drainInbound := by
  fun_induction Multiplexer.drainInbound m with
  | case1 m => exact h.refl
  | case2 m _ ih => exact h.receiveOne.trans (ih h.receiveOne.tallied)

theorem drainOutbound (h : m.Tallied) : Continues m m.drainOutbound := by
  fun_induction Multiplexer.drainOutbound m with
  | case1 m hserve ih => exact (h.serveFront hserve).trans (ih (h.serveFront hserve).tallied)
  | case2 m _ => exact h.refl

theorem poll (h : m.Tallied) : Continues m m.poll.2 := by
  rw [poll_eq_pollOnce]
  exact h.drainInbound.trans h.drainInbound.tallied.drainOutbound

theorem close (h : m.Tallied) (stream : UInt8) (emitReset : Bool) :
    Continues m (m.close stream emitReset) := by
  cases hget : m.sockets.get? stream with
  | none =>
      rw [Multiplexer.close, hget]
      exact h.refl
  | some s =>
      obtain ⟨_, events, hcloses⟩ := exists_closes_uncaused h.distinct hget emitReset
      have hnone : bytesTaken events = 0 := by
        rw [← bytesTaken_occasionsIn, hcloses.occasions]
        rfl
      have hhead : (m.close stream emitReset).inbound.head = m.inbound.head + UInt8.ofNat 0 := by
        simp
      apply h.of_leads (m.ships_close stream emitReset) (.of_move hcloses.move) hhead
      rw [hcloses.move.chronicle_eq, bytesTaken_append, hnone]

theorem apply (h : m.Tallied) (operation : Operation) : Continues m (m.apply operation) := by
  cases operation with
  | submit r => exact h.submit r
  | publish bytes => exact h.of_same rfl rfl (Ring.head_publish _ bytes) rfl
  | take => exact h.of_same rfl (Ring.tail_of_takePacket rfl) rfl rfl
  | release length => exact h.of_same rfl rfl rfl rfl
  | poll => exact h.poll
  | close stream emitReset => exact h.close stream emitReset

theorem foldl_apply (h : m.Tallied) (operations : List Operation) :
    Continues m (operations.foldl Multiplexer.apply m) := by
  induction operations generalizing m with
  | nil => exact h.refl
  | cons operation operations ih => exact (h.apply operation).trans (ih (h.apply operation).tallied)

/-- Positions that count show what was done since. -/
theorem shows (h : m.Tallied) (hm : Continues m m') :
    ∃ events, m'.chronicle = m.chronicle ++ events ∧ Shows (m'.movedSince m.marks) events := by
  obtain ⟨h', events, hevents⟩ := hm
  refine ⟨events, hevents.symm, ?_, ?_⟩
  · rw [← ofNat_add_ne_iff (bytesSent m.chronicle), ← bytesSent_append, hevents, ← h.tail,
      ← h'.tail]
    exact bne_iff_ne
  · rw [← ofNat_add_ne_iff (bytesTaken m.chronicle), ← bytesTaken_append, hevents, ← h.head,
      ← h'.head]
    exact bne_iff_ne

end Tallied

end Multiplexer

/-! ### While the worker is awake -/

/-- What the worker is going to tell the peer. -/
def Phase.moved? : Phase → Option PeerSignals
  | mask moved | clear moved | judge moved | enable _ moved | announce moved => some moved
  | _ => none

namespace Interplay

variable {s₀ s s' : Interplay}

theorem continues_work (h : s.worker.mux.Tallied) :
    Multiplexer.Continues s.worker.mux s.work.worker.mux := by
  cases hphase : s.phase with
  | handle first =>
      simp only [work, hphase]
      exact h.submit first
  | handleNext =>
      simp only [work, hphase]
      split
      · exact h.refl
      · exact h.submit _
  | receive worked =>
      simp only [work, hphase]
      split
      · exact h.refl
      · exact h.receiveOne
  | send worked =>
      simp only [work, hphase]
      split
      next hserve => exact h.serveFront hserve
      next => exact h.refl
  | announce moved =>
      simp only [work, hphase]
      split <;> exact h.refl
  | _ =>
      simp only [work, hphase]
      exact h.refl

/-- Whatever step is taken, the positions still count. -/
theorem continues_step (h : s.worker.mux.Tallied) (e : Step) :
    Multiplexer.Continues s.worker.mux (s.step e).worker.mux := by
  cases e with
  | work => exact continues_work h
  | wakeForRequest | wakeForSignal =>
      unfold step
      dsimp only
      split <;> exact h.refl
  | wait =>
      unfold step Link.wait
      dsimp only
      split <;> exact h.refl
  | append bytes => exact h.of_same rfl rfl (Ring.head_publish _ bytes) rfl
  | take =>
      unfold step
      dsimp only
      split
      · exact h.refl
      next packet ring htake => exact h.of_same rfl (Ring.tail_of_takePacket htake) rfl rfl
  | _ => exact h.of_same rfl rfl rfl rfl

theorem continues_foldl_step (h : s.worker.mux.Tallied) (steps : List Step) :
    Multiplexer.Continues s.worker.mux (steps.foldl step s).worker.mux := by
  induction steps generalizing s with
  | nil => exact h.refl
  | cons e steps ih => exact (continues_step h e).trans (ih (continues_step h e).tallied)

/-- What holds from a moment at which the worker sleeps until it has been awake and sleeps again: it
knows where its positions were, and what it is going to tell the peer is what moved since. -/
structure Remembers (s₀ s : Interplay) : Prop where
  asleep : s.phase = .sleep → s.worker.mux.marks = s₀.worker.mux.marks
  awake : s.phase ≠ .sleep → s.marks = s₀.worker.mux.marks
  moved : ∀ moved ∈ s.phase.moved?, moved = s.worker.mux.movedSince s.marks

namespace Remembers

/-- Nothing that matters changes. -/
theorem congr (h : Remembers s₀ s) (hphase : s'.phase = s.phase) (hmarks : s'.marks = s.marks)
    (hmux : s'.worker.mux.marks = s.worker.mux.marks) : Remembers s₀ s' where
  asleep := by
    rw [hphase, hmux]
    exact h.asleep
  awake := by
    rw [hphase, hmarks]
    exact h.awake
  moved := by
    have hsame : s'.worker.mux.movedSince s.marks = s.worker.mux.movedSince s.marks := by
      simp only [Multiplexer.marks, Marks.mk.injEq] at hmux
      simp only [Multiplexer.movedSince, hmux]
    rw [hphase, hmarks, hsame]
    exact h.moved

/-- The worker goes on while it is awake. -/
theorem of_awake (h : Remembers s₀ s) (hawake : s.phase ≠ .sleep) (hphase : s'.phase ≠ .sleep)
    (hmarks : s'.marks = s.marks)
    (hmoved : ∀ moved ∈ s'.phase.moved?, moved = s'.worker.mux.movedSince s'.marks) :
    Remembers s₀ s' where
  asleep := fun hasleep => absurd hasleep hphase
  awake := fun _ => hmarks.trans (h.awake hawake)
  moved := hmoved

/-- The worker goes on, and is not about to tell the peer what moved. -/
theorem of_quiet (h : Remembers s₀ s) (hawake : s.phase ≠ .sleep) (hphase : s'.phase ≠ .sleep)
    (hmarks : s'.marks = s.marks) (hquiet : s'.phase.moved? = none) : Remembers s₀ s' := by
  refine h.of_awake hawake hphase hmarks ?_
  simp [hquiet]

/-- The worker goes on, and is about to tell the peer what moved. -/
theorem of_moved (h : Remembers s₀ s) (hawake : s.phase ≠ .sleep) (hphase : s'.phase ≠ .sleep)
    (hmarks : s'.marks = s.marks)
    (hmoved : s'.phase.moved? = some (s'.worker.mux.movedSince s'.marks)) : Remembers s₀ s' := by
  refine h.of_awake hawake hphase hmarks ?_
  simp [hmoved]

theorem work (h : Remembers s₀ s) (hprocessed : s.work.processed = s.processed) :
    Remembers s₀ s.work := by
  have hmoved := h.moved
  cases hphase : s.phase with
  | sleep =>
      have hidle : s.work = s := by simp only [Interplay.work, hphase]
      rwa [hidle]
  | hold first | disable first | release first | handle first =>
      simp only [Interplay.work, hphase]
      exact h.of_quiet (by simp [hphase]) (by simp) rfl rfl
  | handleNext =>
      simp only [Interplay.work, hphase]
      split
      · exact h.of_quiet (by simp [hphase]) (by simp) rfl rfl
      · exact h.of_quiet (by simp [hphase]) (by simp) rfl rfl
  | receive worked =>
      simp only [Interplay.work, hphase]
      split
      · exact h.of_quiet (by simp [hphase]) (by simp) rfl rfl
      · exact h.of_quiet (by simp [hphase]) (by simp) rfl rfl
  | send worked =>
      simp only [Interplay.work, hphase]
      split
      · exact h.of_quiet (by simp [hphase]) (by simp) rfl rfl
      · split
        · exact h.of_quiet (by simp [hphase]) (by simp) rfl rfl
        · exact h.of_moved (by simp [hphase]) (by simp) rfl rfl
  | mask moved | clear moved | enable _ moved =>
      simp only [Interplay.work, hphase]
      refine h.of_moved (by simp [hphase]) (by simp) rfl ?_
      rw [hphase] at hmoved
      exact congrArg some (hmoved moved rfl)
  | judge moved =>
      rw [hphase] at hmoved
      simp only [Interplay.work, hphase]
      split
      · exact h.of_quiet (by simp [hphase]) (by simp) rfl rfl
      · exact h.of_moved (by simp [hphase]) (by simp) rfl (congrArg some (hmoved moved rfl))
  | announce moved =>
      simp only [Interplay.work, hphase]
      exact h.of_quiet (by simp [hphase]) (by simp) rfl rfl
  | unmask armed =>
      cases armed with
      | true => simp [Interplay.work, hphase] at hprocessed
      | false =>
          simp only [Interplay.work, hphase]
          exact h.of_quiet (by simp [hphase]) (by simp) rfl rfl

theorem step (h : Remembers s₀ s) (e : Step) (hprocessed : (s.step e).processed = s.processed) :
    Remembers s₀ (s.step e) := by
  -- The worker wakes, and remembers where its positions are.
  have hwake {w : Worker} {phase : Phase} (hsleep : s.phase = .sleep)
      (hmux : w.mux = s.worker.mux) (hawake : phase ≠ .sleep) (hmoved : phase.moved? = none) :
      Remembers s₀ (s.wake w phase) := by
    refine ⟨fun hasleep => absurd hasleep hawake, fun _ => ?_, ?_⟩
    · rw [← h.asleep hsleep, ← hmux]
      rfl
    · intro moved hmem
      rw [show (s.wake w phase).phase.moved? = none from hmoved] at hmem
      contradiction
  cases e with
  | work => exact h.work hprocessed
  | wakeForRequest =>
      unfold Interplay.step
      dsimp only
      split
      next hsleep _ => exact hwake hsleep rfl nofun rfl
      next => exact h
  | wakeForSignal =>
      unfold Interplay.step
      dsimp only
      split
      next hdue => exact hwake hdue.1 rfl nofun rfl
      next => exact h
  | append bytes =>
      refine h.congr rfl rfl ?_
      exact congrArg (Marks.mk _) (Ring.head_publish _ bytes)
  | take =>
      unfold Interplay.step
      dsimp only
      split
      · exact h
      next packet ring htake =>
        exact h.congr rfl rfl (congrArg (Marks.mk · _) (Ring.tail_of_takePacket htake))
  | wait =>
      unfold Interplay.step Link.wait
      dsimp only
      split <;> exact h.congr rfl rfl rfl
  | _ => exact h.congr rfl rfl rfl

end Remembers

theorem processed_le_step (e : Step) : s.processed ≤ (s.step e).processed := by
  cases e with
  | work =>
      cases hphase : s.phase with
      | handleNext | receive | send | unmask =>
          simp only [step, work, hphase]
          split <;> simp
      | _ => simp [step, work, hphase]
  | wakeForRequest | wakeForSignal | take =>
      unfold step
      dsimp only
      split <;> exact Nat.le_refl _
  | _ => exact Nat.le_refl _

theorem processed_le_foldl_step (steps : List Step) :
    s.processed ≤ (steps.foldl step s).processed := by
  induction steps generalizing s with
  | nil => exact Nat.le_refl _
  | cons e steps ih => exact Nat.le_trans (processed_le_step e) ih

theorem Remembers.foldl_step (h : Remembers s₀ s) (steps : List Step)
    (hprocessed : (steps.foldl Interplay.step s).processed = s.processed) :
    Remembers s₀ (steps.foldl Interplay.step s) := by
  induction steps generalizing s with
  | nil => exact h
  | cons e steps ih =>
      have hfirst := processed_le_step (s := s) e
      have hrest := processed_le_foldl_step (s := s.step e) steps
      rw [List.foldl_cons] at hprocessed ⊢
      have hsame : (s.step e).processed = s.processed := by omega
      exact ih (h.step e hsame) (hprocessed.trans hsame.symm)

end Interplay

namespace Multiplexer

/-- What has moved since some moment shows exactly but for whole rounds of a ring: whoever compares
positions sees whether the number of bytes sent, and of bytes taken, is no multiple of its size.
What the worker is going to tell the peer shows, in the same way, what was sent and taken since it
slept, whatever the peer and its clients do meanwhile. -/
theorem shows_moved_since (config : Config) :
    (∀ before after, ∃ events,
      (run config (before ++ after)).chronicle = (run config before).chronicle ++ events ∧
        Shows ((run config (before ++ after)).movedSince (run config before).marks) events) ∧
    ∀ (bell : Doorbell) (inbox : List Request) (log : List Access)
      (before after : List Interplay.Step),
      let w : Worker := { mux := fresh config, bell, inbox, log }
      let s := Interplay.run w before
      let s' := Interplay.run w (before ++ after)
      s.phase = .sleep → s'.processed = s.processed → ∀ moved, s'.phase = .announce moved →
        ∃ events, s'.worker.mux.chronicle = s.worker.mux.chronicle ++ events ∧
          Shows moved events := by
  refine ⟨fun before after => ?_, fun bell inbox log before after => ?_⟩
  · have htallied := ((Tallied.fresh config).foldl_apply before).tallied
    rw [run_append]
    exact htallied.shows (htallied.foldl_apply after)
  · intro w s s' hsleep hprocessed moved hannounce
    have hs' : s' = after.foldl Interplay.step s := List.foldl_append
    have htallied : s.worker.mux.Tallied :=
      (Interplay.continues_foldl_step (Tallied.fresh config) before).tallied
    have hnow : Interplay.Remembers s s :=
      ⟨fun _ => rfl, fun hawake => absurd hsleep hawake, by simp [hsleep, Phase.moved?]⟩
    have hthen : Interplay.Remembers s s' := hs' ▸ hnow.foldl_step after (hs' ▸ hprocessed)
    obtain ⟨events, hevents, hshows⟩ :=
      htallied.shows (hs' ▸ Interplay.continues_foldl_step htallied after)
    refine ⟨events, hevents, ?_⟩
    rw [hthen.moved moved (by simp [hannounce, Phase.moved?]), hthen.awake (by simp [hannounce])]
    exact hshows

/-- The host takes two frames of 128 bytes, and sends two: by its positions it has not moved. A
worker that takes two such frames while it is awake has nothing to tell the peer. -/
theorem hidden_movement :
    let frame : Bytes := 125 :: 3 :: 9 :: List.replicate 125 0
    let connect (n : Nat) : Request := ⟨n, ⟨1, UInt8.ofNat n⟩, .connect (List.replicate 125 7)⟩
    let m := run {} [.publish frame, .poll, .publish frame, .poll, .submit (connect 0), .take,
      .submit (connect 1)]
    let worker : Worker := { mux := fresh {}, inbox := [⟨0, ⟨1, 255⟩, .reset⟩] }
    let s := Interplay.run worker ([.wakeForRequest, .work, .work, .work, .work, .work,
      .append frame, .work, .append frame, .work] ++ List.replicate 8 .work)
    bytesSent m.chronicle = 256 ∧ bytesTaken m.chronicle = 256 ∧
      m.movedSince (fresh {}).marks = {} ∧
      bytesTaken s.worker.mux.chronicle = 256 ∧ s.phase = .announce {} := by
  decide +kernel

end Multiplexer

end StreamLink
