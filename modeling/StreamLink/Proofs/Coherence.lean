import Mathlib.Algebra.GroupWithZero.Nat
import StreamLink.Proofs.Run

/-!
# Coherent sockets

A socket's flags, slots and chunks are changed a few at a time, by requests, by frames and by turns;
what they say of each other holds all the time. That the stream has not ended both ways and that the
chunks are within the limit holds whenever the multiplexer has done its work.

Main statement: `coherent_modest_run`.
-/

namespace StreamLink

/-- What a socket's flags, slots and chunks say of each other. -/
structure Socket.Coherent (s : Socket) : Prop where
  owes : s.flags.closed = true ↔ s.flags.owesReset = true
  closed : s.flags.closed = true → s.parked = [] ∧ s.chunks = []
  sent : s.flags.eosSent = true → s.flags.eosFromCaller = true
  delivered : s.flags.eosDelivered = true → s.flags.eosFromPeer = true
  connect : ∀ r ∈ s.pendingConnect, (∃ service, r.command = .connect service) ∧
    s.pendingRead = none ∧ s.pendingWrite = none ∧ s.flags.eosFromCaller = false
  read : ∀ r ∈ s.pendingRead, (∃ capacity, r.command = .read capacity) ∧
    s.chunks = [] ∧ s.flags.eosFromPeer = false
  write : ∀ r ∈ s.pendingWrite, (∃ data, r.command = .write data) ∨ r.command = .eos
  ending : s.flags.closed = false → ((∃ r ∈ s.pendingWrite, r.command = .eos) ↔
    s.flags.eosFromCaller = true ∧ s.flags.eosSent = false)
  buffered : s.queuedBytes = (s.chunks.map List.length).sum

namespace Socket

theorem coherent_opening (stream : UInt8) {r : Request} {service : Bytes}
    (hr : r.command = .connect service) : (opening stream r).Coherent where
  owes := by simp [opening]
  closed := by simp [opening]
  sent := by simp [opening]
  delivered := by simp [opening]
  connect := by
    rintro _ ⟨⟩
    exact ⟨⟨service, hr⟩, rfl, rfl, rfl⟩
  read := by simp [opening]
  write := by simp [opening]
  ending := by simp [opening]
  buffered := rfl

namespace Coherent

variable {s : Socket} {r : Request}

/-- Nothing waits on a closed socket. -/
theorem isOpen (h : s.Coherent) (hr : r ∈ s.parked) : s.flags.closed = false := by
  by_contra hclosed
  rw [(h.closed (by simpa using hclosed)).1] at hr
  contradiction

theorem lingering (h : s.Coherent) : s.lingering.Coherent where
  owes := by simp [Socket.lingering, abort]
  closed := fun _ => ⟨rfl, rfl⟩
  sent := h.sent
  delivered := h.delivered
  connect := by rintro _ ⟨⟩
  read := by rintro _ ⟨⟩
  write := by rintro _ ⟨⟩
  ending := by
    intro hopen
    contradiction
  buffered := rfl

theorem popChunk? (h : s.Coherent) {rest : Socket} {data : Bytes} (hread : s.pendingRead = none)
    (hpop : s.popChunk? = some (data, rest)) : rest.Coherent := by
  have hbuffered := h.buffered
  have hclosed := h.closed
  unfold Socket.popChunk? at hpop
  split at hpop
  · contradiction
  next first chunks hchunks =>
    rw [hchunks] at hbuffered hclosed
    obtain ⟨rfl, rfl⟩ := Prod.mk.inj (Option.some.inj hpop)
    refine { h with closed := ?_, read := ?_, buffered := ?_ }
    · intro hover
      exact absurd (hclosed hover).2 (by simp)
    · intro r hr
      rw [hread] at hr
      contradiction
    · simp [hbuffered]

/-- A chunk is kept when no read waits. -/
theorem pushChunk (h : s.Coherent) (hopen : s.flags.closed = false) (hread : s.pendingRead = none)
    (data : Bytes) : (s.pushChunk data).Coherent := by
  refine { h with closed := ?_, read := ?_, buffered := ?_ }
  · intro hclosed
    exact absurd (hopen.symm.trans hclosed) (by simp)
  · intro r hr
    exact absurd (hread.symm.trans hr) (by simp)
  · simp [Socket.pushChunk, h.buffered]

/-- A read may wait while there is nothing to hand out and the peer goes on. -/
theorem readWait (h : s.Coherent) {capacity : Nat} (hr : r.command = .read capacity)
    (hopen : s.flags.closed = false) (hconnect : s.pendingConnect = none) (hchunks : s.chunks = [])
    (heos : s.flags.eosFromPeer = false) : Coherent { s with pendingRead := some r } := by
  refine { h with closed := ?_, connect := ?_, read := ?_ }
  · intro hclosed
    exact absurd (hopen.symm.trans hclosed) (by simp)
  · intro r hr
    exact absurd (hconnect.symm.trans hr) (by simp)
  · rintro _ ⟨⟩
    exact ⟨⟨capacity, hr⟩, hchunks, heos⟩

/-- A read that waited is answered, and the peer may have ended. -/
theorem readDone (h : s.Coherent) (hopen : s.flags.closed = false) {eosFromPeer eosDelivered : Bool}
    (heos : eosDelivered = true → eosFromPeer = true) :
    Coherent { s with
      flags := { s.flags with eosFromPeer := eosFromPeer, eosDelivered := eosDelivered }
      pendingRead := none } := by
  refine { h with closed := ?_, delivered := heos, connect := ?_, read := nofun }
  · intro hclosed
    exact absurd (hopen.symm.trans hclosed) (by simp)
  · intro r hr
    obtain ⟨hservice, -, hrest⟩ := h.connect r hr
    exact ⟨hservice, rfl, hrest⟩

/-- The end of the stream is remembered, or told, while no read waits. -/
theorem peerEnded (h : s.Coherent) (hread : s.pendingRead = none)
    {eosFromPeer eosDelivered : Bool} (heos : eosDelivered = true → eosFromPeer = true) :
    Coherent { s with
      flags := { s.flags with eosFromPeer := eosFromPeer, eosDelivered := eosDelivered } } := by
  refine { h with delivered := heos, read := ?_ }
  intro r hr
  exact absurd (hread.symm.trans hr) (by simp)

theorem connected (h : s.Coherent) (hopen : s.flags.closed = false) :
    Coherent { s with pendingConnect := none } := by
  refine { h with closed := ?_, connect := nofun }
  intro hclosed
  exact absurd (hopen.symm.trans hclosed) (by simp)

/-- What a connected socket has to send, and whether it has said that it ends. -/
theorem sending (h : s.Coherent) (hopen : s.flags.closed = false)
    (hconnect : s.pendingConnect = none) {pendingWrite : Option Request}
    {eosFromCaller eosSent : Bool}
    (hsent : eosSent = true → eosFromCaller = true)
    (hwrite : ∀ r ∈ pendingWrite, (∃ data, r.command = .write data) ∨ r.command = .eos)
    (hending : (∃ r ∈ pendingWrite, r.command = .eos) ↔ eosFromCaller = true ∧ eosSent = false) :
    Coherent { s with
      flags := { s.flags with eosFromCaller := eosFromCaller, eosSent := eosSent }
      pendingWrite := pendingWrite } := by
  refine { h with
    closed := ?_, sent := hsent, connect := ?_, write := hwrite, ending := fun _ => hending }
  · intro hclosed
    exact absurd (hopen.symm.trans hclosed) (by simp)
  · intro r hr
    exact absurd (hconnect.symm.trans hr) (by simp)

/-- What waits where a write or an end of stream waits, and is no write, is an end of stream. -/
theorem eos_of_pendingWrite (h : s.Coherent) (hwrite : s.pendingWrite = some r)
    (hr : ∀ data, r.command ≠ .write data) : r.command = .eos := by
  rcases h.write r hwrite with ⟨data, hdata⟩ | heos
  · exact absurd hdata (hr data)
  · exact heos

/-- An open socket that has not said that it ends, or whose end was sent, waits with no end. -/
theorem not_ending (h : s.Coherent) (hopen : s.flags.closed = false)
    (hwrite : ∀ r ∈ s.pendingWrite, r.command ≠ .eos) :
    ¬ (s.flags.eosFromCaller = true ∧ s.flags.eosSent = false) := by
  rw [← h.ending hopen]
  rintro ⟨r, hr, heos⟩
  exact hwrite r hr heos

end Coherent

end Socket

/-- Every step leaves a coherent socket coherent. -/
theorem SocketStep.coherent {stream : UInt8} {s? s?' : Option Socket} {turns : List Nat}
    {turn : Turn} {events : List Event} (h : SocketStep stream s? turns turn events s?')
    (hs : ∀ s ∈ s?, s.Coherent) : ∀ s ∈ s?', s.Coherent := by
  cases h with
  | idle => exact hs
  | refuse => exact hs
  | ignore => exact hs
  | garble => exact hs
  | openNow hr | openLater hr =>
      rintro _ ⟨⟩
      exact Socket.coherent_opening stream hr
  | readChunk _ _ _ hread hpop =>
      rintro _ ⟨⟩
      exact (hs _ rfl).popChunk? hread hpop
  | readEnd _ _ _ hread _ heos =>
      rintro _ ⟨⟩
      exact (hs _ rfl).peerEnded hread fun _ => heos
  | readWait hr hopen hconnect _ hchunks heos =>
      rintro _ ⟨⟩
      exact (hs _ rfl).readWait hr hopen.2 hconnect hchunks heos
  | writeNow => exact hs
  | writeLater hr hopen hfree =>
      obtain ⟨hconnect, -, hcaller⟩ := Socket.writeConflicts_eq_false_iff.mp hfree
      rintro _ ⟨⟩
      refine (hs _ rfl).sending hopen.2 hconnect (hs _ rfl).sent ?_ ?_
      · rintro _ ⟨⟩
        exact .inl ⟨_, hr⟩
      · simp [hr, hcaller]
  | endNow hr hopen hfree =>
      obtain ⟨hconnect, hwrite, -⟩ := Socket.writeConflicts_eq_false_iff.mp hfree
      rintro _ ⟨⟩
      exact (hs _ rfl).sending hopen.2 hconnect (fun _ => rfl) (hs _ rfl).write (by simp [hwrite])
  | @endLater s _ r hr hopen hfree =>
      obtain ⟨hconnect, -, hcaller⟩ := Socket.writeConflicts_eq_false_iff.mp hfree
      have hsent : s.flags.eosSent = false := by
        by_contra hsent
        have := (hs s rfl).sent (by simpa using hsent)
        simp [hcaller] at this
      rintro _ ⟨⟩
      refine (hs _ rfl).sending hopen.2 hconnect (fun _ => rfl) ?_ ?_
      · rintro _ ⟨⟩
        exact .inr hr
      · simp [hr, hsent]
  | connected _ _ _ hopen =>
      rintro _ ⟨⟩
      exact (hs _ rfl).connected hopen
  | dataRead _ _ hopen =>
      rintro _ ⟨⟩
      exact (hs _ rfl).readDone hopen (hs _ rfl).delivered
  | dataKept _ _ hopen hread =>
      rintro _ ⟨⟩
      exact (hs _ rfl).pushChunk hopen hread _
  | endRead _ _ hopen =>
      rintro _ ⟨⟩
      exact (hs _ rfl).readDone hopen fun _ => rfl
  | endKept _ _ _ hread =>
      rintro _ ⟨⟩
      exact (hs _ rfl).peerEnded hread fun _ => rfl
  | closeLater =>
      rintro _ ⟨⟩
      exact (hs _ rfl).lingering
  | serveConnect => exact hs
  | serveWrite hconnect hwrite hr =>
      have hopen := (hs _ rfl).isOpen (Socket.mem_parked.mpr (.inr (.inr hwrite)))
      have hnot := (hs _ rfl).not_ending hopen (by simp [hwrite, hr])
      rintro _ ⟨⟩
      exact (hs _ rfl).sending hopen hconnect (hs _ rfl).sent nofun (by simpa using hnot)
  | @serveEnd s _ _ r hconnect hwrite hr =>
      have hopen := (hs s rfl).isOpen (Socket.mem_parked.mpr (.inr (.inr hwrite)))
      have heos := (hs s rfl).eos_of_pendingWrite hwrite hr
      have hcaller := (((hs s rfl).ending hopen).mp ⟨r, hwrite, heos⟩).1
      rintro _ ⟨⟩
      exact (hs _ rfl).sending hopen hconnect (fun _ => hcaller) nofun (by simp)
  | serveIdle => exact hs
  | rejected | closeQuietly | closeNow | serveReset | serveStray => rintro _ ⟨⟩

namespace Multiplexer

/-- A move leaves coherent sockets coherent. -/
theorem Move.coherent {m m' : Multiplexer} {stream : UInt8} {turn : Turn} {events : List Event}
    (h : Move m stream turn events m')
    (hm : ∀ stream, ∀ s ∈ m.sockets.get? stream, s.Coherent) :
    ∀ stream, ∀ s ∈ m'.sockets.get? stream, s.Coherent :=
  h.forall_streams (p := fun _ s? _ => ∀ s ∈ s?, s.Coherent) hm h.step.coherent

theorem coherent_run (config : Config) (operations : List Operation) (stream : UInt8) :
    ∀ s ∈ (run config operations).sockets.get? stream, s.Coherent := by
  refine (leads_run config operations).induct
    (p := fun m => ∀ stream, ∀ s ∈ m.sockets.get? stream, s.Coherent) (by simp) ?_ stream
  exact fun hmove hm => hmove.coherent hm

/-- Between operations every resident socket is coherent, has not ended both ways, and buffers no
more than the configuration lets it. -/
theorem coherent_modest_run (config : Config) (operations : List Operation) {s : Socket}
    (hs : s ∈ (run config operations).sockets.sockets) :
    s.Coherent ∧ s.Modest config.maxReceiveQueueBytes := by
  have hget := (distinct_run config operations).get?_eq_some hs
  have hmodest := modest_run config operations s.stream s hget
  rw [config_run] at hmodest
  exact ⟨coherent_run config operations s.stream s hget, hmodest⟩

/-- Both ends of the stream were said, and there is something left to read. -/
theorem coherent_modest_of_unread_end :
    let s : Socket :=
      { stream := 1
        address := ⟨1, 1⟩
        flags := { eosFromPeer := true, eosFromCaller := true, eosSent := true }
        chunks := [[7, 8], [9]]
        queuedBytes := 3 }
    let operations : List Operation := [.submit ⟨0, ⟨1, 1⟩, .connect [101]⟩, .publish [1, 2, 1, 0],
      .poll, .publish [2, 3, 1, 7, 8, 1, 3, 1, 9, 0, 4, 1], .submit ⟨1, ⟨1, 1⟩, .eos⟩, .poll]
    s ∈ (run { maxReceiveQueueBytes := 4 } operations).sockets.sockets ∧
      s.Coherent ∧ s.Modest 4 := by
  intro s operations
  have hs : s ∈ (run { maxReceiveQueueBytes := 4 } operations).sockets.sockets := by
    decide +kernel
  exact ⟨hs, coherent_modest_run { maxReceiveQueueBytes := 4 } operations hs⟩

end Multiplexer

end StreamLink
