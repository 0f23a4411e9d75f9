import StreamLink.Proofs.Deliveries

/-!
# What a stream's readers receive

Whatever the peer sends and whenever the owners read, a stream's readers are handed the payloads that
arrived, whole, in order and each once: while the socket is open, what was handed out and what is in
the chunks is what arrived, and after that nothing more is handed out. A read is told that the stream
has ended only after the peer ended it, when there is nothing left to hand out.

Main statement: `inbound_order`.
-/

namespace StreamLink

/-! ### Lives -/

/-- Whether the readers were handed no more than what arrived, in order. -/
def Life.Faithful (stream : UInt8) (life : Life) : Prop :=
  deliveriesAt life.request.address life.events <+: payloadsOn stream life.events

/-- What a life that goes on tells of the stream's socket. -/
structure Life.Buffers (stream : UInt8) (life : Life) (s : Socket) : Prop where
  address : life.request.address = s.address
  faithful : life.Faithful stream
  buffered : s.flags.closed = false →
    payloadsOn stream life.events = deliveriesAt s.address life.events ++ s.chunks
  ended : s.flags.eosFromPeer = true → EndsIn stream life.events

namespace Life

variable {stream : UInt8} {life : Life} {s s' : Socket} {turns : List Nat} {turn : Turn}
  {events rest : List Event}

/-- A life that has just begun. -/
theorem buffers_opened {r : Request}
    (h : SocketStep stream none turns turn (.submitted r :: .opened stream r :: rest) (some s')) :
    Buffers stream ⟨r, rest, false⟩ s' := by
  generalize hevents : Event.submitted r :: .opened stream r :: rest = events at h
  cases h with
  | openNow | openLater =>
      injection hevents with hr hevents
      injection hevents with _ hrest
      injection hr with hr
      subst hr hrest
      exact ⟨rfl, by simp [Faithful], fun _ => by simp [Socket.opening], nofun⟩

/-- What nobody is handed anything in leaves a life faithful. -/
theorem Faithful.append (h : life.Faithful stream)
    (hnone : deliveriesAt life.request.address events = []) :
    Faithful stream { life with events := life.events ++ events } := by
  rw [Faithful, deliveriesAt_append, hnone, List.append_nil, payloadsOn_append]
  exact h.trans (List.prefix_append _ _)

namespace Buffers

theorem step (h : life.Buffers stream s)
    (hstep : SocketStep stream (some s) turns turn events (some s'))
    (htidy : s.Tidy) (hsorted : s.Sorted) :
    Buffers stream { life with events := life.events ++ events } s' := by
  obtain ⟨hopened, hclosed⟩ := hstep.deliveries htidy hsorted
  have haddress := hstep.address_eq
  have hbuffered : s'.flags.closed = false → payloadsOn stream (life.events ++ events) =
      deliveriesAt s'.address (life.events ++ events) ++ s'.chunks := by
    intro hopen
    obtain ⟨hopen, heq⟩ := hopened hopen
    rw [payloadsOn_append, h.buffered hopen, haddress, deliveriesAt_append, List.append_assoc, heq,
      List.append_assoc]
  refine ⟨h.address.trans haddress.symm, ?_, hbuffered, ?_⟩
  · cases hflag : s'.flags.closed with
    | false =>
        rw [Faithful, h.address, ← haddress, hbuffered hflag]
        exact List.prefix_append _ _
    | true => exact h.faithful.append (h.address ▸ hclosed hflag)
  · intro hended
    rcases hstep.endsIn hended with hended | hended
    · exact (h.ended hended).append_left events
    · exact hended.append_right life.events

/-- What is done elsewhere leaves a life as it is. -/
theorem elsewhere (h : life.Buffers stream s) (hpayloads : payloadsOn stream events = [])
    (hdeliveries : deliveriesAt s.address events = []) :
    Buffers stream { life with events := life.events ++ events } s where
  address := h.address
  faithful := h.faithful.append (h.address ▸ hdeliveries)
  buffered := by
    intro hopen
    rw [payloadsOn_append, hpayloads, List.append_nil, deliveriesAt_append, hdeliveries,
      List.append_nil, h.buffered hopen]
  ended := fun hended => (h.ended hended).append_left events

end Buffers

end Life

/-! ### Reads -/

/-- Whether a read may be answered so after these events. If it succeeds, it gets no more than it
asked for, and what it gets is the first of the payloads that arrived for its socket and were not
handed out before. If it is told of the end, the peer ended the stream, and everything that arrived
for its socket was handed out before. -/
structure ReadFounded (early : List Event) (r : Request) (c : Completion) : Prop where
  ok : c.status = .ok → c.data.length ≤ r.command.capacity ∧
    ∃ stream, ∃ life ∈ livesOn stream early, ∃ rest, life.retired = false ∧
      life.request.address = r.address ∧
      payloadsOn stream life.events = deliveriesAt r.address life.events ++ c.data :: rest
  ended : c.status = .readEos → ∃ stream, ∃ life ∈ livesOn stream early, life.retired = false ∧
    life.request.address = r.address ∧ EndsIn stream life.events ∧
    payloadsOn stream life.events = deliveriesAt r.address life.events

theorem Socket.Serves.founded {stream : UInt8} {chronicle : List Event} {past : List Life}
    {life : Life} {s : Socket} {r : Request} {e : Event} {c : Completion}
    (h : s.Serves stream r e c) (hopen : s.OpenFor r)
    (hlives : livesOn stream chronicle = past ++ [life]) (hover : ∀ life ∈ past, life.retired = true)
    (hongoing : life.retired = false) (hlife : life.Buffers stream s) :
    ReadFounded (chronicle ++ [e]) r c := by
  have hquiet : [e].any (Event.bounds stream) = false := by cases h <;> rfl
  have hmem : { life with events := life.events ++ [e] } ∈ livesOn stream (chronicle ++ [e]) := by
    rw [livesOn_append_ongoing hlives hover hongoing hquiet]
    simp
  have hdeliveries : deliveriesAt r.address (life.events ++ [e]) =
      deliveriesAt r.address life.events := by
    rw [deliveriesAt_append]
    cases h <;> simp
  have hpayloads : payloadsOn stream (life.events ++ [e]) =
      deliveriesAt r.address (life.events ++ [e]) ++ (s.chunks ++ payloadsOn stream [e]) := by
    rw [hdeliveries, payloadsOn_append, hlife.buffered hopen.2, ← hopen.1, List.append_assoc]
  have haddress : life.request.address = r.address := hlife.address.trans hopen.1
  cases h with
  | @chunk data rest hchunks hfits =>
      refine ⟨fun _ => ⟨hfits, stream, _, hmem, rest, hongoing, haddress, ?_⟩,
        fun hended => by cases hended⟩
      rw [hpayloads, hchunks]
      simp [Completion.read]
  | payload hchunks hf hkind hfits =>
      refine ⟨fun _ => ⟨hfits, stream, _, hmem, [], hongoing, haddress, ?_⟩,
        fun hended => by cases hended⟩
      rw [hpayloads, hchunks]
      simp [hf, hkind, Completion.read]
  | ended hchunks heos =>
      refine ⟨fun hok => (by cases hok), fun _ => ⟨stream, _, hmem, hongoing, haddress, ?_, ?_⟩⟩
      · exact (hlife.ended heos).append_left _
      · rw [hpayloads, hchunks]
        simp
  | ending hchunks hf hkind =>
      refine ⟨fun hok => (by cases hok), fun _ => ⟨stream, _, hmem, hongoing, haddress, ?_, ?_⟩⟩
      · exact ⟨_, by simp, hf, hkind⟩
      · rw [hpayloads, hchunks]
        simp [hkind]

/-! ### Runs -/

namespace Multiplexer

variable {m m' : Multiplexer}

/-- The readers of every stream are handed what arrives. -/
structure Receiving (m : Multiplexer) : Prop where
  balanced : m.Balanced
  sorted : ∀ stream, ∀ s ∈ m.sockets.get? stream, s.Sorted
  accounts : ∀ stream, Accounts stream (Life.Faithful stream) (Life.Buffers stream) m.chronicle
    (m.sockets.get? stream)
  founded : ∀ early late r c, m.chronicle = early ++ .answered r c :: late →
    r.command.isRead = true → ReadFounded early r c

namespace Receiving

variable {stream : UInt8} {turn : Turn} {events : List Event}

theorem accounts_move (h : m.Receiving) (hmove : Move m stream turn events m') (other : UInt8) :
    Accounts other (Life.Faithful other) (Life.Buffers other) m'.chronicle
      (m'.sockets.get? other) := by
  have htidy := h.balanced.tidy stream
  have hsorted := h.sorted stream
  refine hmove.accounts (fun other _ => Life.Buffers other) h.accounts ?_ ?_ ?_ ?_ other
  · intro r rest s' hstep
    exact Life.buffers_opened hstep
  · intro life s s' hs hstep hlife
    exact hlife.step hstep (htidy s hs) (hsorted s hs)
  · intro life rest s hs hnone hevents hlife
    have hstep := hmove.step
    rw [hs, hnone] at hstep
    have hdeliveries := hstep.deliveriesAt_over life.request.address
    rw [hevents, deliveriesAt_append] at hdeliveries
    exact hlife.faithful.append (List.append_eq_nil_iff.mp hdeliveries).1
  · intro other life s hne hs hlife
    refine hlife.elsewhere (hmove.step.payloadsOn_elsewhere hne) ?_
    exact hmove.step.deliveriesAt_elsewhere htidy fun s' hs' =>
      h.balanced.distinct.address_ne hne hs' hs

/-- A read that a move answers is answered as it should. -/
theorem founded_of_step (h : m.Receiving) (hmove : Move m stream turn events m')
    {early late : List Event} {r : Request} {c : Completion}
    (hevents : events = early ++ .answered r c :: late) (hr : r.command.isRead = true) :
    ReadFounded (m.chronicle ++ early) r c := by
  by_cases hserves : (Event.answered r c).servesRead = true
  · obtain ⟨s, e, hs, hopen, rfl, hserved⟩ :=
      hmove.step.serves (h.balanced.tidy stream) (h.sorted stream) hevents hserves
    have haccounts := h.accounts stream
    rw [hs] at haccounts
    cases haccounts with
    | during hlives hpast hongoing hlife =>
        exact hserved.founded hopen hlives (fun life hlife => (hpast life hlife).1) hongoing hlife
  · simp only [Event.servesRead, hr, Bool.true_and, Bool.or_eq_true, beq_iff_eq, not_or] at hserves
    exact ⟨fun hok => absurd hok hserves.1, fun heos => absurd heos hserves.2⟩

theorem move (h : m.Receiving) (hmove : Move m stream turn events m') : m'.Receiving where
  balanced := h.balanced.move hmove
  sorted := by
    refine hmove.forall_streams (p := fun _ s? _ => ∀ s ∈ s?, s.Sorted) h.sorted ?_
    exact hmove.step.sorted
  accounts := h.accounts_move hmove
  founded := by
    rw [hmove.chronicle_eq]
    intro early late r c heq hr
    rcases split_append heq with ⟨rest, hpast⟩ | ⟨rest, rfl, hevents⟩
    · exact h.founded early rest r c hpast hr
    · exact h.founded_of_step hmove hevents hr

theorem fresh (config : Config) : (Multiplexer.fresh config).Receiving where
  balanced := balanced_fresh config
  sorted := by
    intro stream s hs
    rw [get?_fresh] at hs
    contradiction
  accounts := by
    intro stream
    exact .between nofun
  founded := by
    intro early late r c heq
    simp [Multiplexer.fresh, chronicle] at heq

end Receiving

theorem receiving_run (config : Config) (operations : List Operation) :
    (run config operations).Receiving :=
  (leads_run config operations).induct (.fresh config) fun hmove h => h.move hmove

/-- Whatever happens, the readers of every stream are handed what arrives, in order. In every life of
a stream what they were handed is a first part of the payloads that arrived. While the socket is open,
the payloads that arrived are those that were handed out, followed by the chunks. And every read is
answered as it should be when it is answered. -/
theorem inbound_order (config : Config) (operations : List Operation) :
    let m := run config operations
    (∀ stream, ∀ life ∈ livesOn stream m.chronicle,
      deliveriesAt life.request.address life.events <+: payloadsOn stream life.events) ∧
    (∀ stream, ∀ s ∈ m.sockets.get? stream, s.flags.closed = false →
      ∃ past life, livesOn stream m.chronicle = past ++ [life] ∧ life.retired = false ∧
        life.request.address = s.address ∧
        payloadsOn stream life.events = deliveriesAt s.address life.events ++ s.chunks) ∧
    (∀ early late r c, m.chronicle = early ++ .answered r c :: late → r.command.isRead = true →
      ReadFounded early r c) := by
  have h := receiving_run config operations
  refine ⟨fun stream => ?_, fun stream s hs hopen => ?_, h.founded⟩
  · have haccounts := h.accounts stream
    generalize (run config operations).sockets.get? stream = s? at haccounts
    cases haccounts with
    | between hpast => exact fun life hlife => (hpast life hlife).2
    | during hlives hpast _ hlife =>
        rw [hlives]
        intro life hmem
        rcases List.mem_append.mp hmem with hmem | hmem
        · exact (hpast life hmem).2
        · rw [List.mem_singleton.mp hmem]
          exact hlife.faithful
  · have haccounts := h.accounts stream
    rw [hs] at haccounts
    cases haccounts with
    | during hlives _ hongoing hlife =>
        exact ⟨_, _, hlives, hongoing, hlife.address, hlife.buffered hopen⟩

/-- A payload that is read from the chunks, one that a read waited for, and one that nobody has read;
then the peer ends the stream. -/
theorem inbound_order_of_both_ways :
    let operations := [.submit ⟨0, ⟨1, 1⟩, .connect [101]⟩, .publish [1, 2, 1, 0], .poll,
      .publish [2, 3, 1, 10, 11], .poll, .submit ⟨1, ⟨1, 1⟩, .read 8⟩, .submit ⟨2, ⟨1, 1⟩, .read 1⟩,
      .publish [1, 3, 1, 12, 1, 3, 1, 13, 0, 4, 1], .poll]
    let m := run {} operations
    deliveriesAt ⟨1, 1⟩ m.chronicle = [[10, 11], [12]] ∧
      (∀ life ∈ livesOn 1 m.chronicle,
        deliveriesAt life.request.address life.events <+: payloadsOn 1 life.events) ∧
      ∃ s ∈ m.sockets.get? 1, s.flags.closed = false ∧ s.chunks = [[13]] ∧
        ∃ past life, livesOn 1 m.chronicle = past ++ [life] ∧ life.retired = false ∧
          life.request.address = s.address ∧
          payloadsOn 1 life.events = deliveriesAt s.address life.events ++ s.chunks := by
  intro operations m
  obtain ⟨hlives, hbuffered, -⟩ := inbound_order {} operations
  have hsocket : (m.sockets.get? 1).map (fun s => (s.flags.closed, s.chunks)) =
      some (false, [[13]]) := by decide +kernel
  obtain ⟨s, hs, heq⟩ := Option.map_eq_some_iff.mp hsocket
  obtain ⟨hopen, hchunks⟩ := Prod.mk.inj heq
  exact ⟨by decide +kernel, hlives 1, s, hs, hopen, hchunks, hbuffered 1 s hs hopen⟩

end Multiplexer

end StreamLink
