import StreamLink.Proofs.Directory
import StreamLink.Proofs.Endings
import StreamLink.Proofs.LateData
import StreamLink.Proofs.Misuse

/-!
# A stream that ends both ways

A stream is over when a read was told of the peer's end and the owner's end was sent, whichever
comes first. The socket goes with the second of the two, and nobody is hurt: only the request that
brought it about is answered, and as it should be; the peer is sent no Reset; and the chunks that are
lost, if there are any, arrived after the peer's end.

The socket takes one turn of its stream with it. That is all there is, unless the stream was given a
second turn before: then a turn stays in the send queue although the socket is gone.

Main statements: `ends_both_ways_cleanly` and `clean_end_leaves_turn`.
-/

namespace StreamLink

/-! ### The end of one direction -/

/-- How one direction of a socket's stream ends: what becomes of the socket, what happens to its
turn, and the events. -/
inductive Socket.Ends (s : Socket) : (Socket → Socket) → Turn → List Event → Prop
  -- The peer's end reaches a read that waits, or is there when a read comes.
  | awaited {f : Frame} {r : Request} (hf : f.stream = s.stream)
      (hkind : PacketKind.ofCode? f.kind = some .eos) (hopen : s.flags.closed = false)
      (hread : s.pendingRead = some r) :
      Ends s (fun s => { s with
        flags := { s.flags with eosFromPeer := true, eosDelivered := true }, pendingRead := none })
        .keep [.received f, .answered r (.ofStatus .readEos)]
  | found {r : Request} {capacity : Nat} (hr : r.command = .read capacity) (hopen : s.OpenFor r)
      (hchunks : s.chunks = []) (heos : s.flags.eosFromPeer = true) :
      Ends s (fun s => { s with flags := { s.flags with eosDelivered := true } }) .keep
        [.submitted r, .answered r (.ofStatus .readEos)]
  -- The owner's end goes out at once, or its turn comes.
  | sentNow {r : Request} (hr : r.command = .eos) (hopen : s.OpenFor r) :
      Ends s (fun s => { s with
        flags := { s.flags with eosFromCaller := true, eosSent := true } }) .bypass
        [.submitted r, .accepted .eos s.stream [], .sent .eos s.stream [],
          .answered r (.ofStatus .ok)]
  | sentLater {r : Request} {n : Nat} (hwrite : s.pendingWrite = some r) (hr : r.command = .eos) :
      Ends s (fun s => { s with
        pendingWrite := none, flags := { s.flags with eosSent := true } }) (.serve n)
        [.sent .eos s.stream [], .answered r (.ofStatus .ok)]

/-- Whether both directions of a socket's stream have ended after these events: a read was told of
the peer's end and the owner's end was sent, either of them now or before. -/
structure EndedBothWays (s : Socket) (events : List Event) : Prop where
  told : s.flags.eosDelivered = true ∨ ToldEnd s.address events
  sent : s.flags.eosSent = true ∨ .sent .eos s.stream [] ∈ events

/-- Whether a direction ends with the event. -/
def Event.isEnding : Event → Bool
  | answered _ c => c.status == .readEos
  | sent .eos _ _ => true
  | _ => false

/-- Only the events that end a direction matter. -/
theorem EndedBothWays.mono {s : Socket} {events events' : List Event} (h : EndedBothWays s events)
    (hsub : ∀ e ∈ events, e.isEnding = true → e ∈ events') : EndedBothWays s events' where
  told := by
    refine h.told.imp_right ?_
    rintro ⟨r, capacity, hmem, hr⟩
    exact ⟨r, capacity, hsub _ hmem rfl, hr⟩
  sent := h.sent.imp_right fun hmem => hsub _ hmem rfl

theorem EndedBothWays.exchanged {s : Socket} (h : EndedBothWays s []) :
    s.flags.eosExchanged = true := by
  have htold : s.flags.eosDelivered = true := h.told.resolve_right fun ⟨_, _, hmem, _⟩ => by
    contradiction
  have hsent : s.flags.eosSent = true := h.sent.resolve_right List.not_mem_nil
  rw [SocketFlags.eosExchanged, htold, hsent]
  rfl

namespace Socket.Ends

variable {s s' : Socket} {f : Socket → Socket} {turn : Turn} {events : List Event}

/-- Who is told of the peer's end reads on the socket, which knows of it from then on. -/
theorem of_toldEnd (h : s.Ends f turn events) (htidy : s.Tidy) {address : Address}
    (htold : ToldEnd address events) :
    s.address = address ∧ (f s).flags.eosDelivered = true ∧
      (f s).flags.eosSent = s.flags.eosSent := by
  obtain ⟨r', capacity, hmem, haddress, -⟩ := htold
  cases h with
  | awaited _ _ _ hread =>
      obtain rfl : r' = _ := by simpa [Completion.ofStatus] using hmem
      exact ⟨(htidy.address_of_read hread).symm.trans haddress, rfl, rfl⟩
  | found _ hopen =>
      obtain rfl : r' = _ := by simpa [Completion.ofStatus] using hmem
      exact ⟨hopen.1.trans haddress, rfl, rfl⟩
  | sentNow | sentLater => simp [Completion.ofStatus] at hmem

/-- The owner's end is sent on the socket's stream, and the socket knows of it from then on. -/
theorem of_sent (h : s.Ends f turn events) {stream : UInt8}
    (hsent : .sent .eos stream [] ∈ events) :
    s.stream = stream ∧ (f s).flags.eosSent = true ∧
      (f s).flags.eosDelivered = s.flags.eosDelivered := by
  cases h with
  | awaited | found => simp at hsent
  | sentNow | sentLater =>
      have hstream : stream = s.stream := by simpa using hsent
      exact ⟨hstream.symm, rfl, rfl⟩

/-- If it is the second end, it is one of the same socket, which knows of both then. -/
theorem exchanged (h : s.Ends f turn events) (htidy : s.Tidy)
    (hsame : s.address = s'.address ∨ s.stream = s'.stream → s = s')
    (hbefore : s'.flags.eosExchanged = false) (hended : EndedBothWays s' events) :
    s = s' ∧ (f s).flags.eosExchanged = true := by
  simp only [SocketFlags.eosExchanged, Bool.and_eq_true, Bool.and_eq_false_iff] at hbefore ⊢
  rcases hended.told with htold | htold
  · -- The reader was told before, so the owner's end is the one that is sent now.
    have hmem : .sent .eos s'.stream [] ∈ events := by
      refine hended.sent.resolve_left fun hsent => ?_
      rcases hbefore with hbefore | hbefore <;> simp_all
    obtain ⟨hstream, hsent, hkept⟩ := h.of_sent hmem
    obtain rfl := hsame (.inr hstream)
    exact ⟨rfl, hkept.trans htold, hsent⟩
  · obtain ⟨haddress, hdelivered, hkept⟩ := h.of_toldEnd htidy htold
    obtain rfl := hsame (.inl haddress)
    refine ⟨rfl, hdelivered, ?_⟩
    -- An event that tells a reader sends nothing.
    rcases hended.sent with hsent | hmem
    · exact hkept.trans hsent
    · exact (h.of_sent hmem).2.1

/-- One request is answered, and not as if the stream had been given up. It is the only one that no
longer waits. -/
theorem completions (h : s.Ends f turn events) :
    ∃ r status, (status = .readEos ∨ status = .ok) ∧
      completionsIn events = [(r, .ofStatus status)] ∧
      ∀ q ∈ s.parked, q = r ∨ q ∈ (f s).parked := by
  simp only [Socket.mem_parked]
  cases h with
  | awaited _ _ _ hread =>
      refine ⟨_, _, .inl rfl, rfl, ?_⟩
      rintro q (hq | hq | hq)
      · exact .inr (.inl hq)
      · exact .inl (Option.some.inj (hq.symm.trans hread))
      · exact .inr (.inr (.inr hq))
  | found => exact ⟨_, _, .inl rfl, rfl, fun _ => .inr⟩
  | sentNow => exact ⟨_, _, .inr rfl, rfl, fun _ => .inr⟩
  | sentLater hwrite =>
      refine ⟨_, _, .inr rfl, rfl, ?_⟩
      rintro q (hq | hq | hq)
      · exact .inr (.inl hq)
      · exact .inr (.inr (.inl hq))
      · exact .inl (Option.some.inj (hq.symm.trans hwrite))

theorem chunks_eq (h : s.Ends f turn events) : (f s).chunks = s.chunks := by
  cases h <;> rfl

theorem isOpen (h : s.Ends f turn events) (hcoherent : s.Coherent) :
    (f s).flags.closed = false := by
  cases h with
  | awaited _ _ hopen => exact hopen
  | found _ hopen | sentNow _ hopen => exact hopen.2
  | sentLater hwrite => exact hcoherent.isOpen (Socket.mem_parked.mpr (.inr (.inr hwrite)))

/-- At most one packet is sent, and that is the owner's end. -/
theorem sentIn_eq (h : s.Ends f turn events) :
    sentIn events = if .sent .eos s.stream [] ∈ events then [⟨.eos, s.stream, []⟩] else [] := by
  cases h <;> simp

/-- A stream that had one turn at most has none left to lose. -/
theorem tail_after (h : s.Ends f turn events) {turns : List Nat} (hturns : turns.tail = []) :
    (turn.after turns).tail = [] := by
  cases h with
  | awaited | found | sentNow => exact hturns
  | sentLater => simp [Turn.after, hturns]

end Socket.Ends

/-- When both directions have ended, nothing waits on the socket, and it has nothing to send. -/
theorem Socket.Coherent.parked_of_exchanged {s : Socket} (h : s.Coherent) (hlast : s.EndsLast)
    (hopen : s.flags.closed = false) (hended : s.flags.eosExchanged = true) :
    s.parked = [] ∧ s.work = .idle := by
  obtain ⟨hdelivered, hsent⟩ : s.flags.eosDelivered = true ∧ s.flags.eosSent = true := by
    simpa [SocketFlags.eosExchanged] using hended
  have hread := h.pendingRead_of_delivered hdelivered
  have hwrite := h.pendingWrite_of_sent hlast hopen hsent
  have hconnect : s.pendingConnect = none := by
    rw [Option.eq_none_iff_forall_ne_some]
    intro r hr
    have hcaller := (h.connect r hr).2.2.2
    rw [h.sent hsent] at hcaller
    contradiction
  have howes : s.flags.owesReset = false := by
    rw [← Bool.not_eq_true, ← h.owes, hopen]
    exact Bool.false_ne_true
  exact ⟨by simp [parked, hconnect, hread, hwrite], by simp [work, hconnect, hwrite, howes]⟩

/-! ### What arrived before the end -/

/-- A stream that was ended was ended for the first time. -/
theorem EndsIn.exists_first {stream : UInt8} {events : List Event} (h : EndsIn stream events) :
    ∃ early f late, events = early ++ .received f :: late ∧ f.stream = stream ∧
      PacketKind.ofCode? f.kind = some .eos ∧ ¬ EndsIn stream early := by
  induction events with
  | nil =>
      obtain ⟨f, hmem, -⟩ := h
      contradiction
  | cons e events ih =>
      by_cases hfirst : EndsIn stream [e]
      · obtain ⟨f, hmem, hf, hkind⟩ := hfirst
        obtain rfl := List.mem_singleton.mp hmem
        exact ⟨[], f, events, rfl, hf, hkind, fun ⟨_, hnone, _⟩ => by contradiction⟩
      · obtain ⟨f, hmem, hf⟩ := h
        have hrest : .received f ∈ events := by
          refine (List.mem_cons.mp hmem).resolve_left fun heq => hfirst ⟨f, ?_, hf⟩
          rw [heq]
          exact List.mem_singleton_self e
        obtain ⟨early, f', late, rfl, hf', hkind, hnone⟩ := ih ⟨f, hrest, hf⟩
        refine ⟨e :: early, f', late, rfl, hf', hkind, ?_⟩
        rintro ⟨f'', hmem'', hf''⟩
        rcases List.mem_cons.mp hmem'' with heq | hmem''
        · exact hfirst ⟨f'', by rw [heq]; exact List.mem_singleton_self e, hf''⟩
        · exact hnone ⟨f'', hmem'', hf''⟩

/-- Whether the readers were handed whatever arrived before the peer's end, so that all the chunks
arrived after it. -/
def Life.LeavesLate (stream : UInt8) (life : Life) (chunks : List Bytes) : Prop :=
  ∃ early f late, life.events = early ++ .received f :: late ∧ f.stream = stream ∧
    PacketKind.ofCode? f.kind = some .eos ∧ ¬ EndsIn stream early ∧
    payloadsOn stream early <+: deliveriesAt life.request.address life.events ∧
    chunks <:+ payloadsOn stream late

namespace Multiplexer

variable {config : Config} {m m₁ m' : Multiplexer} {s : Socket} {stream : UInt8}

/-- The lives of the streams tell of the reads that the sockets know to have been told of the end,
and whenever one was told, everything was handed out. -/
structure Telling (m : Multiplexer) : Prop where
  exhausting : m.Exhausting
  accounts : ∀ stream, Accounts stream (fun _ => True)
    (fun life s => s.flags.eosDelivered = true → ToldEnd s.address life.events) m.chronicle
    (m.sockets.get? stream)

namespace Telling

theorem move {turn : Turn} {events : List Event} (h : m.Telling)
    (hmove : Move m stream turn events m') : m'.Telling where
  exhausting := h.exhausting.move hmove
  accounts := by
    refine hmove.accounts (fun _ _ life s => s.flags.eosDelivered = true →
      ToldEnd s.address life.events) h.accounts ?_ ?_ ?_ ?_
    · intro r rest s' hstep
      exact (Life.explains_opened hstep).delivered
    · intro life s s' hs hstep hlife hdelivered
      rw [hstep.address_eq]
      rcases hstep.toldEnd (h.exhausting.receiving.balanced.tidy stream s hs) hdelivered with
        hdelivered | htold
      · exact (hlife hdelivered).append_left events
      · exact htold.append_right life.events
    · exact fun _ _ _ _ _ _ _ => trivial
    · intro other life s _ _ hlife hdelivered
      exact (hlife hdelivered).append_left events

theorem fresh (config : Config) : (Multiplexer.fresh config).Telling where
  exhausting := .fresh config
  accounts := fun _ => .between nofun

/-- Once a read was told of the end, the chunks are late. -/
theorem exists_leavesLate (h : m.Telling) (hs : m.sockets.get? stream = some s)
    (hopen : s.flags.closed = false) (hdelivered : s.flags.eosDelivered = true) :
    ∃ past life, livesOn stream m.chronicle = past ++ [life] ∧
      (∀ life ∈ past, life.retired = true) ∧ life.retired = false ∧
      life.LeavesLate stream s.chunks := by
  obtain ⟨past, life, hlives, hover, hongoing, hbuffers, hexhausted⟩ :=
    (h.exhausting.accounts stream).exists_ongoing hs
  obtain ⟨past', life', hlives', -, -, htold⟩ := (h.accounts stream).exists_ongoing hs
  obtain rfl : life = life' := by
    simpa using congrArg List.getLast? (hlives.symm.trans hlives')
  obtain ⟨r, capacity, hmem, haddress, hr⟩ := htold hdelivered
  obtain ⟨early, late, hevents⟩ := List.append_of_mem hmem
  have hread : r.command.isRead = true := by
    rw [hr]
    rfl
  obtain ⟨hends, hnothing⟩ := hexhausted early late r _ hevents hread
    (haddress.trans hbuffers.address.symm) rfl
  obtain ⟨first, f, rest, hearly, hf, hkind, hnone⟩ := hends.exists_first
  refine ⟨past, life, hlives, hover, hongoing, first, f,
    rest ++ .answered r (.ofStatus .readEos) :: late, ?_, hf, hkind, hnone, ?_, ?_⟩
  · rw [hevents, hearly, List.append_assoc]
    rfl
  · have hfirst : payloadsOn stream first <+: payloadsOn stream early := by
      rw [hearly, payloadsOn_append]
      exact List.prefix_append _ _
    have hhanded : payloadsOn stream early <+: deliveriesAt life.request.address life.events := by
      rw [hnothing, hevents, deliveriesAt_append]
      exact List.prefix_append _ _
    exact hfirst.trans hhanded
  · -- What was handed out when the read was told, and what arrived until then, is the same.
    have hlate : payloadsOn stream late = deliveriesAt s.address late ++ s.chunks := by
      have hbuffered := hbuffers.buffered hopen
      rw [hevents, payloadsOn_append, deliveriesAt_append, hnothing, hbuffers.address,
        List.append_assoc] at hbuffered
      simpa [Completion.ofStatus] using List.append_cancel_left hbuffered
    have hsuffix : s.chunks <:+ payloadsOn stream late := hlate ▸ List.suffix_append _ _
    refine hsuffix.trans ?_
    rw [payloadsOn_append, payloadsOn_cons, ← List.append_assoc]
    exact List.suffix_append _ _

end Telling

/-! ### Reachable states -/

theorem Reachable.telling (h : Reachable config m) : m.Telling :=
  h.induct (.fresh config) fun hmove hm => hm.move hmove

theorem Reachable.modest (h : Reachable config m) : m.Modest := by
  induction h with
  | fresh => simp [Modest]
  | apply hbefore operation ih => exact modest_apply hbefore.balanced.distinct operation ih
  | takeFrame _ _ ih => exact ih
  | receiveOne hbefore ih => exact (conducts_receiveOne hbefore.balanced.distinct).modest ih
  | serveFront hbefore hserve ih =>
      exact (conducts_serveFront hbefore.balanced.distinct hserve).modest ih

/-- As long as a stream gets no second turn, it agrees with its turns, whatever the others do. -/
theorem Reachable.agrees (h : Reachable config m) (stream : UInt8)
    (hsingle : .doubled stream ∉ m.chronicle) :
    Agrees (m.sockets.get? stream) (m.queue.turns stream) := by
  revert hsingle
  refine h.induct (p := fun m => .doubled stream ∉ m.chronicle →
    Agrees (m.sockets.get? stream) (m.queue.turns stream)) ?_ ?_
  · intro _
    rw [get?_fresh, turns_fresh]
    exact .absent
  · intro m m' other turn events hmove hm hsingle
    rw [hmove.chronicle_eq, List.mem_append, not_or] at hsingle
    have hbefore := hm hsingle.1
    by_cases hother : stream = other
    · subst hother
      rw [hmove.turns_eq]
      refine hmove.step.agrees hbefore hmove.queue.fits fun other hmem => ?_
      by_cases hne : stream = other
      · exact hsingle.2 (hne ▸ hmem)
      · exact hmove.step.doubled_elsewhere hne hmem
    · rw [hmove.get?_of_ne hother, hmove.turns_of_ne hother]
      exact hbefore

/-! ### Steps in which a direction ends -/

/-- What is done in one go: a request is handed in, a frame or what is none is taken in, or a turn
is served. -/
inductive Act (m : Multiplexer) : Multiplexer → Prop
  | submit (r : Request) : Act m (m.submit r)
  | receive : Act m m.receiveOne
  | serve (hserve : m.canServe = true) : Act m m.serveFront

/-- The events so far that ended a direction. -/
def endings (m : Multiplexer) : List Event :=
  m.history.filter Event.isEnding

/-- Whether a direction ends by what is done, and the socket is closed if it was the second; or none
does. -/
inductive Yields (m m' : Multiplexer) : Prop
  | none (h : m'.endings = m.endings)
  | one {s : Socket} {f : Socket → Socket} {turn : Turn} {events : List Event} {m₁ : Multiplexer}
      (hends : s.Ends f turn events) (hnoted : EndNoted m s.stream s f turn events m₁)
      (heq : m' = m₁.closeIfExchanged s.stream)

section

variable (m)

theorem endings_record {e : Event} (he : e.isEnding = false) :
    (m.record e).endings = m.endings := by
  rw [endings, history_record, List.filter_cons_of_neg (by simp [he])]
  rfl

theorem endings_transmit {kind : PacketKind} (hkind : kind ≠ .eos) (stream : UInt8)
    (payload : Bytes) : (m.transmit kind stream payload).endings = m.endings := by
  unfold transmit
  split
  · cases kind <;> first | rfl | contradiction
  · rfl

theorem endings_enqueue (stream : UInt8) (n : Nat) :
    (m.enqueue stream n).endings = m.endings := by
  unfold enqueue; dsimp only; split <;> rfl

theorem endings_withdraw (stream : UInt8) : (m.withdraw stream).endings = m.endings := by
  unfold withdraw; split
  · rfl
  · split <;> rfl

theorem endings_retire (stream : UInt8) : (m.retire stream).endings = m.endings := by
  unfold retire; split <;> rfl

theorem endings_refuse {r : Request} {status : Status} (hstatus : status ≠ .readEos) :
    (m.answer r (.ofStatus status)).endings = m.endings :=
  endings_record m (by simpa [Event.isEnding, Completion.ofStatus] using hstatus)

/-- Closing a socket ends no direction: what waits on it fails. -/
theorem endings_close (stream : UInt8) (emitReset : Bool) :
    (m.close stream emitReset).endings = m.endings := by
  cases hget : m.sockets.get? stream with
  | none => rw [close, hget]
  | some s =>
      have habandon : (m.abandon stream s).endings = m.endings := by
        have hfarewell : (s.farewell (m.queue.turns stream)).filter Event.isEnding = [] := by
          rw [List.filter_eq_nil_iff]
          intro e he
          rcases Socket.mem_farewell he with rfl | ⟨r, -, rfl⟩
          · simp [Event.isEnding]
          · simpa [Event.isEnding, Request.failure, Completion.ofStatus] using
              r.command.resetStatus_ne_readEos
        rw [endings, history_abandon hget, List.filter_append, List.filter_reverse, hfarewell]
        rfl
      rw [close_eq hget]
      split
      · rw [endings_retire, habandon]
      split
      · rw [endings_retire, endings_transmit _ (by simp)]
        exact habandon
      · rw [endings_enqueue]
        exact habandon

theorem endings_closeIfExchanged (stream : UInt8) :
    (m.closeIfExchanged stream).endings = m.endings := by
  unfold closeIfExchanged
  split
  · rfl
  · split
    · exact endings_close m stream false
    · rfl

theorem endings_misuse (r : Request) (stream : UInt8) :
    (m.misuse r stream).endings = m.endings := by
  rw [misuse, endings_close]
  exact endings_refuse m r.command.resetStatus_ne_readEos

end

/-! ### Requests -/

variable {r : Request}

theorem yields_submitConnect (service : Bytes) :
    Yields m ((m.record (.submitted r)).submitConnect r service) := by
  refine .none ?_
  unfold submitConnect
  split
  · rfl
  split
  · rfl
  split
  · rfl
  · dsimp only
    split
    · exact endings_transmit _ (by simp) _ _
    · exact endings_enqueue _ _ service.length

theorem yields_submitRead {capacity : Nat} (h : m.sockets.Distinct)
    (hr : r.command = .read capacity) :
    Yields m ((m.record (.submitted r)).submitRead r capacity) := by
  unfold submitRead
  split
  · exact .none rfl
  next s hfound =>
  split
  · exact .none (endings_misuse _ _ _)
  next hidle =>
  have hidle : s.pendingConnect = none ∧ s.pendingRead = none := by simpa using hidle
  split
  next data rest hpop =>
    split
    · exact .none (endings_misuse _ _ _)
    · exact .none rfl
  next hpop =>
    have hchunks := Socket.chunks_of_popChunk?_eq_none hpop
    split
    next heos =>
      obtain ⟨-, haddress, hopen⟩ := findOpen?_eq_some h hfound
      obtain ⟨m₁, hnoted, heq⟩ :=
        exists_endNoted_submitRead h hr hfound hidle.1 hidle.2 hchunks heos
      exact .one (.found hr ⟨haddress, hopen⟩ hchunks heos) hnoted heq
    · exact .none rfl

theorem yields_submitWrite {data : Bytes} (hr : r.command = .write data) :
    Yields m ((m.record (.submitted r)).submitWrite r data) := by
  refine .none ?_
  unfold submitWrite
  split
  · rfl
  split
  · exact endings_misuse _ _ _
  · dsimp only
    split
    · unfold sendWrite
      rw [hr]
      exact endings_transmit _ (by simp) _ _
    · exact endings_enqueue _ _ _

theorem yields_submitEos (h : m.sockets.Distinct) (hr : r.command = .eos) :
    Yields m ((m.record (.submitted r)).submitEos r) := by
  unfold submitEos
  split
  · exact .none rfl
  next s hfound =>
  split
  · exact .none (endings_misuse _ _ _)
  next hfree =>
  have hfree : s.writeConflicts = false := by simpa using hfree
  dsimp only
  split
  next hnow =>
    obtain ⟨-, haddress, hopen⟩ := findOpen?_eq_some h hfound
    obtain ⟨m₁, hnoted, heq⟩ := exists_endNoted_submitEos h hr hfound hfree hnow
    exact .one (.sentNow hr ⟨haddress, hopen⟩) hnoted heq
  · exact .none (endings_enqueue _ _ _)

theorem yields_submitReset : Yields m ((m.record (.submitted r)).submitReset r) := by
  refine .none ?_
  unfold submitReset
  dsimp only
  split
  · rfl
  · exact endings_close _ _ _

theorem yields_submit (h : m.sockets.Distinct) (r : Request) : Yields m (m.submit r) := by
  unfold submit
  dsimp only
  split
  · exact yields_submitConnect _
  next hr => exact yields_submitRead h hr
  next hr => exact yields_submitWrite hr
  next hr => exact yields_submitEos h hr
  · exact yields_submitReset

/-! ### Frames and turns -/

theorem yields_dispatch (f : Frame) : Yields m (m.dispatch f) := by
  unfold dispatch
  dsimp only
  split
  · exact .none rfl
  next s hget =>
  have hget : m.sockets.get? f.stream = some s := hget
  have hs : s.stream = f.stream := SocketTable.stream_of_get? hget
  split
  · exact .none (endings_close _ _ _)
  split
  · exact .none rfl
  next hopen =>
  have hopen : s.flags.closed = false := by simpa using hopen
  unfold takeFrame
  split
  · refine .none ?_
    unfold takeConnectResponse
    split
    next r result _ _ =>
      have hresolve (status : Status) (hstatus : status ≠ .readEos) :
          ((m.receive f).resolve s.stream r (.ofStatus status)).endings = m.endings :=
        (endings_refuse _ hstatus).trans (endings_withdraw (m.receive f) s.stream)
      dsimp only
      split
      · exact hresolve .ok (by simp)
      · exact (endings_close _ _ _).trans (hresolve .connectUnknownService (by simp))
    · rfl
  · refine .none ?_
    unfold takeData
    split
    · split
      · rfl
      · exact endings_close _ _ _
    · split
      · exact endings_close _ _ _
      · rfl
  next hkind =>
    cases hread : s.pendingRead with
    | some r =>
        obtain ⟨m₁, hnoted, heq⟩ := exists_endNoted_takeEos hget hopen hkind hread
        rw [← hs] at hnoted heq
        exact .one (.awaited hs.symm hkind hopen hread) hnoted heq
    | none =>
        refine .none ?_
        unfold takeEos
        rw [hread]
        rfl
  · exact .none rfl

theorem yields_receiveOne : Yields m m.receiveOne := by
  unfold receiveOne
  split
  next frame ring _ =>
    rcases yields_dispatch (m := { m with inbound := ring }) frame with hnone | ⟨hends, hnoted, heq⟩
    · exact .none hnone
    · exact .one hends ⟨hnoted.get?, hnoted.step, hnoted.keepsStream, hnoted.keepsAddress,
        hnoted.bytes, hnoted.sockets, hnoted.queue, hnoted.history, hnoted.config⟩ heq
  · exact .none rfl

theorem yields_serveFront (hserve : m.canServe = true)
    (hcoherent : ∀ stream, ∀ s ∈ m.sockets.get? stream, s.Coherent) : Yields m m.serveFront := by
  unfold canServe at hserve
  unfold serveFront
  split at hserve
  · contradiction
  next entry hfront =>
  unfold serve
  cases hget : m.sockets.get? entry.stream with
  | none => exact .none rfl
  | some s =>
      have hs : s.stream = entry.stream := SocketTable.stream_of_get? hget
      dsimp only
      rcases s.work_cases with ⟨r, -, hwork⟩ | ⟨hconnect, ⟨r, hwrite, hwork⟩ | ⟨-, hrest⟩⟩
      · rw [hwork]
        exact .none (endings_transmit _ (by simp) _ _)
      · rw [hwork]
        dsimp only
        rcases (hcoherent _ s hget).write r hwrite with ⟨data, hr⟩ | hr
        · refine .none ?_
          unfold sendWrite
          rw [hr]
          exact endings_transmit _ (by simp) _ _
        · have hentries :
              m.queue.entries = ⟨entry.stream, entry.length⟩ :: m.queue.pop.entries := by
            unfold SendQueue.front? at hfront
            exact (List.cons_head?_tail hfront).symm
          have hsockets : { m with queue := m.queue.pop }.sockets = m.sockets := rfl
          obtain ⟨m₁, hnoted, heq⟩ := exists_endNoted_serve hsockets hentries rfl rfl hserve hget
            hconnect hwrite (by simp [hr])
          rw [← hs] at hnoted heq ⊢
          exact .one (.sentLater hwrite hr) hnoted heq
      · rcases hrest with ⟨-, hwork⟩ | ⟨-, hwork⟩
        · rw [hwork]
          refine .none ?_
          rw [endings_retire]
          exact endings_transmit _ (by simp) _ _
        · rw [hwork]
          exact .none rfl

theorem Act.yields (h : Reachable config m) (hact : Act m m') : Yields m m' := by
  cases hact with
  | submit r => exact yields_submit h.balanced.distinct r
  | receive => exact yields_receiveOne
  | serve hserve => exact yields_serveFront hserve h.coherent

theorem Act.ships (hact : Act m m') : Ships m m' := by
  cases hact with
  | submit r => exact m.ships_submit r
  | receive => exact m.ships_receiveOne
  | serve => exact m.ships_serveFront

/-- The history tells which of the events end a direction. -/
theorem mem_of_endings {past events : List Event} (hevents : m'.chronicle = m.chronicle ++ events)
    (hpast : m'.endings = past.reverse.filter Event.isEnding ++ m.endings) {e : Event}
    (he : e ∈ events) (hending : e.isEnding = true) : e ∈ past := by
  have hfilter : events.filter Event.isEnding = past.filter Event.isEnding := by
    have hreversed := congrArg List.reverse hpast
    rw [endings, endings, ← List.filter_reverse, List.reverse_append, ← List.filter_reverse,
      ← List.filter_reverse, List.reverse_reverse, ← chronicle, ← chronicle, hevents,
      List.filter_append] at hreversed
    exact List.append_cancel_left hreversed
  have hmem : e ∈ events.filter Event.isEnding := List.mem_filter.mpr ⟨he, hending⟩
  rw [hfilter] at hmem
  exact List.mem_of_mem_filter hmem

/-! ### The second end -/

/-- What the second end of a socket's stream comes to. -/
structure EndsCleanly (m : Multiplexer) (s : Socket) (events : List Event) (m' : Multiplexer) :
    Prop where
  /-- One direction ends, and then the socket goes, with the oldest turn that is left by then. -/
  ends : ∃ f turn early, s.Ends f turn early ∧ events = early ++ [.retired s.stream] ∧
    m'.queue.turns s.stream = (turn.after (m.queue.turns s.stream)).tail
  /-- One request is answered, and not as if the stream had been given up; nothing else waits. -/
  answered : ∃ r status, (status = .readEos ∨ status = .ok) ∧
    completionsIn events = [(r, .ofStatus status)] ∧ ∀ q ∈ s.parked, q = r
  /-- Nothing enters the ring but the owner's end, if it is this that comes second. -/
  outbound : if .sent .eos s.stream [] ∈ events
    then m.outbound.append .eos s.stream [] = .ok m'.outbound else m'.outbound = m.outbound
  sockets : m'.sockets = m.sockets.erase s.stream
  gone : m'.sockets.get? s.stream = none ∧ m'.sockets.lookup s.address = none
  /-- The other streams keep their turns, and the stream keeps none, unless it was given a second. -/
  others : m'.queue.without [s.stream] = m.queue.without [s.stream]
  turn : .doubled s.stream ∉ m.chronicle → m'.queue.contains s.stream = false
  /-- What is lost of the chunks arrived after the peer's end. -/
  late : ∃ past life, livesOn s.stream m'.chronicle = past ++ [life] ∧ life.retired = true ∧
    life.LeavesLate s.stream s.chunks

theorem sockets_close_quietly (hget : m.sockets.get? stream = some s) :
    (m.close stream false).sockets = m.sockets.erase stream := by
  rw [close_eq hget, if_pos rfl, sockets_retire, sockets_abandon,
    SocketTable.erase_modify Socket.stream_abort]

theorem queue_close_quietly (hget : m.sockets.get? stream = some s) :
    (m.close stream false).queue = m.queue.remove stream := by
  rw [close_eq hget, if_pos rfl, queue_retire, queue_abandon]

/-- A socket on which nothing waits is taken away without a word. -/
theorem history_close_quietly (hget : m.sockets.get? stream = some s) (hparked : s.parked = [])
    (hwork : s.work = .idle) : (m.close stream false).history = .retired stream :: m.history := by
  have hfarewell : s.farewell (m.queue.turns stream) = [] := by
    simp [Socket.farewell, hparked, hwork]
  rw [close_eq hget, if_pos rfl, history_retire _ (contains_abandon hget), history_abandon hget,
    hfarewell]
  rfl

section SecondEnd

variable {f : Socket → Socket} {turn : Turn} {events early : List Event}
  (h : Reachable config m) (hends : s.Ends f turn early)
  (hnoted : EndNoted m s.stream s f turn early m₁) (hended : (f s).flags.eosExchanged = true)

include h hends hnoted

theorem EndNoted.isOpen : (f s).flags.closed = false :=
  hends.isOpen (h.coherent s.stream s hnoted.get?)

include hended

theorem EndNoted.nothing_waits : (f s).parked = [] ∧ (f s).work = .idle := by
  have hmove := hnoted.move h.balanced.distinct
  have hcoherent := hmove.coherent h.coherent s.stream _ hnoted.get?_after
  have hlast := hmove.forall_streams (p := fun _ s? _ => ∀ s ∈ s?, s.EndsLast) h.endsLast
    hmove.step.endsLast s.stream _ hnoted.get?_after
  exact hcoherent.parked_of_exchanged hlast (hnoted.isOpen h hends) hended

/-- What was done is the end of a direction, and then the socket is gone. -/
theorem EndNoted.history_closeIfExchanged : (m₁.closeIfExchanged s.stream).history =
    (early ++ [Event.retired s.stream]).reverse ++ m.history := by
  obtain ⟨hparked, hwork⟩ := hnoted.nothing_waits h hends hended
  rw [hnoted.closeIfExchanged_of_ended hended,
    history_close_quietly hnoted.get?_after hparked hwork, hnoted.history]
  simp

/-- The chunks that it leaves are late. -/
theorem EndNoted.exists_leavesLate : ∃ past life,
    livesOn s.stream (m₁.closeIfExchanged s.stream).chronicle = past ++ [life] ∧
      life.retired = true ∧ life.LeavesLate s.stream s.chunks := by
  have htelling := h.telling.move (hnoted.move h.balanced.distinct)
  have hdelivered : (f s).flags.eosDelivered = true := by
    rw [SocketFlags.eosExchanged, Bool.and_eq_true] at hended
    exact hended.1
  obtain ⟨past, life, hlives, hover, hongoing, hlate⟩ :=
    htelling.exists_leavesLate hnoted.get?_after (hnoted.isOpen h hends) hdelivered
  rw [hends.chunks_eq] at hlate
  have hchronicle : (m₁.closeIfExchanged s.stream).chronicle =
      m₁.chronicle ++ ([] ++ [.retired s.stream]) := by
    rw [chronicle, chronicle, hnoted.history_closeIfExchanged h hends hended, hnoted.history]
    simp
  refine ⟨past, { life with retired := true }, ?_, rfl, hlate⟩
  rw [hchronicle, livesOn_append_retired hlives hover hongoing rfl, List.append_nil]

theorem EndNoted.endsCleanly (hships : Ships m (m₁.closeIfExchanged s.stream)) :
    EndsCleanly m s (early ++ [.retired s.stream]) (m₁.closeIfExchanged s.stream) := by
  have hdistinct := h.balanced.distinct
  have hquiet := hnoted.closeIfExchanged_of_ended hended
  have hhistory := hnoted.history_closeIfExchanged h hends hended
  have hlate := hnoted.exists_leavesLate h hends hended
  have hsockets : (m₁.closeIfExchanged s.stream).sockets = m.sockets.erase s.stream := by
    rw [hquiet, sockets_close_quietly hnoted.get?_after, hnoted.sockets,
      SocketTable.erase_modify hnoted.keepsStream]
  have hqueue : (m₁.closeIfExchanged s.stream).queue = m₁.queue.remove s.stream := by
    rw [hquiet, queue_close_quietly hnoted.get?_after]
  have hturns : (m₁.closeIfExchanged s.stream).queue.turns s.stream =
      (turn.after (m.queue.turns s.stream)).tail := by
    rw [hqueue, SendQueue.turns_remove, hnoted.queue.turns_eq]
  refine ⟨⟨f, turn, early, hends, rfl, hturns⟩, ?answered, ?outbound, hsockets,
    ⟨?gone, ?unknown⟩, ?others, ?turn, hlate⟩
  case answered =>
    obtain ⟨r, status, hstatus, hcompletions, hparked⟩ := hends.completions
    refine ⟨r, status, hstatus, ?_, ?_⟩
    · rw [completionsIn_append, hcompletions]
      rfl
    · intro q hq
      refine (hparked q hq).resolve_right fun hq => ?_
      rw [(hnoted.nothing_waits h hends hended).1] at hq
      contradiction
  case outbound =>
    obtain ⟨packets, happends, hsent⟩ := hships.exists_packets hhistory
    rw [sentIn_append, hends.sentIn_eq] at hsent
    by_cases hmem : .sent .eos s.stream [] ∈ early
    · rw [if_pos (List.mem_append_left _ hmem)]
      rw [if_pos hmem] at hsent
      obtain ⟨p, rfl, hp⟩ := List.map_eq_singleton_iff.mp hsent
      have hone := happends.eq_ok_of_singleton
      obtain ⟨hkind, hstream, hpayload⟩ := Parcel.mk.inj hp
      rwa [Ring.appendPacket, hkind, hstream, hpayload] at hone
    · rw [if_neg (by simpa using hmem)]
      rw [if_neg hmem] at hsent
      obtain rfl := List.map_eq_nil_iff.mp hsent
      exact happends.eq_of_nil
  case gone => rw [hsockets, SocketTable.get?_erase]
  case unknown =>
    have hfound := hdistinct.lookup_eq_some (SocketTable.mem_of_get? hnoted.get?)
    rw [hsockets, hdistinct.lookup_erase, hfound]
    exact if_pos rfl
  case others =>
    rw [hqueue, SendQueue.without_remove (by simp), hnoted.queue.without_eq (by simp)]
  case turn =>
    intro hsingle
    have hagrees := h.agrees s.stream hsingle
    rw [SendQueue.contains_eq, hturns, hends.tail_after hagrees.tail_eq_nil]
    rfl

end SecondEnd

/-- Whatever state a host's end has come to and whatever is done next: if a socket's stream has then
ended both ways, it had not before, and the socket is gone with what was done. One request is
answered by it, with success or with the end of the stream, and no other waits; nothing enters the
ring but the owner's end; the socket leaves neither an address nor a turn behind, unless its stream
was given a second turn, and nobody else loses anything; and the chunks that it leaves arrived after
the peer's end, while whatever arrived before was handed to the readers. -/
theorem ends_both_ways_cleanly {events : List Event} (h : Reachable config m) (hact : Act m m')
    (hget : m.sockets.get? s.stream = some s) (hevents : m'.chronicle = m.chronicle ++ events)
    (hended : EndedBothWays s events) :
    s.flags.eosExchanged = false ∧ EndsCleanly m s events m' := by
  have hdistinct := h.balanced.distinct
  have hbefore : s.flags.eosExchanged = false := (h.modest s.stream s hget).eosExchanged
  refine ⟨hbefore, ?_⟩
  cases hact.yields h with
  | none hnone =>
      have hendings : m'.endings = [].reverse.filter Event.isEnding ++ m.endings := hnone
      have hexchanged := (hended.mono fun e => mem_of_endings hevents hendings).exchanged
      rw [hbefore] at hexchanged
      contradiction
  | @one s₀ f turn early m₁ hends hnoted heq =>
      have hendings : m'.endings = early.reverse.filter Event.isEnding ++ m.endings := by
        rw [heq, endings_closeIfExchanged, endings, hnoted.history, List.filter_append]
        rfl
      have hsame : s₀.address = s.address ∨ s₀.stream = s.stream → s₀ = s := by
        rintro (haddress | hstream)
        · exact hdistinct.eq_of_address (SocketTable.mem_of_get? hnoted.get?)
            (SocketTable.mem_of_get? hget) haddress
        · exact Option.some.inj (hnoted.get?.symm.trans (hstream ▸ hget))
      have htidy := h.balanced.tidy s₀.stream s₀ hnoted.get?
      obtain ⟨rfl, hexchanged⟩ := hends.exchanged htidy hsame hbefore
        (hended.mono fun e => mem_of_endings hevents hendings)
      obtain rfl : events = early ++ [.retired s₀.stream] := by
        have hhistory := hnoted.history_closeIfExchanged h hends hexchanged
        rw [← heq] at hhistory
        exact List.append_cancel_left (hevents.symm.trans (chronicle_eq_of_history hhistory))
      subst heq
      exact hnoted.endsCleanly h hends hexchanged hact.ships

/-- A turn stays behind. The first owner of stream 3 is answered early and writes, which gives the
stream a second turn, and the peer resets it, which takes away one of the two. When the ids have gone
round, the next owner is answered early, too, and ends the stream. That end goes out on the turn that
was left over, and the socket takes the turn of its connect with it, but not the one of the end. -/
theorem clean_end_leaves_turn :
    let first : List Operation := [.submit ⟨0, ⟨1, 1⟩, .connect (List.replicate 252 7)⟩,
      .submit ⟨1, ⟨1, 2⟩, .connect []⟩, .publish [1, 2, 3, 0], .poll,
      .submit ⟨2, ⟨1, 2⟩, .write [9]⟩, .publish [0, 5, 3], .poll]
    let between : List Operation := (List.range 126).flatMap fun i =>
      [.submit ⟨i + 3, ⟨1, 3⟩, .connect []⟩, .publish [0, 5, 2 * .ofNat i + 5], .poll]
    let next : List Operation := [.submit ⟨129, ⟨1, 2⟩, .connect (List.replicate 252 7)⟩,
      .publish [1, 2, 3, 0], .poll, .submit ⟨130, ⟨1, 2⟩, .eos⟩, .take, .poll,
      .publish [0, 4, 3], .poll]
    let m := run {} (first ++ between ++ next)
    let r : Request := ⟨131, ⟨1, 2⟩, .read 8⟩
    (m.sockets.get? 3).map (fun s => (s.address, s.flags.eosSent)) = some (r.address, true) ∧
      (m.submit r).chronicle =
        m.chronicle ++ [.submitted r, .answered r (.ofStatus .readEos), .retired 3] ∧
      (m.submit r).sockets.get? 3 = none ∧ (m.submit r).queue.entries = [⟨3, 0⟩] := by
  decide +kernel

/-- A read was told of the end, and another chunk arrived; then the owner ends the stream, too. -/
theorem ends_both_ways_cleanly_of_late_chunk :
    let m := run {} [.submit ⟨0, ⟨1, 1⟩, .connect [101]⟩, .publish [1, 2, 1, 0, 0, 4, 1], .poll,
      .submit ⟨1, ⟨1, 1⟩, .read 8⟩, .publish [1, 3, 1, 7], .poll]
    let r : Request := ⟨2, ⟨1, 1⟩, .eos⟩
    let events : List Event := [.submitted r, .accepted .eos 1 [], .sent .eos 1 [],
      .answered r (.ofStatus .ok), .retired 1]
    (m.submit r).chronicle = m.chronicle ++ events ∧ ∃ s ∈ m.sockets.get? 1, s.chunks = [[7]] ∧
      EndedBothWays s events ∧ s.flags.eosExchanged = false ∧
      EndsCleanly m s events (m.submit r) := by
  intro m r events
  have hsocket : (m.sockets.get? 1).map (fun s => (s.chunks, s.flags.eosDelivered)) =
      some ([[7]], true) := by decide +kernel
  obtain ⟨s, hs, heq⟩ := Option.map_eq_some_iff.mp hsocket
  obtain ⟨hchunks, hdelivered⟩ := Prod.mk.inj heq
  have hstream : s.stream = 1 := SocketTable.stream_of_get? hs
  have hevents : (m.submit r).chronicle = m.chronicle ++ events := by decide +kernel
  have hended : EndedBothWays s events := ⟨.inl hdelivered, .inr (by simp [events, hstream])⟩
  exact ⟨hevents, s, hs, hchunks, hended,
    ends_both_ways_cleanly (reachable_run {} _) (.submit r) (hstream ▸ hs) hevents hended⟩

end Multiplexer

end StreamLink
