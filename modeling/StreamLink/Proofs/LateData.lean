import StreamLink.Proofs.InboundOrder

/-!
# Data after the end

A read is told of the end of its stream when the peer has ended it and everything that arrived was
handed out. This need not be the last word: nothing keeps the peer from sending more data, and what
arrives after the end is handed to the reads that come after it. They are handed this and nothing
else, so that the end is final as long as the peer keeps to it.

Main statement: `late_reads_take_late_data`.
-/

namespace StreamLink

/-- Whether, whenever a read was told of the end, the peer had ended the stream and everything that
had arrived was handed out. -/
def Life.Exhausted (stream : UInt8) (life : Life) : Prop :=
  ∀ early late r c, life.events = early ++ .answered r c :: late → r.command.isRead = true →
    r.address = life.request.address → c.status = .readEos →
    EndsIn stream early ∧ payloadsOn stream early = deliveriesAt life.request.address early

/-- A read that is told of the end finds everything handed out. -/
theorem Socket.Serves.exhausted {stream : UInt8} {life : Life} {s : Socket} {r : Request}
    {e : Event} {c : Completion} (h : s.Serves stream r e c) (hopen : s.flags.closed = false)
    (hlife : life.Buffers stream s) (hended : c.status = .readEos) :
    EndsIn stream (life.events ++ [e]) ∧
      payloadsOn stream (life.events ++ [e]) = deliveriesAt s.address (life.events ++ [e]) := by
  have hbuffered := hlife.buffered hopen
  cases h with
  | chunk | payload => contradiction
  | ended hchunks heos =>
      refine ⟨(hlife.ended heos).append_left _, ?_⟩
      rw [payloadsOn_append, deliveriesAt_append, hbuffered, hchunks]
      simp
  | ending hchunks hf hkind =>
      refine ⟨⟨_, by simp, hf, hkind⟩, ?_⟩
      rw [payloadsOn_append, deliveriesAt_append, hbuffered, hchunks]
      simp [hkind]

section

variable {stream : UInt8} {life : Life} {events : List Event}

/-- A life that has just begun. -/
theorem Life.exhausted_opened {r : Request} {rest : List Event} {turns : List Nat} {turn : Turn}
    {s' : Socket}
    (h : SocketStep stream none turns turn (.submitted r :: .opened stream r :: rest) (some s')) :
    Exhausted stream ⟨r, rest, false⟩ := by
  intro early late r' c hevents hr _ hended
  have hserves : (Event.answered r' c).servesRead = true := by simp [hr, hended]
  have hrest : rest = early ++ .answered r' c :: late := hevents
  have hsplit : Event.submitted r :: .opened stream r :: rest =
      (.submitted r :: .opened stream r :: early) ++ .answered r' c :: late := by
    rw [hrest]
    rfl
  obtain ⟨_, _, hnone, -⟩ := h.serves (by simp) (by simp) hsplit hserves
  contradiction

/-- A life stays so if the reads that are told of the end in what is added to it are told so when
everything is handed out. -/
theorem Life.Exhausted.append (h : life.Exhausted stream)
    (hadded : ∀ early late r c, events = early ++ .answered r c :: late →
      r.command.isRead = true → r.address = life.request.address → c.status = .readEos →
      EndsIn stream (life.events ++ early) ∧ payloadsOn stream (life.events ++ early) =
        deliveriesAt life.request.address (life.events ++ early)) (retired : Bool) :
    Exhausted stream { life with events := life.events ++ events, retired := retired } := by
  intro early late r c hevents hr haddress hended
  rcases split_append hevents with ⟨rest, hpast⟩ | ⟨rest, rfl, hnew⟩
  · exact h early rest r c hpast hr haddress hended
  · exact hadded rest late r c hnew hr haddress hended

end

namespace Multiplexer

variable {m m' : Multiplexer} {stream other : UInt8} {turn : Turn} {events : List Event}

/-- In every life of every stream the reads that were told of the end were told so when everything
was handed out. -/
structure Exhausting (m : Multiplexer) : Prop where
  receiving : m.Receiving
  accounts : ∀ stream, Accounts stream (Life.Exhausted stream)
    (fun life s => life.Buffers stream s ∧ life.Exhausted stream) m.chronicle
    (m.sockets.get? stream)

/-- A read that a move of the stream tells of the end. -/
theorem Receiving.exhausted_of_step (h : m.Receiving) (hmove : Move m stream turn events m')
    {s : Socket} {life : Life} (hs : m.sockets.get? stream = some s) (hlife : life.Buffers stream s)
    {early late : List Event} {r : Request} {c : Completion}
    (hevents : events = early ++ .answered r c :: late) (hr : r.command.isRead = true)
    (hended : c.status = .readEos) :
    EndsIn stream (life.events ++ early) ∧ payloadsOn stream (life.events ++ early) =
      deliveriesAt life.request.address (life.events ++ early) := by
  have hserves : (Event.answered r c).servesRead = true := by simp [hr, hended]
  obtain ⟨s', e, hs', hopen, rfl, hserved⟩ :=
    hmove.step.serves (h.balanced.tidy stream) (h.sorted stream) hevents hserves
  obtain rfl : s = s' := Option.some.inj (hs.symm.trans hs')
  rw [hlife.address]
  exact hserved.exhausted hopen.2 hlife hended

namespace Exhausting

theorem move (h : m.Exhausting) (hmove : Move m stream turn events m') : m'.Exhausting where
  receiving := h.receiving.move hmove
  accounts := by
    have htidy := h.receiving.balanced.tidy stream
    have hsorted := h.receiving.sorted stream
    refine hmove.accounts
      (fun other _ life s => life.Buffers other s ∧ life.Exhausted other) h.accounts ?_ ?_ ?_ ?_
    · intro r rest s' hstep
      exact ⟨Life.buffers_opened hstep, Life.exhausted_opened hstep⟩
    · rintro life s s' hs hstep ⟨hlife, hexhausted⟩
      refine ⟨hlife.step hstep (htidy s hs) (hsorted s hs), ?_⟩
      apply hexhausted.append
      intro early late r c hevents hr _ hended
      exact h.receiving.exhausted_of_step hmove hs hlife hevents hr hended
    · rintro life rest s hs - hevents ⟨hlife, hexhausted⟩
      apply hexhausted.append
      intro early late r c hrest hr _ hended
      have hmoved : events = early ++ .answered r c :: (late ++ [.retired stream]) := by
        rw [hevents, hrest, List.append_assoc]
        rfl
      exact h.receiving.exhausted_of_step hmove hs hlife hmoved hr hended
    · rintro other life s hne hs ⟨hlife, hexhausted⟩
      have haddress : ∀ s' ∈ m.sockets.get? stream, s'.address ≠ s.address :=
        fun s' hs' => h.receiving.balanced.distinct.address_ne hne hs' hs
      refine ⟨hlife.elsewhere (hmove.step.payloadsOn_elsewhere hne)
        (hmove.step.deliveriesAt_elsewhere htidy haddress), ?_⟩
      apply hexhausted.append
      intro early late r c hevents hr heq hended
      have hserves : (Event.answered r c).servesRead = true := by simp [hr, hended]
      obtain ⟨s', _, hs', hopen, -⟩ := hmove.step.serves htidy hsorted hevents hserves
      exact absurd (hopen.1.trans (heq.trans hlife.address)) (haddress s' hs')

theorem fresh (config : Config) : (Multiplexer.fresh config).Exhausting where
  receiving := .fresh config
  accounts := fun _ => .between nofun

end Exhausting

theorem exhausting_run (config : Config) (operations : List Operation) :
    (run config operations).Exhausting :=
  (leads_run config operations).induct (.fresh config) fun hmove h => h.move hmove

/-- After a read was told of the end, the reads of the same life are handed what arrives from then
on, in order, and nothing else: if nothing more arrives, none of them succeeds. While the socket is
open, what arrived and was not handed out is in the chunks, for the reads to come. -/
theorem late_reads_take_late_data (config : Config) (operations : List Operation) {stream : UInt8}
    {life : Life} (hlife : life ∈ livesOn stream (run config operations).chronicle)
    {early late : List Event} {r : Request} {c : Completion}
    (hevents : life.events = early ++ .answered r c :: late) (hr : r.command.isRead = true)
    (haddress : r.address = life.request.address) (hended : c.status = .readEos) :
    EndsIn stream early ∧
      deliveriesAt life.request.address late <+: payloadsOn stream late ∧
      (payloadsOn stream late = [] → ∀ r' c', .answered r' c' ∈ late → r'.command.isRead = true →
        r'.address = life.request.address → c'.status ≠ .ok) ∧
      (life.retired = false → ∀ s ∈ (run config operations).sockets.get? stream,
        s.flags.closed = false →
          payloadsOn stream late = deliveriesAt life.request.address late ++ s.chunks) := by
  have h := exhausting_run config operations
  generalize run config operations = m at *
  have hexhausted : life.Exhausted stream :=
    (h.accounts stream).forall_lives (fun _ _ hlife => hlife.2) life hlife
  have hfaithful : life.Faithful stream :=
    (h.receiving.accounts stream).forall_lives (fun _ _ hlife => hlife.faithful) life hlife
  obtain ⟨hends, hnothing⟩ := hexhausted early late r c hevents hr haddress hended
  -- Both sides begin with what arrived before the end.
  have hpayloads : payloadsOn stream life.events =
      deliveriesAt life.request.address early ++ payloadsOn stream late := by
    rw [hevents, payloadsOn_append, hnothing, payloadsOn_cons]
    rfl
  have hdeliveries : deliveriesAt life.request.address life.events =
      deliveriesAt life.request.address early ++ deliveriesAt life.request.address late := by
    rw [hevents, deliveriesAt_append, deliveriesAt_cons]
    simp [hended]
  have hlate : deliveriesAt life.request.address late <+: payloadsOn stream late := by
    rw [Life.Faithful, hpayloads, hdeliveries] at hfaithful
    exact (List.prefix_append_right_inj _).mp hfaithful
  refine ⟨hends, hlate, ?_, ?_⟩
  · intro hnone r' c' hanswered hr' haddress' hok
    rw [hnone, List.prefix_nil] at hlate
    have hdelivery := List.filterMap_eq_nil_iff.mp hlate _ hanswered
    simp [haddress', hr', hok] at hdelivery
  · intro hongoing s hs hopen
    rcases (h.accounts stream).retired_or_ongoing hlife with ⟨hover, -⟩ | ⟨-, s', hs', hbuffers, -⟩
    · rw [hongoing] at hover
      contradiction
    · obtain rfl : s = s' := Option.some.inj (hs.symm.trans hs')
      have hbuffered := hbuffers.buffered hopen
      rw [hpayloads, ← hbuffers.address, hdeliveries, List.append_assoc] at hbuffered
      exact List.append_cancel_left hbuffered

/-- A read is told of the end, two payloads arrive all the same, and a second read is handed the
first of them. -/
theorem late_reads_take_late_data_of_two :
    let connect : Request := ⟨0, ⟨1, 1⟩, .connect [101]⟩
    let first : Request := ⟨1, ⟨1, 1⟩, .read 8⟩
    let second : Request := ⟨2, ⟨1, 1⟩, .read 8⟩
    let m := run {} [.submit connect, .publish [1, 2, 1, 0, 0, 4, 1], .poll, .submit first,
      .publish [1, 3, 1, 7, 1, 3, 1, 8], .poll, .submit second]
    let late : List Event := [.received ⟨3, 1, [7]⟩, .received ⟨3, 1, [8]⟩, .submitted second,
      .answered second (.read [7])]
    (∃ s ∈ m.sockets.get? 1, s.chunks = [[8]] ∧
      payloadsOn 1 late = deliveriesAt ⟨1, 1⟩ late ++ s.chunks) ∧
      deliveriesAt ⟨1, 1⟩ late <+: payloadsOn 1 late := by
  intro connect first second m late
  let early : List Event := [.accepted .connect 1 [101], .sent .connect 1 [101],
    .received ⟨2, 1, [0]⟩, .answered connect (.ofStatus .ok), .received ⟨4, 1, []⟩,
    .submitted first]
  have hlife : ⟨connect, early ++ .answered first (.ofStatus .readEos) :: late, false⟩ ∈
      livesOn 1 m.chronicle := by decide +kernel
  have hsocket : (m.sockets.get? 1).map (fun s => (s.flags.closed, s.chunks)) =
      some (false, [[8]]) := by decide +kernel
  obtain ⟨s, hs, heq⟩ := Option.map_eq_some_iff.mp hsocket
  obtain ⟨hopen, hchunks⟩ := Prod.mk.inj heq
  obtain ⟨-, hlate, -, hbuffered⟩ := late_reads_take_late_data {} [.submit connect,
    .publish [1, 2, 1, 0, 0, 4, 1], .poll, .submit first, .publish [1, 3, 1, 7, 1, 3, 1, 8], .poll,
    .submit second] hlife rfl rfl rfl rfl
  exact ⟨⟨s, hs, hchunks, hbuffered rfl s hs hopen⟩, hlate⟩

/-- The end that a read is told of is not final: the peer ends the stream, a read is told so, the
peer sends data, and the next read of the same life succeeds. -/
theorem data_read_after_end :
    let connect : Request := ⟨0, ⟨1, 1⟩, .connect [101]⟩
    let first : Request := ⟨1, ⟨1, 1⟩, .read 8⟩
    let second : Request := ⟨2, ⟨1, 1⟩, .read 8⟩
    let m := run {} [.submit connect, .publish [1, 2, 1, 0], .poll, .publish [0, 4, 1], .poll,
      .submit first, .publish [1, 3, 1, 7], .poll, .submit second]
    ∃ life ∈ livesOn 1 m.chronicle, ∃ early late,
      life.events = early ++ .answered first (.ofStatus .readEos) :: late ∧
        .answered second (.read [7]) ∈ late ∧ (Completion.read [7]).status = .ok := by
  intro connect first second m
  let early : List Event := [.accepted .connect 1 [101], .sent .connect 1 [101],
    .received ⟨2, 1, [0]⟩, .answered connect (.ofStatus .ok), .received ⟨4, 1, []⟩,
    .submitted first]
  let late : List Event := [.received ⟨3, 1, [7]⟩, .submitted second,
    .answered second (.read [7])]
  exact ⟨⟨connect, early ++ .answered first (.ofStatus .readEos) :: late, false⟩,
    by decide +kernel, early, late, rfl, by simp [late], rfl⟩

end Multiplexer

end StreamLink
