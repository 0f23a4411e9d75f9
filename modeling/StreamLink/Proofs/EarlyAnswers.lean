import StreamLink.Proofs.Accounts
import StreamLink.Proofs.Records
import StreamLink.Proofs.SecondTurn

/-!
# Early answers

The peer is to answer a connect after it was sent, and it can do so earlier: a connect whose turn is
still to come can be answered, and its owner is told. From then on the stream is in use although the
peer was never asked for it. Nothing else leads to that. As long as no answer is early, a connect is
answered after it was sent, a stream that is connected has no turn left over, and data and the end
of a stream follow its connect.

Main statement: `answered_after_sent_iff_not_early`.
-/

namespace StreamLink

/-! ### Answers to connects -/

/-- Whether the completion tells the maker of a connect what the peer has answered. -/
def TellsConnect (r : Request) (c : Completion) : Prop :=
  (∃ service, r.command = .connect service) ∧
    (c.status = .ok ∨ c.status = .connectUnknownService)

/-- Whether a connect's turn was still to come when the peer answered it: it was withdrawn. -/
def AnsweredEarly (events : List Event) : Prop :=
  ∃ early late stream r c,
    events = early ++ .withdrawn stream :: .answered r c :: late ∧ TellsConnect r c

/-- Whether the connect was sent so far, for a stream that still lives. -/
def ConnectSent (r : Request) (events : List Event) : Prop :=
  ∃ stream, ∃ life ∈ livesOn stream events, life.retired = false ∧ life.request = r ∧
    .sent .connect stream r.command.payload ∈ life.events

/-- Whether the events answer no connect while the stream has a turn to come. -/
def InTime (turns : List Nat) (events : List Event) : Prop :=
  ∀ early late r c, events = early ++ .answered r c :: late → TellsConnect r c → turns = []

/-- Whether data and the end of the stream followed the connect. -/
def Life.Introduced (stream : UInt8) (life : Life) : Prop :=
  DataAfter (.sent .connect stream life.request.command.payload) stream life.events

/-- Whether a life that goes on has sent the connect of a socket that is connected, or that waits
for its answer without a turn. -/
structure Life.Introduces (stream : UInt8) (turns : List Nat) (life : Life) (s : Socket) :
    Prop where
  pending : ∀ r ∈ s.pendingConnect, r = life.request
  sent : s.flags.closed = false → s.pendingConnect = none ∨ turns = [] →
    .sent .connect stream life.request.command.payload ∈ life.events
  introduced : life.Introduced stream

theorem TellsConnect.ne_failure {r : Request} {c : Completion} (h : TellsConnect r c) :
    c ≠ r.failure := by
  rintro rfl
  obtain ⟨⟨service, hr⟩, hc⟩ := h
  simp [Request.failure, Completion.ofStatus, hr, Command.resetStatus] at hc

theorem TellsConnect.answered_not_mem_farewell {r : Request} {c : Completion}
    (h : TellsConnect r c) (s : Socket) (turns : List Nat) : .answered r c ∉ s.farewell turns :=
  fun hmem => h.ne_failure (Socket.eq_failure_of_mem_farewell hmem)

/-! ### Steps -/

section Step

variable {stream other : UInt8} {s s' : Socket} {s? s?' : Option Socket} {turns : List Nat}
  {turn : Turn} {events rest : List Event} {life : Life}

/-- A connect is told the answer when it arrives, and its turn is withdrawn if it is yet to come. -/
theorem SocketStep.tells_connect (h : SocketStep stream s? turns turn events s?')
    (hagrees : Agrees s? turns) (htidy : ∀ s ∈ s?, s.Tidy) {early late : List Event} {r : Request}
    {c : Completion} (hevents : events = early ++ .answered r c :: late)
    (htells : TellsConnect r c) :
    ∃ s f, s? = some s ∧ s.flags.closed = false ∧ s.pendingConnect = some r ∧
      early = .received f :: if turns = [] then [] else [.withdrawn stream] := by
  have hmem : .answered r c ∈ events := by simp [hevents]
  have hfarewell := htells.answered_not_mem_farewell
  -- The answer is the only event of its kind, and what precedes it is known.
  have hearly {first last : List Event} {r' : Request} {c' : Completion}
      (hsplit : events = first ++ .answered r' c' :: last) (hfirst : .answered r c ∉ first)
      (hlast : .answered r c ∉ last) : first = early := by
    rw [hsplit] at hevents
    exact ((List.append_cons_inj_of_notMem hfirst hlast).mp hevents).1
  obtain ⟨⟨service, hr⟩, hc⟩ := htells
  cases h with
  | refuse hrefused =>
      obtain ⟨rfl, rfl⟩ : r = _ ∧ c = _ := by simpa using hmem
      rcases hrefused with rfl | ⟨-, rfl⟩
      · simp [hr, Completion.ofStatus, Command.resetStatus] at hc
      · simp [Completion.ofStatus] at hc
  | readChunk hr' | readEnd hr' | writeNow hr' | endNow hr' =>
      obtain ⟨rfl, -⟩ : r = _ ∧ c = _ := by simpa using hmem
      simp [hr] at hr'
  | connected _ _ _ hopen hconnect =>
      obtain ⟨rfl, -⟩ : r = _ ∧ c = _ := by split at hmem <;> simpa using hmem
      refine ⟨_, _, rfl, hopen, hconnect, (hearly rfl ?_ (by simp)).symm⟩
      split <;> simp
  | @rejected s _ _ f _ hopen hconnect =>
      obtain ⟨rfl, -⟩ : r = _ ∧ c = _ := by split at hmem <;> simpa [hfarewell] using hmem
      refine ⟨s, f, rfl, hopen, hconnect, Eq.symm ?_⟩
      refine hearly ((List.append_assoc ..).trans (List.append_assoc ..)) ?_ ?_
      · split <;> simp
      · simp [hfarewell]
  | dataRead _ _ _ hread | endRead _ _ _ hread =>
      obtain ⟨rfl, -⟩ : r = _ ∧ c = _ := by simpa using hmem
      obtain ⟨capacity, hr'⟩ := (htidy _ rfl).reading _ hread
      simp [hr] at hr'
  | serveConnect _ he => rcases he with rfl | ⟨rfl, -⟩ <;> simp at hmem
  | serveWrite _ _ hr' he =>
      obtain ⟨rfl, -⟩ : r = _ ∧ c = _ := by rcases he with rfl | ⟨rfl, -⟩ <;> simpa using hmem
      simp [hr] at hr'
  | serveEnd _ hwrite hnot =>
      obtain ⟨rfl, -⟩ : r = _ ∧ c = _ := by simpa using hmem
      obtain ⟨-, -, hr', -⟩ := hagrees.of_end hwrite hnot
      simp [hr] at hr'
  | _ => simp [hfarewell] at hmem

/-- A stream sends data or its end only when it is connected. -/
theorem SocketStep.sends_data (h : SocketStep stream (some s) turns turn events s?')
    (hagrees : Agrees (some s) turns) :
    s.flags.closed = false ∧ s.pendingConnect = none ∨
      ∀ packet ∈ packetsOn stream events, packet.1 ≠ .data ∧ packet.1 ≠ .eos := by
  cases h with
  | writeNow _ hopen hfree | endNow _ hopen hfree =>
      exact .inl ⟨hopen.2, (Socket.writeConflicts_eq_false_iff.mp hfree).1⟩
  | serveWrite hconnect hwrite hr =>
      exact .inl ⟨(hagrees.of_write hwrite hr).1.closed, hconnect⟩
  | serveEnd hconnect hwrite hr => exact .inl ⟨(hagrees.of_end hwrite hr).1.closed, hconnect⟩
  | connected | rejected => right; split <;> simp
  | serveConnect _ he => right; rcases he with rfl | ⟨rfl, -⟩ <;> simp
  | _ => right; simp

/-- A connect is settled when it is answered or has no turn to come. It was settled before, or it is
sent now, or it is answered early. -/
theorem SocketStep.connect_settled (h : SocketStep stream (some s) turns turn events (some s'))
    (hagrees : Agrees (some s) turns) (hfits : turn.Fits turns) (hopen : s'.flags.closed = false)
    (hsettled : s'.pendingConnect = none ∨ turn.after turns = []) :
    (s.flags.closed = false ∧ (s.pendingConnect = none ∨ turns = [])) ∨
      (∃ r ∈ s.pendingConnect, .sent .connect stream r.command.payload ∈ events) ∨
      ¬ InTime turns events := by
  cases h with
  | readChunk _ hfound hconnect => exact .inl ⟨hfound.2, .inl hconnect⟩
  | writeLater _ hfound hfree | endLater _ hfound hfree =>
      exact .inl ⟨hfound.2, .inl (Socket.writeConflicts_eq_false_iff.mp hfree).1⟩
  | connected _ _ _ _ hconnect =>
      obtain ⟨-, -, service, hr, -⟩ := hagrees.of_connect hconnect
      by_cases hturns : turns = []
      · exact .inl ⟨hopen, .inr hturns⟩
      · refine .inr (.inr fun hintime => hturns ?_)
        exact hintime _ [] _ _ rfl ⟨⟨service, hr⟩, .inl rfl⟩
  | closeLater => contradiction
  | serveConnect hconnect he =>
      rw [hagrees.sent_connect hfits hconnect he]
      exact .inr (.inl ⟨_, hconnect, List.mem_singleton_self _⟩)
  | serveWrite hconnect | serveEnd hconnect | serveIdle hconnect =>
      exact .inl ⟨hopen, .inl hconnect⟩
  | _ => exact .inl ⟨hopen, hsettled⟩

namespace Life

/-- A life that has just begun. -/
theorem introduces_opened {r : Request}
    (h : SocketStep stream none turns turn (.submitted r :: .opened stream r :: rest) (some s')) :
    Introduces stream (turn.after turns) ⟨r, rest, false⟩ s' := by
  -- Its connect waits, and it has sent nothing but perhaps the connect.
  have hbegin {turns : List Nat}
      (hsent : turns = [] → .sent .connect stream r.command.payload ∈ rest)
      (hpackets : ∀ packet ∈ packetsOn stream rest, packet.1 ≠ .data ∧ packet.1 ≠ .eos) :
      Introduces stream turns ⟨r, rest, false⟩ (.opening stream r) := by
    refine ⟨?_, ?_, ?_⟩
    · rintro _ ⟨⟩
      rfl
    · rintro - (hconnect | hturns)
      · contradiction
      · exact hsent hturns
    · have hnil : DataAfter (.sent .connect stream r.command.payload) stream [] := by
        intro early late kind payload heq
        simp at heq
      exact hnil.append (.inr hpackets)
  generalize hevents : Event.submitted r :: .opened stream r :: rest = events at h
  cases h with
  | openNow hr | openLater hr =>
      injection hevents with hrequest hevents
      injection hevents with _ hrest
      injection hrequest with hrequest
      subst hrequest hrest
      exact hbegin (by simp [hr, Command.payload, Turn.after]) (by simp)

namespace Introduces

theorem introduced_append (h : life.Introduces stream turns s)
    (hsends : s.flags.closed = false ∧ s.pendingConnect = none ∨
      ∀ packet ∈ packetsOn stream events, packet.1 ≠ .data ∧ packet.1 ≠ .eos) :
    Introduced stream { life with events := life.events ++ events } := by
  apply h.introduced.append
  rcases hsends with ⟨hopen, hconnect⟩ | hnone
  · exact .inl (h.sent hopen (.inl hconnect))
  · exact .inr hnone

theorem step (h : life.Introduces stream turns s)
    (hstep : SocketStep stream (some s) turns turn events (some s'))
    (hagrees : Agrees (some s) turns) (hfits : turn.Fits turns) (hintime : InTime turns events) :
    Introduces stream (turn.after turns) { life with events := life.events ++ events } s' where
  pending := fun r hr => h.pending r (hstep.mem_pendingConnect hr)
  sent := by
    intro hopen hsettled
    rcases hstep.connect_settled hagrees hfits hopen hsettled with
      ⟨hopen, hsettled⟩ | ⟨r, hr, hsent⟩ | hearly
    · exact List.mem_append_left _ (h.sent hopen hsettled)
    · obtain rfl := h.pending r hr
      exact List.mem_append_right _ hsent
    · exact absurd hintime hearly
  introduced := h.introduced_append (hstep.sends_data hagrees)

/-- What is done elsewhere leaves a life as it is. -/
theorem elsewhere (h : life.Introduces stream turns s) (hpackets : packetsOn stream events = []) :
    Introduces stream turns { life with events := life.events ++ events } s where
  pending := h.pending
  sent := fun hopen hsettled => List.mem_append_left _ (h.sent hopen hsettled)
  introduced := h.introduced_append (.inr (by simp [hpackets]))

end Introduces

end Life

end Step

/-! ### Runs -/

/-- Whether an answer was early, and an answer came without a connect that was sent. -/
def Hasty (events : List Event) : Prop :=
  AnsweredEarly events ∧ ∃ early late r c,
    events = early ++ .answered r c :: late ∧ TellsConnect r c ∧ ¬ ConnectSent r early

theorem Hasty.append {past : List Event} (h : Hasty past) (events : List Event) :
    Hasty (past ++ events) := by
  obtain ⟨⟨early, late, stream, r, c, rfl, htells⟩, early', late', r', c', heq, htells',
    hunsent⟩ := h
  refine ⟨⟨early, late ++ events, stream, r, c, by simp, htells⟩, early', late' ++ events, r', c',
    ?_, htells', hunsent⟩
  rw [heq]
  simp

namespace Multiplexer

variable {m m' : Multiplexer}

/-- No answer was early so far. -/
structure Timely (m : Multiplexer) : Prop where
  recorded : m.Recorded
  accounts : ∀ stream, Accounts stream (Life.Introduced stream)
    (Life.Introduces stream (m.queue.turns stream)) m.chronicle (m.sockets.get? stream)
  sent : ∀ early late r c, m.chronicle = early ++ .answered r c :: late → TellsConnect r c →
    ConnectSent r early
  not_early : ¬ AnsweredEarly m.chronicle

namespace Timely

variable {stream : UInt8} {turn : Turn} {events : List Event} {s : Socket} {r : Request}

theorem fresh (config : Config) : (Multiplexer.fresh config).Timely where
  recorded := recorded_fresh config
  accounts := fun _ => .between nofun
  sent := by
    intro early late r c heq
    simp [Multiplexer.fresh, chronicle] at heq
  not_early := by
    rintro ⟨early, late, stream, r, c, heq, -⟩
    simp [Multiplexer.fresh, chronicle] at heq

theorem resident (h : m.Timely) (hs : m.sockets.get? stream = some s) :
    ∃ past life, livesOn stream m.chronicle = past ++ [life] ∧
      (∀ life ∈ past, life.retired = true) ∧ life.retired = false ∧
      life.Introduces stream (m.queue.turns stream) s :=
  (h.accounts stream).exists_ongoing hs

/-- A connected socket that has nothing to send has no turn. -/
theorem turns_eq_nil (h : m.Timely) (hs : m.sockets.get? stream = some s)
    (hopen : s.flags.closed = false) (hconnect : s.pendingConnect = none)
    (hwrite : s.pendingWrite = none) : m.queue.turns stream = [] := by
  obtain ⟨past, life, hlives, -, hongoing, hlife⟩ := h.resident hs
  obtain ⟨_, _, _, _, hs', htracks⟩ :=
    (h.recorded.records stream).of_ongoing (by simp [hlives]) hongoing
  obtain rfl := Option.some.inj (hs.symm.trans hs')
  by_contra hturns
  exact htracks.connect_unsent hopen hwrite hturns _ (hlife.sent hopen (.inl hconnect))

/-- A connect that waits without a turn was sent. -/
theorem connectSent (h : m.Timely) (hs : m.sockets.get? stream = some s)
    (hopen : s.flags.closed = false) (hconnect : s.pendingConnect = some r)
    (hturns : m.queue.turns stream = []) (f : Frame) :
    ConnectSent r (m.chronicle ++ [.received f]) := by
  obtain ⟨past, life, hlives, hover, hongoing, hlife⟩ := h.resident hs
  have hquiet : [Event.received f].any (Event.bounds stream) = false := rfl
  have hlives' := livesOn_append_ongoing hlives hover hongoing hquiet
  obtain rfl := hlife.pending r hconnect
  refine ⟨stream, { life with events := life.events ++ [.received f] }, ?_, hongoing, rfl, ?_⟩
  · rw [hlives']
    simp
  · exact List.mem_append_left _ (hlife.sent hopen (.inr hturns))

/-- A connect that waits for its turn was not sent, for no stream. -/
theorem not_connectSent (h : m.Timely) (hs : m.sockets.get? stream = some s)
    (hopen : s.flags.closed = false) (hconnect : s.pendingConnect = some r)
    (hturns : m.queue.turns stream ≠ []) (f : Frame) :
    ¬ ConnectSent r (m.chronicle ++ [.received f, .withdrawn stream]) := by
  rintro ⟨other, life, hmem, hongoing, rfl, hsent⟩
  obtain ⟨life', hmem', hongoing', rfl⟩ := exists_life_of_append_quiet rfl hmem hongoing
  obtain ⟨s', _, _, _, hs', htracks⟩ := (h.recorded.records other).of_ongoing hmem' hongoing'
  -- The stream of that life has a socket of the same address, so that it is this stream.
  have haddress := (h.recorded.balanced.tidy stream s hs).addressed _
    (Socket.mem_parked.mpr (.inl hconnect))
  have hother : stream = other := by
    by_contra hne
    exact h.recorded.agreeing.distinct.address_ne hne hs hs' (haddress.symm.trans htracks.address)
  subst hother
  obtain rfl := Option.some.inj (hs.symm.trans hs')
  have hagrees := h.recorded.agreeing.streams stream
  rw [hs] at hagrees
  have hwrite := (hagrees.of_connect hconnect).2.1
  exact htracks.connect_unsent hopen hwrite hturns _ (by simpa using hsent)

/-- A second turn would be one of a connected socket that has nothing to send. -/
theorem not_doubled (h : m.Timely) (hmove : Move m stream turn events m') (other : UInt8) :
    .doubled other ∉ events := by
  intro hdoubled
  obtain ⟨hturns, s, r, hs, -, -, hfound, hfree⟩ :=
    hmove.step.second_turn (h.recorded.agreeing.streams stream) hdoubled
  obtain ⟨hconnect, hwrite, -⟩ := Socket.writeConflicts_eq_false_iff.mp hfree
  exact hturns (h.turns_eq_nil hs hfound.2 hconnect hwrite)

/-- What a move tells the maker of a connect, it tells after the frame with the answer, and after
withdrawing a turn that is still to come. -/
theorem tells_connect (h : m.Timely) (hmove : Move m stream turn events m')
    {early late : List Event} {c : Completion} (hevents : events = early ++ .answered r c :: late)
    (htells : TellsConnect r c) :
    ∃ s f, m.sockets.get? stream = some s ∧ s.flags.closed = false ∧ s.pendingConnect = some r ∧
      early = .received f :: if m.queue.turns stream = [] then [] else [.withdrawn stream] :=
  hmove.step.tells_connect (h.recorded.agreeing.streams stream) (h.recorded.balanced.tidy stream)
    hevents htells

theorem move_of_inTime (h : m.Timely) (hmove : Move m stream turn events m')
    (hintime : InTime (m.queue.turns stream) events) : m'.Timely where
  recorded := h.recorded.move hmove (h.not_doubled hmove)
  accounts := by
    have hagrees := h.recorded.agreeing.streams stream
    refine hmove.accounts (fun other turns => Life.Introduces other turns) h.accounts ?_ ?_ ?_ ?_
    · intro r rest s' hstep
      exact Life.introduces_opened hstep
    · intro life s s' hs hstep hlife
      rw [hs] at hagrees
      exact hlife.step hstep hagrees hmove.queue.fits hintime
    · intro life rest s hs hnone hevents hlife
      have hstep := hmove.step
      rw [hs] at hstep hagrees
      have hsends := hstep.sends_data hagrees
      rw [hevents] at hsends
      exact hlife.introduced_append (by simpa using hsends)
    · intro other life s hne hs hlife
      exact hlife.elsewhere (hmove.step.packetsOn_elsewhere hne)
  sent := by
    rw [hmove.chronicle_eq]
    intro early late r c heq htells
    rcases split_append heq with ⟨rest, hpast⟩ | ⟨rest, rfl, hevents⟩
    · exact h.sent early rest r c hpast htells
    · have hturns := hintime _ _ _ _ hevents htells
      obtain ⟨s, f, hs, hopen, hconnect, hearly⟩ := h.tells_connect hmove hevents htells
      rw [if_pos hturns] at hearly
      rw [hearly]
      exact h.connectSent hs hopen hconnect hturns f
  not_early := by
    rw [hmove.chronicle_eq]
    rintro ⟨early, late, other, r, c, heq, htells⟩
    rw [List.append_cons] at heq
    rcases split_append heq with ⟨rest, hpast⟩ | ⟨rest, hearly, hevents⟩
    · exact h.not_early ⟨early, rest, other, r, c, by simp [hpast], htells⟩
    -- The answer follows the frame, and not a withdrawn turn.
    · obtain ⟨s, f, -, -, -, hrest⟩ := h.tells_connect hmove hevents htells
      rw [if_pos (hintime _ _ _ _ hevents htells)] at hrest
      rw [hrest] at hearly
      have hlast := (List.append_inj' hearly rfl).2
      simp at hlast

theorem hasty_of_not_inTime (h : m.Timely) (hmove : Move m stream turn events m')
    (hearly : ¬ InTime (m.queue.turns stream) events) : Hasty m'.chronicle := by
  simp only [InTime, not_forall] at hearly
  obtain ⟨early, late, r, c, hevents, htells, hturns⟩ := hearly
  obtain ⟨s, f, hs, hopen, hconnect, heq⟩ := h.tells_connect hmove hevents htells
  rw [if_neg hturns] at heq
  subst heq
  rw [hmove.chronicle_eq, hevents]
  refine ⟨⟨m.chronicle ++ [.received f], late, stream, r, c, by simp, htells⟩,
    m.chronicle ++ [.received f, .withdrawn stream], late, r, c, by simp, htells, ?_⟩
  exact h.not_connectSent hs hopen hconnect hturns f

end Timely

theorem timely_or_hasty_run (config : Config) (operations : List Operation) :
    (run config operations).Timely ∨ Hasty (run config operations).chronicle := by
  refine (leads_run config operations).induct
    (p := fun m => m.Timely ∨ Hasty m.chronicle) (.inl (.fresh config)) ?_
  intro m m' stream turn events hmove h
  rcases h with htimely | hhasty
  · by_cases hintime : InTime (m.queue.turns stream) events
    · exact .inl (htimely.move_of_inTime hmove hintime)
    · exact .inr (htimely.hasty_of_not_inTime hmove hintime)
  · rw [hmove.chronicle_eq]
    exact .inr (hhasty.append events)

/-- A connect is told that the peer accepted or refused it only after it was sent, for a stream that
still lives, exactly if no answer is early. Then, between any two operations, a connected socket has
a turn only if a write or an end of stream waits on it; and in no life of a stream are data or the
end of the stream sent before the connect. -/
theorem answered_after_sent_iff_not_early (config : Config) (operations : List Operation) :
    let m := run config operations
    ((∀ early late r c, m.chronicle = early ++ .answered r c :: late → TellsConnect r c →
        ConnectSent r early) ↔ ¬ AnsweredEarly m.chronicle) ∧
      (¬ AnsweredEarly m.chronicle →
        (∀ s ∈ m.sockets.sockets, s.flags.closed = false → s.pendingConnect = none →
          m.queue.contains s.stream = true → s.pendingWrite.isSome = true) ∧
        ∀ stream, ∀ life ∈ livesOn stream m.chronicle, life.Introduced stream) := by
  have hrun := timely_or_hasty_run config operations
  dsimp only
  generalize run config operations = m at hrun ⊢
  rcases hrun with h | ⟨hearly, early, late, r, c, heq, htells, hunsent⟩
  · refine ⟨⟨fun _ => h.not_early, fun _ => h.sent⟩, fun _ => ⟨?_, ?_⟩⟩
    · intro s hs hopen hconnect hcontains
      by_contra hwrite
      have hturns := h.turns_eq_nil (h.recorded.agreeing.distinct.get?_eq_some hs) hopen hconnect
        (by simpa using hwrite)
      simp [SendQueue.contains_eq, hturns] at hcontains
    · intro stream
      exact (h.accounts stream).forall_lives fun _ _ hlife => hlife.introduced
  · exact ⟨⟨fun hsent => absurd (hsent early late r c heq htells) hunsent,
      fun hnot => absurd hearly hnot⟩, fun hnot => absurd hearly hnot⟩

/-- Two connects fill the ring, a third has to wait, and the peer accepts it all the same: its owner
is told, and its turn stays behind. When there is room, the turn passes without a connect, and what
the owner then writes is the first that the peer sees of the stream. -/
theorem data_sent_without_connect :
    let connect : Request := ⟨2, ⟨1, 3⟩, .connect []⟩
    let operations : List Operation := [.submit ⟨0, ⟨1, 1⟩, .connect (List.replicate 100 7)⟩,
      .submit ⟨1, ⟨1, 2⟩, .connect (List.replicate 149 7)⟩, .submit connect,
      .publish [1, 2, 5, 0], .poll]
    let m := run {} operations
    .answered connect (.ofStatus .ok) ∈ m.chronicle ∧ packetsOn 5 m.chronicle = [] ∧
      ((m.sockets.get? 5).map fun s => (s.flags.closed, s.pendingConnect)) = some (false, none) ∧
      m.queue.entries = [⟨5, 0⟩] ∧
      packetsOn 5
        (run {} (operations ++ [.take, .poll, .submit ⟨3, ⟨1, 3⟩, .write [9]⟩])).chronicle =
        [(.data, [9])] := by
  decide +kernel

end Multiplexer

end StreamLink
