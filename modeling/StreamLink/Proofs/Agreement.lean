import StreamLink.Proofs.Run

/-!
# The send queue and the sockets agree

The send queue knows streams and lengths, and the sockets know what is to be sent. As long as no
stream gets a second turn, a stream has a turn exactly for what its socket waits to send, of that
length; then no turn comes up in vain, and every packet finds the room that its turn was judged by.

There is one exception. The peer can answer a connect whose turn is still to come, and the turn stays
behind. A write that meets it would get a second one.

Main statement: `agreeing_run`.
-/

namespace StreamLink

/-- Whether a socket can still send: it is not closed, and has ended only if its owner asked. -/
structure Socket.Sending (s : Socket) : Prop where
  closed : s.flags.closed = false
  owes : s.flags.owesReset = false
  ended : s.flags.eosSent = true → s.flags.eosFromCaller = true

/-- A stream's turns are what its socket waits for, or one that an answered connect left behind. -/
inductive Agrees : Option Socket → List Nat → Prop
  | absent : Agrees none []
  | closed {s : Socket} (hclosed : s.flags.closed = true) (howes : s.flags.owesReset = true)
      (hconnect : s.pendingConnect = none) (hwrite : s.pendingWrite = none) : Agrees (some s) [0]
  | connecting {s : Socket} {turns : List Nat} {r : Request} {service : Bytes}
      (hsending : s.Sending) (hconnect : s.pendingConnect = some r)
      (hwrite : s.pendingWrite = none) (hr : r.command = .connect service)
      (hlength : service.length ≤ maxPayload) (hturns : turns = [] ∨ turns = [service.length]) :
      Agrees (some s) turns
  | writing {s : Socket} {r : Request} {data : Bytes} (hsending : s.Sending)
      (hconnect : s.pendingConnect = none) (hwrite : s.pendingWrite = some r)
      (hr : r.command = .write data) (hlength : data.length ≤ maxPayload)
      (hcaller : s.flags.eosFromCaller = false) : Agrees (some s) [data.length]
  | ending {s : Socket} {r : Request} (hsending : s.Sending) (hconnect : s.pendingConnect = none)
      (hwrite : s.pendingWrite = some r) (hr : r.command = .eos)
      (hcaller : s.flags.eosFromCaller = true) (hsent : s.flags.eosSent = false) :
      Agrees (some s) [0]
  | resting {s : Socket} {turns : List Nat} (hsending : s.Sending)
      (hconnect : s.pendingConnect = none) (hwrite : s.pendingWrite = none)
      (hturns : turns = [] ∨ ∃ n, turns = [n] ∧ n ≤ maxPayload) : Agrees (some s) turns

namespace Agrees

variable {s? : Option Socket} {s s' : Socket} {turns : List Nat}

theorem length_le_one (h : Agrees s? turns) : turns.length ≤ 1 := by
  cases h with
  | connecting _ _ _ _ _ hturns => rcases hturns with rfl | rfl <;> simp
  | resting _ _ _ hturns => rcases hturns with rfl | ⟨n, rfl, -⟩ <;> simp
  | _ => simp

theorem tail_eq_nil (h : Agrees s? turns) : turns.tail = [] := by
  have hlength := h.length_le_one
  rw [← List.length_eq_zero_iff, List.length_tail]
  omega

theorem le_maxPayload (h : Agrees s? turns) : ∀ n ∈ turns, n ≤ maxPayload := by
  cases h with
  | connecting _ _ _ _ hlength hturns => rcases hturns with rfl | rfl <;> simp [hlength]
  | writing _ _ _ _ hlength _ => simp [hlength]
  | resting _ _ _ hturns => rcases hturns with rfl | ⟨n, rfl, hn⟩ <;> simp [*]
  | _ => simp

/-- What a socket receives does not matter. -/
theorem congr (h : Agrees (some s) turns) (hlike : s'.SendsLike s) : Agrees (some s') turns := by
  obtain ⟨-, hclosed, howes, hcaller, hsent, hconnect, hwrite⟩ := hlike
  have hkeep (hsending : s.Sending) : s'.Sending := by
    refine ⟨hclosed.trans hsending.closed, howes.trans hsending.owes, ?_⟩
    rw [hsent, hcaller]
    exact hsending.ended
  cases h with
  | closed hc ho hn hw =>
      exact .closed (hclosed.trans hc) (howes.trans ho) (hconnect.trans hn) (hwrite.trans hw)
  | connecting hsending hn hw hr hlength hturns =>
      exact .connecting (hkeep hsending) (hconnect.trans hn) (hwrite.trans hw) hr hlength hturns
  | writing hsending hn hw hr hlength he =>
      exact .writing (hkeep hsending) (hconnect.trans hn) (hwrite.trans hw) hr hlength
        (hcaller.trans he)
  | ending hsending hn hw hr he hs =>
      exact .ending (hkeep hsending) (hconnect.trans hn) (hwrite.trans hw) hr (hcaller.trans he)
        (hsent.trans hs)
  | resting hsending hn hw hturns =>
      exact .resting (hkeep hsending) (hconnect.trans hn) (hwrite.trans hw) hturns

theorem sending (h : Agrees (some s) turns) (hopen : s.flags.closed = false) : s.Sending := by
  cases h with
  | closed hclosed =>
      rw [hclosed] at hopen
      contradiction
  | _ => assumption

theorem of_connect (h : Agrees (some s) turns) {r : Request} (hconnect : s.pendingConnect = some r) :
    s.Sending ∧ s.pendingWrite = none ∧ ∃ service, r.command = .connect service ∧
      service.length ≤ maxPayload ∧ (turns = [] ∨ turns = [service.length]) := by
  cases h with
  | connecting hsending hconnect' hwrite hr hlength hturns =>
      obtain rfl := Option.some.inj (hconnect.symm.trans hconnect')
      exact ⟨hsending, hwrite, _, hr, hlength, hturns⟩
  | _ => simp_all

theorem of_write (h : Agrees (some s) turns) {r : Request} {data : Bytes}
    (hwrite : s.pendingWrite = some r) (hr : r.command = .write data) :
    s.Sending ∧ s.pendingConnect = none ∧ turns = [data.length] ∧
      s.flags.eosFromCaller = false := by
  cases h with
  | writing hsending hconnect hwrite' hr' hlength hcaller =>
      obtain rfl := Option.some.inj (hwrite.symm.trans hwrite')
      obtain rfl := Command.write.inj (hr.symm.trans hr')
      exact ⟨hsending, hconnect, rfl, hcaller⟩
  | _ => simp_all

theorem of_end (h : Agrees (some s) turns) {r : Request} (hwrite : s.pendingWrite = some r)
    (hr : ∀ data, r.command ≠ .write data) :
    s.Sending ∧ s.pendingConnect = none ∧ r.command = .eos ∧ turns = [0] ∧
      s.flags.eosFromCaller = true ∧ s.flags.eosSent = false := by
  cases h with
  | ending hsending hconnect hwrite' hr' hcaller hsent =>
      obtain rfl := Option.some.inj (hwrite.symm.trans hwrite')
      exact ⟨hsending, hconnect, hr', rfl, hcaller, hsent⟩
  | _ => simp_all

theorem of_closed (h : Agrees (some s) turns) (hclosed : s.flags.closed = true) :
    s.flags.owesReset = true ∧ s.pendingConnect = none ∧ s.pendingWrite = none ∧ turns = [0] := by
  cases h with
  | closed _ howes hconnect hwrite => exact ⟨howes, hconnect, hwrite, rfl⟩
  | connecting hsending | writing hsending | ending hsending | resting hsending =>
      rw [hsending.closed] at hclosed
      contradiction

end Agrees

theorem Socket.Sending.eosSent_eq_false {s : Socket} (h : s.Sending)
    (hcaller : s.flags.eosFromCaller = false) : s.flags.eosSent = false := by
  by_contra hsent
  rw [h.ended (by simpa using hsent)] at hcaller
  contradiction

/-- There was no turn yet. -/
theorem eq_nil_of_again {stream : UInt8} {turns : List Nat}
    (h : .doubled stream ∉ again stream turns) : turns = [] := by
  by_contra hturns
  exact h (mem_again.mpr ⟨hturns, rfl⟩)

/-- Whether the event is a second turn. -/
def Event.isDoubled : Event → Bool
  | doubled _ => true
  | _ => false

theorem doubled_not_mem {events : List Event} (h : events.any Event.isDoubled = false)
    (other : UInt8) : .doubled other ∉ events := by
  intro hmem
  exact List.any_eq_false.mp h _ hmem rfl

/-- A step of one stream gives no other a second turn. -/
theorem SocketStep.doubled_elsewhere {stream other : UInt8} {s? s?' : Option Socket}
    {turns : List Nat} {turn : Turn} {events : List Event}
    (h : SocketStep stream s? turns turn events s?') (hother : stream ≠ other) :
    .doubled other ∉ events := by
  intro hmem
  have hfarewell (s : Socket) : .doubled other ∉ s.farewell turns := by
    intro hmem
    rcases Socket.mem_farewell hmem with heq | ⟨r, -, heq⟩ <;> contradiction
  have hagain (turns : List Nat) : .doubled other ∉ again stream turns := by
    intro hmem
    exact hother (Event.doubled.inj (mem_again.mp hmem).2).symm
  have hcause (f? : Option Frame) : .doubled other ∉ (f?.map Event.received).toList :=
    not_mem_received (by simp) f?
  cases h with
  | connected | rejected => split at hmem <;> simp [hfarewell] at hmem
  | serveConnect _ he | serveWrite _ _ _ he => rcases he with rfl | ⟨rfl, -⟩ <;> simp at hmem
  | _ => simp [hfarewell, hagain, hcause] at hmem

theorem Socket.sending_opening (stream : UInt8) (r : Request) : (opening stream r).Sending :=
  ⟨rfl, rfl, by simp [opening]⟩

/-- Every step without a second turn keeps the agreement. -/
theorem SocketStep.agrees {stream : UInt8} {s? s?' : Option Socket} {turns : List Nat}
    {turn : Turn} {events : List Event} (h : SocketStep stream s? turns turn events s?')
    (hagrees : Agrees s? turns) (hfits : turn.Fits turns)
    (hsingle : ∀ other, .doubled other ∉ events) : Agrees s?' (turn.after turns) := by
  cases h with
  | idle => exact hagrees
  | refuse => exact hagrees
  | ignore => exact hagrees
  | garble => exact hagrees
  | openNow hr hlength =>
      obtain rfl : turns = [] := hfits
      exact .connecting (Socket.sending_opening _ _) rfl rfl hr hlength (.inl rfl)
  | openLater hr hlength =>
      cases hagrees
      exact .connecting (Socket.sending_opening _ _) rfl rfl hr hlength (.inr rfl)
  | readChunk _ _ _ _ hpop _ =>
      obtain ⟨_, _, rfl⟩ := Socket.exists_of_popChunk? hpop
      exact hagrees.congr (.received ..)
  | readEnd => exact hagrees.congr (.received ..)
  | readWait => exact hagrees.congr (.received ..)
  | writeNow => exact hagrees
  | writeLater hr hopen hfree hlength =>
      obtain rfl := eq_nil_of_again fun hmem => hsingle _ (List.mem_append_right _ hmem)
      obtain ⟨hconnect, -, hcaller⟩ := Socket.writeConflicts_eq_false_iff.mp hfree
      obtain ⟨hclosed, howes, hended⟩ := hagrees.sending hopen.2
      exact .writing ⟨hclosed, howes, hended⟩ hconnect rfl hr hlength hcaller
  | endNow hr hopen hfree =>
      obtain rfl : turns = [] := hfits
      obtain ⟨hconnect, hwrite, -⟩ := Socket.writeConflicts_eq_false_iff.mp hfree
      obtain ⟨hclosed, howes, -⟩ := hagrees.sending hopen.2
      exact .resting ⟨hclosed, howes, fun _ => rfl⟩ hconnect hwrite (.inl rfl)
  | endLater hr hopen hfree =>
      obtain rfl := eq_nil_of_again fun hmem => hsingle _ (List.mem_append_right _ hmem)
      obtain ⟨hconnect, -, hcaller⟩ := Socket.writeConflicts_eq_false_iff.mp hfree
      have hsending := hagrees.sending hopen.2
      exact .ending ⟨hsending.closed, hsending.owes, fun _ => rfl⟩ hconnect rfl hr rfl
        (hsending.eosSent_eq_false hcaller)
  | connected _ _ _ hopen hconnect =>
      obtain ⟨hsending, hwrite, service, -, hlength, hturns⟩ := hagrees.of_connect hconnect
      refine .resting ⟨hsending.closed, hsending.owes, hsending.ended⟩ rfl hwrite ?_
      exact hturns.imp_right fun hturns => ⟨service.length, hturns, hlength⟩
  | rejected =>
      rw [Turn.after, hagrees.tail_eq_nil]
      exact .absent
  | dataRead => exact hagrees.congr (.received ..)
  | dataKept => exact hagrees.congr (.received ..)
  | endRead => exact hagrees.congr (.received ..)
  | endKept => exact hagrees.congr (.received ..)
  | closeQuietly =>
      rw [Turn.after, hagrees.tail_eq_nil]
      exact .absent
  | closeNow =>
      rw [Turn.after, hagrees.tail_eq_nil]
      exact .absent
  | closeLater =>
      rw [Turn.after, hagrees.tail_eq_nil]
      exact .closed rfl rfl rfl rfl
  | serveConnect hconnect _ =>
      rw [Turn.after, hagrees.tail_eq_nil]
      obtain ⟨hsending, hwrite, service, hr, hlength, -⟩ := hagrees.of_connect hconnect
      exact .connecting hsending hconnect hwrite hr hlength (.inl rfl)
  | serveWrite hconnect hwrite hr _ =>
      rw [Turn.after, hagrees.tail_eq_nil]
      obtain ⟨hsending, -⟩ := hagrees.of_write hwrite hr
      exact .resting ⟨hsending.closed, hsending.owes, hsending.ended⟩ hconnect rfl (.inl rfl)
  | serveEnd hconnect hwrite hr =>
      rw [Turn.after, hagrees.tail_eq_nil]
      obtain ⟨hsending, -, -, -, hcaller, -⟩ := hagrees.of_end hwrite hr
      exact .resting ⟨hsending.closed, hsending.owes, fun _ => hcaller⟩ hconnect rfl (.inl rfl)
  | serveReset =>
      rw [Turn.after, hagrees.tail_eq_nil]
      exact .absent
  | serveIdle hconnect hwrite howes =>
      rw [Turn.after, hagrees.tail_eq_nil]
      cases hagrees with
      | closed _ howes' => simp [howes'] at howes
      | resting hsending => exact .resting hsending hconnect hwrite (.inl rfl)
      | connecting _ hconnect' => simp [hconnect'] at hconnect
      | writing _ _ hwrite' => simp [hwrite'] at hwrite
      | ending _ _ hwrite' => simp [hwrite'] at hwrite
  | serveStray =>
      rw [Turn.after, hagrees.tail_eq_nil]
      exact .absent

/-! ### What the agreement rules out -/

/-- Whether the event tells of a packet that found no room or of a turn that came up in vain. -/
def Event.isFailure : Event → Bool
  | refused .. | strayed _ => true
  | _ => false

theorem Posted.eq_sent {n : Nat} {kind : PacketKind} {stream : UInt8} {payload : Bytes} {e : Event}
    (h : Posted n kind stream payload e) (hlength : payload.length ≤ n) :
    e = .sent kind stream payload := by
  rcases h with h | ⟨-, hshort⟩
  · exact h
  · omega

/-- A connect whose turn has come finds room. -/
theorem Agrees.sent_connect {stream : UInt8} {s : Socket} {turns : List Nat} {n : Nat} {r : Request}
    {e : Event} (h : Agrees (some s) turns) (hfits : (Turn.serve n).Fits turns)
    (hconnect : s.pendingConnect = some r) (he : Posted n .connect stream r.command.payload e) :
    e = .sent .connect stream r.command.payload := by
  obtain ⟨-, -, service, hr, -, hturns⟩ := h.of_connect hconnect
  have hfirst : turns.head? = some n := hfits
  rcases hturns with rfl | rfl
  · contradiction
  · apply he.eq_sent
    rw [hr]
    exact Nat.le_of_eq (Option.some.inj hfirst)

/-- A write whose turn has come finds room. -/
theorem Agrees.sent_write {stream : UInt8} {s : Socket} {turns : List Nat} {n : Nat} {r : Request}
    {data : Bytes} {e : Event} (h : Agrees (some s) turns) (hfits : (Turn.serve n).Fits turns)
    (hwrite : s.pendingWrite = some r) (hr : r.command = .write data)
    (he : Posted n .data stream data e) : e = .sent .data stream data := by
  obtain ⟨-, -, rfl, -⟩ := h.of_write hwrite hr
  exact he.eq_sent (Nat.le_of_eq (Option.some.inj hfits))

/-- Among agreeing streams every packet finds room, and every turn its socket. -/
theorem SocketStep.filter_isFailure {stream : UInt8} {s? s?' : Option Socket} {turns : List Nat}
    {turn : Turn} {events : List Event} (h : SocketStep stream s? turns turn events s?')
    (hagrees : Agrees s? turns) (hfits : turn.Fits turns) :
    events.filter Event.isFailure = [] := by
  have hfarewell (s : Socket) : (s.farewell turns).filter Event.isFailure = [] := by
    rw [List.filter_eq_nil_iff]
    intro e he
    rcases Socket.mem_farewell he with rfl | ⟨r, -, rfl⟩ <;> simp [Event.isFailure]
  have hagain (turns : List Nat) : (again stream turns).filter Event.isFailure = [] := by
    rw [List.filter_eq_nil_iff]
    intro e he
    rw [(mem_again.mp he).2]
    simp [Event.isFailure]
  have hcause (f? : Option Frame) :
      (f?.map Event.received).toList.filter Event.isFailure = [] := by
    cases f? <;> rfl
  cases h with
  | openLater | writeLater | endLater => simp [hagain, Event.isFailure]
  | connected => split <;> simp [Event.isFailure]
  | rejected => split <;> simp [hfarewell, Event.isFailure]
  | closeQuietly | closeNow => simp [hcause, hfarewell, Event.isFailure]
  | closeLater => simp [hcause, hfarewell, hagain, Event.isFailure]
  | serveConnect hconnect he =>
      rw [hagrees.sent_connect hfits hconnect he]
      rfl
  | serveWrite _ hwrite hr he =>
      rw [hagrees.sent_write hfits hwrite hr he]
      rfl
  | serveStray =>
      cases hagrees
      contradiction
  | _ => rfl

/-! ### Runs -/

namespace Multiplexer

/-- Every stream agrees with its turns, and nothing has failed. -/
structure Agreeing (m : Multiplexer) : Prop where
  distinct : m.sockets.Distinct
  streams : ∀ stream, Agrees (m.sockets.get? stream) (m.queue.turns stream)
  sound : m.chronicle.filter Event.isFailure = []

variable {m m' : Multiplexer}

theorem agreeing_fresh (config : Config) : (fresh config).Agreeing where
  distinct := distinct_fresh config
  streams := by
    intro stream
    rw [get?_fresh, turns_fresh]
    exact .absent
  sound := rfl

theorem Agreeing.move {stream : UInt8} {turn : Turn} {events : List Event} (h : m.Agreeing)
    (hmove : Move m stream turn events m') (hsingle : ∀ other, .doubled other ∉ events) :
    m'.Agreeing where
  distinct := hmove.distinct
  streams := by
    apply hmove.forall_streams (p := fun _ s? turns => Agrees s? turns) h.streams
    intro hagrees
    exact hmove.step.agrees hagrees hmove.queue.fits hsingle
  sound := by
    rw [hmove.chronicle_eq, List.filter_append, h.sound,
      hmove.step.filter_isFailure (h.streams stream) hmove.queue.fits, List.nil_append]

/-- As long as no stream gets a second turn, the agreement lasts. -/
theorem Agreeing.leads {rs : List Request} (h : m.Agreeing) (hleads : Leads m rs m')
    (hsingle : ∀ other, .doubled other ∉ m'.chronicle) : m'.Agreeing := by
  induction hleads with
  | refl => exact h
  | tail _ hmove ih =>
      rw [hmove.chronicle_eq] at hsingle
      have hbefore := ih fun other hmem => hsingle other (List.mem_append_left _ hmem)
      exact hbefore.move hmove fun other hmem => hsingle other (List.mem_append_right _ hmem)

theorem agreeing_run {config : Config} {operations : List Operation}
    (hsingle : ∀ other, .doubled other ∉ (run config operations).chronicle) :
    (run config operations).Agreeing :=
  (agreeing_fresh config).leads (leads_run config operations) hsingle

theorem Agreeing.nodup (h : m.Agreeing) : (m.queue.entries.map (·.stream)).Nodup :=
  SendQueue.nodup_iff_length_turns.mpr fun stream => (h.streams stream).length_le_one

theorem Agreeing.not_refused (h : m.Agreeing) (kind : PacketKind) (stream : UInt8)
    (payload : Bytes) : .refused kind stream payload ∉ m.chronicle := by
  intro hmem
  exact List.filter_eq_nil_iff.mp h.sound _ hmem rfl

theorem Agreeing.not_strayed (h : m.Agreeing) (stream : UInt8) :
    .strayed stream ∉ m.chronicle := by
  intro hmem
  exact List.filter_eq_nil_iff.mp h.sound _ hmem rfl

end Multiplexer

end StreamLink
