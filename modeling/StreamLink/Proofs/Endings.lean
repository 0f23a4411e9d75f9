import StreamLink.Proofs.Coherence
import StreamLink.Proofs.Deliveries

/-!
# How lives end

Once a stream has a socket it keeps it, with the address it was opened for, as long as its life goes
on; no other socket gets the stream or the address. And no life ends behind the peer's back: it is
told by a Reset, or it gave the stream up itself, by a Reset or by refusing the connect, or both
directions have ended and the owner knows.

Main statement: `resident_until_parted`.
-/

namespace StreamLink

/-! ### What a life tells of its end -/

/-- Whether a connect still waits after these events of its life: it was not accepted, and the
stream was not given up. -/
structure Connecting (stream : UInt8) (r : Request) (events : List Event) : Prop where
  unanswered : .answered r (.ofStatus .ok) ∉ events
  kept : .accepted .reset stream [] ∉ events

theorem Connecting.append {stream : UInt8} {r : Request} {past events : List Event}
    (h : Connecting stream r past) (h' : Connecting stream r events) :
    Connecting stream r (past ++ events) where
  unanswered := by simp [h.unanswered, h'.unanswered]
  kept := by simp [h.kept, h'.kept]

/-- Whether a read on the socket of an address was told that the stream has ended. -/
def ToldEnd (address : Address) (events : List Event) : Prop :=
  ∃ r capacity, .answered r (.ofStatus .readEos) ∈ events ∧ r.address = address ∧
    r.command = .read capacity

theorem ToldEnd.append_left {address : Address} {past : List Event} (h : ToldEnd address past)
    (events : List Event) : ToldEnd address (past ++ events) := by
  obtain ⟨r, capacity, hmem, hr⟩ := h
  exact ⟨r, capacity, List.mem_append_left _ hmem, hr⟩

theorem ToldEnd.append_right {address : Address} {events : List Event} (h : ToldEnd address events)
    (past : List Event) : ToldEnd address (past ++ events) := by
  obtain ⟨r, capacity, hmem, hr⟩ := h
  exact ⟨r, capacity, List.mem_append_right _ hmem, hr⟩

/-- Why a life may end. -/
inductive Life.Parted (stream : UInt8) (life : Life) : Prop
  | told (h : .sent .reset stream [] ∈ life.events)
  | reset {f : Frame} (hreceived : .received f ∈ life.events) (hf : f.stream = stream)
      (hkind : PacketKind.ofCode? f.kind = some .reset)
  | rejected {f : Frame} {result : UInt8} {early late : List Event}
      (hevents : life.events = early ++ .received f :: late) (hf : f.stream = stream)
      (hkind : PacketKind.ofCode? f.kind = some .connectResponse) (hpayload : f.payload = [result])
      (hresult : result ≠ connectAccepted) (hconnect : Connecting stream life.request early)
  | exchanged (hsent : .sent .eos stream [] ∈ life.events) (hended : EndsIn stream life.events)
      (htold : ToldEnd life.request.address life.events)

/-- Whether a life that goes on explains what the stream's socket knows of its end. -/
structure Life.Explains (stream : UInt8) (life : Life) (s : Socket) : Prop where
  address : life.request.address = s.address
  sent : s.flags.eosSent = true → .sent .eos stream [] ∈ life.events
  ended : s.flags.eosFromPeer = true → EndsIn stream life.events
  delivered : s.flags.eosDelivered = true → ToldEnd s.address life.events
  connecting : ∀ r ∈ s.pendingConnect, r = life.request ∧ Connecting stream r life.events

/-! ### Steps -/

section Step

variable {stream other : UInt8} {s s' : Socket} {s? s?' : Option Socket} {turns : List Nat}
  {turn : Turn} {events rest : List Event} {life : Life}

/-- A socket knows that the end was sent only if it was. -/
theorem SocketStep.sent_eos (h : SocketStep stream (some s) turns turn events (some s'))
    (hsent : s'.flags.eosSent = true) :
    s.flags.eosSent = true ∨ .sent .eos stream [] ∈ events := by
  cases h with
  | readChunk _ _ _ _ hpop =>
      obtain ⟨_, _, rfl⟩ := Socket.exists_of_popChunk? hpop
      exact .inl hsent
  | endNow | serveEnd => exact .inr (by simp)
  | _ => exact .inl hsent

/-- A socket knows that a read was told of the end only if one was. -/
theorem SocketStep.toldEnd (h : SocketStep stream (some s) turns turn events (some s'))
    (htidy : s.Tidy) (hdelivered : s'.flags.eosDelivered = true) :
    s.flags.eosDelivered = true ∨ ToldEnd s.address events := by
  cases h with
  | readChunk _ _ _ _ hpop =>
      obtain ⟨_, _, rfl⟩ := Socket.exists_of_popChunk? hpop
      exact .inl hdelivered
  | readEnd hr hopen => exact .inr ⟨_, _, by simp, hopen.1.symm, hr⟩
  | endRead _ _ _ hread =>
      obtain ⟨capacity, hr⟩ := htidy.reading _ hread
      exact .inr ⟨_, capacity, by simp, htidy.address_of_read hread, hr⟩
  | _ => exact .inl hdelivered

/-- Nothing happened to a connect that waits. -/
theorem SocketStep.connecting (h : SocketStep stream (some s) turns turn events (some s'))
    (hcoherent : s.Coherent) {r : Request} (hr : r ∈ s'.pendingConnect) :
    Connecting stream r events := by
  have hwaits := h.mem_pendingConnect hr
  -- It excludes whatever else could be answered.
  have hconnected (hconnect : s.pendingConnect = none) : False := by
    rw [hconnect] at hwaits
    contradiction
  have hreading {r' : Request} (hread : s.pendingRead = some r') : False := by
    rw [(hcoherent.connect r hwaits).2.1] at hread
    contradiction
  cases h with
  | refuse hrefused => exact ⟨by simp [Completion.ofStatus, hrefused.ne_ok.symm], by simp⟩
  | readChunk _ _ hconnect | readEnd _ _ hconnect | readWait _ _ hconnect =>
      exact (hconnected hconnect).elim
  | writeNow _ _ hfree | writeLater _ _ hfree | endNow _ _ hfree | endLater _ _ hfree =>
      exact (hconnected (Socket.writeConflicts_eq_false_iff.mp hfree).1).elim
  | connected | closeLater => contradiction
  | dataRead _ _ _ hread | endRead _ _ _ hread => exact (hreading hread).elim
  | serveConnect _ he => rcases he with rfl | ⟨rfl, -⟩ <;> exact ⟨by simp, by simp⟩
  | serveWrite hconnect | serveEnd hconnect => exact (hconnected hconnect).elim
  | _ => exact ⟨by simp, by simp⟩

/-- What is done elsewhere does not give the stream up. -/
theorem SocketStep.kept_elsewhere (h : SocketStep stream s? turns turn events s?')
    (hother : stream ≠ other) : .accepted .reset other [] ∉ events := by
  intro hmem
  have hfarewell (s : Socket) : .accepted .reset other [] ∉ s.farewell turns := by
    intro hmem
    rcases Socket.mem_farewell hmem with heq | ⟨r, -, heq⟩ <;> contradiction
  have hagain (turns : List Nat) : .accepted .reset other [] ∉ again stream turns :=
    not_mem_again (by simp) stream turns
  have hcause (f? : Option Frame) : .accepted .reset other [] ∉ (f?.map Event.received).toList :=
    not_mem_received (by simp) f?
  cases h with
  | connected | rejected => split at hmem <;> simp [hfarewell] at hmem
  | serveConnect _ he | serveWrite _ _ _ he => rcases he with rfl | ⟨rfl, -⟩ <;> simp at hmem
  | _ => simp [hfarewell, hagain, hcause, Ne.symm hother] at hmem

namespace Life

/-- A life that has just begun. -/
theorem explains_opened {r : Request}
    (h : SocketStep stream none turns turn (.submitted r :: .opened stream r :: rest) (some s')) :
    Explains stream ⟨r, rest, false⟩ s' := by
  generalize hevents : Event.submitted r :: .opened stream r :: rest = events at h
  cases h with
  | openNow | openLater =>
      injection hevents with hr hevents
      injection hevents with _ hrest
      injection hr with hr
      subst hr hrest
      refine ⟨rfl, nofun, nofun, nofun, ?_⟩
      rintro _ ⟨⟩
      exact ⟨rfl, by simp [again], by simp [again]⟩

namespace Explains

theorem step (h : life.Explains stream s)
    (hstep : SocketStep stream (some s) turns turn events (some s')) (htidy : s.Tidy)
    (hcoherent : s.Coherent) :
    Explains stream { life with events := life.events ++ events } s' where
  address := h.address.trans hstep.address_eq.symm
  sent := by
    intro hsent
    rcases hstep.sent_eos hsent with hsent | hsent
    · exact List.mem_append_left _ (h.sent hsent)
    · exact List.mem_append_right _ hsent
  ended := by
    intro hended
    rcases hstep.endsIn hended with hended | hended
    · exact (h.ended hended).append_left events
    · exact hended.append_right life.events
  delivered := by
    intro hdelivered
    rw [hstep.address_eq]
    rcases hstep.toldEnd htidy hdelivered with hdelivered | htold
    · exact (h.delivered hdelivered).append_left events
    · exact htold.append_right life.events
  connecting := by
    intro r hr
    obtain ⟨rfl, hbefore⟩ := h.connecting r (hstep.mem_pendingConnect hr)
    exact ⟨rfl, hbefore.append (hstep.connecting hcoherent hr)⟩

/-- What is done elsewhere leaves a life as it is. -/
theorem elsewhere (h : life.Explains stream s)
    (hconnecting : ∀ r ∈ s.pendingConnect, Connecting stream r events) :
    Explains stream { life with events := life.events ++ events } s where
  address := h.address
  sent := fun hsent => List.mem_append_left _ (h.sent hsent)
  ended := fun hended => (h.ended hended).append_left events
  delivered := fun hdelivered => (h.delivered hdelivered).append_left events
  connecting := by
    intro r hr
    obtain ⟨rfl, hbefore⟩ := h.connecting r hr
    exact ⟨rfl, hbefore.append (hconnecting _ hr)⟩

/-- When a life ends for a reason, it tells the reason. -/
theorem parted (h : life.Explains stream s) (hcoherent : s.Coherent)
    (hparting : Parting stream s events) (hevents : events = rest ++ [.retired stream]) :
    Parted stream { life with events := life.events ++ rest, retired := true } := by
  -- The frame that ends a life is the first of its last events.
  have hfirst {f : Frame} {events : List Event}
      (heq : Event.received f :: events = rest ++ [.retired stream]) :
      ∃ late, rest = .received f :: late := by
    rcases rest with _ | ⟨e, late⟩
    · simp at heq
    · exact ⟨late, by rw [(List.cons.inj heq).1]⟩
  cases hparting with
  | told hsent =>
      have hsent : .sent .reset stream [] ∈ rest := by simpa [hevents] using hsent
      exact .told (List.mem_append_right _ hsent)
  | reset hf hkind =>
      obtain ⟨late, rfl⟩ := hfirst hevents
      exact .reset (by simp) hf hkind
  | rejected hf hkind hpayload hresult hwaits =>
      obtain ⟨late, rfl⟩ := hfirst hevents
      obtain ⟨r, hr⟩ := Option.ne_none_iff_exists'.mp hwaits
      obtain ⟨rfl, hconnect⟩ := h.connecting r hr
      exact .rejected rfl hf hkind hpayload hresult hconnect
  | exchanged hboth =>
      obtain ⟨hdelivered, hsent⟩ : s.flags.eosDelivered = true ∧ s.flags.eosSent = true := by
        simpa [SocketFlags.eosExchanged] using hboth
      refine .exchanged (List.mem_append_left _ (h.sent hsent)) ?_ ?_
      · exact (h.ended (hcoherent.delivered hdelivered)).append_left rest
      · rw [h.address]
        exact (h.delivered hdelivered).append_left rest

end Explains

end Life

end Step

/-! ### Runs -/

namespace Multiplexer

variable {m m' : Multiplexer}

/-- The lives of every stream tell how they ended, and explain the sockets. -/
structure Explained (m : Multiplexer) : Prop where
  balanced : m.Balanced
  coherent : ∀ stream, ∀ s ∈ m.sockets.get? stream, s.Coherent
  accounts : ∀ stream, Accounts stream (Life.Parted stream) (Life.Explains stream) m.chronicle
    (m.sockets.get? stream)

namespace Explained

theorem fresh (config : Config) : (Multiplexer.fresh config).Explained where
  balanced := balanced_fresh config
  coherent := by simp
  accounts := fun _ => .between nofun

theorem move {stream : UInt8} {turn : Turn} {events : List Event} (h : m.Explained)
    (hmove : Move m stream turn events m') (hreasoned : Reasoned m stream events m') :
    m'.Explained where
  balanced := h.balanced.move hmove
  coherent := hmove.coherent h.coherent
  accounts := by
    have htidy := h.balanced.tidy stream
    refine hmove.accounts (fun other _ => Life.Explains other) h.accounts ?_ ?_ ?_ ?_
    · intro r rest s' hstep
      exact Life.explains_opened hstep
    · intro life s s' hs hstep hlife
      exact hlife.step hstep (htidy s hs) (h.coherent stream s hs)
    · intro life rest s hs hnone hevents hlife
      exact hlife.parted (h.coherent stream s hs) (hreasoned s hs hnone) hevents
    · intro other life s hne hs hlife
      refine hlife.elsewhere fun r hr => ⟨?_, hmove.step.kept_elsewhere hne⟩
      intro hanswered
      obtain ⟨s', hs', haddress⟩ := hmove.step.address_of_ok htidy hanswered rfl
      have hr := (h.balanced.tidy other s hs).addressed r (Socket.mem_parked.mpr (.inl hr))
      exact h.balanced.distinct.address_ne hne hs' hs (haddress.trans hr)

end Explained

theorem explained_run (config : Config) {operations : List Operation}
    (hclose : ∀ stream emitReset, .close stream emitReset ∉ operations) :
    (run config operations).Explained := by
  obtain ⟨_, hproceeds⟩ := exists_proceeds_run config hclose
  exact hproceeds.induct (.fresh config) fun hmove hreasoned h => h.move hmove hreasoned

/-- As long as nobody else closes sockets, each life of a stream is over, and then it ended for one
of the reasons there are, or it goes on, and then the stream has a socket of the address that the
life was opened for, and no other socket has the stream or the address. Every socket is there for a
life that goes on. -/
theorem resident_until_parted (config : Config) {operations : List Operation}
    (hclose : ∀ stream emitReset, .close stream emitReset ∉ operations) (stream : UInt8) :
    let m := run config operations
    (∀ life ∈ livesOn stream m.chronicle,
      life.retired = true ∧ life.Parted stream ∨
      life.retired = false ∧ ∃ s, m.sockets.get? stream = some s ∧
        s.address = life.request.address ∧
        ∀ s' ∈ m.sockets.sockets, s'.stream = stream ∨ s'.address = s.address → s' = s) ∧
    ∀ s ∈ m.sockets.get? stream, ∃ past life, livesOn stream m.chronicle = past ++ [life] ∧
      (∀ life ∈ past, life.retired = true) ∧ life.retired = false ∧
      life.request.address = s.address := by
  have h := explained_run config hclose
  have haccounts := h.accounts stream
  dsimp only
  generalize run config operations = m at h haccounts ⊢
  refine ⟨fun life hmem => ?_, fun s hs => ?_⟩
  · rcases haccounts.retired_or_ongoing hmem with hover | ⟨hongoing, s, hget, hlife⟩
    · exact .inl hover
    · refine .inr ⟨hongoing, s, hget, hlife.address.symm, ?_⟩
      rintro s' hs' (rfl | haddress)
      · exact Option.some.inj ((h.balanced.distinct.get?_eq_some hs').symm.trans hget)
      · exact h.balanced.distinct.eq_of_address hs' (SocketTable.mem_of_get? hget) haddress
  · obtain ⟨past, life, hlives, hover, hongoing, hlife⟩ := haccounts.exists_ongoing hs
    exact ⟨past, life, hlives, hover, hongoing, hlife.address⟩

/-- Both directions of a stream end, and its address is connected again, on another stream. -/
theorem resident_after_both_ends :
    let operations : List Operation := [.submit ⟨0, ⟨1, 1⟩, .connect [101]⟩, .publish [1, 2, 1, 0],
      .publish [0, 4, 1], .poll, .submit ⟨1, ⟨1, 1⟩, .eos⟩, .submit ⟨2, ⟨1, 1⟩, .read 8⟩,
      .submit ⟨3, ⟨1, 1⟩, .connect [102]⟩]
    let m := run {} operations
    (∀ stream emitReset, .close stream emitReset ∉ operations) ∧
      (∃ life ∈ livesOn 1 m.chronicle, life.retired = true ∧ life.Parted 1) ∧
      ∃ s, m.sockets.get? 3 = some s ∧ s.address = ⟨1, 1⟩ ∧
        ∀ s' ∈ m.sockets.sockets, s'.stream = 3 ∨ s'.address = s.address → s' = s := by
  intro operations m
  have hclose : ∀ stream emitReset, .close stream emitReset ∉ operations := by
    simp [operations]
  have hover : (livesOn 1 m.chronicle).map (·.retired) = [true] := by decide +kernel
  have hagain : (livesOn 3 m.chronicle).map (fun life => (life.retired, life.request.address)) =
      [(false, ⟨1, 1⟩)] := by decide +kernel
  obtain ⟨life, hlives, hretired⟩ := List.map_eq_singleton_iff.mp hover
  obtain ⟨life', hlives', hlife'⟩ := List.map_eq_singleton_iff.mp hagain
  obtain ⟨hongoing, haddress⟩ := Prod.mk.inj hlife'
  have hmem : life ∈ livesOn 1 m.chronicle := hlives ▸ List.mem_singleton_self life
  have hmem' : life' ∈ livesOn 3 m.chronicle := hlives' ▸ List.mem_singleton_self life'
  refine ⟨hclose, ⟨life, hmem, hretired, ?_⟩, ?_⟩
  · rcases (resident_until_parted {} hclose 1).1 life hmem with ⟨-, hparted⟩ | ⟨hnot, -⟩
    · exact hparted
    · simp [hretired] at hnot
  · rcases (resident_until_parted {} hclose 3).1 life' hmem' with
      ⟨hover, -⟩ | ⟨-, s, hs, heq, honly⟩
    · simp [hongoing] at hover
    · exact ⟨s, hs, heq.trans haddress, honly⟩

end Multiplexer

end StreamLink
