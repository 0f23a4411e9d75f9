import StreamLink.Proofs.Moves

/-!
# Deeds

A move says what happens to one stream, and not why. What the multiplexer does of its own accord
keeps to more: the configuration stays as it is, a stream loses its socket only for a reason that
the peer knows of, and no socket is left behind that has ended both ways or buffers more than it
may. A deed is such a move. What the multiplexer does is a sequence of deeds, each of them
occasioned by a request, a frame or bytes that were no frame.

There is one place where a single move is no deed: when the second direction of a stream ends, the
socket is there for one more move.
-/

namespace StreamLink

/-! ### Occasions -/

/-- Whether the event comes from outside. -/
def Event.isOccasion : Event → Bool
  | submitted _ | received _ | garbled _ => true
  | _ => false

/-- What came from outside, in order. -/
def occasionsIn (events : List Event) : List Event :=
  events.filter Event.isOccasion

@[simp] theorem occasionsIn_nil : occasionsIn [] = [] := rfl

@[simp] theorem occasionsIn_cons (e : Event) (events : List Event) :
    occasionsIn (e :: events) = (if e.isOccasion then [e] else []) ++ occasionsIn events := by
  unfold occasionsIn
  rw [List.filter_cons]
  split <;> rfl

@[simp] theorem occasionsIn_append (first second : List Event) :
    occasionsIn (first ++ second) = occasionsIn first ++ occasionsIn second :=
  List.filter_append ..

theorem occasionsIn_eq_nil {events : List Event} (h : ∀ e ∈ events, e.isOccasion = false) :
    occasionsIn events = [] := by
  rw [occasionsIn, List.filter_eq_nil_iff]
  intro e he
  simp [h e he]

@[simp] theorem occasionsIn_received (frame? : Option Frame) :
    occasionsIn (frame?.map Event.received).toList = (frame?.map Event.received).toList := by
  cases frame? <;> rfl

@[simp] theorem occasionsIn_again (stream : UInt8) (turns : List Nat) :
    occasionsIn (again stream turns) = [] := by
  apply occasionsIn_eq_nil
  intro e he
  rw [(mem_again.mp he).2]
  rfl

@[simp] theorem occasionsIn_farewell (s : Socket) (turns : List Nat) :
    occasionsIn (s.farewell turns) = [] := by
  apply occasionsIn_eq_nil
  intro e he
  rcases Socket.mem_farewell he with rfl | ⟨r, -, rfl⟩ <;> rfl

/-- Requests are handed in from outside. -/
@[simp] theorem submissionsIn_occasionsIn (events : List Event) :
    submissionsIn (occasionsIn events) = submissionsIn events := by
  unfold submissionsIn occasionsIn
  rw [List.filterMap_filter]
  congr 1
  funext e
  cases e <;> rfl

/-! ### Reasons -/

/-- Why a stream loses its socket: the peer is told, or it gave the stream up itself, by a Reset or
by its answer to the connect, or both directions have ended. -/
inductive Parting (stream : UInt8) (s : Socket) : List Event → Prop
  | told {events : List Event} (h : .sent .reset stream [] ∈ events) : Parting stream s events
  | reset {f : Frame} {rest : List Event} (hf : f.stream = stream)
      (hkind : PacketKind.ofCode? f.kind = some .reset) : Parting stream s (.received f :: rest)
  | rejected {f : Frame} {result : UInt8} {rest : List Event} (hf : f.stream = stream)
      (hkind : PacketKind.ofCode? f.kind = some .connectResponse) (hpayload : f.payload = [result])
      (hresult : result ≠ connectAccepted) (hconnect : s.pendingConnect ≠ none) :
      Parting stream s (.received f :: rest)
  | exchanged {events : List Event} (h : s.flags.eosExchanged = true) : Parting stream s events

/-! ### Moderation -/

/-- Whether a socket buffers no more than it may. A limit of zero is none. -/
def Socket.Within (limit : Nat) (s : Socket) : Prop :=
  limit ≠ 0 → s.queuedBytes ≤ limit

/-- Whether a socket buffers no more than it may and has not ended both ways. -/
def Socket.Modest (limit : Nat) (s : Socket) : Prop :=
  s.flags.eosExchanged = false ∧ s.Within limit

theorem Socket.Modest.eosExchanged {limit : Nat} {s : Socket} (h : s.Modest limit) :
    s.flags.eosExchanged = false :=
  h.1

theorem Socket.Modest.within {limit : Nat} {s : Socket} (h : s.Modest limit) : s.Within limit :=
  h.2

/-- A chunk that is taken out makes room. -/
theorem Socket.Modest.of_popChunk? {limit : Nat} {s rest : Socket} {data : Bytes}
    (h : s.Modest limit) (hpop : s.popChunk? = some (data, rest)) : rest.Modest limit := by
  unfold popChunk? at hpop
  split at hpop
  · contradiction
  · obtain ⟨-, rfl⟩ := Prod.mk.inj (Option.some.inj hpop)
    exact ⟨h.1, fun hlimit => Nat.le_trans (Nat.sub_le _ _) (h.2 hlimit)⟩

theorem Socket.Modest.lingering {limit : Nat} {s : Socket} (h : s.Modest limit) :
    s.lingering.Modest limit :=
  ⟨h.1, fun _ => Nat.zero_le limit⟩

namespace Multiplexer

/-- Whether all sockets are modest. -/
def Modest (m : Multiplexer) : Prop :=
  ∀ stream, ∀ s ∈ m.sockets.get? stream, s.Modest m.config.maxReceiveQueueBytes

/-- Whether the stream loses its socket, if it does, for a reason. -/
def Reasoned (m : Multiplexer) (stream : UInt8) (events : List Event) (m' : Multiplexer) : Prop :=
  ∀ s ∈ m.sockets.get? stream, m'.sockets.get? stream = none → Parting stream s events

/-- A move that is made with moderation and, if it ends a stream, for a reason. -/
structure Deed (m : Multiplexer) (stream : UInt8) (turn : Turn) (events : List Event)
    (m' : Multiplexer) : Prop where
  move : Move m stream turn events m'
  config : m'.config = m.config
  reasoned : Reasoned m stream events m'
  modest : m.Modest → m'.Modest

section

variable {m m' : Multiplexer} {stream : UInt8} {turn : Turn} {events : List Event}

/-- The stream keeps a socket. -/
theorem Reasoned.of_get? {s' : Socket} (h : m'.sockets.get? stream = some s') :
    Reasoned m stream events m' := by
  intro _ _ hnone
  rw [h] at hnone
  contradiction

theorem get?_of_modify {f : Socket → Socket} {s : Socket} (h : m.sockets.Distinct)
    (hget : m.sockets.get? stream = some s) (hstream : (f s).stream = s.stream)
    (hsockets : m'.sockets = m.sockets.modify stream f) :
    m'.sockets.get? stream = some (f s) := by
  have hkeep := h.forall_of_get? hget (p := fun s => (f s).stream = s.stream) hstream
  rw [hsockets, SocketTable.get?_modify fun s hs heq => (hkeep s hs heq).trans heq, hget]
  rfl

/-- If the stream's socket stays modest, all do. -/
theorem Move.modest (h : Move m stream turn events m') (hconfig : m'.config = m.config)
    (hstep : ∀ s' ∈ m'.sockets.get? stream,
      (∀ s ∈ m.sockets.get? stream, s.Modest m.config.maxReceiveQueueBytes) →
        s'.Modest m.config.maxReceiveQueueBytes) (hm : m.Modest) : m'.Modest := by
  unfold Modest
  rw [hconfig]
  apply h.forall_streams (p := fun _ s? _ => ∀ s ∈ s?, s.Modest m.config.maxReceiveQueueBytes) hm
  intro hbefore s' hs'
  exact hstep s' hs' hbefore

end

namespace Deed

variable {m m' : Multiplexer} {stream : UInt8} {turn : Turn} {events : List Event} {s : Socket}

theorem of_same (h : m.sockets.Distinct)
    (hstep : SocketStep stream (m.sockets.get? stream) (m.queue.turns stream) turn events
      (m.sockets.get? stream))
    (hsockets : m'.sockets = m.sockets) (hqueue : turn.Changes stream m.queue m'.queue)
    (hhistory : m'.history = events.reverse ++ m.history) (hconfig : m'.config = m.config) :
    Deed m stream turn events m' where
  move := .of_same h hstep hsockets hqueue hhistory
  config := hconfig
  reasoned := by
    intro s hs hnone
    rw [hsockets, hs] at hnone
    contradiction
  modest := by
    intro hm
    unfold Modest
    rwa [hsockets, hconfig]

theorem of_modify (h : m.sockets.Distinct) (hget : m.sockets.get? stream = some s)
    {f : Socket → Socket}
    (hstep : SocketStep stream (some s) (m.queue.turns stream) turn events (some (f s)))
    (hstream : (f s).stream = s.stream) (haddress : (f s).address = s.address)
    (hsockets : m'.sockets = m.sockets.modify stream f)
    (hqueue : turn.Changes stream m.queue m'.queue)
    (hhistory : m'.history = events.reverse ++ m.history) (hconfig : m'.config = m.config)
    (hmodest : s.Modest m.config.maxReceiveQueueBytes →
      (f s).Modest m.config.maxReceiveQueueBytes) : Deed m stream turn events m' := by
  have hmove : Move m stream turn events m' :=
    .of_modify h hget hstep hstream haddress hsockets hqueue hhistory
  have hget' := get?_of_modify h hget hstream hsockets
  refine ⟨hmove, hconfig, .of_get? hget', hmove.modest hconfig ?_⟩
  rw [hget, hget']
  rintro _ ⟨⟩ hs
  exact hmodest (hs s rfl)

theorem of_erase (h : m.sockets.Distinct) (hget : m.sockets.get? stream = some s)
    (hstep : SocketStep stream (some s) (m.queue.turns stream) turn events none)
    (hsockets : m'.sockets = m.sockets.erase stream)
    (hqueue : turn.Changes stream m.queue m'.queue)
    (hhistory : m'.history = events.reverse ++ m.history) (hconfig : m'.config = m.config)
    (hparting : Parting stream s events) : Deed m stream turn events m' := by
  have hmove : Move m stream turn events m' :=
    .of_erase h hget hstep hsockets hqueue hhistory
  have hnone : m'.sockets.get? stream = none := by rw [hsockets, SocketTable.get?_erase]
  refine ⟨hmove, hconfig, ?_, hmove.modest hconfig ?_⟩
  · intro s' hs' _
    obtain rfl : s = s' := Option.some.inj (hget.symm.trans hs')
    exact hparting
  · rw [hnone]
    rintro _ ⟨⟩

theorem of_create (h : m.sockets.Distinct) {address : Address}
    (hfree : m.sockets.lookup address = none) {t : SocketTable}
    (hcreate : m.sockets.create address = .ok (stream, t)) {f : Socket → Socket}
    (hstep : SocketStep stream none (m.queue.turns stream) turn events
      (some (f { stream := stream, address := address })))
    (hstream : (f { stream := stream, address := address }).stream = stream)
    (haddress : (f { stream := stream, address := address }).address = address)
    (hsockets : m'.sockets = t.modify stream f) (hqueue : turn.Changes stream m.queue m'.queue)
    (hhistory : m'.history = events.reverse ++ m.history) (hconfig : m'.config = m.config)
    (hmodest : ∀ limit, (f { stream := stream, address := address }).Modest limit) :
    Deed m stream turn events m' := by
  have hmove : Move m stream turn events m' :=
    .of_create h hfree hcreate hstep hstream haddress hsockets hqueue hhistory
  have hget' : m'.sockets.get? stream = some (f { stream := stream, address := address }) := by
    have hget := SocketTable.get?_create hcreate
    have hkeep := (h.create hfree hcreate).forall_of_get? hget
      (p := fun s => (f s).stream = stream) hstream
    rw [hsockets, SocketTable.get?_modify hkeep, hget]
    rfl
  refine ⟨hmove, hconfig, .of_get? hget', hmove.modest hconfig ?_⟩
  rw [hget']
  rintro _ ⟨⟩ _
  exact hmodest _

/-- A change of the rings or the totals. -/
theorem of_rings (h : m.sockets.Distinct) (hsockets : m'.sockets = m.sockets)
    (hqueue : m'.queue = m.queue) (hhistory : m'.history = m.history)
    (hconfig : m'.config = m.config) : Deed m stream .keep [] m' :=
  of_same h .idle hsockets hqueue hhistory hconfig

end Deed

/-! ### Sequences of deeds -/

/-- The one state leads to the other by moves for which there are reasons, on these occasions. -/
inductive Proceeds : Multiplexer → List Event → Multiplexer → Prop
  | refl (m : Multiplexer) : Proceeds m [] m
  | tail {m m' m'' : Multiplexer} {occasions : List Event} {stream : UInt8} {turn : Turn}
      {events : List Event} : Proceeds m occasions m' → Move m' stream turn events m'' →
      m''.config = m'.config → Reasoned m' stream events m'' →
      Proceeds m (occasions ++ occasionsIn events) m''

namespace Proceeds

variable {m m' m'' : Multiplexer} {occasions occasions' : List Event}

theorem trans (h : Proceeds m occasions m') (h' : Proceeds m' occasions' m'') :
    Proceeds m (occasions ++ occasions') m'' := by
  induction h' with
  | refl => simpa using h
  | tail _ hmove hconfig hreasoned ih =>
      rw [← List.append_assoc]
      exact .tail ih hmove hconfig hreasoned

theorem leads (h : Proceeds m occasions m') : Leads m (submissionsIn occasions) m' := by
  induction h with
  | refl => exact .refl m
  | tail _ hmove _ _ ih =>
      rw [submissionsIn_append, submissionsIn_occasionsIn]
      exact .tail ih hmove

theorem distinct (h : Proceeds m occasions m') (hd : m.sockets.Distinct) : m'.sockets.Distinct :=
  h.leads.distinct hd

theorem config (h : Proceeds m occasions m') : m'.config = m.config := by
  induction h with
  | refl => rfl
  | tail _ _ hconfig _ ih => rw [hconfig, ih]

/-- A property that every move for which there is a reason keeps is kept. -/
theorem induct {p : Multiplexer → Prop} (h : Proceeds m occasions m') (hm : p m)
    (hmove : ∀ {m m' : Multiplexer} {stream : UInt8} {turn : Turn} {events : List Event},
      Move m stream turn events m' → Reasoned m stream events m' → p m → p m') : p m' := by
  induction h with
  | refl => exact hm
  | tail _ hlast _ hreasoned ih => exact hmove hlast hreasoned ih

end Proceeds

/-- What the multiplexer does of its own accord: it makes its moves for reasons, and in the end it
was modest. -/
structure Conducts (m : Multiplexer) (occasions : List Event) (m' : Multiplexer) : Prop where
  proceeds : Proceeds m occasions m'
  modest : m.Modest → m'.Modest

namespace Conducts

variable {m m' m'' : Multiplexer} {occasions occasions' : List Event} {stream : UInt8} {turn : Turn}
  {events : List Event}

theorem refl (m : Multiplexer) : Conducts m [] m :=
  ⟨.refl m, id⟩

theorem trans (h : Conducts m occasions m') (h' : Conducts m' occasions' m'') :
    Conducts m (occasions ++ occasions') m'' :=
  ⟨h.proceeds.trans h'.proceeds, h'.modest ∘ h.modest⟩

theorem of_deed (h : Deed m stream turn events m') (hevents : occasionsIn events = occasions) :
    Conducts m occasions m' := by
  refine ⟨?_, h.modest⟩
  have hone := Proceeds.tail (.refl m) h.move h.config h.reasoned
  rwa [hevents] at hone

theorem distinct (h : Conducts m occasions m') (hd : m.sockets.Distinct) : m'.sockets.Distinct :=
  h.proceeds.distinct hd

end Conducts

/-- What an occasion leads to: a first move, with which it comes, and what follows from it. -/
structure Undertakes (m : Multiplexer) (occasions : List Event) (m' : Multiplexer) : Prop where
  first : ∃ stream turn events m₁, Move m stream turn events m₁ ∧ m₁.config = m.config ∧
    Reasoned m stream events m₁ ∧ occasionsIn events = occasions ∧ Proceeds m₁ [] m'
  modest : m.Modest → m'.Modest

namespace Undertakes

variable {m m₁ m' : Multiplexer} {occasions : List Event} {stream : UInt8} {turn : Turn}
  {events : List Event}

theorem conducts (h : Undertakes m occasions m') : Conducts m occasions m' := by
  obtain ⟨⟨_, _, _, m₁, hmove, hconfig, hreasoned, hevents, hrest⟩, hmodest⟩ := h
  refine ⟨?_, hmodest⟩
  rw [← hevents]
  simpa using (Proceeds.tail (.refl m) hmove hconfig hreasoned).trans hrest

theorem of_deed (h : Deed m stream turn events m') (hevents : occasionsIn events = occasions) :
    Undertakes m occasions m' :=
  ⟨⟨_, _, _, m', h.move, h.config, h.reasoned, hevents, .refl m'⟩, h.modest⟩

theorem trans (h : Undertakes m occasions m₁) (hrest : Conducts m₁ [] m') :
    Undertakes m occasions m' := by
  obtain ⟨⟨_, _, _, m₂, hmove, hconfig, hreasoned, hevents, hproceeds⟩, hmodest⟩ := h
  exact ⟨⟨_, _, _, m₂, hmove, hconfig, hreasoned, hevents, hproceeds.trans hrest.proceeds⟩,
    hrest.modest ∘ hmodest⟩

theorem distinct (h : Undertakes m occasions m') (hd : m.sockets.Distinct) :
    m'.sockets.Distinct :=
  h.conducts.distinct hd

end Undertakes

end Multiplexer

end StreamLink
