import StreamLink.Event
import StreamLink.Proofs.Turns
import StreamLink.SocketTable

/-!
# One stream's steps

Everything that can happen to one stream: to its socket and to its turns in the send queue, with the
events that tell of it, oldest first. Streams meet only in the rings, in the order of the send queue
and in the addresses of their sockets, so that most of what is promised about sockets can be seen on
one stream alone.
-/

namespace StreamLink

/-- The statuses a request is refused with on the spot. -/
def Request.RefusedWith (r : Request) (status : Status) : Prop :=
  status = r.command.resetStatus ∨ (∃ service, r.command = .connect service) ∧ status = .socketInUse

theorem Command.resetStatus_ne_ok (c : Command) : c.resetStatus ≠ .ok := by
  cases c <;> simp [resetStatus]

theorem Request.RefusedWith.ne_ok {r : Request} {status : Status} (h : r.RefusedWith status) :
    status ≠ .ok := by
  rcases h with rfl | ⟨-, rfl⟩
  · exact r.command.resetStatus_ne_ok
  · simp

namespace Socket

/-- The socket as a connect leaves it. -/
def opening (stream : UInt8) (r : Request) : Socket :=
  { stream := stream, address := r.address, pendingConnect := some r }

/-- The socket as it stays behind until its Reset is sent. -/
def lingering (s : Socket) : Socket :=
  { s.abort with flags := { s.abort.flags with owesReset := true } }

@[simp] theorem parked_lingering (s : Socket) : s.lingering.parked = [] := rfl

/-- Whether a request finds the socket open. -/
def OpenFor (s : Socket) (r : Request) : Prop :=
  s.address = r.address ∧ s.flags.closed = false

/-- Whether a frame for the socket's stream is left without effect on it. -/
def Unheeding (s : Socket) (f : Frame) : Prop :=
  if s.flags.closed then PacketKind.ofCode? f.kind ≠ some .reset
  else
    match PacketKind.ofCode? f.kind with
    | some .connectResponse => s.pendingConnect = none ∨ ∀ result, f.payload ≠ [result]
    | some .data | some .eos | some .reset => False
    | _ => True

theorem writeConflicts_eq_false_iff {s : Socket} :
    s.writeConflicts = false ↔
      s.pendingConnect = none ∧ s.pendingWrite = none ∧ s.flags.eosFromCaller = false := by
  simp [writeConflicts, and_assoc]

theorem mem_parked {s : Socket} {r : Request} : r ∈ s.parked ↔
    s.pendingConnect = some r ∨ s.pendingRead = some r ∨ s.pendingWrite = some r := by
  simp [parked]

theorem mem_parked_of_slot {s : Socket} {slot : Slot} {r : Request} (h : s.slot slot = some r) :
    r ∈ s.parked := by
  rw [mem_parked]
  cases slot with
  | connect => exact .inl h
  | read => exact .inr (.inl h)
  | write => exact .inr (.inr h)

theorem mem_parked_of_write {s s' : Socket} {r r' : Request} (h : r' ∈ s'.parked)
    (hconnect : s'.pendingConnect = s.pendingConnect) (hread : s'.pendingRead = s.pendingRead)
    (hwrite : s'.pendingWrite = some r) : r' ∈ s.parked ∨ r' = r := by
  rw [mem_parked, hconnect, hread, hwrite] at h
  rw [mem_parked]
  rcases h with h | h | h
  · exact .inl (.inl h)
  · exact .inl (.inr (.inl h))
  · exact .inr (Option.some.inj h).symm

/-- Taking a chunk changes nothing but the chunks. -/
theorem exists_of_popChunk? {s rest : Socket} {data : Bytes} (h : s.popChunk? = some (data, rest)) :
    ∃ chunks queuedBytes, rest = { s with chunks := chunks, queuedBytes := queuedBytes } := by
  unfold popChunk? at h
  split at h
  · contradiction
  · obtain ⟨-, rfl⟩ := Prod.mk.inj (Option.some.inj h)
    exact ⟨_, _, rfl⟩

theorem chunks_of_popChunk?_eq_none {s : Socket} (h : s.popChunk? = none) : s.chunks = [] := by
  unfold popChunk? at h
  split at h
  · assumption
  · contradiction

/-- Whether a socket differs from another at most in what it has received, and in its read. -/
structure SendsLike (s' s : Socket) : Prop where
  address : s'.address = s.address
  closed : s'.flags.closed = s.flags.closed
  owes : s'.flags.owesReset = s.flags.owesReset
  caller : s'.flags.eosFromCaller = s.flags.eosFromCaller
  sent : s'.flags.eosSent = s.flags.eosSent
  connect : s'.pendingConnect = s.pendingConnect
  write : s'.pendingWrite = s.pendingWrite

theorem SendsLike.refl (s : Socket) : s.SendsLike s :=
  ⟨rfl, rfl, rfl, rfl, rfl, rfl, rfl⟩

theorem SendsLike.received (s : Socket) (chunks : List Bytes) (queuedBytes : Nat)
    (pendingRead : Option Request) (eosFromPeer eosDelivered : Bool) :
    SendsLike
      { s with
        chunks := chunks
        queuedBytes := queuedBytes
        pendingRead := pendingRead
        flags := { s.flags with eosFromPeer := eosFromPeer, eosDelivered := eosDelivered } } s :=
  ⟨rfl, rfl, rfl, rfl, rfl, rfl, rfl⟩

/-- What closing the socket does to its requests and its turn. -/
def farewell (s : Socket) (turns : List Nat) : List Event :=
  (if turns = [] ∨ s.work = .idle then [] else [.withdrawn s.stream]) ++
    s.parked.map fun r => .answered r r.failure

end Socket

/-- The event of a second turn, if the stream has one already. -/
def again (stream : UInt8) (turns : List Nat) : List Event :=
  if turns = [] then [] else [.doubled stream]

theorem mem_again {stream : UInt8} {turns : List Nat} {e : Event} :
    e ∈ again stream turns ↔ turns ≠ [] ∧ e = .doubled stream := by
  unfold again
  split <;> simp [*]

theorem not_mem_again {e : Event} (h : ∀ stream, e ≠ .doubled stream) (stream : UInt8)
    (turns : List Nat) : e ∉ again stream turns :=
  fun he => h stream (mem_again.mp he).2

theorem not_mem_received {e : Event} (h : ∀ f, e ≠ .received f) (f? : Option Frame) :
    e ∉ (f?.map Event.received).toList := by
  cases f? with
  | none => simp
  | some f => simpa using h f

theorem Socket.mem_farewell {s : Socket} {turns : List Nat} {e : Event}
    (h : e ∈ s.farewell turns) :
    e = .withdrawn s.stream ∨ ∃ r ∈ s.parked, e = .answered r r.failure := by
  rw [farewell, List.mem_append, List.mem_map] at h
  rcases h with h | ⟨r, hr, rfl⟩
  · split at h
    · contradiction
    · exact .inl (List.mem_singleton.mp h)
  · exact .inr ⟨r, hr, rfl⟩

/-- What waits on a socket that is closed is answered as it fails. -/
theorem Socket.eq_failure_of_mem_farewell {s : Socket} {turns : List Nat} {r : Request}
    {c : Completion} (h : .answered r c ∈ s.farewell turns) : c = r.failure := by
  rcases mem_farewell h with heq | ⟨r', -, heq⟩
  · contradiction
  · obtain ⟨rfl, rfl⟩ := Event.answered.inj heq
    rfl

@[simp] theorem answered_not_mem_again (r : Request) (c : Completion) (stream : UInt8)
    (turns : List Nat) : .answered r c ∉ again stream turns :=
  not_mem_again (by simp) stream turns

@[simp] theorem answered_not_mem_received (r : Request) (c : Completion) (f? : Option Frame) :
    .answered r c ∉ (f?.map Event.received).toList :=
  not_mem_received (by simp) f?

section FilterMap

variable {α : Type} {f : Event → Option α}

theorem filterMap_cons_eq (e : Event) (events : List Event) :
    (e :: events).filterMap f = (f e).toList ++ events.filterMap f := by
  rw [List.filterMap_cons]
  cases f e <;> rfl

theorem filterMap_again (hf : ∀ stream, f (.doubled stream) = none) (stream : UInt8)
    (turns : List Nat) : (again stream turns).filterMap f = [] := by
  unfold again
  split
  · rfl
  · rw [List.filterMap_cons_none (hf stream), List.filterMap_nil]

theorem filterMap_received (hf : ∀ frame, f (.received frame) = none) (frame? : Option Frame) :
    (frame?.map Event.received).toList.filterMap f = [] := by
  cases frame? with
  | none => rfl
  | some frame => exact List.filterMap_cons_none (hf frame)

theorem Socket.filterMap_farewell (hf : ∀ stream, f (.withdrawn stream) = none) (s : Socket)
    (turns : List Nat) :
    (s.farewell turns).filterMap f = s.parked.filterMap fun r => f (.answered r r.failure) := by
  rw [farewell, List.filterMap_append, List.filterMap_map]
  split
  · rfl
  · rw [List.filterMap_cons_none (hf s.stream)]
    rfl

end FilterMap

/-- What becomes of a packet whose turn was that long: it enters the ring unless it is longer. -/
def Posted (n : Nat) (kind : PacketKind) (stream : UInt8) (payload : Bytes) (e : Event) : Prop :=
  e = .sent kind stream payload ∨ e = .refused kind stream payload ∧ n < payload.length

/-- One step of a stream: its socket and its turns before, what happens to its turns, the events, and
its socket afterwards. -/
inductive SocketStep (stream : UInt8) :
    Option Socket → List Nat → Turn → List Event → Option Socket → Prop
  -- The stream stays as it is.
  | idle {s? : Option Socket} {turns : List Nat} : SocketStep stream s? turns .keep [] s?
  | refuse {s? : Option Socket} {turns : List Nat} {r : Request} {status : Status}
      (hr : r.RefusedWith status) :
      SocketStep stream s? turns .keep [.submitted r, .answered r (.ofStatus status)] s?
  | ignore {s? : Option Socket} {turns : List Nat} {f : Frame} (hf : f.stream = stream)
      (hs : ∀ s, s? = some s → s.Unheeding f) :
      SocketStep stream s? turns .keep [.received f] s?
  | garble {s? : Option Socket} {turns : List Nat} (n : Nat) :
      SocketStep stream s? turns .keep [.garbled n] s?
  -- A connect creates the socket.
  | openNow {turns : List Nat} {r : Request} {service : Bytes}
      (hr : r.command = .connect service) (hlength : service.length ≤ maxPayload) :
      SocketStep stream none turns .bypass
        [.submitted r, .opened stream r, .accepted .connect stream service,
          .sent .connect stream service]
        (some (.opening stream r))
  | openLater {turns : List Nat} {r : Request} {service : Bytes}
      (hr : r.command = .connect service) (hlength : service.length ≤ maxPayload) :
      SocketStep stream none turns (.join service.length)
        ([.submitted r, .opened stream r, .accepted .connect stream service] ++ again stream turns)
        (some (.opening stream r))
  -- A read finds a chunk, or the end of the stream, or waits.
  | readChunk {s rest : Socket} {turns : List Nat} {r : Request} {capacity : Nat} {data : Bytes}
      (hr : r.command = .read capacity) (hopen : s.OpenFor r) (hconnect : s.pendingConnect = none)
      (hread : s.pendingRead = none) (hpop : s.popChunk? = some (data, rest))
      (hfits : data.length ≤ capacity) :
      SocketStep stream (some s) turns .keep [.submitted r, .answered r (.read data)] (some rest)
  | readEnd {s : Socket} {turns : List Nat} {r : Request} {capacity : Nat}
      (hr : r.command = .read capacity) (hopen : s.OpenFor r) (hconnect : s.pendingConnect = none)
      (hread : s.pendingRead = none) (hchunks : s.chunks = []) (heos : s.flags.eosFromPeer = true) :
      SocketStep stream (some s) turns .keep [.submitted r, .answered r (.ofStatus .readEos)]
        (some { s with flags := { s.flags with eosDelivered := true } })
  | readWait {s : Socket} {turns : List Nat} {r : Request} {capacity : Nat}
      (hr : r.command = .read capacity) (hopen : s.OpenFor r) (hconnect : s.pendingConnect = none)
      (hread : s.pendingRead = none) (hchunks : s.chunks = []) (heos : s.flags.eosFromPeer = false) :
      SocketStep stream (some s) turns .keep [.submitted r] (some { s with pendingRead := some r })
  -- A write or an end of stream goes out, or waits for its turn.
  | writeNow {s : Socket} {turns : List Nat} {r : Request} {data : Bytes}
      (hr : r.command = .write data) (hopen : s.OpenFor r) (hfree : s.writeConflicts = false)
      (hlength : data.length ≤ maxPayload) :
      SocketStep stream (some s) turns .bypass
        [.submitted r, .accepted .data stream data, .sent .data stream data,
          .answered r (.written data.length)]
        (some s)
  | writeLater {s : Socket} {turns : List Nat} {r : Request} {data : Bytes}
      (hr : r.command = .write data) (hopen : s.OpenFor r) (hfree : s.writeConflicts = false)
      (hlength : data.length ≤ maxPayload) :
      SocketStep stream (some s) turns (.join data.length)
        ([.submitted r, .accepted .data stream data] ++ again stream turns)
        (some { s with pendingWrite := some r })
  | endNow {s : Socket} {turns : List Nat} {r : Request}
      (hr : r.command = .eos) (hopen : s.OpenFor r) (hfree : s.writeConflicts = false) :
      SocketStep stream (some s) turns .bypass
        [.submitted r, .accepted .eos stream [], .sent .eos stream [], .answered r (.ofStatus .ok)]
        (some { s with flags := { s.flags with eosFromCaller := true, eosSent := true } })
  | endLater {s : Socket} {turns : List Nat} {r : Request}
      (hr : r.command = .eos) (hopen : s.OpenFor r) (hfree : s.writeConflicts = false) :
      SocketStep stream (some s) turns (.join 0)
        ([.submitted r, .accepted .eos stream []] ++ again stream turns)
        (some { s with flags := { s.flags with eosFromCaller := true }, pendingWrite := some r })
  -- A frame from the peer is heeded.
  | connected {s : Socket} {turns : List Nat} {r : Request} {f : Frame}
      (hf : f.stream = stream) (hkind : PacketKind.ofCode? f.kind = some .connectResponse)
      (hpayload : f.payload = [connectAccepted]) (hopen : s.flags.closed = false)
      (hconnect : s.pendingConnect = some r) :
      SocketStep stream (some s) turns .keep
        ([.received f] ++ (if turns = [] then [] else [.withdrawn stream]) ++
          [.answered r (.ofStatus .ok)])
        (some { s with pendingConnect := none })
  | rejected {s : Socket} {turns : List Nat} {r : Request} {f : Frame}
      (hf : f.stream = stream) (hopen : s.flags.closed = false)
      (hconnect : s.pendingConnect = some r) :
      SocketStep stream (some s) turns .leave
        ([.received f] ++ (if turns = [] then [] else [.withdrawn stream]) ++
          [.answered r (.ofStatus .connectUnknownService)] ++
          { s with pendingConnect := none }.farewell turns ++ [.retired stream])
        none
  | dataRead {s : Socket} {turns : List Nat} {r : Request} {f : Frame}
      (hf : f.stream = stream) (hkind : PacketKind.ofCode? f.kind = some .data)
      (hopen : s.flags.closed = false) (hread : s.pendingRead = some r)
      (hfits : f.payload.length ≤ r.command.capacity) :
      SocketStep stream (some s) turns .keep [.received f, .answered r (.read f.payload)]
        (some { s with pendingRead := none })
  | dataKept {s : Socket} {turns : List Nat} {f : Frame}
      (hf : f.stream = stream) (hkind : PacketKind.ofCode? f.kind = some .data)
      (hopen : s.flags.closed = false) (hread : s.pendingRead = none) :
      SocketStep stream (some s) turns .keep [.received f] (some (s.pushChunk f.payload))
  | endRead {s : Socket} {turns : List Nat} {r : Request} {f : Frame}
      (hf : f.stream = stream) (hkind : PacketKind.ofCode? f.kind = some .eos)
      (hopen : s.flags.closed = false) (hread : s.pendingRead = some r) :
      SocketStep stream (some s) turns .keep [.received f, .answered r (.ofStatus .readEos)]
        (some { s with
          flags := { s.flags with eosFromPeer := true, eosDelivered := true }, pendingRead := none })
  | endKept {s : Socket} {turns : List Nat} {f : Frame}
      (hf : f.stream = stream) (hkind : PacketKind.ofCode? f.kind = some .eos)
      (hopen : s.flags.closed = false) (hread : s.pendingRead = none) :
      SocketStep stream (some s) turns .keep [.received f]
        (some { s with flags := { s.flags with eosFromPeer := true } })
  -- The socket is closed, of its own or because of a frame.
  | closeQuietly {s : Socket} {turns : List Nat} {f? : Option Frame}
      (hf : ∀ f ∈ f?, f.stream = stream) :
      SocketStep stream (some s) turns .leave
        ((f?.map Event.received).toList ++ s.farewell turns ++ [.retired stream]) none
  | closeNow {s : Socket} {turns : List Nat} {f? : Option Frame}
      (hf : ∀ f ∈ f?, f.stream = stream) :
      SocketStep stream (some s) turns .clear
        ((f?.map Event.received).toList ++ s.farewell turns ++
          [.accepted .reset stream [], .sent .reset stream [], .retired stream])
        none
  | closeLater {s : Socket} {turns : List Nat} {f? : Option Frame}
      (hf : ∀ f ∈ f?, f.stream = stream) :
      SocketStep stream (some s) turns .rejoin
        ((f?.map Event.received).toList ++ s.farewell turns ++ [.accepted .reset stream []] ++
          again stream turns.tail)
        (some s.lingering)
  -- The stream's turn comes.
  | serveConnect {s : Socket} {turns : List Nat} {n : Nat} {r : Request} {e : Event}
      (hconnect : s.pendingConnect = some r) (he : Posted n .connect stream r.command.payload e) :
      SocketStep stream (some s) turns (.serve n) [e] (some s)
  | serveWrite {s : Socket} {turns : List Nat} {n : Nat} {r : Request} {data : Bytes} {e : Event}
      (hconnect : s.pendingConnect = none) (hwrite : s.pendingWrite = some r)
      (hr : r.command = .write data) (he : Posted n .data stream data e) :
      SocketStep stream (some s) turns (.serve n) [e, .answered r (.written data.length)]
        (some { s with pendingWrite := none })
  | serveEnd {s : Socket} {turns : List Nat} {n : Nat} {r : Request}
      (hconnect : s.pendingConnect = none) (hwrite : s.pendingWrite = some r)
      (hr : ∀ data, r.command ≠ .write data) :
      SocketStep stream (some s) turns (.serve n)
        [.sent .eos stream [], .answered r (.ofStatus .ok)]
        (some { s with pendingWrite := none, flags := { s.flags with eosSent := true } })
  | serveReset {s : Socket} {turns : List Nat} {n : Nat}
      (hconnect : s.pendingConnect = none) (hwrite : s.pendingWrite = none)
      (howes : s.flags.owesReset = true) :
      SocketStep stream (some s) turns (.serve n) [.sent .reset stream [], .retired stream] none
  | serveIdle {s : Socket} {turns : List Nat} {n : Nat}
      (hconnect : s.pendingConnect = none) (hwrite : s.pendingWrite = none)
      (howes : s.flags.owesReset = false) :
      SocketStep stream (some s) turns (.serve n) [] (some s)
  | serveStray {turns : List Nat} {n : Nat} :
      SocketStep stream none turns (.serve n) [.strayed stream] none

end StreamLink
