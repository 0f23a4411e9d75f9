import StreamLink.Proofs.Accounts
import StreamLink.Proofs.Conservation

/-!
# What a socket receives

The payloads that arrive for an open socket are handed to its readers one by one, or they wait in its
chunks: each step of its stream keeps the payloads that arrived equal to those that were handed out
followed by the chunks. They reach a reader by two ways, past the chunks or through them, and a read
waits only while there are none.
-/

namespace StreamLink

/-! ### What a chronicle tells -/

def Command.isRead : Command → Bool
  | read _ => true
  | _ => false

/-- The payload that the event brings to a stream. -/
@[simp] def Event.payloadOn? (stream : UInt8) : Event → Option Bytes
  | received f =>
    if f.stream = stream ∧ PacketKind.ofCode? f.kind = some .data then some f.payload else none
  | _ => none

/-- The payloads that arrived for a stream, in order. -/
def payloadsOn (stream : UInt8) (events : List Event) : List Bytes :=
  events.filterMap (Event.payloadOn? stream)

/-- The data with which the event answers a read on the socket of an address. -/
@[simp] def Event.deliveryAt? (address : Address) : Event → Option Bytes
  | answered r c =>
    if r.address = address ∧ r.command.isRead = true ∧ c.status = .ok then some c.data else none
  | _ => none

/-- The data of the reads on one socket that were answered with success, in order. -/
def deliveriesAt (address : Address) (events : List Event) : List Bytes :=
  events.filterMap (Event.deliveryAt? address)

/-- Whether the peer ended the stream. -/
def EndsIn (stream : UInt8) (events : List Event) : Prop :=
  ∃ f, .received f ∈ events ∧ f.stream = stream ∧ PacketKind.ofCode? f.kind = some .eos

section

variable {stream : UInt8} {address : Address}

@[simp] theorem payloadsOn_nil : payloadsOn stream [] = [] := rfl

@[simp] theorem payloadsOn_cons (e : Event) (events : List Event) :
    payloadsOn stream (e :: events) = (e.payloadOn? stream).toList ++ payloadsOn stream events :=
  filterMap_cons_eq e events

@[simp] theorem payloadsOn_append (first second : List Event) :
    payloadsOn stream (first ++ second) = payloadsOn stream first ++ payloadsOn stream second :=
  List.filterMap_append

@[simp] theorem payloadsOn_again (other : UInt8) (turns : List Nat) :
    payloadsOn stream (again other turns) = [] :=
  filterMap_again (fun _ => rfl) other turns

@[simp] theorem payloadsOn_farewell (s : Socket) (turns : List Nat) :
    payloadsOn stream (s.farewell turns) = [] := by
  rw [payloadsOn, s.filterMap_farewell fun _ => rfl]
  exact List.filterMap_eq_nil_iff.mpr fun _ _ => rfl

@[simp] theorem deliveriesAt_nil : deliveriesAt address [] = [] := rfl

@[simp] theorem deliveriesAt_cons (e : Event) (events : List Event) :
    deliveriesAt address (e :: events) =
      (e.deliveryAt? address).toList ++ deliveriesAt address events :=
  filterMap_cons_eq e events

@[simp] theorem deliveriesAt_append (first second : List Event) :
    deliveriesAt address (first ++ second) =
      deliveriesAt address first ++ deliveriesAt address second :=
  List.filterMap_append

@[simp] theorem deliveriesAt_received (frame? : Option Frame) :
    deliveriesAt address (frame?.map Event.received).toList = [] :=
  filterMap_received (fun _ => rfl) frame?

@[simp] theorem deliveriesAt_again (stream : UInt8) (turns : List Nat) :
    deliveriesAt address (again stream turns) = [] :=
  filterMap_again (fun _ => rfl) stream turns

/-- What fails delivers nothing. -/
@[simp] theorem deliveriesAt_farewell (s : Socket) (turns : List Nat) :
    deliveriesAt address (s.farewell turns) = [] := by
  rw [deliveriesAt, s.filterMap_farewell fun _ => rfl, List.filterMap_eq_nil_iff]
  intro r _
  exact if_neg fun h => r.command.resetStatus_ne_ok h.2.2

theorem EndsIn.append_left {past : List Event} (h : EndsIn stream past) (events : List Event) :
    EndsIn stream (past ++ events) := by
  obtain ⟨f, hmem, hf⟩ := h
  exact ⟨f, List.mem_append_left _ hmem, hf⟩

theorem EndsIn.append_right {events : List Event} (h : EndsIn stream events) (past : List Event) :
    EndsIn stream (past ++ events) := by
  obtain ⟨f, hmem, hf⟩ := h
  exact ⟨f, List.mem_append_right _ hmem, hf⟩

end

/-! ### Where reads wait -/

/-- No read waits where a connect or a write does, and none waits while there are chunks. -/
structure Socket.Sorted (s : Socket) : Prop where
  connect : ∀ r ∈ s.pendingConnect, r.command.isRead = false
  write : ∀ r ∈ s.pendingWrite, r.command.isRead = false
  read : s.pendingRead ≠ none → s.chunks = []

theorem Socket.chunks_of_popChunk? {s s' : Socket} {data : Bytes}
    (h : s.popChunk? = some (data, s')) : s.chunks = data :: s'.chunks := by
  unfold Socket.popChunk? at h
  split at h
  · contradiction
  next data' rest hchunks =>
    obtain ⟨rfl, rfl⟩ := Prod.mk.inj (Option.some.inj h)
    exact hchunks

theorem Socket.Tidy.address_of_read {s : Socket} {r : Request} (h : s.Tidy)
    (hread : s.pendingRead = some r) : r.address = s.address :=
  h.addressed r (Socket.mem_parked.mpr (.inr (.inl hread)))

theorem SocketStep.sorted {stream : UInt8} {s? s?' : Option Socket} {turns : List Nat}
    {turn : Turn} {events : List Event} (h : SocketStep stream s? turns turn events s?')
    (hsorted : ∀ s ∈ s?, s.Sorted) : ∀ s ∈ s?', s.Sorted := by
  -- What a step of reading may change is the read and the chunks.
  have hread {s s' : Socket} (hs : s? = some s) (hlike : s'.SendsLike s)
      (hread : s'.pendingRead ≠ none → s'.chunks = []) : ∀ s ∈ some s', s.Sorted := by
    rintro _ ⟨⟩
    exact ⟨hlike.connect ▸ (hsorted s hs).connect, hlike.write ▸ (hsorted s hs).write, hread⟩
  cases h with
  | idle | refuse | ignore | garble | writeNow | serveConnect | serveIdle => exact hsorted
  | openNow hr | openLater hr =>
      rintro _ ⟨⟩
      refine ⟨?_, nofun, absurd rfl⟩
      rintro _ ⟨⟩
      rw [hr]
      rfl
  | readChunk _ _ _ hnone hpop =>
      obtain ⟨_, _, rfl⟩ := Socket.exists_of_popChunk? hpop
      exact hread rfl (.received ..) (absurd hnone)
  | readEnd => exact hread rfl (.received ..) (hsorted _ rfl).read
  | readWait _ _ _ _ hchunks => exact hread rfl (.received ..) fun _ => hchunks
  | dataRead => exact hread rfl (.received ..) (absurd rfl)
  | dataKept _ _ _ hnone => exact hread rfl (.received ..) (absurd hnone)
  | endRead => exact hread rfl (.received ..) (absurd rfl)
  | endKept => exact hread rfl (.received ..) (hsorted _ rfl).read
  | writeLater hr | endLater hr =>
      rintro _ ⟨⟩
      refine ⟨(hsorted _ rfl).connect, ?_, (hsorted _ rfl).read⟩
      rintro _ ⟨⟩
      rw [hr]
      rfl
  | endNow =>
      rintro _ ⟨⟩
      exact ⟨(hsorted _ rfl).connect, (hsorted _ rfl).write, (hsorted _ rfl).read⟩
  | connected =>
      rintro _ ⟨⟩
      exact ⟨nofun, (hsorted _ rfl).write, (hsorted _ rfl).read⟩
  | serveWrite | serveEnd =>
      rintro _ ⟨⟩
      exact ⟨(hsorted _ rfl).connect, nofun, (hsorted _ rfl).read⟩
  | closeLater =>
      rintro _ ⟨⟩
      exact ⟨nofun, nofun, absurd rfl⟩
  | rejected | closeQuietly | closeNow | serveReset | serveStray => rintro _ ⟨⟩

/-! ### Payloads and deliveries of a step -/

section Step

variable {stream : UInt8} {s s' : Socket} {s? s?' : Option Socket} {turns : List Nat} {turn : Turn}
  {events : List Event}

theorem deliveriesAt_refused {r : Request} {status : Status} (h : r.RefusedWith status)
    (address : Address) :
    deliveriesAt address [.submitted r, .answered r (.ofStatus status)] = [] := by
  simp [Completion.ofStatus, h.ne_ok]

/-- A frame without effect on an open socket brings no payload. -/
theorem Socket.Unheeding.payloadsOn_eq_nil {f : Frame} (h : s.Unheeding f)
    (hopen : s.flags.closed = false) : payloadsOn stream [.received f] = [] := by
  have hkind : PacketKind.ofCode? f.kind ≠ some .data := by
    intro hdata
    simp [Socket.Unheeding, hopen, hdata] at h
  simp [hkind]

/-- While a socket is open, what is handed to its readers and what stays in its chunks is what was in
its chunks and what arrives. Once it is closed, nothing is handed out. -/
theorem SocketStep.deliveries (h : SocketStep stream (some s) turns turn events (some s'))
    (htidy : s.Tidy) (hsorted : s.Sorted) :
    (s'.flags.closed = false → s.flags.closed = false ∧
        s.chunks ++ payloadsOn stream events = deliveriesAt s.address events ++ s'.chunks) ∧
      (s'.flags.closed = true → deliveriesAt s.address events = []) := by
  -- Nothing arrives and nothing is handed out.
  have hquiet (hclosed : s'.flags.closed = s.flags.closed) (hchunks : s'.chunks = s.chunks)
      (hpayloads : payloadsOn stream events = []) (hdeliveries : deliveriesAt s.address events = []) :
      (s'.flags.closed = false → s.flags.closed = false ∧
          s.chunks ++ payloadsOn stream events = deliveriesAt s.address events ++ s'.chunks) ∧
        (s'.flags.closed = true → deliveriesAt s.address events = []) := by
    rw [hclosed, hchunks, hpayloads, hdeliveries, List.append_nil]
    exact ⟨fun hopen => ⟨hopen, rfl⟩, fun _ => rfl⟩
  cases h with
  | idle | garble | readWait | serveIdle => exact hquiet rfl rfl rfl rfl
  | refuse hr => exact hquiet rfl rfl rfl (deliveriesAt_refused hr _)
  | ignore _ hunheeding =>
      refine ⟨fun hopen => ⟨hopen, ?_⟩, fun _ => rfl⟩
      rw [(hunheeding s rfl).payloadsOn_eq_nil hopen, List.append_nil]
      rfl
  | readChunk hr hopen _ _ hpop _ =>
      have hchunks := Socket.chunks_of_popChunk? hpop
      obtain ⟨_, _, rfl⟩ := Socket.exists_of_popChunk? hpop
      refine ⟨fun _ => ⟨hopen.2, ?_⟩, fun hclosed => ?_⟩
      · simp [hchunks, Completion.read, hopen.1, hr, Command.isRead]
      · simp [hopen.2] at hclosed
  | readEnd => exact hquiet rfl rfl rfl (by simp [Completion.ofStatus])
  | writeNow hr | endNow hr => exact hquiet rfl rfl rfl (by simp [hr, Command.isRead])
  | writeLater | endLater => exact hquiet rfl rfl (by simp) (by simp)
  | connected _ hkind _ _ hconnect =>
      refine hquiet rfl rfl ?_ ?_
      · split <;> simp [hkind]
      · split <;> simp [hsorted.connect _ hconnect]
  | dataRead hf hkind hopen hread _ =>
      obtain ⟨capacity, hr⟩ := htidy.reading _ hread
      have haddress := htidy.address_of_read hread
      refine ⟨fun _ => ⟨hopen, ?_⟩, fun hclosed => ?_⟩
      · simp [hsorted.read (by simp [hread]), hf, hkind, haddress, hr, Command.isRead, Completion.read]
      · simp [hopen] at hclosed
  | dataKept hf hkind hopen =>
      exact ⟨fun _ => ⟨hopen, by simp [hf, hkind, Socket.pushChunk]⟩, fun _ => rfl⟩
  | endRead _ hkind =>
      exact hquiet rfl rfl (by simp [hkind]) (by simp [Completion.ofStatus])
  | endKept _ hkind => exact hquiet rfl rfl (by simp [hkind]) rfl
  | closeLater =>
      refine ⟨fun hopen => (by cases hopen), fun _ => ?_⟩
      simp
  | serveConnect _ he => rcases he with rfl | ⟨rfl, -⟩ <;> exact hquiet rfl rfl rfl rfl
  | serveWrite _ _ hr he =>
      rcases he with rfl | ⟨rfl, -⟩ <;> exact hquiet rfl rfl rfl (by simp [hr, Command.isRead])
  | serveEnd _ hwrite => exact hquiet rfl rfl rfl (by simp [hsorted.write _ hwrite])

/-- A stream's socket keeps its address. -/
theorem SocketStep.address_eq (h : SocketStep stream (some s) turns turn events (some s')) :
    s'.address = s.address := by
  cases h with
  | readChunk _ _ _ _ hpop =>
      obtain ⟨_, _, rfl⟩ := Socket.exists_of_popChunk? hpop
      rfl
  | _ => rfl

/-- The end of the stream is remembered only if it arrived. -/
theorem SocketStep.endsIn (h : SocketStep stream (some s) turns turn events (some s'))
    (hended : s'.flags.eosFromPeer = true) : s.flags.eosFromPeer = true ∨ EndsIn stream events := by
  cases h with
  | readChunk _ _ _ _ hpop =>
      obtain ⟨_, _, rfl⟩ := Socket.exists_of_popChunk? hpop
      exact .inl hended
  | endRead hf hkind => exact .inr ⟨_, by simp, hf, hkind⟩
  | endKept hf hkind => exact .inr ⟨_, by simp, hf, hkind⟩
  | _ => exact .inl hended

/-- A socket that goes hands nothing to its readers. -/
theorem SocketStep.deliveriesAt_over (h : SocketStep stream (some s) turns turn events none)
    (address : Address) : deliveriesAt address events = [] := by
  cases h with
  | rejected => split <;> simp [Completion.ofStatus]
  | closeQuietly | closeNow | serveReset => simp

/-- A step of one stream brings no payload to another. -/
theorem SocketStep.payloadsOn_elsewhere {other : UInt8}
    (h : SocketStep stream s? turns turn events s?') (hother : stream ≠ other) :
    payloadsOn other events = [] := by
  have hcause {f? : Option Frame} (hf : ∀ f ∈ f?, f.stream = stream) :
      payloadsOn other (f?.map Event.received).toList = [] := by
    cases f? with
    | none => rfl
    | some f => simp [hf f rfl, hother]
  cases h with
  | ignore hf | dataRead hf | dataKept hf | endRead hf | endKept hf => simp [hf, hother]
  | connected hf | rejected hf => split <;> simp [hf, hother]
  | closeQuietly hf | closeNow hf | closeLater hf => simp [hcause hf]
  | serveConnect _ he | serveWrite _ _ _ he => rcases he with rfl | ⟨rfl, -⟩ <;> rfl
  | _ => simp

/-- Only the readers of the stream's own socket are handed anything. -/
theorem SocketStep.deliveriesAt_elsewhere (h : SocketStep stream s? turns turn events s?')
    (htidy : ∀ s ∈ s?, s.Tidy) {address : Address} (haddress : ∀ s ∈ s?, s.address ≠ address) :
    deliveriesAt address events = [] := by
  rw [deliveriesAt, List.filterMap_eq_nil_iff]
  intro e he
  cases e with
  | answered r c =>
      refine if_neg fun ⟨heq, _, hok⟩ => ?_
      obtain ⟨s, hs, hs'⟩ := h.address_of_ok htidy he hok
      exact haddress s hs (hs'.trans heq)
  | _ => rfl

/-! ### How a read is served -/

/-- How a read of an open socket is served, and the event that occasions it: the read itself, or the
frame that it waited for. -/
inductive Socket.Serves (s : Socket) (stream : UInt8) (r : Request) : Event → Completion → Prop
  | chunk {data : Bytes} {rest : List Bytes} (hchunks : s.chunks = data :: rest)
      (hfits : data.length ≤ r.command.capacity) : Serves s stream r (.submitted r) (.read data)
  | payload {f : Frame} (hchunks : s.chunks = []) (hf : f.stream = stream)
      (hkind : PacketKind.ofCode? f.kind = some .data)
      (hfits : f.payload.length ≤ r.command.capacity) :
      Serves s stream r (.received f) (.read f.payload)
  | ended (hchunks : s.chunks = []) (heos : s.flags.eosFromPeer = true) :
      Serves s stream r (.submitted r) (.ofStatus .readEos)
  | ending {f : Frame} (hchunks : s.chunks = []) (hf : f.stream = stream)
      (hkind : PacketKind.ofCode? f.kind = some .eos) :
      Serves s stream r (.received f) (.ofStatus .readEos)

/-- Whether the event serves a read. -/
@[simp] def Event.servesRead : Event → Bool
  | answered r c => r.command.isRead && (c.status == .ok || c.status == .readEos)
  | _ => false

theorem Command.resetStatus_ne_readEos (c : Command) : c.resetStatus ≠ .readEos := by
  cases c <;> simp [resetStatus]

theorem any_servesRead_refused {r : Request} {status : Status} (h : r.RefusedWith status) :
    [.submitted r, .answered r (.ofStatus status)].any Event.servesRead = false := by
  have hended : status ≠ .readEos := by
    rcases h with rfl | ⟨-, rfl⟩
    · exact r.command.resetStatus_ne_readEos
    · simp
  simp [Completion.ofStatus, h.ne_ok, hended]

@[simp] theorem any_servesRead_farewell (s : Socket) (turns : List Nat) :
    (s.farewell turns).any Event.servesRead = false := by
  rw [List.any_eq_false]
  intro e he
  rcases Socket.mem_farewell he with rfl | ⟨r, -, rfl⟩
  · simp
  · simp [Request.failure, Completion.ofStatus, r.command.resetStatus_ne_ok,
      r.command.resetStatus_ne_readEos]

@[simp] theorem any_servesRead_again (stream : UInt8) (turns : List Nat) :
    (again stream turns).any Event.servesRead = false := by
  rw [List.any_eq_false]
  intro e he
  rw [(mem_again.mp he).2]
  exact Bool.false_ne_true

@[simp] theorem any_servesRead_received (frame? : Option Frame) :
    (frame?.map Event.received).toList.any Event.servesRead = false := by
  cases frame? <;> rfl

/-- A step serves a read only of the stream's own open socket, and as it should. -/
theorem SocketStep.serves (h : SocketStep stream s? turns turn events s?')
    (htidy : ∀ s ∈ s?, s.Tidy) (hsorted : ∀ s ∈ s?, s.Sorted) {early late : List Event} {r : Request}
    {c : Completion} (hevents : events = early ++ .answered r c :: late)
    (hserves : (Event.answered r c).servesRead = true) :
    ∃ s e, s? = some s ∧ s.OpenFor r ∧ early = [e] ∧ s.Serves stream r e c := by
  -- Most steps serve no read.
  have hnone (hquiet : events.any Event.servesRead = false) :
      ∃ s e, s? = some s ∧ s.OpenFor r ∧ early = [e] ∧ s.Serves stream r e c := by
    have hmem : .answered r c ∈ events := by simp [hevents]
    exact absurd hserves (List.any_eq_false.mp hquiet _ hmem)
  -- The others answer it in their second event.
  have hpair {e : Event} {r' : Request} {c' : Completion} (he : ∀ r c, e ≠ .answered r c)
      (hsecond : events = [e, .answered r' c']) : early = [e] ∧ r = r' ∧ c = c' := by
    rw [hsecond] at hevents
    rcases early with _ | ⟨e', _ | ⟨e'', early⟩⟩
    · exact absurd (List.cons.inj hevents).1 (he r c)
    · simp at hevents
      tauto
    · simp at hevents
  cases h with
  | refuse hr => exact hnone (any_servesRead_refused hr)
  | readChunk hr hopen _ _ hpop hfits =>
      obtain ⟨rfl, rfl, rfl⟩ := hpair (by simp) rfl
      refine ⟨_, _, rfl, hopen, rfl, .chunk (Socket.chunks_of_popChunk? hpop) ?_⟩
      rwa [hr]
  | readEnd hr hopen _ _ hchunks heos =>
      obtain ⟨rfl, rfl, rfl⟩ := hpair (by simp) rfl
      exact ⟨_, _, rfl, hopen, rfl, .ended hchunks heos⟩
  | dataRead hf hkind hopen hread hfits =>
      obtain ⟨rfl, rfl, rfl⟩ := hpair (by simp) rfl
      have haddress := (htidy _ rfl).address_of_read hread
      have hchunks := (hsorted _ rfl).read (by simp [hread])
      exact ⟨_, _, rfl, ⟨haddress.symm, hopen⟩, rfl, .payload hchunks hf hkind hfits⟩
  | endRead hf hkind hopen hread =>
      obtain ⟨rfl, rfl, rfl⟩ := hpair (by simp) rfl
      have haddress := (htidy _ rfl).address_of_read hread
      have hchunks := (hsorted _ rfl).read (by simp [hread])
      exact ⟨_, _, rfl, ⟨haddress.symm, hopen⟩, rfl, .ending hchunks hf hkind⟩
  | writeNow hr | endNow hr => exact hnone (by simp [hr, Command.isRead])
  | connected _ _ _ _ hconnect =>
      apply hnone
      split <;> simp [(hsorted _ rfl).connect _ hconnect]
  | rejected => apply hnone; split <;> simp [Completion.ofStatus]
  | serveConnect _ he => rcases he with rfl | ⟨rfl, -⟩ <;> exact hnone rfl
  | serveWrite _ _ hr he => rcases he with rfl | ⟨rfl, -⟩ <;> exact hnone (by simp [hr, Command.isRead])
  | serveEnd _ hwrite => exact hnone (by simp [(hsorted _ rfl).write _ hwrite])
  | _ => exact hnone (by simp)

end Step

end StreamLink
