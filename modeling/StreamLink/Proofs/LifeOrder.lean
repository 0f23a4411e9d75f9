import StreamLink.Proofs.Lives

/-!
# The order of a life

During one life a stream sends its connect, then one packet for each of its writes in the order in
which they are answered, then its end of stream, then a Reset. It sends nothing but what is answered
with success, and until its connect is answered it sends neither data nor the end of the stream.

A life that is not over tracks the stream's socket: what the socket's slots and flags say is what the
life has sent so far.
-/

namespace StreamLink

/-- Whether data and the end of the stream were sent only after that event. -/
def DataAfter (e : Event) (stream : UInt8) (events : List Event) : Prop :=
  ∀ early late kind payload, events = early ++ .sent kind stream payload :: late →
    kind = .data ∨ kind = .eos → e ∈ early

theorem DataAfter.append {e : Event} {stream : UInt8} {past events : List Event}
    (h : DataAfter e stream past)
    (hnew : e ∈ past ∨ ∀ packet ∈ packetsOn stream events, packet.1 ≠ .data ∧ packet.1 ≠ .eos) :
    DataAfter e stream (past ++ events) := by
  intro early late kind payload heq hkind
  rcases split_append heq with ⟨rest, hpast⟩ | ⟨rest, rfl, hevents⟩
  · exact h early rest kind payload hpast hkind
  -- A packet among the new events comes after everything that happened before.
  · apply List.mem_append_left
    rcases hnew with hmem | hnone
    · exact hmem
    · have hmem : (kind, payload) ∈ packetsOn stream events := by
        rw [mem_packetsOn, hevents]
        simp
      obtain ⟨hdata, heos⟩ := hnone _ hmem
      exact absurd hkind (by simp [hdata, heos])

/-- Whether data and the end of the stream waited for the connect's answer. -/
def Patient (stream : UInt8) (r : Request) (events : List Event) : Prop :=
  ∀ early late kind payload, events = early ++ .sent kind stream payload :: late →
    kind = .data ∨ kind = .eos → .answered r (.ofStatus .ok) ∈ early

theorem Patient.append {stream : UInt8} {r : Request} {past events : List Event}
    (h : Patient stream r past)
    (hnew : .answered r (.ofStatus .ok) ∈ past ∨
      ∀ packet ∈ packetsOn stream events, packet.1 ≠ .data ∧ packet.1 ≠ .eos) :
    Patient stream r (past ++ events) :=
  DataAfter.append h hnew

/-- Whether the peer has accepted the connect of a life. -/
def Life.Accepted (life : Life) (stream : UInt8) : Prop :=
  .answered life.request (.ofStatus .ok) ∈ life.events ∧
    ∃ f, .received f ∈ life.events ∧ f.stream = stream ∧
      PacketKind.ofCode? f.kind = some .connectResponse ∧ f.payload = [connectAccepted]

/-- What a life has sent is in order. -/
structure Life.Orderly (life : Life) (stream : UInt8) : Prop where
  packets : ∃ service connects resets, life.request.command = .connect service ∧
    packetsOn stream life.events =
      connects ++ fulfilledAt life.request.address life.events ++ resets ∧
    (connects = [] ∨ connects = [(.connect, service)]) ∧
    (resets = [] ∨ resets = [(.reset, [])] ∧ life.retired = true ∧
      life.events.getLast? = some (.sent .reset stream []))
  fulfilled : ∃ written : List Bytes, ∃ ended, fulfilledAt life.request.address life.events =
    written.map (Prod.mk .data) ++ ended ∧ (ended = [] ∨ ended = [(.eos, [])])
  patient : Patient stream life.request life.events

/-- What a life that is not over tells of the stream's socket and of its turns. -/
structure Life.Tracks (life : Life) (stream : UInt8) (s : Socket) (turns : List Nat)
    (service : Bytes) (connects : List (PacketKind × Bytes)) (written : List Bytes) : Prop where
  request : life.request.command = .connect service
  address : life.request.address = s.address
  ongoing : life.retired = false
  first : connects = [] ∨ connects = [(.connect, service)]
  packets : packetsOn stream life.events = connects ++ fulfilledAt s.address life.events
  fulfilled : fulfilledAt s.address life.events =
    written.map (Prod.mk .data) ++ if s.flags.eosSent then [(.eos, [])] else []
  patient : Patient stream life.request life.events
  pending : ∀ r, s.pendingConnect = some r →
    r = life.request ∧ fulfilledAt s.address life.events = []
  accepted : s.flags.closed = false → s.pendingConnect = none → life.Accepted stream
  waiting : s.flags.closed = false → s.pendingWrite = none → turns ≠ [] →
    connects = [] ∧ turns = [service.length]

namespace Life

variable {life : Life} {stream : UInt8} {s s' : Socket} {turns turns' : List Nat} {service : Bytes}
  {connects : List (PacketKind × Bytes)} {written : List Bytes} {events : List Event}

theorem Accepted.append (h : life.Accepted stream) (events : List Event) :
    Life.Accepted { life with events := life.events ++ events } stream := by
  obtain ⟨hanswered, f, hreceived, hf⟩ := h
  exact ⟨List.mem_append_left _ hanswered, f, List.mem_append_left _ hreceived, hf⟩

namespace Tracks

/-- A life that is not over is in order so far. -/
theorem orderly (h : life.Tracks stream s turns service connects written) : life.Orderly stream where
  packets := ⟨service, connects, [], h.request, by rw [h.packets, h.address, List.append_nil],
    h.first, .inl rfl⟩
  fulfilled := by
    refine ⟨written, _, h.address ▸ h.fulfilled, ?_⟩
    split
    · exact .inr rfl
    · exact .inl rfl
  patient := h.patient

/-- A life that ends is in order when nothing, or only a Reset at the end, is sent meanwhile. -/
theorem orderly_over (h : life.Tracks stream s turns service connects written)
    (hfulfilled : fulfilledAt s.address events = [])
    (hpackets : packetsOn stream events = [] ∨ packetsOn stream events = [(.reset, [])] ∧
      events.getLast? = some (.sent .reset stream [])) :
    Life.Orderly { life with events := life.events ++ events, retired := true } stream where
  packets := by
    refine ⟨service, connects, packetsOn stream events, h.request, ?_, h.first, ?_⟩
    · rw [packetsOn_append, h.packets, h.address, fulfilledAt_append, hfulfilled, List.append_nil]
    · refine hpackets.imp_right fun ⟨hreset, hlast⟩ => ⟨hreset, rfl, ?_⟩
      rw [List.getLast?_append, hlast]
      rfl
  fulfilled := by
    obtain ⟨written, ended, heq, hended⟩ := h.orderly.fulfilled
    refine ⟨written, ended, ?_, hended⟩
    rw [fulfilledAt_append, heq, h.address, hfulfilled, List.append_nil]
  patient := by
    apply h.patient.append
    right
    rcases hpackets with hnone | ⟨hreset, -⟩
    · simp [hnone]
    · simp [hreset]

/-- A life goes on without sending anything. -/
theorem quiet (h : life.Tracks stream s turns service connects written)
    (hpackets : packetsOn stream events = []) (hfulfilled : fulfilledAt s.address events = [])
    (haddress : s'.address = s.address) (hsent : s'.flags.eosSent = s.flags.eosSent)
    (hpending : ∀ r, s'.pendingConnect = some r → s.pendingConnect = some r)
    (haccepted : s'.flags.closed = false → s'.pendingConnect = none →
      s.flags.closed = false ∧ s.pendingConnect = none ∨
        Accepted { life with events := life.events ++ events } stream)
    (hwaiting : s'.flags.closed = false → s'.pendingWrite = none → turns' ≠ [] →
      s.flags.closed = false ∧ s.pendingWrite = none ∧ turns' = turns) :
    Tracks { life with events := life.events ++ events } stream s' turns' service connects
      written where
  request := h.request
  address := h.address.trans haddress.symm
  ongoing := h.ongoing
  first := h.first
  packets := by
    rw [packetsOn_append, hpackets, List.append_nil, h.packets, haddress, fulfilledAt_append,
      hfulfilled, List.append_nil]
  fulfilled := by
    rw [haddress, hsent, fulfilledAt_append, hfulfilled, List.append_nil, h.fulfilled]
  patient := h.patient.append (.inr (by simp [hpackets]))
  pending := by
    intro r hr
    obtain ⟨hrequest, hnone⟩ := h.pending r (hpending r hr)
    rw [haddress, fulfilledAt_append, hnone, hfulfilled]
    exact ⟨hrequest, rfl⟩
  accepted := by
    intro hopen hconnect
    rcases haccepted hopen hconnect with ⟨hopen, hconnect⟩ | haccepted
    · exact (h.accepted hopen hconnect).append events
    · exact haccepted
  waiting := by
    intro hopen hwrite hturns
    obtain ⟨hopen, hwrite, rfl⟩ := hwaiting hopen hwrite hturns
    exact h.waiting hopen hwrite hturns

/-- A life goes on without sending anything, and its connect waits or does not wait as before. -/
theorem keep (h : life.Tracks stream s turns service connects written)
    (hpackets : packetsOn stream events = []) (hfulfilled : fulfilledAt s.address events = [])
    (haddress : s'.address = s.address) (hclosed : s'.flags.closed = s.flags.closed)
    (hsent : s'.flags.eosSent = s.flags.eosSent) (hconnect : s'.pendingConnect = s.pendingConnect)
    (hwaiting : s'.pendingWrite = none → turns' ≠ [] → s.pendingWrite = none ∧ turns' = turns) :
    Tracks { life with events := life.events ++ events } stream s' turns' service connects
      written := by
  apply h.quiet hpackets hfulfilled haddress hsent
  · intro r hr
    rwa [hconnect] at hr
  · rw [hclosed, hconnect]
    intro hopen hnone
    exact .inl ⟨hopen, hnone⟩
  · rw [hclosed]
    intro hopen hnone hturns
    exact ⟨hopen, hwaiting hnone hturns⟩

/-- A life sends its connect. -/
theorem sendConnect (h : life.Tracks stream s turns service connects written) {r : Request}
    (hopen : s.flags.closed = false) (hconnect : s.pendingConnect = some r)
    (hwrite : s.pendingWrite = none) (hturns : turns ≠ []) :
    Tracks { life with events := life.events ++ [.sent .connect stream r.command.payload] } stream s
      [] service [(.connect, service)] written := by
  obtain ⟨rfl, hnone⟩ := h.pending r hconnect
  obtain ⟨rfl, -⟩ := h.waiting hopen hwrite hturns
  have hpackets : packetsOn stream [.sent .connect stream life.request.command.payload] =
      [(.connect, service)] := by
    simp [h.request, Command.payload]
  refine ⟨h.request, h.address, h.ongoing, .inr rfl, ?_, ?_, ?_, ?_, ?_, fun _ _ => absurd rfl⟩
  · rw [packetsOn_append, h.packets, hpackets, fulfilledAt_append, hnone]
    rfl
  · rw [fulfilledAt_append, h.fulfilled]
    exact List.append_nil _
  · exact h.patient.append (.inr (by simp [hpackets]))
  · intro r hr
    rw [fulfilledAt_append, hnone]
    exact ⟨(h.pending r hr).1, rfl⟩
  · intro hopen hconnect
    exact (h.accepted hopen hconnect).append _

/-- A life sends what it answers. -/
theorem send (h : life.Tracks stream s turns service connects written) {written' : List Bytes}
    (hopen : s.flags.closed = false) (hconnect : s.pendingConnect = none)
    (hpackets : packetsOn stream events = fulfilledAt s.address events)
    (hfulfilled : fulfilledAt s.address life.events ++ fulfilledAt s.address events =
      written'.map (Prod.mk .data) ++ if s'.flags.eosSent then [(.eos, [])] else [])
    (haddress : s'.address = s.address) (hconnect' : s'.pendingConnect = none) :
    Tracks { life with events := life.events ++ events } stream s' [] service connects written' where
  request := h.request
  address := h.address.trans haddress.symm
  ongoing := h.ongoing
  first := h.first
  packets := by
    rw [packetsOn_append, h.packets, hpackets, haddress, fulfilledAt_append, List.append_assoc]
  fulfilled := by
    rw [haddress, fulfilledAt_append, hfulfilled]
  patient := h.patient.append (.inl (h.accepted hopen hconnect).1)
  pending := by
    intro r hr
    rw [hconnect'] at hr
    contradiction
  accepted := fun _ _ => (h.accepted hopen hconnect).append events
  waiting := fun _ _ => absurd rfl

/-- While the connect has its turn to come, or an answer left that turn behind, it is not sent. -/
theorem connect_unsent (h : life.Tracks stream s turns service connects written)
    (hopen : s.flags.closed = false) (hwrite : s.pendingWrite = none) (hturns : turns ≠ [])
    (payload : Bytes) : .sent .connect stream payload ∉ life.events := by
  obtain ⟨rfl, -⟩ := h.waiting hopen hwrite hturns
  intro hsent
  rw [← mem_packetsOn, h.packets, h.fulfilled] at hsent
  split at hsent <;> simp at hsent

end Tracks

/-- A life that has just begun. -/
theorem tracks_opening {r : Request} (hr : r.command = .connect service)
    (hconnects : connects = [] ∨ connects = [(.connect, service)])
    (hpackets : packetsOn stream events = connects)
    (hfulfilled : ∀ address, fulfilledAt address events = [])
    (hturns : turns ≠ [] → connects = [] ∧ turns = [service.length]) :
    Tracks ⟨r, events, false⟩ stream (.opening stream r) turns service connects [] where
  request := hr
  address := rfl
  ongoing := rfl
  first := hconnects
  packets := by rw [hpackets, hfulfilled, List.append_nil]
  fulfilled := hfulfilled _
  patient := by
    have hnil : Patient stream r [] := by
      intro early late kind payload heq
      simp at heq
    apply hnil.append
    right
    rw [hpackets]
    rcases hconnects with rfl | rfl
    · simp
    · simp
  pending := by
    rintro _ ⟨⟩
    exact ⟨rfl, hfulfilled _⟩
  accepted := by
    intro _ hconnect
    contradiction
  waiting := fun _ _ => hturns

end Life

end StreamLink
