import StreamLink.Proofs.Directory
import StreamLink.Proofs.Isolation

/-!
# Refused requests

A connect is refused if its address has a socket already, open or not, if no frame can carry the
name of the service, or if there are as many sockets as there may be. Any other request is refused if
its address has no open socket. A refused request is answered at once, and everything else is as if
it had not been handed in.

That no other connect is refused, because there is a stream id for it, rests on what holds of the
socket table in every state: it starts orderly, connects keep it so, and everything else only takes
sockets away.

Main statements: `refused_request_changes_nothing` and `refused_or_taken`.
-/

namespace StreamLink

namespace SocketTable

variable {t t' t'' : SocketTable} {stream : UInt8} {f : Socket → Socket}

/-- What the sockets are found by. -/
def keys (t : SocketTable) : List (UInt8 × Address) :=
  t.sockets.map fun s => (s.stream, s.address)

/-- Whether one table comes from another without a socket being created: some sockets changed, but
not what they are found by, and some are gone. -/
structure Shrinks (t t' : SocketTable) : Prop where
  keys : t'.keys.Sublist t.keys
  cursor : t'.cursor = t.cursor
  limit : t'.limit = t.limit

namespace Shrinks

theorem refl (t : SocketTable) : t.Shrinks t :=
  ⟨List.Sublist.refl _, rfl, rfl⟩

theorem trans (h : t.Shrinks t') (h' : t'.Shrinks t'') : t.Shrinks t'' :=
  ⟨h'.keys.trans h.keys, h'.cursor.trans h.cursor, h'.limit.trans h.limit⟩

theorem modify (hstream : ∀ s ∈ t.sockets, s.stream = stream → (f s).stream = s.stream)
    (haddress : ∀ s ∈ t.sockets, s.stream = stream → (f s).address = s.address) :
    t.Shrinks (t.modify stream f) where
  keys := by
    have hsame : (t.modify stream f).keys = t.keys := by
      simp only [SocketTable.keys, SocketTable.modify, List.map_map]
      apply List.map_congr_left
      intro s hs
      by_cases heq : s.stream = stream
      · simp [heq, hstream s hs heq, haddress s hs heq]
      · simp [heq]
    rw [hsame]
  cursor := rfl
  limit := rfl

theorem erase (t : SocketTable) (stream : UInt8) : t.Shrinks (t.erase stream) where
  keys := List.filter_sublist.map _
  cursor := rfl
  limit := rfl

/-- A table that was orderly stays so. -/
theorem orderly {limit : Nat} (h : t.Shrinks t') (ht : t.Orderly limit) : t'.Orderly limit where
  distinct := by
    have hstreams (t : SocketTable) : t.sockets.map Socket.stream = t.keys.map Prod.fst := by
      rw [SocketTable.keys, List.map_map]
      rfl
    have haddresses (t : SocketTable) : t.sockets.map Socket.address = t.keys.map Prod.snd := by
      rw [SocketTable.keys, List.map_map]
      rfl
    constructor
    · rw [hstreams]
      exact (hstreams t ▸ ht.distinct.streams).sublist (h.keys.map _)
    · rw [haddresses]
      exact (haddresses t ▸ ht.distinct.addresses).sublist (h.keys.map _)
  limit_eq := h.limit.trans ht.limit_eq
  within := by
    have hlength := h.keys.length_le
    rw [SocketTable.keys, SocketTable.keys, List.length_map, List.length_map] at hlength
    rw [h.limit]
    exact Nat.le_trans hlength ht.within
  cursor_odd := h.cursor ▸ ht.cursor_odd
  streams_odd := by
    intro s hs
    obtain ⟨s', hs', heq⟩ := List.mem_map.mp (h.keys.subset (List.mem_map_of_mem hs))
    rw [← (Prod.mk.inj heq).1]
    exact ht.streams_odd s' hs'

end Shrinks

end SocketTable

namespace Multiplexer

variable {m : Multiplexer} {s : Socket} {stream : UInt8} {r : Request}

/-! ### Sockets that go -/

section Shrinks

variable {t : SocketTable}

theorem shrinks_modify {f : Socket → Socket} (hstream : ∀ s, (f s).stream = s.stream)
    (haddress : ∀ s, (f s).address = s.address) (h : t.Shrinks m.sockets) :
    t.Shrinks (m.modify stream f).sockets :=
  h.trans (.modify (fun s _ _ => hstream s) fun s _ _ => haddress s)

theorem shrinks_modifyFlags (f : SocketFlags → SocketFlags) (h : t.Shrinks m.sockets) :
    t.Shrinks (m.modifyFlags stream f).sockets :=
  shrinks_modify (fun _ => rfl) (fun _ => rfl) h

theorem shrinks_retire (h : t.Shrinks m.sockets) : t.Shrinks (m.retire stream).sockets := by
  rw [sockets_retire]
  exact h.trans (.erase _ _)

theorem shrinks_transmit (kind : PacketKind) (payload : Bytes) (h : t.Shrinks m.sockets) :
    t.Shrinks (m.transmit kind stream payload).sockets := by
  rwa [sockets_transmit]

theorem shrinks_enqueue (n : Nat) (h : t.Shrinks m.sockets) :
    t.Shrinks (m.enqueue stream n).sockets := by
  rwa [sockets_enqueue]

theorem shrinks_close (emitReset : Bool) (h : t.Shrinks m.sockets) :
    t.Shrinks (m.close stream emitReset).sockets := by
  cases hget : m.sockets.get? stream with
  | none =>
      rw [close, hget]
      exact h
  | some s =>
      have habandon : t.Shrinks (m.abandon stream s).sockets := by
        rw [sockets_abandon]
        exact shrinks_modify Socket.stream_abort Socket.address_abort h
      rw [close_eq hget]
      split
      · exact shrinks_retire habandon
      split
      · exact shrinks_retire (shrinks_transmit .reset [] habandon)
      · exact shrinks_enqueue 0 (shrinks_modifyFlags _ habandon)

theorem shrinks_closeIfExchanged (h : t.Shrinks m.sockets) :
    t.Shrinks (m.closeIfExchanged stream).sockets := by
  unfold closeIfExchanged
  split
  · exact h
  · split
    · exact shrinks_close false h
    · exact h

theorem shrinks_deliverEos (h : t.Shrinks m.sockets) :
    t.Shrinks (m.deliverEos stream r).sockets :=
  shrinks_closeIfExchanged (shrinks_modifyFlags _ h)

theorem shrinks_sendWrite (h : t.Shrinks m.sockets) :
    t.Shrinks (m.sendWrite stream r).sockets := by
  unfold sendWrite
  split
  · exact shrinks_transmit .data _ h
  · exact shrinks_closeIfExchanged (shrinks_modifyFlags _ (shrinks_transmit .eos [] h))

theorem shrinks_serve (h : t.Shrinks m.sockets) : t.Shrinks (m.serve stream).sockets := by
  unfold serve
  split
  · exact h
  · split
    · exact shrinks_transmit .connect _ h
    · exact shrinks_sendWrite (shrinks_modify (fun _ => rfl) (fun _ => rfl) h)
    · exact shrinks_retire (shrinks_transmit .reset [] h)
    · exact h

theorem shrinks_serveFront (h : t.Shrinks m.sockets) : t.Shrinks m.serveFront.sockets := by
  unfold serveFront
  split
  · exact h
  · exact shrinks_serve h

theorem shrinks_takeConnectResponse (payload : Bytes) (h : t.Shrinks m.sockets) :
    t.Shrinks (m.takeConnectResponse s payload).sockets := by
  unfold takeConnectResponse
  split
  next r result _ =>
    have hresolve (c : Completion) : t.Shrinks (m.resolve s.stream r c).sockets := by
      rw [sockets_resolve]
      exact shrinks_modify (fun _ => rfl) (fun _ => rfl) h
    dsimp only
    split
    · exact hresolve _
    · exact shrinks_close false (hresolve _)
  · exact h

theorem shrinks_takeData (payload : Bytes) (h : t.Shrinks m.sockets) :
    t.Shrinks (m.takeData s payload).sockets := by
  unfold takeData
  split
  · split
    · exact shrinks_modify (fun _ => rfl) (fun _ => rfl) h
    · exact shrinks_close true h
  · split
    · exact shrinks_close true h
    · exact shrinks_modify (fun _ => rfl) (fun _ => rfl) h

theorem shrinks_takeEos (h : t.Shrinks m.sockets) : t.Shrinks (m.takeEos s).sockets := by
  have hpeer : t.Shrinks (m.modifyFlags s.stream ({ · with eosFromPeer := true })).sockets :=
    shrinks_modifyFlags _ h
  unfold takeEos
  dsimp only
  split
  · exact shrinks_deliverEos (shrinks_modify (fun _ => rfl) (fun _ => rfl) hpeer)
  · exact hpeer

theorem shrinks_dispatch (f : Frame) (h : t.Shrinks m.sockets) :
    t.Shrinks (m.dispatch f).sockets := by
  unfold dispatch
  dsimp only
  split
  · exact h
  split
  · exact shrinks_close false h
  split
  · exact h
  unfold takeFrame
  split
  · exact shrinks_takeConnectResponse _ h
  · exact shrinks_takeData _ h
  · exact shrinks_takeEos h
  · exact h

theorem shrinks_receiveOne (h : t.Shrinks m.sockets) : t.Shrinks m.receiveOne.sockets := by
  unfold receiveOne
  split
  · exact shrinks_dispatch _ h
  · exact h

theorem shrinks_drainInbound (h : t.Shrinks m.sockets) : t.Shrinks m.drainInbound.sockets := by
  fun_induction drainInbound m with
  | case1 => exact h
  | case2 m _ ih => exact ih (shrinks_receiveOne h)

theorem shrinks_drainOutbound (h : t.Shrinks m.sockets) : t.Shrinks m.drainOutbound.sockets := by
  fun_induction drainOutbound m with
  | case1 m _ ih => exact ih (shrinks_serveFront h)
  | case2 => exact h

theorem shrinks_poll (h : t.Shrinks m.sockets) : t.Shrinks m.poll.2.sockets := by
  rw [poll_eq_pollOnce]
  exact shrinks_drainOutbound (shrinks_drainInbound h)

theorem shrinks_misuse (h : t.Shrinks m.sockets) : t.Shrinks (m.misuse r stream).sockets :=
  shrinks_close true h

theorem shrinks_parkWrite (n : Nat) (h : t.Shrinks m.sockets) :
    t.Shrinks (m.parkWrite stream r n).sockets :=
  shrinks_enqueue n (shrinks_modify (fun _ => rfl) (fun _ => rfl) h)

theorem shrinks_submitRead (capacity : Nat) (hdistinct : m.sockets.Distinct)
    (h : t.Shrinks m.sockets) : t.Shrinks (m.submitRead r capacity).sockets := by
  unfold submitRead
  split
  · exact h
  next s hfound =>
  obtain ⟨hget, -, -⟩ := findOpen?_eq_some hdistinct hfound
  split
  · exact shrinks_misuse h
  split
  next data rest hpop =>
    split
    · exact shrinks_misuse h
    · obtain ⟨_, _, rfl⟩ := Socket.exists_of_popChunk? hpop
      exact h.trans (.modify
        (hdistinct.forall_of_get? hget (p := fun s' => s.stream = s'.stream) rfl)
        (hdistinct.forall_of_get? hget (p := fun s' => s.address = s'.address) rfl))
  · split
    · exact shrinks_deliverEos h
    · exact shrinks_modify (fun _ => rfl) (fun _ => rfl) h

theorem shrinks_submitWrite (data : Bytes) (h : t.Shrinks m.sockets) :
    t.Shrinks (m.submitWrite r data).sockets := by
  unfold submitWrite
  split
  · exact h
  split
  · exact shrinks_misuse h
  · dsimp only
    split
    · exact shrinks_sendWrite h
    · exact shrinks_parkWrite _ h

theorem shrinks_submitEos (h : t.Shrinks m.sockets) : t.Shrinks (m.submitEos r).sockets := by
  unfold submitEos
  split
  · exact h
  next s _ =>
  split
  · exact shrinks_misuse h
  · have hcaller : t.Shrinks (m.modifyFlags s.stream ({ · with eosFromCaller := true })).sockets :=
      shrinks_modifyFlags _ h
    dsimp only
    split
    · exact shrinks_sendWrite hcaller
    · exact shrinks_parkWrite 0 hcaller

theorem shrinks_submitReset (h : t.Shrinks m.sockets) :
    t.Shrinks (m.submitReset r).sockets := by
  unfold submitReset
  dsimp only
  split
  · exact h
  · exact shrinks_close true h

end Shrinks

/-! ### Orderly tables -/

theorem orderly_submitConnect {limit : Nat} (h : m.sockets.Orderly limit) (service : Bytes) :
    (m.submitConnect r service).sockets.Orderly limit := by
  unfold submitConnect
  split
  · exact h
  next hfree =>
  have hfree : m.sockets.lookup r.address = none := by simpa using hfree
  split
  · exact h
  split
  · exact h
  next stream t hcreate =>
    have ht : t.Orderly limit := h.create hfree hcreate
    have hmodify : t.Shrinks (t.modify stream ({ · with pendingConnect := some r })) :=
      .modify (fun _ _ _ => rfl) fun _ _ _ => rfl
    dsimp only
    rw [sockets_modify]
    split
    · rw [sockets_transmit]
      exact hmodify.orderly ht
    · rw [sockets_enqueue]
      exact hmodify.orderly ht

theorem orderly_submit {limit : Nat} (h : m.sockets.Orderly limit) (r : Request) :
    (m.submit r).sockets.Orderly limit := by
  have h' : (m.record (.submitted r)).sockets.Orderly limit := h
  unfold submit
  dsimp only
  split
  · exact orderly_submitConnect h' _
  · exact (shrinks_submitRead _ h'.distinct (.refl _)).orderly h'
  · exact (shrinks_submitWrite _ (.refl _)).orderly h'
  · exact (shrinks_submitEos (.refl _)).orderly h'
  · exact (shrinks_submitReset (.refl _)).orderly h'

theorem Reachable.orderly {config : Config} (h : Reachable config m) :
    m.sockets.Orderly config.effectiveMaxSockets := by
  induction h with
  | fresh => exact .ofLimit _
  | apply _ operation ih =>
      cases operation with
      | submit r => exact orderly_submit ih r
      | publish | take | release => exact ih
      | poll => exact (shrinks_poll (.refl _)).orderly ih
      | close stream emitReset => exact (shrinks_close emitReset (.refl _)).orderly ih
  | takeFrame _ _ ih => exact ih
  | receiveOne _ ih => exact (shrinks_receiveOne (.refl _)).orderly ih
  | serveFront _ _ ih => exact (shrinks_serveFront (.refl _)).orderly ih

/-- There may be as many sockets as the host was told, and no more than there are stream ids. -/
theorem Reachable.limit {config : Config} (h : Reachable config m) :
    m.sockets.limit = config.effectiveMaxSockets := by
  rw [h.orderly.limit_eq, Config.effectiveMaxSockets, Nat.min_assoc, Nat.min_self]

/-! ### Refusals -/

/-- Whether no socket of the address is open. -/
def NoneOpen (m : Multiplexer) (address : Address) : Prop :=
  ∀ s ∈ m.sockets.sockets, s.address = address → s.flags.closed = true

/-- Whether a request is refused, and with which status. An address that is in use is seen first. -/
inductive Refused (config : Config) (m : Multiplexer) (r : Request) : Status → Prop
  | inUse {service : Bytes} (hr : r.command = .connect service)
      (hused : ∃ s ∈ m.sockets.sockets, s.address = r.address) : Refused config m r .socketInUse
  | tooLong {service : Bytes} (hr : r.command = .connect service)
      (hunused : ∀ s ∈ m.sockets.sockets, s.address ≠ r.address)
      (hlength : maxPayload < service.length) : Refused config m r .connectReset
  | full {service : Bytes} (hr : r.command = .connect service)
      (hunused : ∀ s ∈ m.sockets.sockets, s.address ≠ r.address)
      (hfull : m.sockets.size = config.effectiveMaxSockets) : Refused config m r .connectReset
  | read {capacity : Nat} (hr : r.command = .read capacity) (hnone : m.NoneOpen r.address) :
      Refused config m r .readReset
  | write {data : Bytes} (hr : r.command = .write data) (hnone : m.NoneOpen r.address) :
      Refused config m r .writeReset
  | eos (hr : r.command = .eos) (hnone : m.NoneOpen r.address) : Refused config m r .eosReset
  | reset (hr : r.command = .reset) (hnone : m.NoneOpen r.address) : Refused config m r .resetOk

theorem lookup_eq_none_iff {address : Address} :
    m.sockets.lookup address = none ↔ ∀ s ∈ m.sockets.sockets, s.address ≠ address := by
  simp [SocketTable.lookup]

theorem findOpen?_of_noneOpen {address : Address} (h : m.NoneOpen address) :
    m.findOpen? address = none := by
  rw [findOpen?, Option.filter_eq_none_iff]
  intro s hs
  have hclosed := h s (SocketTable.mem_of_lookup hs) (SocketTable.address_of_lookup hs)
  simp [hclosed]

theorem noneOpen_of_findOpen? (h : m.sockets.Distinct) {address : Address}
    (hnone : m.findOpen? address = none) : m.NoneOpen address := by
  rintro s hs rfl
  rw [findOpen?, h.lookup_eq_some hs] at hnone
  simpa [Option.filter] using hnone

/-- The state after a request that was answered, and did nothing else. -/
def turnAway (m : Multiplexer) (r : Request) (status : Status) : Multiplexer :=
  (m.record (.submitted r)).answer r (.ofStatus status)

theorem submit_of_noneOpen (hnone : m.NoneOpen r.address)
    (hr : ∀ service, r.command ≠ .connect service) :
    m.submit r = m.turnAway r r.command.resetStatus := by
  have hfound : (m.record (.submitted r)).findOpen? r.address = none := findOpen?_of_noneOpen hnone
  unfold submit
  cases hcommand : r.command with
  | connect service => exact absurd hcommand (hr service)
  | read | write | eos | reset =>
      simp only [submitRead, submitWrite, submitEos, submitReset, hfound]
      rfl

theorem submit_of_refused {config : Config} (h : Reachable config m) {status : Status}
    (hr : m.Refused config r status) : m.submit r = m.turnAway r status := by
  cases hr with
  | inUse hr hused =>
      have hresident : ((m.record (.submitted r)).sockets.lookup r.address).isSome = true := by
        rw [Option.isSome_iff_ne_none]
        intro hnone
        obtain ⟨s, hs, haddress⟩ := hused
        exact lookup_eq_none_iff.mp hnone s hs haddress
      rw [submit, hr]
      exact if_pos hresident
  | tooLong hr hunused hlength =>
      have hfree : (m.record (.submitted r)).sockets.lookup r.address = none :=
        lookup_eq_none_iff.mpr hunused
      rw [submit, hr]
      dsimp only
      rw [submitConnect, hfree, if_neg (by simp)]
      exact if_pos hlength
  | @full service hr hunused hfull =>
      have hfree : (m.record (.submitted r)).sockets.lookup r.address = none :=
        lookup_eq_none_iff.mpr hunused
      have hfailed : (m.record (.submitted r)).sockets.create r.address =
          .error .socketTableFull := if_pos (Nat.le_of_eq (h.limit.trans hfull.symm))
      rw [submit, hr]
      dsimp only
      rw [submitConnect, hfree, if_neg (by simp), hfailed]
      exact ite_self _
  | read hr hnone | write hr hnone | eos hr hnone | reset hr hnone =>
      rw [submit_of_noneOpen hnone (by simp [hr]), hr]
      rfl

/-- A request is refused, or it is a connect that gets a socket, or it finds its socket open. -/
theorem refused_or_taken {config : Config} (h : Reachable config m) (r : Request) :
    (∃ status, m.Refused config r status) ∨
      (∃ service stream, r.command = .connect service ∧ m.Creates r service stream) ∨
      ((∀ service, r.command ≠ .connect service) ∧ ∃ s, m.findOpen? r.address = some s) := by
  by_cases hconnect : ∃ service, r.command = .connect service
  · obtain ⟨service, hr⟩ := hconnect
    by_cases hused : ∃ s ∈ m.sockets.sockets, s.address = r.address
    · exact .inl ⟨_, .inUse hr hused⟩
    have hunused : ∀ s ∈ m.sockets.sockets, s.address ≠ r.address :=
      fun s hs haddress => hused ⟨s, hs, haddress⟩
    by_cases hlength : maxPayload < service.length
    · exact .inl ⟨_, .tooLong hr hunused hlength⟩
    obtain ⟨hfull, -⟩ | ⟨stream, -, -, hmade⟩ := h.orderly.create_cases r.address
    · exact .inl ⟨_, .full hr hunused (hfull.trans h.limit)⟩
    · exact .inr (.inl ⟨service, stream, hr, lookup_eq_none_iff.mpr hunused,
        Nat.le_of_not_lt hlength, _, hmade⟩)
  have hother : ∀ service, r.command ≠ .connect service := fun service hr => hconnect ⟨service, hr⟩
  cases hfound : m.findOpen? r.address with
  | some s => exact .inr (.inr ⟨hother, s, rfl⟩)
  | none =>
      have hnone := noneOpen_of_findOpen? h.orderly.distinct hfound
      left
      cases hr : r.command with
      | connect service => exact absurd hr (hother service)
      | read capacity => exact ⟨_, .read hr hnone⟩
      | write data => exact ⟨_, .write hr hnone⟩
      | eos => exact ⟨_, .eos hr hnone⟩
      | reset => exact ⟨_, .reset hr hnone⟩

/-- A request that is refused is answered at once with the status that says why, without data and
with length zero. Nobody else is answered, and the sockets, what they are found by, the next stream
id, the send queue, both rings and the totals are as before. -/
theorem refused_request_changes_nothing {config : Config} (h : Reachable config m) {status : Status}
    (hr : m.Refused config r status) :
    m.submit r =
      { m with
        history := .answered r { status := status, data := [], length := 0 } :: .submitted r ::
          m.history } :=
  submit_of_refused h hr

/-- The only socket there may be is given up, and its Reset waits. Its address is still in use for a
connect and no longer open for a read, and a connect of another address finds no room. -/
theorem refused_request_changes_nothing_of_lingering :
    let config : Config := { maxSockets := 1 }
    let m := run config [.submit ⟨0, ⟨1, 1⟩, .connect (List.replicate 252 0)⟩,
      .submit ⟨1, ⟨1, 1⟩, .reset⟩]
    let again : Request := ⟨2, ⟨1, 1⟩, .connect []⟩
    let other : Request := ⟨3, ⟨1, 2⟩, .connect []⟩
    let read : Request := ⟨4, ⟨1, 1⟩, .read 1⟩
    m.submit again = { m with
        history := .answered again ⟨.socketInUse, [], 0⟩ :: .submitted again :: m.history } ∧
      m.submit other = { m with
        history := .answered other ⟨.connectReset, [], 0⟩ :: .submitted other :: m.history } ∧
      m.submit read = { m with
        history := .answered read ⟨.readReset, [], 0⟩ :: .submitted read :: m.history } := by
  intro config m again other read
  have hreachable : Reachable config m := reachable_run config _
  have hused : ∃ s ∈ m.sockets.sockets, s.address = again.address := by decide +kernel
  have hunused : ∀ s ∈ m.sockets.sockets, s.address ≠ other.address := by decide +kernel
  have hfull : m.sockets.size = config.effectiveMaxSockets := by decide +kernel
  have hnone : ∀ s ∈ m.sockets.sockets, s.address = read.address → s.flags.closed = true := by
    decide +kernel
  exact ⟨refused_request_changes_nothing hreachable (.inUse rfl hused),
    refused_request_changes_nothing hreachable (.full rfl hunused hfull),
    refused_request_changes_nothing hreachable (.read rfl hnone)⟩

end Multiplexer

end StreamLink
