import StreamLink.Proofs.Coherence
import StreamLink.Proofs.Isolation
import StreamLink.Proofs.OneWake
import StreamLink.Proofs.SecondTurn

/-!
# Misuse of a stream

A request for an open stream either keeps to the rules or it does not. If it does not, the stream is
reset: the request and whatever waits on the socket fail, and the peer is told at once or when its
turn comes. If it does, nobody else notices: no other request of the socket is answered and none
loses its place, not even when the request is the last thing that happens on the stream.

Main statement: `resets_exactly_on_misuse`.
-/

namespace StreamLink

/-! ### Completions -/

/-- The request that an event answers, and how. -/
@[simp] def Event.completion? : Event → Option (Request × Completion)
  | answered r c => some (r, c)
  | _ => none

/-- The requests that were answered, and how, in order. -/
def completionsIn (events : List Event) : List (Request × Completion) :=
  events.filterMap Event.completion?

@[simp] theorem completionsIn_nil : completionsIn [] = [] := rfl

@[simp] theorem completionsIn_cons (e : Event) (events : List Event) :
    completionsIn (e :: events) = e.completion?.toList ++ completionsIn events :=
  filterMap_cons_eq e events

@[simp] theorem completionsIn_append (first second : List Event) :
    completionsIn (first ++ second) = completionsIn first ++ completionsIn second :=
  List.filterMap_append

@[simp] theorem completionsIn_again (stream : UInt8) (turns : List Nat) :
    completionsIn (again stream turns) = [] :=
  filterMap_again (fun _ => rfl) stream turns

@[simp] theorem completionsIn_farewell (s : Socket) (turns : List Nat) :
    completionsIn (s.farewell turns) = s.parked.map fun r => (r, r.failure) := by
  rw [completionsIn, s.filterMap_farewell fun _ => rfl]
  exact congrFun List.filterMap_eq_map' s.parked

/-! ### Appended frames -/

namespace Ring

variable {r r' : Ring} {kind kind' : PacketKind} {stream stream' : UInt8} {payload payload' : Bytes}

theorem contents_of_append (h : r.append kind stream payload = .ok r') :
    r'.contents = r.contents ++ Frame.bytes ⟨kind.code, stream, payload⟩ := by
  obtain ⟨hlength, -⟩ := le_of_append_eq_ok h
  have happends : r.Appends [⟨kind, stream, payload, hlength⟩] r' := .tail (.refl r) h
  rw [happends.contents_eq, List.flatMap_singleton]
  rfl

/-- A frame leaves its trace in the ring. -/
theorem append_ne_ok_self (r : Ring) : r.append kind stream payload ≠ .ok r := by
  intro h
  have hlength := congrArg List.length (contents_of_append h)
  rw [List.length_append, Frame.length_bytes, Frame.length] at hlength
  simp only [headerSize] at hlength
  omega

/-- The ring tells which kind of frame was appended. -/
theorem code_eq_of_append (h : r.append kind stream payload = .ok r')
    (h' : r.append kind' stream' payload' = .ok r') : kind.code = kind'.code := by
  have hbytes := (contents_of_append h).symm.trans (contents_of_append h')
  have hframe := List.append_cancel_left hbytes
  simp only [Frame.bytes, List.cons.injEq] at hframe
  exact hframe.2.1

end Ring

/-! ### The end of a direction comes last -/

/-- Whether a write waits only as long as the owner has not said that it ends. -/
def Socket.EndsLast (s : Socket) : Prop :=
  ∀ r ∈ s.pendingWrite, ∀ data, r.command = .write data → s.flags.eosFromCaller = false

theorem SocketStep.endsLast {stream : UInt8} {s? s?' : Option Socket} {turns : List Nat}
    {turn : Turn} {events : List Event} (h : SocketStep stream s? turns turn events s?')
    (hs : ∀ s ∈ s?, s.EndsLast) : ∀ s ∈ s?', s.EndsLast := by
  cases h with
  | idle | refuse | ignore | garble | writeNow | serveConnect | serveIdle => exact hs
  | readChunk _ _ _ _ hpop =>
      have hlast := hs _ rfl
      obtain ⟨_, _, rfl⟩ := Socket.exists_of_popChunk? hpop
      rintro _ ⟨⟩
      exact hlast
  | writeLater _ _ hfree =>
      obtain ⟨-, -, hcaller⟩ := Socket.writeConflicts_eq_false_iff.mp hfree
      rintro _ ⟨⟩ _ _ _ _
      exact hcaller
  | endNow _ _ hfree =>
      obtain ⟨-, hwrite, -⟩ := Socket.writeConflicts_eq_false_iff.mp hfree
      rintro _ ⟨⟩ r hr
      exact absurd (hwrite.symm.trans hr) (by simp)
  | endLater hr =>
      rintro _ ⟨⟩ _ ⟨⟩ data hdata
      exact absurd (hr.symm.trans hdata) (by simp)
  | readEnd | readWait | connected | dataRead | dataKept | endRead | endKept =>
      have hlast := hs _ rfl
      rintro _ ⟨⟩
      exact hlast
  | openNow | openLater | closeLater | serveWrite | serveEnd => rintro _ ⟨⟩ _ ⟨⟩
  | rejected | closeQuietly | closeNow | serveReset | serveStray => rintro _ ⟨⟩

/-- When the owner's end has been sent, no write and no end waits. -/
theorem Socket.Coherent.pendingWrite_of_sent {s : Socket} (h : s.Coherent) (hlast : s.EndsLast)
    (hopen : s.flags.closed = false) (hsent : s.flags.eosSent = true) : s.pendingWrite = none := by
  have hcaller := h.sent hsent
  cases hwrite : s.pendingWrite with
  | none => rfl
  | some r =>
      exfalso
      rcases h.write r hwrite with ⟨data, hdata⟩ | heos
      · have hfree := hlast r hwrite data hdata
        simp [hcaller] at hfree
      · have hunsent := ((h.ending hopen).mp ⟨r, hwrite, heos⟩).2
        simp [hsent] at hunsent

/-- When a read was told of the peer's end, no read waits. -/
theorem Socket.Coherent.pendingRead_of_delivered {s : Socket} (h : s.Coherent)
    (hdelivered : s.flags.eosDelivered = true) : s.pendingRead = none := by
  have hpeer := h.delivered hdelivered
  cases hread : s.pendingRead with
  | none => rfl
  | some r =>
      exfalso
      have hgoes := (h.read r hread).2.2
      simp [hpeer] at hgoes

/-- Whether a request misuses the stream of an open socket: a read that is not the only one to wait,
or comes before the connect was answered, or is too short for the oldest chunk; a write or an end of
stream that is not the only one to wait, or comes before the connect was answered or after the end;
a write that no frame can carry; and a reset, always. -/
def Socket.Misused (s : Socket) (r : Request) : Prop :=
  match r.command with
  | .connect _ => False
  | .read capacity =>
    s.pendingConnect.isSome ∨ s.pendingRead.isSome ∨ ∃ data ∈ s.chunks.head?, capacity < data.length
  | .write data =>
    s.pendingConnect.isSome ∨ s.pendingWrite.isSome ∨ s.flags.eosFromCaller ∨
      maxPayload < data.length
  | .eos => s.pendingConnect.isSome ∨ s.pendingWrite.isSome ∨ s.flags.eosFromCaller
  | .reset => True

theorem Socket.head?_of_popChunk? {s rest : Socket} {data : Bytes}
    (h : s.popChunk? = some (data, rest)) : s.chunks.head? = some data := by
  unfold popChunk? at h
  split at h
  · contradiction
  next hchunks =>
    rw [hchunks, (Prod.mk.inj (Option.some.inj h)).1]
    rfl

theorem Socket.popChunk?_of_head? {s : Socket} {data : Bytes} (h : s.chunks.head? = some data) :
    ∃ rest, s.popChunk? = some (data, rest) := by
  unfold popChunk?
  split
  next hchunks => simp [hchunks] at h
  next hchunks =>
    rw [hchunks] at h
    obtain rfl := Option.some.inj h
    exact ⟨_, rfl⟩

theorem Socket.parked_congr {s s' : Socket} (h : ∀ slot, s'.slot slot = s.slot slot) :
    s'.parked = s.parked := by
  have hconnect : s'.pendingConnect = s.pendingConnect := h .connect
  have hread : s'.pendingRead = s.pendingRead := h .read
  have hwrite : s'.pendingWrite = s.pendingWrite := h .write
  rw [parked, parked, hconnect, hread, hwrite]

/-- A write or an end of stream that takes the free slot displaces nobody. -/
theorem Socket.slot_of_write_free {s : Socket} (hfree : s.pendingWrite = none) {r q : Request}
    {slot : Slot} (h : s.slot slot = some q) :
    { s with pendingWrite := some r }.slot slot = some q := by
  cases slot with
  | write => exact absurd (hfree.symm.trans h) (by simp)
  | connect | read => exact h

namespace Multiplexer

theorem Reachable.coherent {config : Config} {m : Multiplexer} (h : Reachable config m) :
    ∀ stream, ∀ s ∈ m.sockets.get? stream, s.Coherent :=
  h.induct (p := fun m => ∀ stream, ∀ s ∈ m.sockets.get? stream, s.Coherent) (by simp)
    fun hmove hm => hmove.coherent hm

theorem Reachable.endsLast {config : Config} {m : Multiplexer} (h : Reachable config m) :
    ∀ stream, ∀ s ∈ m.sockets.get? stream, s.EndsLast :=
  h.induct (p := fun m => ∀ stream, ∀ s ∈ m.sockets.get? stream, s.EndsLast) (by simp)
    fun hmove hm => hmove.forall_streams (p := fun _ s? _ => ∀ s ∈ s?, s.EndsLast) hm
      hmove.step.endsLast

variable {m m' : Multiplexer} {s : Socket} {r : Request}

/-! ### What a misuse does -/

/-- The socket is closed by force: the peer is told by a Reset and the socket is gone, or the Reset
is the last to wait and the socket stays for it. -/
inductive ForceClosed (m : Multiplexer) (s : Socket) (m' : Multiplexer) : Prop
  | told (hgone : m'.sockets.get? s.stream = none)
      (hsent : m.outbound.append .reset s.stream [] = .ok m'.outbound)
  | owed (hstays : m'.sockets.get? s.stream = some s.lingering)
      (hlast : m'.queue.entries.getLast? = some ⟨s.stream, 0⟩)

/-- How a request takes its stream with it: it fails, and so does whatever waits on the socket, each
as its own command fails. Its turn is lost, and a Reset goes out if then nobody waits and there is
room, and waits otherwise. -/
structure TornDown (m : Multiplexer) (s : Socket) (r : Request) (m' : Multiplexer) : Prop where
  completions : ∃ events, m'.chronicle = m.chronicle ++ events ∧
    completionsIn events = (r, r.failure) :: s.parked.map fun q => (q, q.failure)
  told : (m.queue.remove s.stream).entries = [] ∧ m.outbound.roomFor 0 = true →
    m'.sockets.get? s.stream = none ∧ m'.queue.entries = [] ∧
      m.outbound.append .reset s.stream [] = .ok m'.outbound
  owed : ¬ ((m.queue.remove s.stream).entries = [] ∧ m.outbound.roomFor 0 = true) →
    m'.sockets.get? s.stream = some s.lingering ∧
      m'.queue = (m.queue.remove s.stream).enqueue s.stream 0 ∧ m'.outbound = m.outbound

theorem TornDown.forceClosed (h : TornDown m s r m') : ForceClosed m s m' := by
  by_cases hnow : (m.queue.remove s.stream).entries = [] ∧ m.outbound.roomFor 0 = true
  · obtain ⟨hgone, -, hsent⟩ := h.told hnow
    exact .told hgone hsent
  · obtain ⟨hstays, hqueue, -⟩ := h.owed hnow
    exact .owed hstays (by rw [hqueue]; exact List.getLast?_concat)

theorem tornDown_misuse (h : m.sockets.Distinct) (hget : m.sockets.get? s.stream = some s) :
    TornDown m s r ((m.record (.submitted r)).misuse r s.stream) := by
  -- The request has failed before its stream is closed.
  let done := (m.record (.submitted r)).answer r r.failure
  have hdone : done.sockets.get? s.stream = some s := hget
  let reset := (done.abandon s.stream s).record (.accepted .reset s.stream [])
  have houtbound : reset.outbound = m.outbound := by
    change (done.abandon s.stream s).outbound = m.outbound
    rw [abandon_eq hdone]
    rfl
  have hchoice : reset.canSendNow 0 = true ↔
      (m.queue.remove s.stream).entries = [] ∧ m.outbound.roomFor 0 = true := by
    rw [canSendNow_iff, houtbound]
    rfl
  have hchronicle {turn : Turn} {events : List Event} {m' : Multiplexer}
      (hmove : Move done s.stream turn events m') :
      m'.chronicle = m.chronicle ++ ([.submitted r, .answered r r.failure] ++ events) := by
    rw [hmove.chronicle_eq, chronicle, ← List.append_assoc]
    simp [done, chronicle]
  rw [misuse, close_eq hdone, if_neg (by simp)]
  split
  next hnow =>
    have hcloses : Closes done s.stream s none true .clear _ _ :=
      closes_now h hdone (by simp) rfl rfl rfl rfl hnow
    obtain ⟨-, hnobody⟩ := hcloses.move.queue
    have hroom : reset.outbound.roomFor 0 = true := ((canSendNow_iff _).mp hnow).2
    refine ⟨⟨_, hchronicle hcloses.move, by simp⟩, ?_, fun hnot => absurd (hchoice.mp hnow) hnot⟩
    rintro -
    refine ⟨?_, hnobody, ?_⟩
    · rw [sockets_retire, SocketTable.get?_erase]
    · rw [outbound_retire, ← houtbound]
      exact reset.append_eq_transmit s.stream hroom
  next hwait =>
    have hcloses : Closes done s.stream s none true .rejoin _ _ :=
      closes_later h hdone (by simp) rfl rfl rfl rfl
    refine ⟨⟨_, hchronicle hcloses.move, by simp⟩, fun hnow => absurd (hchoice.mpr hnow) hwait, ?_⟩
    rintro -
    refine ⟨?_, hcloses.move.queue, ?_⟩
    · have habandoned := SocketTable.get?_modify_eq_some Socket.stream_abort hdone
      rw [sockets_enqueue, sockets_modifyFlags, sockets_record, sockets_abandon]
      exact SocketTable.get?_modify_eq_some (fun _ => rfl) habandoned
    · rw [outbound_enqueue]
      exact houtbound

/-- A request that misuses the stream is refused and resets the stream. -/
theorem submit_of_misused (hfound : m.findOpen? r.address = some s) (hmisused : s.Misused r) :
    m.submit r = (m.record (.submitted r)).misuse r s.stream := by
  have hfound' : (m.record (.submitted r)).findOpen? r.address = some s := hfound
  rw [submit]
  cases hr : r.command with
  | connect service => simp [Socket.Misused, hr] at hmisused
  | read capacity =>
      simp only [Socket.Misused, hr] at hmisused
      dsimp only
      rw [submitRead, hfound']
      dsimp only
      split
      next => rfl
      next hidle =>
        have hshort : ∃ data ∈ s.chunks.head?, capacity < data.length := by
          rw [Bool.or_eq_true, not_or] at hidle
          exact (hmisused.resolve_left hidle.1).resolve_left hidle.2
        obtain ⟨data, hdata, hlength⟩ := hshort
        obtain ⟨rest, hpop⟩ := Socket.popChunk?_of_head? hdata
        rw [hpop]
        exact if_pos hlength
  | write data =>
      dsimp only
      rw [submitWrite, hfound']
      dsimp only
      rw [if_pos]
      simpa [Socket.Misused, hr, Socket.writeConflicts, or_assoc] using hmisused
  | eos =>
      dsimp only
      rw [submitEos, hfound']
      dsimp only
      rw [if_pos]
      simpa [Socket.Misused, hr, Socket.writeConflicts, or_assoc] using hmisused
  | reset =>
      dsimp only
      rw [submitReset, hfound', misuse, Request.failure, hr]
      rfl

/-! ### What other requests do -/

/-- How a request leaves the others alone: no other is answered, each that waits keeps its place,
and the socket is not closed by force. -/
structure Spared (m : Multiplexer) (s : Socket) (r : Request) (m' : Multiplexer) : Prop where
  completions : ∃ events, m'.chronicle = m.chronicle ++ events ∧
    ∃ answer? : Option Completion, completionsIn events = (answer?.map fun c => (r, c)).toList
  keeps : ∀ slot q, s.slot slot = some q →
    ∃ s' ∈ m'.sockets.get? s.stream, s'.slot slot = some q
  unforced : ¬ ForceClosed m s m'

theorem chronicle_eq_of_history {events : List Event}
    (h : m'.history = events.reverse ++ m.history) : m'.chronicle = m.chronicle ++ events := by
  rw [chronicle, h, List.reverse_append, List.reverse_reverse]
  rfl

section

variable (answer? : Option Completion) (events : List Event)

/-- The socket stays and is open. -/
theorem Spared.of_open {s' : Socket} (hget : m'.sockets.get? s.stream = some s')
    (hopen : s'.flags.closed = false)
    (hkeeps : ∀ slot q, s.slot slot = some q → s'.slot slot = some q)
    (hhistory : m'.history = events.reverse ++ m.history)
    (hanswer : completionsIn events = (answer?.map fun c => (r, c)).toList) : Spared m s r m' where
  completions := ⟨events, chronicle_eq_of_history hhistory, answer?, hanswer⟩
  keeps slot q hq := ⟨s', hget, hkeeps slot q hq⟩
  unforced := by
    rintro (⟨hgone, -⟩ | ⟨hstays, -⟩)
    · rw [hget] at hgone
      contradiction
    · rw [hget] at hstays
      rw [Option.some.inj hstays] at hopen
      contradiction

/-- The socket is gone, but nothing waited on it and no Reset was sent. -/
theorem Spared.of_gone (hget : m'.sockets.get? s.stream = none) (hparked : s.parked = [])
    (hring : m.outbound.append .reset s.stream [] ≠ .ok m'.outbound)
    (hhistory : m'.history = events.reverse ++ m.history)
    (hanswer : completionsIn events = (answer?.map fun c => (r, c)).toList) : Spared m s r m' where
  completions := ⟨events, chronicle_eq_of_history hhistory, answer?, hanswer⟩
  keeps slot q hq := by
    have hmem := Socket.mem_parked_of_slot hq
    rw [hparked] at hmem
    contradiction
  unforced := by
    rintro (⟨-, hsent⟩ | ⟨hstays, -⟩)
    · exact hring hsent
    · rw [hget] at hstays
      contradiction

/-- The socket stays, and the request waits for its turn in the free slot. -/
theorem spared_parkWrite {m₁ : Multiplexer} {s₁ : Socket} {n : Nat}
    (hget : m₁.sockets.get? s.stream = some s₁) (hopen : s₁.flags.closed = false)
    (hfree : s₁.pendingWrite = none) (hslots : ∀ slot, s₁.slot slot = s.slot slot)
    (hhistory : m₁.history = events.reverse ++ m.history) (hanswer : completionsIn events = []) :
    Spared m s r (m₁.parkWrite s.stream r n) := by
  have hparked : (m₁.parkWrite s.stream r n).sockets.get? s.stream =
      some { s₁ with pendingWrite := some r } := by
    rw [parkWrite, sockets_enqueue]
    exact SocketTable.get?_modify_eq_some (f := ({ · with pendingWrite := some r })) (fun _ => rfl)
      hget
  refine .of_open none (events ++ again s.stream (m₁.queue.turns s.stream)) hparked hopen ?_ ?_
    (by simp [hanswer])
  · intro slot q hq
    exact Socket.slot_of_write_free hfree ((hslots slot).trans hq)
  · rw [parkWrite, history_enqueue, history_modify, queue_modify, hhistory, List.reverse_append,
      reverse_again, List.append_assoc]

/-- The end of a direction has been noted. If it was the second, nothing waits any more. -/
theorem spared_closeIfExchanged {m₁ : Multiplexer} {s₁ : Socket} (c : Completion)
    (h : m₁.sockets.Distinct) (hget : m₁.sockets.get? s.stream = some s₁)
    (hopen : s₁.flags.closed = false) (hslots : ∀ slot, s₁.slot slot = s.slot slot)
    (hparked : s₁.flags.eosExchanged = true → s.parked = [])
    (hring : m.outbound.append .reset s.stream [] ≠ .ok m₁.outbound)
    (hhistory : m₁.history = events.reverse ++ m.history)
    (hanswer : completionsIn events = [(r, c)]) :
    Spared m s r (m₁.closeIfExchanged s.stream) := by
  by_cases hended : s₁.flags.eosExchanged = true
  -- The socket is closed, but quietly.
  · have hnobody : s₁.parked = [] := (Socket.parked_congr hslots).trans (hparked hended)
    have hclosed : m₁.closeIfExchanged s.stream = (m₁.abandon s.stream s₁).retire s.stream := by
      rw [closeIfExchanged, hget]
      dsimp only
      rw [if_pos hended, close_eq hget, if_pos rfl]
    have hcloses : Closes m₁ s.stream s₁ none false .leave _ _ :=
      closes_quietly h hget (by simp) rfl rfl rfl rfl
    have hevents := hcloses.move.history
    rw [hhistory, ← List.append_assoc, ← List.reverse_append] at hevents
    rw [hclosed]
    refine .of_gone (some c) _ ?_ (hparked hended) ?_ hevents ?_
    · rw [sockets_retire, SocketTable.get?_erase]
    · rw [outbound_retire, abandon_eq hget]
      exact hring
    · simp [hanswer, hnobody]
  · have hsettled : m₁.closeIfExchanged s.stream = m₁ := by
      rw [closeIfExchanged, hget]
      exact if_neg hended
    rw [hsettled]
    exact .of_open (some c) events hget hopen (fun slot q hq => (hslots slot).trans hq) hhistory
      hanswer

/-- The owner's end of stream goes out. If it was the second end, nothing waits any more. -/
theorem spared_sendEos {m₁ : Multiplexer} {s₁ : Socket} (hr : r.command = .eos)
    (h : m₁.sockets.Distinct) (hget : m₁.sockets.get? s.stream = some s₁)
    (hopen : s₁.flags.closed = false) (hslots : ∀ slot, s₁.slot slot = s.slot slot)
    (hnobody : s₁.flags.eosDelivered = true → s.parked = []) (houtbound : m₁.outbound = m.outbound)
    (hroom : m₁.outbound.roomFor 0 = true)
    (hhistory : m₁.history = events.reverse ++ m.history) (hanswer : completionsIn events = []) :
    Spared m s r (m₁.sendWrite s.stream r) := by
  let mark : Socket → Socket := fun s => { s with flags := { s.flags with eosSent := true } }
  let sent := ((m₁.transmit .eos s.stream []).answer r (.ofStatus .ok)).modify s.stream mark
  have hsockets : sent.sockets = m₁.sockets.modify s.stream mark := by
    change (m₁.transmit .eos s.stream []).sockets.modify _ _ = _
    rw [sockets_transmit]
  have hdistinct : sent.sockets.Distinct := by
    rw [hsockets]
    exact h.modify (fun _ _ _ => rfl) fun _ _ _ => rfl
  have hsent : sent.sockets.get? s.stream = some (mark s₁) := by
    rw [hsockets]
    exact SocketTable.get?_modify_eq_some (fun _ => rfl) hget
  have hslots : ∀ slot, (mark s₁).slot slot = s.slot slot := by
    intro slot
    rw [← hslots slot]
    cases slot <;> rfl
  rw [sendWrite, hr]
  dsimp only
  refine spared_closeIfExchanged (events ++ [.sent .eos s.stream [], .answered r (.ofStatus .ok)])
    (.ofStatus .ok) hdistinct hsent hopen hslots ?_ ?_ ?_ (by simp [hanswer])
  · intro hexchanged
    have hdelivered : s₁.flags.eosDelivered = true := by
      simpa [mark, SocketFlags.eosExchanged] using hexchanged
    exact hnobody hdelivered
  · -- The ring has grown, but by the end of stream.
    intro hreset
    have heos : m₁.outbound.append .eos s.stream [] = .ok sent.outbound :=
      m₁.append_eq_transmit s.stream hroom
    exact absurd (Ring.code_eq_of_append hreset (houtbound ▸ heos)) (by decide)
  · change ((m₁.transmit .eos s.stream []).answer r _).history = _
    rw [history_answer, history_transmit _ hroom, hhistory]
    simp

end

section

variable (h : m.sockets.Distinct) (hs : s.Coherent) (hget : m.sockets.get? s.stream = some s)
  (hfound : m.findOpen? r.address = some s) (hopen : s.flags.closed = false)
  (hproper : ¬ s.Misused r)

include hget hfound hopen hproper

theorem spared_submit_write {data : Bytes} (hr : r.command = .write data) :
    Spared m s r (m.submit r) := by
  obtain ⟨hfree, hlength⟩ : s.writeConflicts = false ∧ data.length ≤ maxPayload := by
    simpa [Socket.Misused, hr, Socket.writeConflicts, and_assoc] using hproper
  obtain ⟨-, hwrite, -⟩ := Socket.writeConflicts_eq_false_iff.mp hfree
  rw [submit_write hr hfound hfree hlength]
  split
  next hnow =>
    obtain ⟨-, hroom⟩ := (canSendNow_iff _).mp hnow
    rw [sendWrite, hr]
    dsimp only
    refine .of_open (some (.written data.length))
      [.submitted r, .accepted .data s.stream data, .sent .data s.stream data,
        .answered r (.written data.length)] ?_ hopen (fun _ _ hq => hq) ?_ (by simp)
    · rw [sockets_answer, sockets_transmit]
      exact hget
    · rw [history_answer, history_transmit _ hroom]
      rfl
  next =>
    exact spared_parkWrite [.submitted r, .accepted .data s.stream data] hget hopen hwrite
      (fun _ => rfl) rfl rfl

include h hs

theorem spared_submit_read {capacity : Nat} (hlast : s.EndsLast) (hr : r.command = .read capacity) :
    Spared m s r (m.submit r) := by
  have hfound' : (m.record (.submitted r)).findOpen? r.address = some s := hfound
  obtain ⟨hconnect, hread, hfits⟩ : s.pendingConnect = none ∧ s.pendingRead = none ∧
      ∀ data ∈ s.chunks.head?, ¬ capacity < data.length := by
    simpa [Socket.Misused, hr] using hproper
  rw [submit, hr]
  dsimp only
  rw [submitRead, hfound']
  dsimp only
  rw [if_neg (by simp [hconnect, hread])]
  split
  next data rest hpop =>
    obtain ⟨chunks, queuedBytes, rfl⟩ := Socket.exists_of_popChunk? hpop
    rw [if_neg (hfits data (Socket.head?_of_popChunk? hpop))]
    exact .of_open (some (.read data)) [.submitted r, .answered r (.read data)]
      (get?_of_modify h hget rfl rfl) hopen (fun _ _ hq => hq) rfl (by simp)
  next =>
    split
    next heos =>
      let tell : Socket → Socket := fun s =>
        { s with flags := { s.flags with eosDelivered := true } }
      have hdistinct : (m.sockets.modify s.stream tell).Distinct :=
        h.modify (fun _ _ _ => rfl) fun _ _ _ => rfl
      have htold : (m.sockets.modify s.stream tell).get? s.stream = some (tell s) :=
        SocketTable.get?_modify_eq_some (fun _ => rfl) hget
      have hnobody : (tell s).flags.eosExchanged = true → s.parked = [] := by
        intro hended
        have hwrite := hs.pendingWrite_of_sent hlast hopen hended
        simp [Socket.parked, hconnect, hread, hwrite]
      have hslots : ∀ slot, (tell s).slot slot = s.slot slot := by
        intro slot
        cases slot <;> rfl
      exact spared_closeIfExchanged [.submitted r, .answered r (.ofStatus .readEos)]
        (.ofStatus .readEos) hdistinct htold hopen hslots
        hnobody (Ring.append_ne_ok_self _) rfl (by simp)
    next =>
      refine .of_open none [.submitted r]
        (get?_of_modify (f := ({ · with pendingRead := some r })) h hget rfl rfl) hopen ?_ rfl
        (by simp)
      intro slot q hq
      cases slot with
      | read => exact absurd (hread.symm.trans hq) (by simp)
      | connect | write => exact hq

theorem spared_submit_eos (hr : r.command = .eos) : Spared m s r (m.submit r) := by
  have hfree : s.writeConflicts = false := by
    simpa [Socket.Misused, hr, Socket.writeConflicts, and_assoc] using hproper
  obtain ⟨hconnect, hwrite, -⟩ := Socket.writeConflicts_eq_false_iff.mp hfree
  rw [submit_eos hr hfound hfree]
  let ended := m.acceptEos r s.stream
  have hended : ended.sockets.get? s.stream =
      some { s with flags := { s.flags with eosFromCaller := true } } :=
    SocketTable.get?_modify_eq_some (fun _ => rfl) hget
  have hslots : ∀ slot, { s with flags := { s.flags with eosFromCaller := true } }.slot slot =
      s.slot slot := by
    intro slot
    cases slot <;> rfl
  split
  next hnow =>
    obtain ⟨-, hroom⟩ := (canSendNow_iff _).mp hnow
    have hdistinct : ended.sockets.Distinct := h.modify (fun _ _ _ => rfl) fun _ _ _ => rfl
    have hnobody (hdelivered : s.flags.eosDelivered = true) : s.parked = [] := by
      simp [Socket.parked, hconnect, hs.pendingRead_of_delivered hdelivered, hwrite]
    exact spared_sendEos [.submitted r, .accepted .eos s.stream []] hr hdistinct hended hopen hslots
      hnobody rfl hroom rfl rfl
  next =>
    exact spared_parkWrite [.submitted r, .accepted .eos s.stream []] hended hopen hwrite hslots rfl
      rfl

end

/-- A request for an open stream closes it by force if and only if it misuses it. Then the request
and all that wait on the socket fail, each once and as its own command fails, and nobody else is
answered; what was buffered is gone. Without the stream's turn, if nobody waits and there is room
the socket is gone and a Reset is in the ring; or else the socket stays, closed, and the Reset is
the last to wait. If the request is no misuse, then nobody else is answered, and every other request
stays where it waits. -/
theorem resets_exactly_on_misuse {config : Config} (h : Reachable config m)
    (hs : s ∈ m.sockets.sockets) (hopen : s.flags.closed = false) (haddress : r.address = s.address)
    (hcommand : ∀ service, r.command ≠ .connect service) :
    (ForceClosed m s (m.submit r) ↔ s.Misused r) ∧
      (s.Misused r → TornDown m s r (m.submit r)) ∧
      (¬ s.Misused r → Spared m s r (m.submit r)) := by
  have hdistinct := h.balanced.distinct
  have hget := hdistinct.get?_eq_some hs
  have hcoherent := h.coherent s.stream s hget
  have hfound := findOpen?_of_openFor hdistinct hget ⟨haddress.symm, hopen⟩
  have hmisuse (hmisused : s.Misused r) : TornDown m s r (m.submit r) := by
    rw [submit_of_misused hfound hmisused]
    exact tornDown_misuse hdistinct hget
  have hspared (hproper : ¬ s.Misused r) : Spared m s r (m.submit r) := by
    cases hr : r.command with
    | connect service => exact absurd hr (hcommand service)
    | read capacity =>
        exact spared_submit_read hdistinct hcoherent hget hfound hopen hproper
          (h.endsLast s.stream s hget) hr
    | write data => exact spared_submit_write hget hfound hopen hproper hr
    | eos => exact spared_submit_eos hdistinct hcoherent hget hfound hopen hproper hr
    | reset => exact absurd (by simp [Socket.Misused, hr]) hproper
  refine ⟨⟨?_, fun hmisused => (hmisuse hmisused).forceClosed⟩, hmisuse, hspared⟩
  -- Closed by force and left alone exclude each other.
  intro hforced
  by_contra hproper
  exact (hspared hproper).unforced hforced

/-- A read waits and the ring is full. A second read resets the stream, and the Reset waits; a write
waits beside the first read. -/
theorem resets_exactly_on_misuse_of_second_read :
    let operations : List Operation := [.submit ⟨0, ⟨1, 1⟩, .connect [101]⟩,
      .publish [1, 2, 1, 0], .poll, .submit ⟨1, ⟨1, 1⟩, .read 10⟩,
      .submit ⟨2, ⟨1, 1⟩, .write (List.replicate 247 0)⟩]
    let m := run {} operations
    let s : Socket :=
      { stream := 1, address := ⟨1, 1⟩, pendingRead := some ⟨1, ⟨1, 1⟩, .read 10⟩ }
    let second : Request := ⟨3, ⟨1, 1⟩, .read 20⟩
    let write : Request := ⟨4, ⟨1, 1⟩, .write [7]⟩
    s ∈ m.sockets.sockets ∧ s.Misused second ∧ TornDown m s second (m.submit second) ∧
      (m.submit second).queue.entries = [⟨1, 0⟩] ∧
      ¬ s.Misused write ∧ Spared m s write (m.submit write) ∧
      (m.submit write).queue.entries = [⟨1, 1⟩] := by
  intro operations m s second write
  have hs : s ∈ m.sockets.sockets := by decide +kernel
  have hmisused : s.Misused second := .inr (.inl rfl)
  have hproper : ¬ s.Misused write := by simp [Socket.Misused, s, write]
  have hreachable := reachable_run {} operations
  obtain ⟨-, htorn, -⟩ :=
    resets_exactly_on_misuse (r := second) hreachable hs rfl rfl (by simp [second])
  obtain ⟨-, -, hspared⟩ :=
    resets_exactly_on_misuse (r := write) hreachable hs rfl rfl (by simp [write])
  exact ⟨hs, hmisused, htorn hmisused, by decide +kernel, hproper, hspared hproper,
    by decide +kernel⟩

end Multiplexer

end StreamLink
