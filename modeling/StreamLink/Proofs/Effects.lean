import StreamLink.Multiplexer.Poll
import StreamLink.Multiplexer.Submission
import StreamLink.Proofs.Residents
import StreamLink.Proofs.SocketStep

/-!
# Effects of the steps

What each step of the multiplexer does to the socket table and to the history. What it does to the
send queue is said where the steps are defined. None changes the configuration.
-/

namespace StreamLink

theorem Ring.le_of_roomFor {r : Ring} {n : Nat} (h : r.roomFor n = true) : n ≤ maxPayload := by
  simp only [roomFor, decide_eq_true_eq] at h
  have := maxPayload_eq
  omega

theorem Ring.append_eq_ok {r : Ring} {kind : PacketKind} {stream : UInt8} {payload : Bytes}
    (h : r.roomFor payload.length = true) :
    r.append kind stream payload = .ok (r.publish (Frame.bytes ⟨kind.code, stream, payload⟩)) := by
  have hfits : ¬ payload.length > maxPayload := Nat.not_lt.mpr (le_of_roomFor h)
  rw [append, if_neg hfits, if_neg (by simp [h])]

theorem Ring.roomFor_mono {r : Ring} {n k : Nat} (h : r.roomFor n = true) (hle : k ≤ n) :
    r.roomFor k = true := by
  simp only [roomFor, decide_eq_true_eq] at h ⊢
  omega

theorem Socket.work_cases (s : Socket) :
    (∃ r, s.pendingConnect = some r ∧ s.work = .connect r.command.payload) ∨
      s.pendingConnect = none ∧
        ((∃ r, s.pendingWrite = some r ∧ s.work = .write r) ∨
          s.pendingWrite = none ∧
            (s.flags.owesReset = true ∧ s.work = .reset ∨
              s.flags.owesReset = false ∧ s.work = .idle)) := by
  unfold work
  cases s.pendingConnect with
  | some r => exact .inl ⟨r, rfl, rfl⟩
  | none =>
      refine .inr ⟨rfl, ?_⟩
      cases s.pendingWrite with
      | some r => exact .inl ⟨r, rfl, rfl⟩
      | none => cases s.flags.owesReset <;> simp

namespace Multiplexer

variable (m : Multiplexer)

/-! ### Sockets -/

@[simp] theorem sockets_record (e : Event) : (m.record e).sockets = m.sockets := rfl

@[simp] theorem sockets_answer (r : Request) (c : Completion) :
    (m.answer r c).sockets = m.sockets := rfl

@[simp] theorem sockets_modify (stream : UInt8) (f : Socket → Socket) :
    (m.modify stream f).sockets = m.sockets.modify stream f := rfl

theorem sockets_modifyFlags (stream : UInt8) (f : SocketFlags → SocketFlags) :
    (m.modifyFlags stream f).sockets =
      m.sockets.modify stream fun s => { s with flags := f s.flags } := rfl

@[simp] theorem sockets_transmit (kind : PacketKind) (stream : UInt8) (payload : Bytes) :
    (m.transmit kind stream payload).sockets = m.sockets := by
  unfold transmit; split <;> rfl

@[simp] theorem sockets_enqueue (stream : UInt8) (n : Nat) :
    (m.enqueue stream n).sockets = m.sockets := by
  unfold enqueue; dsimp only; split <;> rfl

@[simp] theorem sockets_withdraw (stream : UInt8) : (m.withdraw stream).sockets = m.sockets := by
  unfold withdraw; split
  · rfl
  · split <;> rfl

@[simp] theorem sockets_failAll (rs : List Request) : (m.failAll rs).sockets = m.sockets := by
  induction rs generalizing m with
  | nil => rfl
  | cons r rs ih => exact ih (m.answer r r.failure)

@[simp] theorem sockets_retire (stream : UInt8) :
    (m.retire stream).sockets = m.sockets.erase stream := by
  unfold retire
  split
  · rfl
  next habsent =>
    have hnone : m.sockets.contains stream = false := by simpa using habsent
    have hall : m.sockets.sockets.filter (·.stream != stream) = m.sockets.sockets := by
      rw [List.filter_eq_self]
      intro s hs
      simp only [SocketTable.contains, List.any_eq_false] at hnone
      simpa using hnone s hs
    rw [SocketTable.erase, hall]

/-! ### History -/

@[simp] theorem history_record (e : Event) : (m.record e).history = e :: m.history := rfl

@[simp] theorem history_answer (r : Request) (c : Completion) :
    (m.answer r c).history = .answered r c :: m.history := rfl

@[simp] theorem history_modify (stream : UInt8) (f : Socket → Socket) :
    (m.modify stream f).history = m.history := rfl

@[simp] theorem history_modifyFlags (stream : UInt8) (f : SocketFlags → SocketFlags) :
    (m.modifyFlags stream f).history = m.history := rfl

theorem history_retire {stream : UInt8} (h : m.sockets.contains stream = true) :
    (m.retire stream).history = .retired stream :: m.history := by
  rw [retire, if_pos h]
  rfl

theorem history_transmit {kind : PacketKind} {stream : UInt8} {payload : Bytes}
    (h : m.outbound.roomFor payload.length = true) :
    (m.transmit kind stream payload).history = .sent kind stream payload :: m.history := by
  rw [transmit, Ring.append_eq_ok h]
  rfl

/-- If there was room for a turn, the packet enters the ring unless it is longer. -/
theorem exists_history_transmit (kind : PacketKind) (stream : UInt8) (payload : Bytes) {n : Nat}
    (h : m.outbound.roomFor n = true) :
    ∃ e, Posted n kind stream payload e ∧
      (m.transmit kind stream payload).history = e :: m.history := by
  by_cases hle : payload.length ≤ n
  · exact ⟨_, .inl rfl, m.history_transmit (Ring.roomFor_mono h hle)⟩
  · unfold transmit
    split
    · exact ⟨_, .inl rfl, rfl⟩
    · exact ⟨_, .inr ⟨rfl, Nat.lt_of_not_le hle⟩, rfl⟩

@[simp] theorem history_enqueue (stream : UInt8) (n : Nat) :
    (m.enqueue stream n).history = again stream (m.queue.turns stream) ++ m.history := by
  unfold enqueue again
  rw [SendQueue.contains_eq]
  cases m.queue.turns stream with
  | nil => rfl
  | cons _ _ => rfl

@[simp] theorem history_failAll (rs : List Request) :
    (m.failAll rs).history = (rs.map fun r => .answered r r.failure).reverse ++ m.history := by
  induction rs generalizing m with
  | nil => rfl
  | cons r rs ih =>
      rw [failAll, List.foldl_cons, ← failAll, ih, history_answer]
      simp

theorem history_withdraw {stream : UInt8} {s : Socket} (h : m.sockets.get? stream = some s) :
    (m.withdraw stream).history =
      (if m.queue.turns stream = [] ∨ s.work = .idle then [] else [.withdrawn stream]) ++
        m.history := by
  unfold withdraw
  rw [h, SendQueue.contains_eq]
  by_cases hturns : m.queue.turns stream = []
  · simp [hturns]
  · by_cases hwork : s.work = .idle
    · simp [hwork]
    · simp [hturns, hwork]

theorem canSendNow_iff {n : Nat} :
    m.canSendNow n = true ↔ m.queue.entries = [] ∧ m.outbound.roomFor n = true := by
  rw [canSendNow, Bool.and_eq_true, SendQueue.isEmpty_iff]

/-! ### The outbound ring -/

@[simp] theorem outbound_enqueue (stream : UInt8) (n : Nat) :
    (m.enqueue stream n).outbound = m.outbound := by
  unfold enqueue; dsimp only; split <;> rfl

@[simp] theorem outbound_retire (stream : UInt8) : (m.retire stream).outbound = m.outbound := by
  unfold retire; split <;> rfl

/-- A packet for which there is room is put into the ring. -/
theorem append_eq_transmit {kind : PacketKind} (stream : UInt8) {payload : Bytes}
    (h : m.outbound.roomFor payload.length = true) :
    m.outbound.append kind stream payload = .ok (m.transmit kind stream payload).outbound := by
  rw [transmit, Ring.append_eq_ok h]
  rfl

/-! ### Configuration -/

@[simp] theorem config_transmit (kind : PacketKind) (stream : UInt8) (payload : Bytes) :
    (m.transmit kind stream payload).config = m.config := by
  unfold transmit; split <;> rfl

@[simp] theorem config_enqueue (stream : UInt8) (n : Nat) :
    (m.enqueue stream n).config = m.config := by
  unfold enqueue; dsimp only; split <;> rfl

@[simp] theorem config_withdraw (stream : UInt8) : (m.withdraw stream).config = m.config := by
  unfold withdraw; split
  · rfl
  · split <;> rfl

@[simp] theorem config_failAll (rs : List Request) : (m.failAll rs).config = m.config := by
  induction rs generalizing m with
  | nil => rfl
  | cons r rs ih => exact ih (m.answer r r.failure)

@[simp] theorem config_retire (stream : UInt8) : (m.retire stream).config = m.config := by
  unfold retire; split <;> rfl

/-! ### Closing -/

/-- The first half of closing a socket: what waits on it fails, and its turn is lost. -/
def abandon (stream : UInt8) (s : Socket) : Multiplexer :=
  { ((m.withdraw stream).failAll s.parked).modify stream Socket.abort with
    queue := m.queue.remove stream }

variable {m} {stream : UInt8} {s : Socket}

theorem close_eq (h : m.sockets.get? stream = some s) (emitReset : Bool) :
    m.close stream emitReset =
      if emitReset = false then (m.abandon stream s).retire stream
      else if ((m.abandon stream s).record (.accepted .reset stream [])).canSendNow 0 = true then
        (((m.abandon stream s).record (.accepted .reset stream [])).transmit .reset stream
          []).retire stream
      else
        (((m.abandon stream s).record (.accepted .reset stream [])).modifyFlags stream
          ({ · with owesReset := true })).enqueue stream 0 := by
  unfold close abandon
  rw [h]
  cases emitReset
  · simp
  · simp

@[simp] theorem sockets_abandon :
    (m.abandon stream s).sockets = m.sockets.modify stream Socket.abort := by
  simp [abandon, modify]

theorem contains_abandon (h : m.sockets.get? stream = some s) :
    (m.abandon stream s).sockets.contains stream = true := by
  rw [sockets_abandon]
  exact SocketTable.contains_of_get? (SocketTable.get?_modify_eq_some Socket.stream_abort h)

@[simp] theorem queue_abandon : (m.abandon stream s).queue = m.queue.remove stream := rfl

@[simp] theorem config_abandon : (m.abandon stream s).config = m.config := by
  have hconfig : (m.abandon stream s).config = ((m.withdraw stream).failAll s.parked).config := rfl
  rw [hconfig, config_failAll, config_withdraw]

theorem history_abandon (h : m.sockets.get? stream = some s) :
    (m.abandon stream s).history = (s.farewell (m.queue.turns stream)).reverse ++ m.history := by
  have hhistory : (m.abandon stream s).history =
      ((m.withdraw stream).failAll s.parked).history := rfl
  rw [hhistory, history_failAll, history_withdraw m h, Socket.farewell,
    SocketTable.stream_of_get? h]
  split <;> simp

/-- Abandoning a stream changes its socket, its turn and the history, and nothing else. -/
theorem abandon_eq (h : m.sockets.get? stream = some s) :
    m.abandon stream s =
      { m with
        sockets := m.sockets.modify stream Socket.abort
        queue := m.queue.remove stream
        history := (s.farewell (m.queue.turns stream)).reverse ++ m.history } := by
  have hwithdraw : m.withdraw stream = { m with history := (m.withdraw stream).history } := by
    unfold withdraw
    split
    · rfl
    · split <;> rfl
  have hfail (m : Multiplexer) (rs : List Request) :
      m.failAll rs = { m with history := (m.failAll rs).history } := by
    induction rs generalizing m with
    | nil => rfl
    | cons r rs ih => exact ih (m.answer r r.failure)
  rw [← history_abandon h, abandon, hfail, hwithdraw]
  rfl

/-! ### Accepted requests -/

variable (m)

/-- The state in which a connect is accepted: it has its stream and a socket, and is still to be
sent. -/
def acceptConnect (r : Request) (service : Bytes) (stream : UInt8) (t : SocketTable) : Multiplexer :=
  ({ m.record (.submitted r) with sockets := t }.record (.opened stream r)).record
    (.accepted .connect stream service)

/-- The state in which a write is accepted and still to be sent. -/
def acceptWrite (r : Request) (data : Bytes) (stream : UInt8) : Multiplexer :=
  (m.record (.submitted r)).record (.accepted .data stream data)

/-- The state in which an end of stream is accepted and still to be sent. -/
def acceptEos (r : Request) (stream : UInt8) : Multiplexer :=
  ((m.record (.submitted r)).modifyFlags stream ({ · with eosFromCaller := true })).record
    (.accepted .eos stream [])

variable {m} {r : Request}

theorem submit_connect {service : Bytes} {t : SocketTable} (hr : r.command = .connect service)
    (hfree : m.sockets.lookup r.address = none) (hlength : service.length ≤ maxPayload)
    (hcreate : m.sockets.create r.address = .ok (stream, t)) :
    m.submit r =
      if (m.acceptConnect r service stream t).canSendNow service.length = true then
        ((m.acceptConnect r service stream t).transmit .connect stream service).modify stream
          ({ · with pendingConnect := some r })
      else
        ((m.acceptConnect r service stream t).modify stream
          ({ · with pendingConnect := some r })).enqueue stream service.length := by
  have hcommute (m : Multiplexer) (n : Nat) (f : Socket → Socket) :
      (m.enqueue stream n).modify stream f = (m.modify stream f).enqueue stream n := by
    unfold enqueue modify
    dsimp only
    split <;> rfl
  have hresident : ¬ ((m.record (.submitted r)).sockets.lookup r.address).isSome = true := by
    simp [hfree]
  rw [submit, hr]
  dsimp only
  rw [submitConnect, if_neg hresident, if_neg (Nat.not_lt.mpr hlength), sockets_record, hcreate]
  dsimp only
  rw [← hcommute]
  by_cases hnow : (m.acceptConnect r service stream t).canSendNow service.length = true
  · rw [if_pos hnow]
    exact congrArg (modify · stream _) (if_pos hnow)
  · rw [if_neg hnow]
    exact congrArg (modify · stream _) (if_neg hnow)

theorem submit_write {data : Bytes} (hr : r.command = .write data)
    (hfound : m.findOpen? r.address = some s) (hfree : s.writeConflicts = false)
    (hlength : data.length ≤ maxPayload) :
    m.submit r =
      if (m.acceptWrite r data s.stream).canSendNow data.length = true then
        (m.acceptWrite r data s.stream).sendWrite s.stream r
      else (m.acceptWrite r data s.stream).parkWrite s.stream r data.length := by
  have hfound' : (m.record (.submitted r)).findOpen? r.address = some s := hfound
  have hproper : ¬ (s.writeConflicts || data.length > maxPayload) = true := by
    simp [hfree, hlength]
  rw [submit, hr]
  dsimp only
  rw [submitWrite, hfound']
  dsimp only
  rw [if_neg hproper]
  rfl

theorem submit_eos (hr : r.command = .eos) (hfound : m.findOpen? r.address = some s)
    (hfree : s.writeConflicts = false) :
    m.submit r =
      if (m.acceptEos r s.stream).canSendNow 0 = true then
        (m.acceptEos r s.stream).sendWrite s.stream r
      else (m.acceptEos r s.stream).parkWrite s.stream r 0 := by
  have hfound' : (m.record (.submitted r)).findOpen? r.address = some s := hfound
  rw [submit, hr]
  dsimp only
  rw [submitEos, hfound']
  dsimp only
  rw [if_neg (by simp [hfree])]
  rfl

end Multiplexer

end StreamLink
