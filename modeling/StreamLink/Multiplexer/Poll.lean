import StreamLink.Multiplexer.Arrival
import StreamLink.Multiplexer.Departure
import StreamLink.Signal

/-!
# Polling

Taking in what the peer sent and sending what waits, until neither can go on. Then it is known what
has to happen before there is work again: the host may sleep until the peer appends something, or
also until it takes something, if the ring is too full for the oldest turn.

Main statement: `isEmpty_wakeConditions_poll`, after polling there is something to sleep on.
-/

namespace StreamLink

/-- The host's two positions at some moment. -/
structure Marks where
  outboundTail : UInt8
  inboundHead : UInt8
deriving Repr, DecidableEq, Inhabited

namespace Multiplexer

/-- Takes in frames until the ring is empty. -/
def drainInbound (m : Multiplexer) : Multiplexer :=
  if m.inbound.isEmpty then m else m.receiveOne.drainInbound
termination_by m.inbound.occupied
decreasing_by exact occupied_receiveOne_lt m (by simp_all)

/-- Serves turns until the oldest does not fit. -/
def drainOutbound (m : Multiplexer) : Multiplexer :=
  if m.canServe then m.serveFront.drainOutbound else m
termination_by m.queue.length
decreasing_by exact length_queue_serveFront_lt m (by assumption)

/-- Takes in everything, then serves what fits; and whether either did anything. -/
def pollOnce (m : Multiplexer) : Bool × Multiplexer :=
  let received := m.drainInbound
  (!m.inbound.isEmpty || received.canServe, received.drainOutbound)

/-! ### Polling ends -/

/-- What polling works off: bytes to take in, and turns to serve. -/
def backlog (m : Multiplexer) : Nat :=
  m.inbound.occupied + m.queue.length

theorem backlog_drainInbound_le (m : Multiplexer) : m.drainInbound.backlog ≤ m.backlog := by
  fun_induction drainInbound m with
  | case1 => exact Nat.le_refl _
  | case2 m h ih => exact Nat.le_of_lt (Nat.lt_of_le_of_lt ih (work_receiveOne_lt m (by simpa using h)))

theorem backlog_drainInbound_lt (m : Multiplexer) (h : m.inbound.isEmpty = false) :
    m.drainInbound.backlog < m.backlog := by
  rw [drainInbound, if_neg (by simp [h])]
  exact Nat.lt_of_le_of_lt (backlog_drainInbound_le _) (work_receiveOne_lt m h)

@[simp] theorem inbound_drainOutbound (m : Multiplexer) : m.drainOutbound.inbound = m.inbound := by
  fun_induction drainOutbound m with
  | case1 m h ih => simp [ih]
  | case2 => rfl

theorem backlog_serveFront_lt (m : Multiplexer) (h : m.canServe = true) :
    m.serveFront.backlog < m.backlog := by
  have := length_queue_serveFront_lt m h
  simp [backlog]; omega

theorem backlog_drainOutbound_le (m : Multiplexer) : m.drainOutbound.backlog ≤ m.backlog := by
  fun_induction drainOutbound m with
  | case1 m h ih => exact Nat.le_of_lt (Nat.lt_of_le_of_lt ih (backlog_serveFront_lt m h))
  | case2 => exact Nat.le_refl _

theorem backlog_drainOutbound_lt (m : Multiplexer) (h : m.canServe = true) :
    m.drainOutbound.backlog < m.backlog := by
  rw [drainOutbound, if_pos h]
  exact Nat.lt_of_le_of_lt (backlog_drainOutbound_le _) (backlog_serveFront_lt m h)

/-- A round that did something leaves less to do. -/
theorem backlog_pollOnce_lt (m : Multiplexer) (h : m.pollOnce.1 = true) :
    m.pollOnce.2.backlog < m.backlog := by
  unfold pollOnce at h ⊢
  simp only [Bool.or_eq_true, Bool.not_eq_true'] at h
  rcases h with hempty | hserve
  · exact Nat.lt_of_le_of_lt (backlog_drainOutbound_le _) (backlog_drainInbound_lt m hempty)
  · exact Nat.lt_of_lt_of_le (backlog_drainOutbound_lt _ hserve) (backlog_drainInbound_le m)

/-- Takes in and sends until neither can go on; and whether anything was done at all. -/
def poll (m : Multiplexer) : Bool × Multiplexer :=
  if m.pollOnce.1 then (true, m.pollOnce.2.poll.2) else (false, m.pollOnce.2)
termination_by m.backlog
decreasing_by exact backlog_pollOnce_lt m (by assumption)

/-! ### Going to sleep -/

def marks (m : Multiplexer) : Marks :=
  ⟨m.outbound.tail, m.inbound.head⟩

/-- The positions that are not where they were. -/
def movedSince (m : Multiplexer) (marks : Marks) : PeerSignals :=
  ⟨m.outbound.tail != marks.outboundTail, m.inbound.head != marks.inboundHead⟩

/-- What the host may sleep on; nothing as long as there is work. -/
def wakeConditions (m : Multiplexer) : HostSignals :=
  if !m.inbound.isEmpty then {}
  else
    match m.queue.front? with
    | none => { inboundTail := true }
    | some e =>
      if m.outbound.roomFor e.length then {} else { inboundTail := true, outboundHead := true }

theorem isEmpty_wakeConditions_iff (m : Multiplexer) :
    m.wakeConditions.isEmpty = (!m.inbound.isEmpty || m.canServe) := by
  unfold wakeConditions canServe
  cases m.inbound.isEmpty
  · rfl
  · cases m.queue.front? with
    | none => rfl
    | some e => cases h : m.outbound.roomFor e.length <;> simp [h, HostSignals.isEmpty]

theorem drainInbound_of_isEmpty {m : Multiplexer} (h : m.inbound.isEmpty = true) :
    m.drainInbound = m := by
  rw [drainInbound, if_pos h]

theorem drainOutbound_of_canServe_eq_false {m : Multiplexer} (h : m.canServe = false) :
    m.drainOutbound = m := by
  rw [drainOutbound, if_neg (by simp [h])]

theorem isEmpty_drainInbound (m : Multiplexer) : m.drainInbound.inbound.isEmpty = true := by
  fun_induction drainInbound m with
  | case1 m hempty => exact hempty
  | case2 m _ ih => exact ih

theorem canServe_drainOutbound (m : Multiplexer) : m.drainOutbound.canServe = false := by
  fun_induction drainOutbound m with
  | case1 m _ ih => exact ih
  | case2 m hserve => simpa using hserve

/-- A round that finds nothing to do changes nothing. -/
theorem pollOnce_of_idle {m : Multiplexer} (hempty : m.inbound.isEmpty = true)
    (hserve : m.canServe = false) : m.pollOnce = (false, m) := by
  rw [pollOnce, drainInbound_of_isEmpty hempty, drainOutbound_of_canServe_eq_false hserve, hempty,
    hserve]
  rfl

/-- Sending makes no work for taking in, so the round after a round finds nothing to do. -/
theorem pollOnce_pollOnce (m : Multiplexer) : m.pollOnce.2.pollOnce = (false, m.pollOnce.2) := by
  have hempty : m.pollOnce.2.inbound.isEmpty = true := by
    rw [pollOnce, inbound_drainOutbound]
    exact m.isEmpty_drainInbound
  exact pollOnce_of_idle hempty m.drainInbound.canServe_drainOutbound

/-- One round is enough. -/
theorem poll_eq_pollOnce (m : Multiplexer) : m.poll = m.pollOnce := by
  have hlast {m : Multiplexer} (h : m.pollOnce = (false, m)) : m.poll = (false, m) := by
    rw [poll, h]
    rfl
  rw [poll]
  split
  next hmoved => rw [hlast m.pollOnce_pollOnce, ← hmoved]
  next hidle => rw [← Bool.not_eq_true _ |>.mp hidle]

/-- After polling there is something to sleep on. -/
theorem isEmpty_wakeConditions_poll (m : Multiplexer) : m.poll.2.wakeConditions.isEmpty = false := by
  have hserve : m.pollOnce.2.canServe = false := m.drainInbound.canServe_drainOutbound
  rw [poll_eq_pollOnce, isEmpty_wakeConditions_iff, hserve, pollOnce, inbound_drainOutbound,
    isEmpty_drainInbound]
  rfl

end Multiplexer

end StreamLink
