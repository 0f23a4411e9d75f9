import Mathlib.Algebra.GroupWithZero.Nat
import StreamLink.Area
import StreamLink.Proofs.RingContents

/-!
# A ring is a queue of packets

As long as whole packets are appended and whole frames are taken, a ring is a queue: what it holds is
the frames of the packets that were appended and not taken, one behind the other. The queue is
bounded by the bytes of its frames and by nothing else, however often the positions wrap.

Main statement: `ring_refines_queue`.
-/

namespace StreamLink

/-! ### One packet in the bytes -/

namespace Packet

/-- The bytes of a packet's frame. -/
def size (p : Packet) : Nat :=
  headerSize + p.payload.length

@[simp] theorem length_encode (p : Packet) : p.encode.length = p.size :=
  Frame.length_bytes p.frame

theorem frameLength_header (p : Packet) : p.header.frameLength = p.size := by
  rw [Header.frameLength, toNat_header_length, size]

theorem encode_eq (p : Packet) :
    p.encode = p.header.length :: p.kind.code :: p.stream :: p.payload := rfl

/-- A packet is read from the front of its bytes, whatever follows them. -/
theorem decode_encode_append (p : Packet) (rest : Bytes) : decode (p.encode ++ rest) = .ok p := by
  have hlength := p.toNat_header_length
  have hkind : PacketKind.ofCode p.kind.code = .ok p.kind := by
    rw [PacketKind.ofCode, PacketKind.ofCode?_code]
  have hpayload : (p.encode ++ rest).drop headerSize = p.payload ++ rest := rfl
  have hwhole : ¬ (p.payload ++ rest).length < p.header.length.toNat := by
    rw [hlength, List.length_append]
    omega
  have hmake : make p.kind p.stream ((p.payload ++ rest).take p.header.length.toNat) = .ok p := by
    rw [hlength, List.take_left' rfl, make, dif_pos p.payload_le]
  unfold decode
  rw [hpayload]
  simp only [encode_eq, List.cons_append, Header.decode, bind, Except.bind, hkind, hwhole,
    ↓reduceIte, hmake]

end Packet

namespace Ring

/-- Whether the ring holds exactly these packets, oldest first. -/
def Holds (r : Ring) (packets : List Packet) : Prop :=
  r.contents = packets.flatMap Packet.encode

namespace Holds

variable {r : Ring} {packets : List Packet}

theorem occupied_eq (h : r.Holds packets) : r.occupied = (packets.map Packet.size).sum := by
  rw [← length_contents, h, List.length_flatMap]
  simp only [Packet.length_encode]

/-! ### The writer -/

theorem roomFor_iff (h : r.Holds packets) (n : Nat) :
    r.roomFor n = true ↔ (packets.map Packet.size).sum + headerSize + n ≤ maxOccupancy := by
  rw [roomFor, decide_eq_true_eq, h.occupied_eq]

/-- A packet that fits is added behind the others. -/
theorem append (h : r.Holds packets) (p : Packet) (hroom : r.roomFor p.payload.length = true) :
    ∃ r', r.append p.kind p.stream p.payload = .ok r' ∧ r'.Holds (packets ++ [p]) := by
  have hlength : ¬ p.payload.length > maxPayload := Nat.not_lt.mpr p.payload_le
  refine ⟨r.publish p.encode, ?_, ?_⟩
  · rw [Ring.append, if_neg hlength, if_neg (by simp [hroom])]
    rfl
  · have hfits : r.occupied + p.encode.length ≤ maxOccupancy := by
      rw [Packet.length_encode, Packet.size, ← Nat.add_assoc]
      simpa [roomFor] using hroom
    rw [Holds, contents_publish hfits, h]
    simp

/-! ### The reader -/

section Take

variable {p : Packet} (h : r.Holds (p :: packets))

include h

theorem contents_cons : r.contents = p.encode ++ packets.flatMap Packet.encode := by
  rw [h, List.flatMap_cons]

theorem size_le : p.size ≤ r.occupied := by
  rw [h.occupied_eq, List.map_cons, List.sum_cons]
  exact Nat.le_add_right _ _

theorem peekHeader?_eq : r.peekHeader? = some p.header := by
  have hcontents := h.contents_cons
  rw [Packet.encode_eq, List.cons_append, List.cons_append, List.cons_append] at hcontents
  exact Ring.peekHeader?_eq hcontents

/-- The oldest frame can be passed over. -/
theorem consume : (r.consume p.header.frameLength).Holds packets := by
  rw [Holds, p.frameLength_header, contents_consume h.size_le, h.contents_cons,
    ← p.length_encode, List.drop_left]

/-- The oldest packet is taken as it was appended. -/
theorem takePacket :
    r.takePacket = (some (.ok p), r.consume p.header.frameLength) := by
  have hframe : r.peekFrame p.header = .ok p.encode := by
    rw [peekFrame, p.frameLength_header, if_neg (Nat.not_lt.mpr h.size_le),
      copyFrom_head h.size_le, h.contents_cons, ← p.length_encode, List.take_left]
  have hdecode := p.decode_encode_append []
  rw [List.append_nil] at hdecode
  rw [Ring.takePacket, h.peekHeader?_eq]
  simp only [hframe, hdecode]

end Take

theorem peekHeader?_nil (h : r.Holds []) : r.peekHeader? = none := by
  have hempty : r.occupied = 0 := h.occupied_eq
  rw [peekHeader?, if_pos (by rw [hempty]; decide)]

theorem takePacket_nil (h : r.Holds []) : r.takePacket = (none, r) := by
  rw [Ring.takePacket, h.peekHeader?_nil]

end Holds

theorem holds_empty : ({} : Ring).Holds [] := by
  rfl

theorem holds_discardAll (r : Ring) : r.discardAll.Holds [] :=
  contents_discardAll

end Ring

/-! ### Both ends of a ring -/

/-- What is done at one of the two ends of a ring. -/
inductive RingAction
  | append (kind : PacketKind) (stream : UInt8) (payload : Bytes)
  /-- The next packet is taken. -/
  | take
  /-- The next frame is consumed after a look at its header. -/
  | skip
  | discard
deriving Repr, DecidableEq, Inhabited

/-- What the end that did it learns. -/
inductive RingReply
  | appended (result : Except Fault Unit)
  | taken (packet : Option (Except Fault Packet))
  | skipped (header : Option Header)
  | discarded

namespace Ring

/-- One action on a ring. -/
def act (r : Ring) : RingAction → RingReply × Ring
  | .append kind stream payload =>
    match r.append kind stream payload with
    | .ok r' => (.appended (.ok ()), r')
    | .error fault => (.appended (.error fault), r)
  | .take => (.taken r.takePacket.1, r.takePacket.2)
  | .skip =>
    match r.peekHeader? with
    | some header => (.skipped (some header), r.consume header.frameLength)
    | none => (.skipped none, r)
  | .discard => (.discarded, r.discardAll)

end Ring

namespace PacketQueue

/-- Whether a packet with so long a payload can join a queue of packets. -/
def Admits (packets : List Packet) (length : Nat) : Prop :=
  length ≤ maxPayload ∧ headerSize + length + (packets.map Packet.size).sum ≤ maxOccupancy

instance (packets : List Packet) (length : Nat) : Decidable (Admits packets length) :=
  inferInstanceAs (Decidable (_ ∧ _))

/-- Why a packet with so long a payload cannot join: no frame is that long, or too much waits. -/
def refusal (packets : List Packet) (length : Nat) : Fault :=
  if maxPayload < length then .payloadTooLarge length
  else .ringFull (headerSize + length) (maxOccupancy - (packets.map Packet.size).sum)

/-- One action on a queue of packets. -/
def act (packets : List Packet) : RingAction → RingReply × List Packet
  | .append kind stream payload =>
    if h : Admits packets payload.length then
      (.appended (.ok ()), packets ++ [⟨kind, stream, payload, h.1⟩])
    else (.appended (.error (refusal packets payload.length)), packets)
  | .take => (.taken (packets.head?.map .ok), packets.tail)
  | .skip => (.skipped (packets.head?.map Packet.header), packets.tail)
  | .discard => (.discarded, [])

end PacketQueue

/-- What a sequence of actions is answered with, and the state it leads to. -/
def actAll {σ : Type} (act : σ → RingAction → RingReply × σ) : σ → List RingAction →
    List RingReply × σ
  | s, [] => ([], s)
  | s, action :: actions =>
    let (reply, s') := act s action
    let (replies, s'') := actAll act s' actions
    (reply :: replies, s'')

namespace Ring.Holds

variable {r : Ring} {packets : List Packet}

theorem roomFor_of_admits (h : r.Holds packets) {n : Nat} (hadmits : PacketQueue.Admits packets n) :
    r.roomFor n = true := by
  rw [h.roomFor_iff]
  have := hadmits.2
  omega

/-- What the queue does not admit is refused with the reason. -/
theorem append_of_not_admits (h : r.Holds packets) (kind : PacketKind) (stream : UInt8)
    {payload : Bytes} (hrefused : ¬ PacketQueue.Admits packets payload.length) :
    r.append kind stream payload = .error (PacketQueue.refusal packets payload.length) := by
  unfold Ring.append PacketQueue.refusal
  split
  · rfl
  next hlength =>
    have hfull : r.roomFor payload.length = false := by
      rw [Bool.eq_false_iff, ne_eq, h.roomFor_iff]
      intro hroom
      exact hrefused ⟨Nat.le_of_not_gt hlength, by omega⟩
    rw [hfull, available, h.occupied_eq]
    rfl

/-- A packet is appended exactly if the queue admits it. -/
theorem append_eq_ok_iff (h : r.Holds packets) (kind : PacketKind) (stream : UInt8)
    (payload : Bytes) :
    (∃ r', r.append kind stream payload = .ok r') ↔ PacketQueue.Admits packets payload.length := by
  constructor
  · intro ⟨r', happend⟩
    refine Decidable.byContradiction fun hrefused => ?_
    rw [h.append_of_not_admits kind stream hrefused] at happend
    contradiction
  · intro hadmits
    obtain ⟨r', happend, -⟩ :=
      h.append ⟨kind, stream, payload, hadmits.1⟩ (h.roomFor_of_admits hadmits)
    exact ⟨r', happend⟩

theorem act_of_not_admits (h : r.Holds packets) (kind : PacketKind) (stream : UInt8)
    {payload : Bytes} (hrefused : ¬ PacketQueue.Admits packets payload.length) :
    r.act (.append kind stream payload) =
      (.appended (.error (PacketQueue.refusal packets payload.length)), r) := by
  rw [Ring.act, h.append_of_not_admits kind stream hrefused]

theorem act_append (h : r.Holds packets) (kind : PacketKind) (stream : UInt8) (payload : Bytes) :
    (r.act (.append kind stream payload)).1 =
        (PacketQueue.act packets (.append kind stream payload)).1 ∧
      (r.act (.append kind stream payload)).2.Holds
        (PacketQueue.act packets (.append kind stream payload)).2 := by
  by_cases hadmits : PacketQueue.Admits packets payload.length
  · obtain ⟨r', happend, hholds⟩ :=
      h.append ⟨kind, stream, payload, hadmits.1⟩ (h.roomFor_of_admits hadmits)
    have happend : r.append kind stream payload = .ok r' := happend
    rw [Ring.act, happend, PacketQueue.act, dif_pos hadmits]
    exact ⟨rfl, hholds⟩
  · rw [h.act_of_not_admits kind stream hadmits, PacketQueue.act, dif_neg hadmits]
    exact ⟨rfl, h⟩

/-- A ring answers as the queue does, and goes on holding it. -/
theorem act (h : r.Holds packets) (action : RingAction) :
    (r.act action).1 = (PacketQueue.act packets action).1 ∧
      (r.act action).2.Holds (PacketQueue.act packets action).2 := by
  cases action with
  | append kind stream payload => exact h.act_append kind stream payload
  | take =>
      cases packets with
      | nil => rw [Ring.act, h.takePacket_nil]; exact ⟨rfl, h⟩
      | cons p packets => rw [Ring.act, h.takePacket]; exact ⟨rfl, h.consume⟩
  | skip =>
      cases packets with
      | nil => rw [Ring.act, h.peekHeader?_nil]; exact ⟨rfl, h⟩
      | cons p packets => rw [Ring.act, h.peekHeader?_eq]; exact ⟨rfl, h.consume⟩
  | discard => exact ⟨rfl, r.holds_discardAll⟩

theorem actAll (h : r.Holds packets) (actions : List RingAction) :
    (StreamLink.actAll Ring.act r actions).1 =
        (StreamLink.actAll PacketQueue.act packets actions).1 ∧
      (StreamLink.actAll Ring.act r actions).2.Holds
        (StreamLink.actAll PacketQueue.act packets actions).2 := by
  induction actions generalizing r packets with
  | nil => exact ⟨rfl, h⟩
  | cons action actions ih =>
      obtain ⟨hreply, hholds⟩ := h.act action
      obtain ⟨hreplies, hlast⟩ := ih hholds
      refine ⟨?_, hlast⟩
      simp only [StreamLink.actAll, hreply, hreplies]

end Ring.Holds

/-- Whatever is done at the two ends of a ring of a fresh area, the ring answers as the queue of packets
does. It holds the frames of the packets in the queue, and its occupied bytes are theirs. A packet can
be appended exactly if the queue admits it, and the ring is left alone if not; the next packet is the
oldest, as it was appended. -/
theorem ring_refines_queue (direction : Direction) (actions : List RingAction) :
    let r := actAll Ring.act (({} : Area).ring direction) actions
    let q := actAll PacketQueue.act [] actions
    r.1 = q.1 ∧ r.2.contents = q.2.flatMap Packet.encode ∧
      r.2.occupied = (q.2.map Packet.size).sum ∧ r.2.occupied ≤ maxOccupancy ∧
      (∀ kind stream payload,
        ((∃ r', r.2.append kind stream payload = .ok r') ↔
          PacketQueue.Admits q.2 payload.length) ∧
        (¬ PacketQueue.Admits q.2 payload.length → r.2.act (.append kind stream payload) =
          (.appended (.error (PacketQueue.refusal q.2 payload.length)), r.2))) ∧
      r.2.takePacket.1 = q.2.head?.map .ok := by
  have hfresh : (({} : Area).ring direction).Holds [] := by
    cases direction <;> exact Ring.holds_empty
  obtain ⟨hreplies, hholds⟩ := hfresh.actAll actions
  dsimp only
  generalize actAll Ring.act (({} : Area).ring direction) actions = r at hreplies hholds ⊢
  generalize actAll PacketQueue.act [] actions = q at hreplies hholds ⊢
  refine ⟨hreplies, hholds, hholds.occupied_eq, r.2.occupied_le, ?_, ?_⟩
  · intro kind stream payload
    exact ⟨hholds.append_eq_ok_iff kind stream payload, hholds.act_of_not_admits kind stream⟩
  · exact RingReply.taken.inj (hholds.act .take).1

end StreamLink
