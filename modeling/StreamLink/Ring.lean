import StreamLink.Codec

/-!
# Rings

One direction of the link: 256 cells, and two byte-wide positions that wrap. The writer stores bytes
at the tail, the reader takes them from the head. Nothing in a ring says where a frame begins; that
the writer appends whole frames only is what lets the reader find them.
-/

namespace StreamLink

/-- The cells of one direction, with the reader's and the writer's position. -/
structure Ring where
  cells : Vector UInt8 ringSize := Vector.replicate ringSize 0
  head : UInt8 := 0
  tail : UInt8 := 0
deriving Repr, DecidableEq

instance : Inhabited Ring := ⟨{}⟩

namespace Ring

/-- The byte in a cell. -/
def load (r : Ring) (i : UInt8) : UInt8 :=
  have : i.toNat < ringSize := i.toNat_lt
  r.cells[i.toNat]

/-- The bytes in so many cells from one cell on, across the wrap. -/
def copyFrom (r : Ring) : UInt8 → Nat → Bytes
  | _, 0 => []
  | i, n + 1 => r.load i :: r.copyFrom (i + 1) n

def occupied (r : Ring) : Nat :=
  (r.tail - r.head).toNat

/-- The bytes that still fit. -/
def available (r : Ring) : Nat :=
  maxOccupancy - r.occupied

def isEmpty (r : Ring) : Bool :=
  r.occupied == 0

/-- The occupied bytes, oldest first. -/
def contents (r : Ring) : Bytes :=
  r.copyFrom r.head r.occupied

/-- Whether a frame with so long a payload fits. -/
def roomFor (r : Ring) (payloadLength : Nat) : Bool :=
  r.occupied + headerSize + payloadLength ≤ maxOccupancy

/-! ### The writer -/

/-- Stores one byte at the tail and moves the tail on. -/
def push (r : Ring) (b : UInt8) : Ring :=
  { r with cells := r.cells.set r.tail.toNat b r.tail.toNat_lt, tail := r.tail + 1 }

/-- Stores bytes at the tail, unchecked: a careless writer can overrun the reader. -/
def publish (r : Ring) (bytes : Bytes) : Ring :=
  bytes.foldl push r

/-- Appends one frame, or refuses it and leaves the ring as it was. -/
def append (r : Ring) (kind : PacketKind) (stream : UInt8) (payload : Bytes) : Except Fault Ring :=
  if payload.length > maxPayload then .error (.payloadTooLarge payload.length)
  else if !r.roomFor payload.length then
    .error (.ringFull (headerSize + payload.length) r.available)
  else .ok (r.publish (Frame.bytes ⟨kind.code, stream, payload⟩))

def appendPacket (r : Ring) (p : Packet) : Except Fault Ring :=
  r.append p.kind p.stream p.payload

/-! ### The reader -/

/-- The header at the head, once its three bytes are there. -/
def peekHeader? (r : Ring) : Option Header :=
  if r.occupied < headerSize then none
  else some ⟨r.load r.head, r.load (r.head + 1), r.load (r.head + 2)⟩

/-- The bytes of the frame that a header announces, once all of them are there. -/
def peekFrame (r : Ring) (h : Header) : Except Fault Bytes :=
  if r.occupied < h.frameLength then .error (.malformed .truncated)
  else .ok (r.copyFrom r.head h.frameLength)

def consume (r : Ring) (n : Nat) : Ring :=
  { r with head := r.head + UInt8.ofNat n }

def discardAll (r : Ring) : Ring :=
  r.consume r.occupied

/-- The whole frame at the head, whatever its kind, and the ring behind it. -/
def takeFrame? (r : Ring) : Option (Frame × Ring) :=
  match r.peekHeader? with
  | none => none
  | some h =>
    if r.occupied < h.frameLength then none
    else
      some (⟨h.kind, h.stream, r.copyFrom (r.head + 3) h.length.toNat⟩, r.consume h.frameLength)

/-- The next packet. A whole frame is consumed even if it is no packet, so that the ring keeps
moving; a frame that is not whole yet stays where it is. -/
def takePacket (r : Ring) : Option (Except Fault Packet) × Ring :=
  match r.peekHeader? with
  | none => (none, r)
  | some h =>
    match r.peekFrame h with
    | .error fault => (some (.error fault), r)
    | .ok bytes => (some (Packet.decode bytes), r.consume h.frameLength)

/-- The outcomes of asking for a packet so many times, ending early when nothing is left. A frame that
is not whole yet is met again each time. -/
def takeUpTo : Nat → Ring → List (Except Fault Packet) × Ring
  | 0, r => ([], r)
  | n + 1, r =>
    match r.takePacket with
    | (none, r') => ([], r')
    | (some packet, r') =>
      let (packets, r'') := takeUpTo n r'
      (packet :: packets, r'')

/-- The outcomes of asking for a packet until nothing is left or nothing was taken. -/
def takeAll (r : Ring) : List (Except Fault Packet) × Ring :=
  match r.takePacket with
  | (none, r') => ([], r')
  | (some packet, r') =>
    if r'.occupied < r.occupied then
      let (packets, r'') := takeAll r'
      (packet :: packets, r'')
    else ([packet], r')
termination_by r.occupied

/-! ### What is occupied -/

theorem occupied_lt (r : Ring) : r.occupied < ringSize :=
  (r.tail - r.head).toNat_lt

theorem occupied_le (r : Ring) : r.occupied ≤ maxOccupancy :=
  Nat.le_of_lt_succ r.occupied_lt

theorem isEmpty_iff {r : Ring} : r.isEmpty = true ↔ r.occupied = 0 := by
  simp [isEmpty]

theorem isEmpty_eq_false_iff {r : Ring} : r.isEmpty = false ↔ 0 < r.occupied := by
  simp [isEmpty, Nat.pos_iff_ne_zero]

/-- Taking bytes that are there makes the ring emptier by exactly as many. -/
theorem occupied_consume {r : Ring} {n : Nat} (h : n ≤ r.occupied) :
    (r.consume n).occupied = r.occupied - n := by
  have hlt : r.occupied < 256 := r.occupied_lt
  revert h hlt
  simp only [occupied, consume, UInt8.toNat_sub, UInt8.toNat_add, UInt8.toNat_ofNat']
  have := r.head.toNat_lt
  have := r.tail.toNat_lt
  omega

@[simp] theorem occupied_discardAll (r : Ring) : r.discardAll.occupied = 0 := by
  simp [discardAll, occupied_consume (Nat.le_refl _)]

theorem three_le_frameLength (h : Header) : 3 ≤ h.frameLength := by
  simp [Header.frameLength]

/-- A frame that could be taken leaves fewer bytes. -/
theorem occupied_of_takeFrame? {r r' : Ring} {f : Frame} (h : r.takeFrame? = some (f, r')) :
    r'.occupied + 3 ≤ r.occupied := by
  unfold takeFrame? at h
  split at h
  · contradiction
  next header _ =>
    split at h
    · contradiction
    next hwhole =>
      simp only [Option.some.injEq, Prod.mk.injEq] at h
      obtain ⟨-, rfl⟩ := h
      have hle : header.frameLength ≤ r.occupied := Nat.le_of_not_lt hwhole
      rw [occupied_consume hle]
      have := three_le_frameLength header
      omega

end Ring

end StreamLink
