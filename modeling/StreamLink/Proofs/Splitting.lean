import StreamLink.Proofs.Framing

/-!
# Bytes as frames

Whatever bytes a ring holds, they are frames one behind the other, and behind them bytes at whose
front no whole frame stands: too few for a header, or for the payload that the header announces. A
frame tells where it ends, so that there is one way to see them so. Who takes frames from the front
of a ring, or packets, finds just these frames and is then stuck.

Main statements: `exists_splits`, `Splits.unique` and `takeUpTo_of_splits`.
-/

namespace StreamLink

namespace Frame

/-- Whether the length byte tells how long the payload is. -/
def Sized (f : Frame) : Prop :=
  f.header.length.toNat = f.payload.length

/-- Whether no whole frame stands at the front of the bytes. -/
def NoneIn (bytes : Bytes) : Prop :=
  ∀ f : Frame, f.Sized → ¬ f.bytes <+: bytes

/-- The frames at the front of the bytes, as many as there are, and the bytes behind them. -/
inductive Splits : Bytes → List Frame → Bytes → Prop
  | stuck {rest : Bytes} (h : NoneIn rest) : Splits rest [] rest
  | frame {f : Frame} {bytes : Bytes} {frames : List Frame} {rest : Bytes} (hf : f.Sized)
      (h : Splits bytes frames rest) : Splits (f.bytes ++ bytes) (f :: frames) rest

section

variable {f g : Frame} {length kind stream : UInt8} {rest : Bytes}

theorem bytes_append (f : Frame) (rest : Bytes) : f.bytes ++ rest =
    f.header.length :: f.kind :: f.stream :: (f.payload ++ rest) := rfl

theorem three_le_length (f : Frame) : 3 ≤ f.length :=
  Nat.le_add_right _ _

theorem Sized.frameLength_header (h : f.Sized) : f.header.frameLength = f.length := by
  rw [Header.frameLength, h, Frame.length]

/-- The frame that a header announces, if its payload is there. -/
theorem sized_take (kind stream : UInt8) (h : length.toNat ≤ rest.length) :
    Sized ⟨kind, stream, rest.take length.toNat⟩ ∧
      bytes ⟨kind, stream, rest.take length.toNat⟩ =
        length :: kind :: stream :: rest.take length.toNat := by
  have htaken : (rest.take length.toNat).length = length.toNat := by
    rw [List.length_take, Nat.min_eq_left h]
  simp [Sized, bytes, header, htaken]

/-- Two frames at the front of the same bytes are one. -/
theorem Sized.eq_of_append_eq (hf : f.Sized) (hg : g.Sized) {rest' : Bytes}
    (h : f.bytes ++ rest = g.bytes ++ rest') : f = g ∧ rest = rest' := by
  obtain ⟨kind, stream, payload⟩ := f
  obtain ⟨kind', stream', payload'⟩ := g
  rw [bytes_append, bytes_append] at h
  simp only [List.cons.injEq] at h
  obtain ⟨hlength, rfl, rfl, hpayload⟩ := h
  have hsame : payload.length = payload'.length := by
    rw [← hf, ← hg, hlength]
  obtain ⟨rfl, rfl⟩ := List.append_inj hpayload hsame
  exact ⟨rfl, rfl⟩

/-- No frame stands where a header announces more than there is. -/
theorem noneIn_cons_iff :
    NoneIn (length :: kind :: stream :: rest) ↔ rest.length < length.toNat := by
  constructor
  · intro hnone
    refine Nat.lt_of_not_le fun hwhole => ?_
    obtain ⟨hsized, hbytes⟩ := sized_take kind stream hwhole
    refine hnone _ hsized ⟨rest.drop length.toNat, ?_⟩
    rw [hbytes]
    simp
  · rintro hshort g hg ⟨rest', hfront⟩
    rw [bytes_append] at hfront
    simp only [List.cons.injEq] at hfront
    obtain ⟨hlength, -, -, hpayload⟩ := hfront
    have hrest := congrArg List.length hpayload
    rw [List.length_append, ← hg, hlength] at hrest
    omega

theorem noneIn_of_short {bytes : Bytes} (h : bytes.length < headerSize) : NoneIn bytes := by
  rintro g - hfront
  have hle := hfront.length_le
  rw [length_bytes] at hle
  exact Nat.lt_irrefl _ (Nat.lt_of_lt_of_le (Nat.lt_of_le_of_lt hle h) g.three_le_length)

/-- A frame stands at the front, or none does. -/
theorem front_cases (bytes : Bytes) :
    NoneIn bytes ∨ ∃ (f : Frame) (rest : Bytes), f.Sized ∧ bytes = f.bytes ++ rest := by
  match bytes with
  | [] | [_] | [_, _] => exact .inl (noneIn_of_short (by simp [headerSize]))
  | length :: kind :: stream :: rest =>
      by_cases hwhole : length.toNat ≤ rest.length
      · obtain ⟨hsized, hbytes⟩ := sized_take kind stream hwhole
        refine .inr ⟨_, rest.drop length.toNat, hsized, ?_⟩
        rw [hbytes]
        simp
      · exact .inl (noneIn_cons_iff.mpr (Nat.lt_of_not_le hwhole))

end

/-! ### Splitting -/

theorem exists_splits (bytes : Bytes) : ∃ frames rest, Splits bytes frames rest := by
  induction hlength : bytes.length using Nat.strongRecOn generalizing bytes with
  | ind n ih =>
      rcases front_cases bytes with hnone | ⟨f, rest, hf, rfl⟩
      · exact ⟨[], bytes, .stuck hnone⟩
      · have hshorter : rest.length < n := by
          have hpos := f.three_le_length
          rw [← hlength, List.length_append, length_bytes]
          omega
        obtain ⟨frames, rest, hrest⟩ := ih rest.length hshorter rest rfl
        exact ⟨f :: frames, rest, .frame hf hrest⟩

namespace Splits

variable {bytes rest : Bytes} {frames : List Frame}

/-- The bytes are the frames and the rest. -/
theorem bytes_eq (h : Splits bytes frames rest) :
    bytes = frames.flatMap Frame.bytes ++ rest := by
  induction h with
  | stuck => rfl
  | frame _ _ ih => rw [ih, List.flatMap_cons, List.append_assoc]

theorem unique (h : Splits bytes frames rest) {frames' : List Frame} {rest' : Bytes}
    (h' : Splits bytes frames' rest') : frames' = frames ∧ rest' = rest := by
  induction h generalizing frames' with
  | stuck hnone =>
      cases h' with
      | stuck => exact ⟨rfl, rfl⟩
      | frame hg => exact absurd (List.prefix_append _ _) (hnone _ hg)
  | @frame f bytes frames rest hf _ ih =>
      generalize hbytes : f.bytes ++ bytes = whole at h'
      cases h' with
      | stuck hnone => exact absurd (hbytes ▸ List.prefix_append _ _) (hnone f hf)
      | frame hg h' =>
          obtain ⟨rfl, rfl⟩ := hf.eq_of_append_eq hg hbytes
          obtain ⟨rfl, rfl⟩ := ih h'
          exact ⟨rfl, rfl⟩

end Splits

end Frame

/-! ### Reading from a ring -/

namespace Ring

variable {r : Ring} {f : Frame} {rest : Bytes}

theorem occupied_of_contents (h : r.contents = f.bytes ++ rest) :
    r.occupied = f.length + rest.length := by
  rw [← length_contents, h, List.length_append, Frame.length_bytes]

theorem peekHeader?_of_contents (h : r.contents = f.bytes ++ rest) :
    r.peekHeader? = some f.header :=
  peekHeader?_eq h

theorem contents_consume_frame (h : r.contents = f.bytes ++ rest) :
    (r.consume f.length).contents = rest := by
  rw [contents_consume (by rw [occupied_of_contents h]; omega), h, ← Frame.length_bytes,
    List.drop_left]

theorem copyFrom_of_contents (h : r.contents = f.bytes ++ rest) :
    r.copyFrom r.head f.length = f.bytes := by
  rw [copyFrom_head (by rw [occupied_of_contents h]; omega), h, ← Frame.length_bytes,
    List.take_left]

/-- A frame at the front is taken, whatever its kind. -/
theorem takeFrame?_of_contents (hf : f.Sized) (h : r.contents = f.bytes ++ rest) :
    r.takeFrame? = some (f, r.consume f.length) := by
  have hwhole : ¬ r.occupied < f.header.frameLength := by
    rw [hf.frameLength_header, occupied_of_contents h]
    omega
  have hparts : r.copyFrom r.head 3 ++ r.copyFrom (r.head + 3) f.payload.length =
      [f.header.length, f.kind, f.stream] ++ f.payload :=
    (r.copyFrom_add r.head 3 _).symm.trans (copyFrom_of_contents h)
  have hpayload : r.copyFrom (r.head + 3) f.header.length.toNat = f.payload := by
    rw [hf]
    exact (List.append_inj hparts (r.length_copyFrom r.head 3)).2
  rw [takeFrame?, peekHeader?_of_contents h]
  simp only [if_neg hwhole, hpayload]
  rw [hf.frameLength_header]
  rfl

/-- A reader that is stuck sees no header, or one that announces more than there is. -/
theorem stuck_cases (h : Frame.NoneIn r.contents) :
    r.peekHeader? = none ∨ ∃ h, r.peekHeader? = some h ∧ r.occupied < h.frameLength := by
  match hcontents : r.contents with
  | [] | [_] | [_, _] =>
      have hshort : r.occupied < headerSize := by
        rw [← length_contents, hcontents]
        simp [headerSize]
      exact .inl (if_pos hshort)
  | length :: kind :: stream :: bytes =>
      rw [hcontents, Frame.noneIn_cons_iff] at h
      refine .inr ⟨_, peekHeader?_eq hcontents, ?_⟩
      rw [← length_contents, hcontents, Header.frameLength]
      simp only [List.length_cons, headerSize]
      omega

theorem takeFrame?_of_noneIn (h : Frame.NoneIn r.contents) : r.takeFrame? = none := by
  rw [takeFrame?]
  rcases stuck_cases h with hheader | ⟨header, hheader, hshort⟩
  · rw [hheader]
  · rw [hheader]
    exact if_pos hshort

end Ring

/-! ### Packets from frames -/

/-- Whether the outcome of asking for a packet is that the frame is not whole. -/
def Packet.isTruncated : Except Fault Packet → Bool
  | .error (.malformed .truncated) => true
  | _ => false

/-- A frame is read as the packet that it carries, unless its kind is unknown. -/
theorem Frame.Sized.decode_bytes {f : Frame} (hf : f.Sized) : Packet.decode f.bytes = f.packet := by
  have hwhole : ¬ f.payload.length < f.header.length.toNat := by
    rw [hf]
    exact Nat.lt_irrefl _
  have htaken : f.payload.take f.header.length.toNat = f.payload := by
    rw [hf, List.take_length]
  unfold Frame.packet PacketKind.ofCode
  cases hkind : PacketKind.ofCode? f.kind with
  | none => exact Packet.decode_of_unknown hkind
  | some kind =>
      refine (Packet.decode_of_known hkind).trans ?_
      rw [if_neg hwhole, htaken]
      rfl

theorem Frame.isTruncated_packet (f : Frame) : Packet.isTruncated f.packet = false := by
  unfold Frame.packet PacketKind.ofCode Packet.make
  cases PacketKind.ofCode? f.kind with
  | none => rfl
  | some kind =>
      simp only [bind, Except.bind]
      split <;> rfl

namespace Ring

variable {r : Ring} {f : Frame} {rest : Bytes}

theorem takePacket_of_contents (hf : f.Sized) (h : r.contents = f.bytes ++ rest) :
    r.takePacket = (some f.packet, r.consume f.length) := by
  have hwhole : ¬ r.occupied < f.header.frameLength := by
    rw [hf.frameLength_header, occupied_of_contents h]
    omega
  have hframe : r.peekFrame f.header = .ok f.bytes := by
    rw [peekFrame, if_neg hwhole, hf.frameLength_header, copyFrom_of_contents h]
  rw [takePacket, peekHeader?_of_contents h]
  simp only [hframe, hf.decode_bytes, hf.frameLength_header]

/-- A reader that is stuck is told so, and the ring stays as it is. -/
theorem takePacket_of_noneIn (h : Frame.NoneIn r.contents) :
    r.takePacket = (none, r) ∨ r.takePacket = (some (.error (.malformed .truncated)), r) := by
  rw [takePacket]
  rcases stuck_cases h with hheader | ⟨header, hheader, hshort⟩
  · left
    rw [hheader]
  · right
    have hframe : r.peekFrame header = .error (.malformed .truncated) := if_pos hshort
    rw [hheader]
    simp only [hframe]

/-- However often a packet is asked for, the outcomes until the reader is stuck are the frames. -/
theorem takeUpTo_of_splits {bytes : Bytes} {frames : List Frame}
    (h : Frame.Splits bytes frames rest) (hr : r.contents = bytes) (n : Nat) :
    ((takeUpTo n r).1.takeWhile fun outcome => !Packet.isTruncated outcome) =
      (frames.map Frame.packet).take n := by
  induction h generalizing r n with
  | stuck hnone =>
      cases n with
      | zero => rfl
      | succ n =>
          rw [takeUpTo]
          rcases takePacket_of_noneIn (hr ▸ hnone) with htake | htake
          · rw [htake]
            rfl
          · rw [htake]
            rfl
  | frame hf _ ih =>
      cases n with
      | zero => rfl
      | succ n =>
          rw [takeUpTo, takePacket_of_contents hf hr]
          have hrest := ih (contents_consume_frame hr) n
          simp only [List.takeWhile_cons, Frame.isTruncated_packet, Bool.not_false, if_true, hrest,
            List.map_cons, List.take_succ_cons]

end Ring

end StreamLink
