import StreamLink.Proofs.RingQueue

/-!
# Frames and packets

A packet stands at the front of a byte string exactly if the string begins with the frame that the
packet is written as. What stands there can be seen from the header and from how many bytes follow
it; if nothing does, the first thing that is wrong is named. A frame tells where it ends, so that
frames written one behind the other are read back one by one, in one way only.

Main statement: `reads_what_is_written`.
-/

namespace StreamLink

/-- The bytes that mean a kind. -/
theorem PacketKind.isSome_ofCode?_iff (b : UInt8) :
    (ofCode? b).isSome = true ↔ 1 ≤ b.toNat ∧ b.toNat ≤ 5 := by
  have hbyte (n : UInt8) : b = n ↔ b.toNat = n.toNat := UInt8.toNat_inj.symm
  unfold ofCode?
  simp only [hbyte, UInt8.reduceToNat]
  repeat' split
  all_goals simp; omega

namespace Packet

/-! ### What stands at the front -/

/-- Whether a packet stands at the front of the bytes: a header with a kind that is known and a
length that is allowed, and as many bytes behind it. -/
structure StandsIn (bytes : Bytes) : Prop where
  header : 3 ≤ bytes.length
  kind : 1 ≤ bytes[1].toNat ∧ bytes[1].toNat ≤ 5
  fits : bytes[0].toNat ≤ maxPayload
  whole : 3 + bytes[0].toNat ≤ bytes.length

/-- Why no packet stands at the front of the bytes: what is wrong first. -/
def refusal (bytes : Bytes) : Fault :=
  if h : bytes.length < 3 then .malformed .truncated
  else if ¬ (1 ≤ bytes[1].toNat ∧ bytes[1].toNat ≤ 5) then .malformed .packetKind
  else if bytes.length < 3 + bytes[0].toNat then .malformed .truncated
  else .payloadTooLarge bytes[0].toNat

/-- Whether the front of the bytes says what a packet says, part by part. -/
structure ReadFrom (bytes : Bytes) (p : Packet) : Prop where
  header : 3 ≤ bytes.length
  kind : p.kind.code = bytes[1]
  stream : p.stream = bytes[2]
  payload : p.payload = (bytes.drop 3).take bytes[0].toNat
  frame : p.encode = bytes.take (3 + bytes[0].toNat)

section

variable {length kind stream : UInt8} {rest : Bytes}

theorem decode_of_unknown (h : PacketKind.ofCode? kind = none) :
    decode (length :: kind :: stream :: rest) = .error (.malformed .packetKind) := by
  simp [decode, Header.decode, PacketKind.ofCode, h, bind, Except.bind]

theorem decode_of_known {k : PacketKind} (h : PacketKind.ofCode? kind = some k) :
    decode (length :: kind :: stream :: rest) =
      if rest.length < length.toNat then .error (.malformed .truncated)
      else make k stream (rest.take length.toNat) := by
  have hrest : (length :: kind :: stream :: rest).drop headerSize = rest := rfl
  unfold decode
  rw [hrest]
  simp only [Header.decode, PacketKind.ofCode, h, bind, Except.bind]
  split <;> rfl

/-- The kind is judged first, then whether the payload is there, then its length. -/
theorem standsIn_cons_iff : StandsIn (length :: kind :: stream :: rest) ↔
    (PacketKind.ofCode? kind).isSome = true ∧ length.toNat ≤ rest.length ∧
      length.toNat ≤ maxPayload := by
  rw [PacketKind.isSome_ofCode?_iff]
  constructor
  · intro h
    have hwhole := h.whole
    simp only [List.length_cons, List.getElem_cons_zero] at hwhole
    exact ⟨h.kind, by omega, h.fits⟩
  · rintro ⟨hkind, hwhole, hfits⟩
    refine ⟨by simp, hkind, hfits, ?_⟩
    simp only [List.length_cons, List.getElem_cons_zero]
    omega

theorem refusal_of_unknown (h : PacketKind.ofCode? kind = none) :
    refusal (length :: kind :: stream :: rest) = .malformed .packetKind := by
  have hkind : ¬ (1 ≤ kind.toNat ∧ kind.toNat ≤ 5) := by
    rw [← PacketKind.isSome_ofCode?_iff, h]
    exact Bool.false_ne_true
  rw [refusal, dif_neg (by simp)]
  exact if_pos hkind

theorem refusal_of_known (h : (PacketKind.ofCode? kind).isSome = true) :
    refusal (length :: kind :: stream :: rest) =
      if rest.length < length.toNat then .malformed .truncated
      else .payloadTooLarge length.toNat := by
  have hwhole : (length :: kind :: stream :: rest).length < 3 + length.toNat ↔
      rest.length < length.toNat := by
    simp only [List.length_cons]
    omega
  rw [refusal, dif_neg (by simp)]
  refine (if_neg (not_not.mpr ((PacketKind.isSome_ofCode?_iff kind).mp h))).trans ?_
  exact if_congr hwhole rfl rfl

end

/-- What is said at the front is read. -/
theorem exists_readFrom {bytes : Bytes} (h : StandsIn bytes) :
    ∃ p, decode bytes = .ok p ∧ ReadFrom bytes p := by
  match bytes, h.header with
  | length :: kind :: stream :: rest, hheader =>
    obtain ⟨hkind, hwhole, hfits⟩ := standsIn_cons_iff.mp h
    obtain ⟨k, hk⟩ := Option.isSome_iff_exists.mp hkind
    have htaken : (rest.take length.toNat).length = length.toNat := by
      rw [List.length_take, Nat.min_eq_left hwhole]
    let p : Packet := ⟨k, stream, rest.take length.toNat, by rw [htaken]; exact hfits⟩
    have hlength : p.header.length = length := by
      rw [← UInt8.toNat_inj, p.toNat_header_length]
      exact htaken
    have hcode : p.kind.code = kind := PacketKind.code_of_ofCode? hk
    refine ⟨p, ?_, hheader, hcode, rfl, rfl, ?_⟩
    · rw [decode_of_known hk, if_neg (Nat.not_lt.mpr hwhole), make, dif_pos p.payload_le]
    · rw [encode_eq, hlength, hcode, Nat.add_comm]
      rfl

/-- Where no packet stands, the first thing that is wrong is named. -/
theorem decode_eq_refusal {bytes : Bytes} (h : ¬ StandsIn bytes) :
    decode bytes = .error (refusal bytes) := by
  match bytes with
  | [] | [_] | [_, _] => rfl
  | length :: kind :: stream :: rest =>
    rw [standsIn_cons_iff] at h
    cases hkind : PacketKind.ofCode? kind with
    | none => rw [decode_of_unknown hkind, refusal_of_unknown hkind]
    | some k =>
        have hknown : (PacketKind.ofCode? kind).isSome = true := by rw [hkind]; rfl
        rw [decode_of_known hkind, refusal_of_known hknown]
        split
        · rfl
        next hwhole =>
          have hwhole := Nat.le_of_not_lt hwhole
          have htaken : (rest.take length.toNat).length = length.toNat := by
            rw [List.length_take, Nat.min_eq_left hwhole]
          have hlong : ¬ (rest.take length.toNat).length ≤ maxPayload := by
            rw [htaken]
            exact fun hfits => h ⟨hknown, hwhole, hfits⟩
          rw [make, dif_neg hlong, htaken]

/-- What is read was said at the front. -/
theorem readFrom_of_decode {bytes : Bytes} {p : Packet} (h : decode bytes = .ok p) :
    StandsIn bytes ∧ ReadFrom bytes p := by
  by_cases hstands : StandsIn bytes
  · obtain ⟨p', hp', hfrom⟩ := exists_readFrom hstands
    obtain rfl := Except.ok.inj (h.symm.trans hp')
    exact ⟨hstands, hfrom⟩
  · rw [decode_eq_refusal hstands] at h
    contradiction

/-- A packet is read where its frame stands at the front, and only there. -/
theorem decode_eq_ok_iff {bytes : Bytes} {p : Packet} :
    decode bytes = .ok p ↔ p.encode <+: bytes := by
  constructor
  · intro hread
    rw [(readFrom_of_decode hread).2.frame]
    exact List.take_prefix _ _
  · rintro ⟨rest, rfl⟩
    exact p.decode_encode_append rest

/-! ### One frame behind the other -/

theorem size_pos (p : Packet) : 0 < p.size := by
  rw [size, Nat.add_comm]
  exact Nat.succ_pos _

/-- Reads packets from the front until no bytes are left. -/
def decodeAll (bytes : Bytes) : Except Fault (List Packet) :=
  match bytes with
  | [] => .ok []
  | b :: bytes => do
    let p ← decode (b :: bytes)
    let packets ← decodeAll ((b :: bytes).drop p.size)
    return p :: packets
termination_by bytes.length
decreasing_by
  have := p.size_pos
  simp only [List.length_drop, List.length_cons]
  omega

theorem decodeAll_encode_append (p : Packet) (rest : Bytes) :
    decodeAll (p.encode ++ rest) = (decodeAll rest).map (p :: ·) := by
  have hrest : (p.encode ++ rest).drop p.size = rest := by
    rw [← p.length_encode, List.drop_left]
  have hread := p.decode_encode_append rest
  rw [encode_eq, List.cons_append] at hrest hread ⊢
  rw [decodeAll]
  simp only [hread, hrest, bind, Except.bind]
  cases decodeAll rest <;> rfl

/-- Bytes are read to the end exactly if they are frames one behind the other. -/
theorem decodeAll_eq_ok_iff {bytes : Bytes} {packets : List Packet} :
    decodeAll bytes = .ok packets ↔ bytes = packets.flatMap encode := by
  constructor
  · intro hread
    fun_induction decodeAll bytes generalizing packets with
    | case1 =>
        obtain rfl := Except.ok.inj hread
        rfl
    | case2 b bytes ih =>
        simp only [bind, Except.bind] at hread
        split at hread
        · contradiction
        next p hfirst =>
          obtain ⟨rest, hbytes⟩ := decode_eq_ok_iff.mp hfirst
          have hdrop : (b :: bytes).drop p.size = rest := by
            rw [← hbytes, ← p.length_encode, List.drop_left]
          split at hread
          · contradiction
          next packets' hothers =>
            obtain rfl := Except.ok.inj hread
            rw [List.flatMap_cons, ← ih p hothers, hdrop, hbytes]
  · rintro rfl
    induction packets with
    | nil => rw [List.flatMap_nil, decodeAll]
    | cons p packets ih => rw [List.flatMap_cons, decodeAll_encode_append, ih, Except.map]

end Packet

namespace Frame

/-- Writes a frame byte by byte behind what the buffer holds. -/
def write (kind : PacketKind) (stream : UInt8) (payload : Bytes) : EStateM Fault Bytes Unit := do
  if payload.length > maxPayload then throw (.payloadTooLarge payload.length)
  modify (· ++ [UInt8.ofNat payload.length])
  modify (· ++ [kind.code])
  modify (· ++ [stream])
  modify (· ++ payload)

/-- Writing into a buffer is appending to it, or the buffer stays. -/
theorem run_write (buffer : Bytes) (kind : PacketKind) (stream : UInt8) (payload : Bytes) :
    (write kind stream payload).run buffer =
      match appendTo buffer kind stream payload with
      | .ok written => .ok () written
      | .error fault => .error fault buffer := by
  unfold write appendTo
  split
  · rfl
  · have hbytes : buffer ++ [UInt8.ofNat payload.length] ++ [kind.code] ++ [stream] ++ payload =
        buffer ++ bytes ⟨kind.code, stream, payload⟩ := by
      simp [bytes, header]
    exact congrArg (EStateM.Result.ok ()) hbytes

section

variable (buffer : Bytes) (kind : PacketKind) (stream : UInt8) {payload : Bytes}

theorem appendTo_of_le (h : payload.length ≤ maxPayload) :
    appendTo buffer kind stream payload = .ok (buffer ++ bytes ⟨kind.code, stream, payload⟩) :=
  if_neg (Nat.not_lt.mpr h)

theorem appendTo_of_lt (h : maxPayload < payload.length) :
    appendTo buffer kind stream payload = .error (.payloadTooLarge payload.length) :=
  if_pos h

end

end Frame

/-- A packet is read from the front of bytes exactly if one stands there, and then it is what the
front says, and its frame is what it was read from. Otherwise the first thing that is wrong is
named. Every packet can be written behind whatever a buffer holds, and it is read back whatever
follows it; so frames one behind the other are read back in one way and no other. A payload that is
too long for a frame is refused, and the buffer stays as it was. -/
theorem reads_what_is_written :
    (∀ bytes, (∃ p, Packet.decode bytes = .ok p) ↔ Packet.StandsIn bytes) ∧
    (∀ bytes p, Packet.decode bytes = .ok p → Packet.ReadFrom bytes p) ∧
    (∀ bytes, ¬ Packet.StandsIn bytes → Packet.decode bytes = .error (Packet.refusal bytes)) ∧
    (∀ (p : Packet) (buffer rest : Bytes),
      (Frame.write p.kind p.stream p.payload).run buffer = .ok () (buffer ++ p.encode) ∧
        Packet.decode (p.encode ++ rest) = .ok p) ∧
    (∀ bytes packets,
      Packet.decodeAll bytes = .ok packets ↔ bytes = packets.flatMap Packet.encode) ∧
    ∀ (buffer : Bytes) (kind : PacketKind) (stream : UInt8) (payload : Bytes),
      let frame := UInt8.ofNat payload.length :: kind.code :: stream :: payload
      (payload.length ≤ maxPayload →
        (Frame.write kind stream payload).run buffer = .ok () (buffer ++ frame) ∧
          Frame.appendTo buffer kind stream payload = .ok (buffer ++ frame)) ∧
      (maxPayload < payload.length →
        (Frame.write kind stream payload).run buffer =
            .error (.payloadTooLarge payload.length) buffer ∧
          Frame.appendTo buffer kind stream payload =
            .error (.payloadTooLarge payload.length)) := by
  refine ⟨fun bytes => ⟨?_, ?_⟩, ?_, ?_, ?_, ?_, ?_⟩
  · rintro ⟨p, h⟩
    exact (Packet.readFrom_of_decode h).1
  · intro h
    obtain ⟨p, hp, -⟩ := Packet.exists_readFrom h
    exact ⟨p, hp⟩
  · intro bytes p h
    exact (Packet.readFrom_of_decode h).2
  · intro bytes h
    exact Packet.decode_eq_refusal h
  · intro p buffer rest
    rw [Frame.run_write, Frame.appendTo_of_le buffer p.kind p.stream p.payload_le]
    exact ⟨rfl, p.decode_encode_append rest⟩
  · intro bytes packets
    exact Packet.decodeAll_eq_ok_iff
  · intro buffer kind stream payload
    refine ⟨fun hfits => ?_, fun hlong => ?_⟩
    · rw [Frame.run_write, Frame.appendTo_of_le buffer kind stream hfits]
      exact ⟨rfl, rfl⟩
    · rw [Frame.run_write, Frame.appendTo_of_lt buffer kind stream hlong]
      exact ⟨rfl, rfl⟩

end StreamLink
