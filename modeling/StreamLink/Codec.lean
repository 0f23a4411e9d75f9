import StreamLink.Packet

/-!
# Frames as bytes

Reading and writing frames. A frame is read from the front of a byte string; what follows it is left
alone. The kind is judged before the payload, and the payload's presence before its size.
-/

namespace StreamLink

def Header.decode : Bytes → Except Fault Header
  | length :: kind :: stream :: _ => .ok ⟨length, kind, stream⟩
  | _ => .error (.malformed .truncated)

/-- The bytes that reading a header uses up: all of them when they are too few. -/
def Header.decodedLength (bytes : Bytes) : Nat :=
  min bytes.length headerSize

namespace Frame

/-- The packet that a frame carries. -/
def packet (f : Frame) : Except Fault Packet := do
  let kind ← PacketKind.ofCode f.kind
  Packet.make kind f.stream f.payload

/-- A frame of the given parts behind what a buffer already holds. -/
def appendTo (buffer : Bytes) (kind : PacketKind) (stream : UInt8) (payload : Bytes) :
    Except Fault Bytes :=
  if payload.length > maxPayload then .error (.payloadTooLarge payload.length)
  else .ok (buffer ++ bytes ⟨kind.code, stream, payload⟩)

end Frame

namespace Packet

def encode (p : Packet) : Bytes :=
  p.frame.bytes

def decode (bytes : Bytes) : Except Fault Packet := do
  let header ← Header.decode bytes
  let kind ← PacketKind.ofCode header.kind
  let rest := bytes.drop headerSize
  if rest.length < header.length.toNat then throw (.malformed .truncated)
  make kind header.stream (rest.take header.length.toNat)

end Packet

end StreamLink
